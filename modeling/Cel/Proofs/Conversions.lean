import Cel.Engines.Standard
import Cel.Proofs.Integral
import Cel.Proofs.Number.Narrow
import Cel.Proofs.Steps

/-! # Conversions to integers

A number is converted to an integer of a kind by cutting off its fraction, exactly and across the bounds of
both kinds. The conversion fails for what is not finite and for what is out of range, and for nothing else.
So the way through the other kind leads back, if it leads anywhere.
-/

namespace Cel

open Double (towardZero)

/-- The rational number that a finite number denotes. Infinities, NaN and values of other kinds denote
none. -/
def Value.rat? : Value → Option ℚ
  | int n => some n.toInt
  | uint n => some n.toNat
  | double d => d.rat?
  | _ => none

namespace Integral

open Value (converted)

variable {kind : Integral} {value : Value}

theorem rat?_value (w : kind.Word) : (kind.value w).rat? = some (kind.toInt w : ℚ) := by
  cases kind with
  | signed => rfl
  | unsigned => exact congrArg some (Int.cast_natCast _).symm

/-- A conversion of a number narrows what is left of it without its fraction. -/
theorem conversion_call [Engines] (kind : Integral) (numeric : value.isNumeric = true) :
    kind.conversion.call [value] = converted value kind.conversion kind.value
      (value.rat?.bind fun q => kind.narrow? (towardZero q)) := by
  cases kind with
  | signed =>
    change value.toInt = _
    cases value with
    | int n =>
      have back := @narrow?_toInt .signed n
      simp only [Value.rat?, Option.bind_some, Double.towardZero_intCast]
      exact (congrArg (converted (.int n) .int Value.int) back).symm
    | uint n =>
      have cast : ((n.toNat : Nat) : ℚ) = ((n.toNat : Int) : ℚ) := (Int.cast_natCast _).symm
      simp only [Value.rat?, Option.bind_some, cast, Double.towardZero_intCast]
      rfl
    | double d =>
      change converted (.double d) .int Value.int d.trunc.int64? = _
      rw [Double.int64?_trunc]
      rfl
    | _ => cases numeric
  | unsigned =>
    change value.toUint = _
    cases value with
    | uint n =>
      have cast : ((n.toNat : Nat) : ℚ) = ((n.toNat : Int) : ℚ) := (Int.cast_natCast _).symm
      have back := @narrow?_toInt .unsigned n
      simp only [Value.rat?, Option.bind_some, cast, Double.towardZero_intCast]
      exact (congrArg (converted (.uint n) .uint Value.uint) back).symm
    | int n =>
      simp only [Value.rat?, Option.bind_some, Double.towardZero_intCast]
      rfl
    | double d =>
      change converted (.double d) .uint Value.uint d.trunc.uint64? = _
      rw [Double.uint64?_trunc]
      rfl
    | _ => cases numeric

end Integral

namespace Eval

open EvalError (locate)

section Calls

variable [Engines] {activation : Activation} {locals : List Value} {term : Term} {value : Value}

/-- A conversion of a number gives what is left of it without its fraction, if that is in range. -/
theorem eval_conversion (kind : Integral) (numeric : value.isNumeric = true)
    (evaluated : eval activation locals term = .ok value) (span : Span) :
    eval activation locals (.call span kind.conversion [term]) =
      locate span (Value.converted value kind.conversion kind.value
        (value.rat?.bind fun q => kind.narrow? (towardZero q))) := by
  have known : Value.unknowns? [value] = none := by
    cases value with
    | int | uint | double => rfl
    | _ => cases numeric
  rw [eval_call_of_arg evaluated, Value.ifKnown, known]
  exact congrArg (locate span) (kind.conversion_call numeric)

theorem eval_conversion_eq_ok_iff {kind : Integral} (numeric : value.isNumeric = true)
    (evaluated : eval activation locals term = .ok value) {span : Span} {result : Value} :
    eval activation locals (.call span kind.conversion [term]) = .ok result ↔
      ∃ q w, value.rat? = some q ∧ kind.toInt w = towardZero q ∧ result = kind.value w := by
  rw [eval_conversion kind numeric evaluated]
  constructor
  · intro succeeds
    cases narrowed : value.rat?.bind fun q => kind.narrow? (towardZero q) with
    | none =>
      rw [narrowed] at succeeds
      cases succeeds
    | some w =>
      rw [narrowed] at succeeds
      cases succeeds
      obtain ⟨q, finite, narrowed⟩ := Option.bind_eq_some_iff.mp narrowed
      exact ⟨q, w, finite, Integral.narrow?_eq_some_iff.mp narrowed, rfl⟩
  · rintro ⟨q, w, finite, whole, rfl⟩
    rw [finite, Option.bind_some, Integral.narrow?_eq_some_iff.mpr whole]
    rfl

theorem eval_conversion_eq_error_iff {kind : Integral} (numeric : value.isNumeric = true)
    (evaluated : eval activation locals term = .ok value) {span : Span} {error : EvalError} :
    eval activation locals (.call span kind.conversion [term]) = .error error ↔
      error = ⟨.conversion value kind.conversion, span⟩ ∧
        ∀ q, value.rat? = some q → ¬kind.InRange (towardZero q) := by
  rw [eval_conversion kind numeric evaluated]
  have none_iff : (value.rat?.bind fun q => kind.narrow? (towardZero q)) = none ↔
      ∀ q, value.rat? = some q → ¬kind.InRange (towardZero q) := by
    simp only [Option.bind_eq_none_iff, Integral.narrow?_eq_none_iff]
  rw [← none_iff]
  cases value.rat?.bind fun q => kind.narrow? (towardZero q) with
  | none =>
    change Except.error _ = Except.error error ↔ _
    rw [Except.error.injEq, eq_comm, and_iff_left rfl]
  | some w => exact ⟨nofun, fun ⟨_, isNone⟩ => nomatch isNone⟩

/-- An integer that has been converted to the other kind is converted back to itself. -/
theorem eval_conversion_back {kind : Integral} {w : kind.other.Word} {middle : Value} {inner : Span}
    (evaluated : eval activation locals term = .ok (kind.other.value w))
    (converts : eval activation locals (.call inner kind.conversion [term]) = .ok middle)
    (outer : Span) :
    eval activation locals (.call outer kind.other.conversion [.call inner kind.conversion [term]]) =
      .ok (kind.other.value w) := by
  obtain ⟨q, w', finite, whole, rfl⟩ :=
    (eval_conversion_eq_ok_iff (Integral.isNumeric_value w) evaluated).mp converts
  rw [Integral.rat?_value, Option.some.injEq] at finite
  rw [← finite, Double.towardZero_intCast] at whole
  rw [eval_conversion_eq_ok_iff (Integral.isNumeric_value w') converts]
  exact ⟨_, w, Integral.rat?_value w', by rw [Double.towardZero_intCast, whole], rfl⟩

/-- Conversions to integers are exact without the fraction, or fail. A number is converted exactly if it is
finite and its whole part is in range, and an integer that is converted to the other kind and back is equal
to what it was. -/
theorem conversions_exact (kind : Integral) {other : Term} (numeric : value.isNumeric = true)
    (evaluated : eval activation locals term = .ok value)
    (evaluated' : eval activation locals other = .ok value) (whole outer inner : Span) :
    let converted := Term.call inner kind.conversion [term]
    let back := Term.call outer kind.other.conversion [converted]
    (∀ result, eval activation locals converted = .ok result ↔
      ∃ q w, value.rat? = some q ∧ kind.toInt w = towardZero q ∧ result = kind.value w) ∧
    (∀ error, eval activation locals converted = .error error ↔
      error = ⟨.conversion value kind.conversion, inner⟩ ∧
        ∀ q, value.rat? = some q → ¬kind.InRange (towardZero q)) ∧
    (∀ error, eval activation locals converted = .error error → error.kind = .invalidConversion) ∧
    (kind = .unsigned → ∀ q, value.rat? = some q → -1 < q → q < 0 →
      eval activation locals converted = .ok (.uint 0)) ∧
    (∀ w middle, value = kind.other.value w → eval activation locals converted = .ok middle →
      eval activation locals back = .ok value ∧
        eval activation locals (.strict whole .eq back other) = .ok (.bool true)) := by
  intro converted back
  refine ⟨fun _ => eval_conversion_eq_ok_iff numeric evaluated,
    fun _ => eval_conversion_eq_error_iff numeric evaluated, ?_, ?_, ?_⟩
  · intro error fails
    obtain ⟨rfl, -⟩ := (eval_conversion_eq_error_iff numeric evaluated).mp fails
    rfl
  · rintro rfl q finite above below
    have zero : towardZero q = 0 := by
      rw [towardZero, if_neg (not_le.mpr below)]
      exact Int.ceil_eq_zero_iff.mpr ⟨above, below.le⟩
    exact (eval_conversion_eq_ok_iff numeric evaluated).mpr ⟨q, (0 : UInt64), finite, zero.symm, rfl⟩
  · rintro w middle rfl converts
    have returns := eval_conversion_back evaluated converts outer
    refine ⟨returns, ?_⟩
    rw [eval_strict_of_operands returns evaluated', Integral.strict_eq_self]
    rfl

end Calls

/-- The largest double below `2 ^ 63` and that power itself, a negative fraction, and the largest integer that
is of both kinds. -/
theorem conversions_exact_at_bounds :
    let largest := Value.double ⟨0x43DFFFFFFFFFFFFF⟩
    let power := Value.double ⟨0x43E0000000000000⟩
    let half := Value.double ⟨0xBFE0000000000000⟩
    let reads (value : Value) : Activation := ⟨fun _ => some value, fun _ => false⟩
    let x (span : Span) := Term.free span "x"
    let int := Term.call ⟨5, 11⟩ .int [x ⟨9, 10⟩]
    let back := Term.call ⟨0, 12⟩ .uint [int]
    eval (reads largest) [] int = .ok (.int 9223372036854774784) ∧
      eval (reads power) [] int = .error ⟨.conversion power .int, ⟨5, 11⟩⟩ ∧
      eval (reads half) [] (.call ⟨0, 7⟩ .uint [x ⟨5, 6⟩]) = .ok (.uint 0) ∧
      eval (reads (.uint 0x7FFFFFFFFFFFFFFF)) [] (.strict ⟨0, 17⟩ .eq back (x ⟨16, 17⟩)) =
        .ok (.bool true) := by
  intro largest power half reads x int back
  have evaluated (value : Value) (span : Span) : eval (reads value) [] (x span) = .ok value := by
    rw [eval]
    rfl
  have exact {value : Value} (kind : Integral) (numeric : value.isNumeric = true) (span inner : Span) :=
    conversions_exact kind numeric (evaluated value span) (evaluated value ⟨16, 17⟩) ⟨0, 17⟩ ⟨0, 12⟩ inner
  refine ⟨?_, ?_, ?_, ?_⟩
  · have integer : Double.integer? ⟨0x43DFFFFFFFFFFFFF⟩ = some 9223372036854774784 := by decide
    have denotes : largest.rat? = some ((9223372036854774784 : Int) : ℚ) :=
      Double.integer?_eq_some_iff.mp integer
    refine ((exact .signed rfl ⟨9, 10⟩ ⟨5, 11⟩).1 _).mpr ⟨_, (9223372036854774784 : Int64), denotes, ?_, rfl⟩
    rw [Double.towardZero_intCast]
    rfl
  · have integer : Double.integer? ⟨0x43E0000000000000⟩ = some 9223372036854775808 := by decide
    have denotes : power.rat? = some ((9223372036854775808 : Int) : ℚ) :=
      Double.integer?_eq_some_iff.mp integer
    refine ((exact .signed rfl ⟨9, 10⟩ ⟨5, 11⟩).2.1 _).mpr ⟨rfl, ?_⟩
    rw [denotes]
    rintro _ ⟨⟩
    rw [Double.towardZero_intCast]
    decide
  · have form : Double.form ⟨0xBFE0000000000000⟩ = .finite true (2 ^ 52) (-53) := by decide
    have denotes : half.rat? = some (-1 / 2) := by
      refine (Double.rat?_of_form form).trans (congrArg some ?_)
      norm_num [Double.signOf]
    exact (exact .unsigned rfl ⟨5, 6⟩ ⟨0, 7⟩).2.2.2.1 rfl _ denotes (by norm_num) (by norm_num)
  · obtain ⟨u, isGreatest⟩ : ∃ u : UInt64, u = 0x7FFFFFFFFFFFFFFF := ⟨_, rfl⟩
    have denotes := @Integral.rat?_value .unsigned u
    have whole : Integral.toInt .signed (0x7FFFFFFFFFFFFFFF : Int64) =
        towardZero (Integral.toInt .unsigned u : ℚ) := by
      rw [Double.towardZero_intCast, isGreatest]
      rfl
    have laws := @exact (.uint u) .signed rfl ⟨9, 10⟩ ⟨5, 11⟩
    have converts := (laws.1 _).mpr ⟨_, (0x7FFFFFFFFFFFFFFF : Int64), denotes, whole, rfl⟩
    rw [← isGreatest]
    exact (laws.2.2.2.2 u _ rfl converts).2

end Eval

end Cel
