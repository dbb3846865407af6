import Cel.Engines.Standard
import Cel.Proofs.Integral
import Cel.Proofs.Steps

/-! # Calculations with integers

A tree of integer constants, negations and the five operators of arithmetic is evaluated exactly or fails.
The numbers without bounds decide: evaluation gives the exact integer unless some node leaves the range of its
kind or cannot be divided, and the first such node, children before their parent and from left to right,
is the one that fails. A quotient and its remainder fail together.
-/

namespace Cel

open EvalError (Cause)

/-! ### Operators -/

namespace Arithmetic

/-- The operator that is written. -/
def operator : Arithmetic → BinaryOp
  | add => .add
  | sub => .sub
  | mul => .mul
  | div => .div
  | mod => .mod

/-- Whether the second operand is a divisor. -/
def Divides (op : Arithmetic) : Prop := op = div ∨ op = mod

instance (op : Arithmetic) : Decidable op.Divides := inferInstanceAs (Decidable (_ ∨ _))

/-- The exact result for integers without bounds. Quotients lose their fraction, remainders have the sign of
the dividend, and there is no division by zero. -/
def integer? (op : Arithmetic) (a b : Int) : Option Int :=
  match op with
  | add => some (a + b)
  | sub => some (a - b)
  | mul => some (a * b)
  | div => if b = 0 then none else some (a.tdiv b)
  | mod => if b = 0 then none else some (a.tmod b)

theorem integer?_eq_none_iff {op : Arithmetic} {a b : Int} : op.integer? a b = none ↔ op.Divides ∧ b = 0 := by
  cases op <;> simp [integer?, Divides]

/-- Why a division by zero fails. -/
def zeroCause : Arithmetic → Cause
  | mod => .moduloByZero
  | _ => .divisionByZero

theorem kind_zeroCause (op : Arithmetic) : op.zeroCause.kind = .divisionByZero := by
  cases op <;> rfl

end Arithmetic

namespace Integral

variable {kind : Integral} {n : Int}

/-- What has outgrown the range if the result of an operator has. -/
def overflow : Integral → Arithmetic → Overflow
  | signed, op => .signed op
  | unsigned, op => .unsigned op

/-- The value of an integer, which fails for `what` outside the range. -/
def checked : Integral → Overflow → Int → Except Cause Value
  | signed, what, n => Value.signed what n
  | unsigned, what, n => Value.unsigned what n

theorem checked_of_inRange (what : Overflow) (inRange : kind.InRange n) :
    ∃ w, kind.checked what n = .ok (kind.value w) ∧ kind.toInt w = n := by
  obtain ⟨w, denotes⟩ := exists_toInt_eq_iff.mpr inRange
  have narrowed := narrow?_eq_some_iff.mpr denotes
  refine ⟨w, ?_, denotes⟩
  cases kind with
  | signed =>
    change Number.int64? n = some w at narrowed
    rw [checked, Value.signed, narrowed]
    rfl
  | unsigned =>
    change Number.uint64? n = some w at narrowed
    rw [checked, Value.unsigned, narrowed]
    rfl

theorem checked_of_not_inRange (what : Overflow) (outside : ¬kind.InRange n) :
    kind.checked what n = .error (.overflow what) := by
  have narrowed := narrow?_eq_none_iff.mpr outside
  cases kind with
  | signed =>
    change Number.int64? n = none at narrowed
    rw [checked, Value.signed, narrowed]
  | unsigned =>
    change Number.uint64? n = none at narrowed
    rw [checked, Value.unsigned, narrowed]

/-! ### Division -/

/-- A remainder has the sign of the dividend and is no larger. -/
theorem tmod_between (a b : Int) : 0 ≤ a.tmod b ∧ a.tmod b ≤ a ∨ a ≤ a.tmod b ∧ a.tmod b ≤ 0 := by
  have size : (a.tmod b).natAbs ≤ a.natAbs := by
    rw [Int.natAbs_tmod]
    exact Nat.mod_le _ _
  rcases Int.le_total 0 a with nonneg | nonpos
  · have := Int.tmod_nonneg b nonneg
    omega
  · have := Int.tmod_nonneg b (Int.neg_nonneg.mpr nonpos)
    rw [Int.neg_tmod] at this
    omega

theorem inRange_of_between (w : kind.Word)
    (between : 0 ≤ n ∧ n ≤ kind.toInt w ∨ kind.toInt w ≤ n ∧ n ≤ 0) : kind.InRange n := by
  have inRange := kind.inRange_toInt w
  cases kind with
  | signed =>
    unfold InRange at inRange ⊢
    omega
  | unsigned =>
    unfold InRange at inRange ⊢
    omega

theorem inRange_tmod (a b : kind.Word) : kind.InRange ((kind.toInt a).tmod (kind.toInt b)) :=
  inRange_of_between a (tmod_between _ _)

/-- The part of a dividend that a quotient accounts for. -/
theorem inRange_tdiv_mul (a b : kind.Word) :
    kind.InRange ((kind.toInt a).tdiv (kind.toInt b) * kind.toInt b) := by
  have divided := Int.tdiv_mul_add_tmod (kind.toInt a) (kind.toInt b)
  have rest := tmod_between (kind.toInt a) (kind.toInt b)
  exact inRange_of_between a (by omega)

/-- Only the least integer has an opposite out of range. -/
theorem inRange_tdiv_iff (a b : kind.Word) : kind.InRange ((kind.toInt a).tdiv (kind.toInt b)) ↔
    ¬(kind.toInt a = -0x8000000000000000 ∧ kind.toInt b = -1) := by
  have inRange := kind.inRange_toInt a
  have inRange' := kind.inRange_toInt b
  generalize kind.toInt a = n at *
  generalize kind.toInt b = m at *
  have product : (n.tdiv m).natAbs * m.natAbs ≤ n.natAbs := by
    rw [Int.natAbs_tdiv]
    exact Nat.div_mul_le_self _ _
  have size : (n.tdiv m).natAbs ≤ n.natAbs := by
    rw [Int.natAbs_tdiv]
    exact Nat.div_le_self _ _
  cases kind with
  | unsigned =>
    have nonneg := Int.tdiv_nonneg inRange.1 inRange'.1
    unfold InRange at *
    omega
  | signed =>
    unfold InRange at *
    by_cases negOne : m = -1
    · rw [negOne, Int.tdiv_neg, Int.tdiv_one]
      omega
    · -- Only a dividend of that size has so large a quotient, and then by one.
      have notGreatest : n.tdiv m ≠ 0x8000000000000000 := by
        intro greatest
        have power : (0x8000000000000000 : Int).natAbs = 0x8000000000000000 := rfl
        rw [greatest, power] at product
        have cases : m = 0 ∨ m = 1 := by omega
        rcases cases with rfl | rfl
        · rw [Int.tdiv_zero] at greatest
          omega
        · rw [Int.tdiv_one] at greatest
          omega
      omega

/-! ### Operations on words -/

/-- Whether a division of integers is the only one of words whose quotient is out of range. -/
def Overflows (op : Arithmetic) (a b : Int) : Prop :=
  op.Divides ∧ a = -0x8000000000000000 ∧ b = -1

instance (op : Arithmetic) (a b : Int) : Decidable (Overflows op a b) :=
  inferInstanceAs (Decidable (_ ∧ _ ∧ _))

theorem not_overflows {op : Arithmetic} (a b : Int) (notDivides : ¬op.Divides) : ¬Overflows op a b :=
  fun overflows => notDivides overflows.1

/-- An operator on signed words finds the exact result, which is then narrowed, or it overflows. -/
theorem strict_signed (op : Arithmetic) (a b : Int64) :
    Value.strict op.operator (.int a) (.int b) =
      match op.integer? a.toInt b.toInt with
      | none => .error op.zeroCause
      | some n =>
        if Overflows op a.toInt b.toInt then .error (.overflow (.signed op))
        else Value.signed (.signed op) n := by
  have zero_iff : b = 0 ↔ b.toInt = 0 := by
    rw [← Int64.toInt_inj]
    rfl
  have quotient : Number.int64? (a.toInt.tdiv b.toInt) = none ↔
      a.toInt = -0x8000000000000000 ∧ b.toInt = -1 :=
    (@narrow?_eq_none_iff .signed _).trans
      ((not_congr (@inRange_tdiv_iff .signed a b)).trans Decidable.not_not)
  cases op with
  | add | sub | mul => exact (if_neg (not_overflows _ _ (by decide))).symm
  | div =>
    change (if b = 0 then .error .divisionByZero else Value.signed (.signed .div) _) = _
    by_cases zero : b = 0
    · rw [if_pos zero, Arithmetic.integer?, if_pos (zero_iff.mp zero)]
      rfl
    · rw [if_neg zero, Arithmetic.integer?, if_neg (mt zero_iff.mpr zero)]
      dsimp only
      split
      · next overflows => rw [Value.signed, quotient.mpr overflows.2]
      · rfl
  | mod =>
    change (if b = 0 then Except.error Cause.moduloByZero else _) = _
    by_cases zero : b = 0
    · rw [if_pos zero, Arithmetic.integer?, if_pos (zero_iff.mp zero)]
      rfl
    · rw [if_neg zero, Arithmetic.integer?, if_neg (mt zero_iff.mpr zero)]
      cases narrowed : Number.int64? (a.toInt.tdiv b.toInt) with
      | some word =>
        have exact : ¬Overflows .mod a.toInt b.toInt := fun overflows => by
          rw [quotient.mpr overflows.2] at narrowed
          cases narrowed
        exact (if_neg exact).symm
      | none => exact (if_pos ⟨by decide, quotient.mp narrowed⟩).symm

theorem strict_unsigned (op : Arithmetic) (a b : UInt64) :
    Value.strict op.operator (.uint a) (.uint b) =
      match op.integer? a.toNat b.toNat with
      | none => .error op.zeroCause
      | some n => Value.unsigned (.unsigned op) n := by
  have zero_iff : b = 0 ↔ (b.toNat : Int) = 0 := by
    rw [← UInt64.toNat_inj, Int.natCast_eq_zero]
    rfl
  cases op with
  | add | sub | mul => rfl
  | div =>
    change (if b = 0 then .error .divisionByZero else Value.unsigned (.unsigned .div) _) = _
    by_cases zero : b = 0
    · rw [if_pos zero, Arithmetic.integer?, if_pos (zero_iff.mp zero)]
      rfl
    · rw [if_neg zero, Arithmetic.integer?, if_neg (mt zero_iff.mpr zero), Int.ofNat_tdiv]
  | mod =>
    change (if b = 0 then .error .moduloByZero else Value.unsigned (.unsigned .mod) _) = _
    by_cases zero : b = 0
    · rw [if_pos zero, Arithmetic.integer?, if_pos (zero_iff.mp zero)]
      rfl
    · rw [if_neg zero, Arithmetic.integer?, if_neg (mt zero_iff.mpr zero), Int.ofNat_tmod]

/-- An operator on words finds the exact result, which is then narrowed, or it overflows. -/
theorem strict_operator (op : Arithmetic) (a b : kind.Word) :
    Value.strict op.operator (kind.value a) (kind.value b) =
      match op.integer? (kind.toInt a) (kind.toInt b) with
      | none => .error op.zeroCause
      | some n =>
        if Overflows op (kind.toInt a) (kind.toInt b) then .error (.overflow (kind.overflow op))
        else kind.checked (kind.overflow op) n := by
  cases kind with
  | signed => exact strict_signed op a b
  | unsigned =>
    have exact : ¬Overflows op (toInt .unsigned a) (toInt .unsigned b) := by
      rintro ⟨-, -, negOne⟩
      have nonneg := (inRange_toInt b).1
      omega
    simp only [if_neg exact]
    exact strict_unsigned op a b

/-- A quotient and its remainder are both computed, or both fail for the same reason. -/
theorem strict_div_mod (a b : kind.Word) :
    (∃ q r, Value.strict .div (kind.value a) (kind.value b) = .ok (kind.value q) ∧
      Value.strict .mod (kind.value a) (kind.value b) = .ok (kind.value r) ∧
      kind.toInt q = (kind.toInt a).tdiv (kind.toInt b) ∧
      kind.toInt r = (kind.toInt a).tmod (kind.toInt b)) ∨
    ∃ cause cause', Value.strict .div (kind.value a) (kind.value b) = .error cause ∧
      Value.strict .mod (kind.value a) (kind.value b) = .error cause' ∧ cause.kind = cause'.kind := by
  have quotient := strict_operator .div a b
  have remainder := strict_operator .mod a b
  by_cases zero : kind.toInt b = 0
  · simp only [Arithmetic.integer?, if_pos zero] at quotient remainder
    exact .inr ⟨_, _, quotient, remainder, rfl⟩
  simp only [Arithmetic.integer?, if_neg zero] at quotient remainder
  by_cases overflows : kind.toInt a = -0x8000000000000000 ∧ kind.toInt b = -1
  · rw [if_pos ⟨by decide, overflows⟩] at quotient remainder
    exact .inr ⟨_, _, quotient, remainder, rfl⟩
  have exact (op : Arithmetic) : ¬Overflows op (kind.toInt a) (kind.toInt b) :=
    fun overflows' => overflows overflows'.2
  rw [if_neg (exact _)] at quotient remainder
  obtain ⟨q, computed, denotes⟩ :=
    checked_of_inRange (kind.overflow .div) ((inRange_tdiv_iff a b).mpr overflows)
  obtain ⟨r, computed', denotes'⟩ := checked_of_inRange (kind.overflow .mod) (inRange_tmod a b)
  exact .inl ⟨q, r, quotient.trans computed, remainder.trans computed', denotes, denotes'⟩

/-- A quotient is multiplied with its divisor, and the remainder is added, without leaving the range. -/
theorem strict_mul_add {a b q r : kind.Word}
    (quotient : kind.toInt q = (kind.toInt a).tdiv (kind.toInt b))
    (remainder : kind.toInt r = (kind.toInt a).tmod (kind.toInt b)) :
    ∃ p, Value.strict .mul (kind.value q) (kind.value b) = .ok (kind.value p) ∧
      Value.strict .add (kind.value p) (kind.value r) = .ok (kind.value a) := by
  have product := strict_operator .mul q b
  rw [Arithmetic.integer?, quotient] at product
  dsimp only at product
  rw [if_neg (not_overflows _ _ (by decide))] at product
  obtain ⟨p, computed, denotes⟩ := checked_of_inRange (kind.overflow .mul) (inRange_tdiv_mul a b)
  have sum := strict_operator .add p r
  have whole : kind.toInt p + kind.toInt r = kind.toInt a := by
    rw [denotes, remainder]
    exact Int.tdiv_mul_add_tmod _ _
  rw [Arithmetic.integer?, whole] at sum
  dsimp only at sum
  rw [if_neg (not_overflows _ _ (by decide))] at sum
  obtain ⟨a', computed', denotes'⟩ := checked_of_inRange (kind.overflow .add) (kind.inRange_toInt a)
  obtain rfl := toInt_inj.mp denotes'
  exact ⟨p, product.trans computed, sum.trans computed'⟩

end Integral

/-! ### Trees -/

/-- A tree of integer constants of a kind and of operators. Only signed integers are negated. -/
inductive Calculation : Integral → Type where
  | word {kind : Integral} (span : Span) (w : kind.Word) : Calculation kind
  | negation (span : Span) (operand : Calculation .signed) : Calculation .signed
  | operation {kind : Integral} (span : Span) (op : Arithmetic) (left right : Calculation kind) :
    Calculation kind

namespace Calculation

variable {kind : Integral}

/-- A calculation as a checked term. -/
def term {kind : Integral} : Calculation kind → Term
  | word span w => .constant span (kind.constant w)
  | negation span operand => .unary span .neg operand.term
  | operation span op left right => .strict span op.operator left.term right.term

/-- The exact integer, without bounds. -/
def integer? {kind : Integral} : Calculation kind → Option Int
  | word _ w => some (kind.toInt w)
  | negation _ operand => operand.integer?.map (- ·)
  | operation _ op left right => do op.integer? (← left.integer?) (← right.integer?)

/-- All nodes, children before their parent and from left to right. -/
def nodes {kind : Integral} : Calculation kind → List (Calculation kind)
  | word span w => [word span w]
  | negation span operand => operand.nodes ++ [negation span operand]
  | operation span op left right => left.nodes ++ (right.nodes ++ [operation span op left right])

/-- How a node goes wrong: its exact integer has no word, or it divides by zero, or it divides the least
signed integer by minus one, even for a remainder, which would be in range. -/
inductive Offends : {kind : Integral} → Calculation kind → EvalError.Kind → Prop where
  | outOfRange {kind : Integral} {node : Calculation kind} {n : Int} (exact : node.integer? = some n)
      (outside : ¬kind.InRange n) : Offends node .overflow
  | byZero {kind : Integral} {span : Span} {op : Arithmetic} {left right : Calculation kind}
      (divides : op.Divides) (zero : right.integer? = some 0) :
      Offends (.operation span op left right) .divisionByZero
  | leastByNegOne {span : Span} {op : Arithmetic} {left right : Calculation .signed}
      (divides : op.Divides) (least : left.integer? = some (-0x8000000000000000))
      (negOne : right.integer? = some (-1)) : Offends (.operation span op left right) .overflow

/-- The first of some nodes that goes wrong. -/
inductive FirstOffence {kind : Integral} : List (Calculation kind) → Calculation kind → EvalError.Kind → Prop
  | here {node : Calculation kind} {behind : List (Calculation kind)} {k : EvalError.Kind}
      (offends : Offends node k) : FirstOffence (node :: behind) node k
  | later {earlier node : Calculation kind} {behind : List (Calculation kind)} {k : EvalError.Kind}
      (sound : ∀ k, ¬Offends earlier k) (first : FirstOffence behind node k) :
      FirstOffence (earlier :: behind) node k

/-! ### First offences -/

section Nodes

variable {node node' : Calculation kind} {k k' : EvalError.Kind} {nodes behind : List (Calculation kind)}

/-- A node goes wrong in one way only. -/
theorem Offends.unique (offends : Offends node k) (offends' : Offends node k') : k = k' := by
  have noResult {span : Span} {op : Arithmetic} {left right : Calculation kind} (divides : op.Divides)
      (zero : right.integer? = some 0) : (operation span op left right).integer? = none := by
    rw [integer?, zero]
    cases left.integer? with
    | none => rfl
    | some n => exact Arithmetic.integer?_eq_none_iff.mpr ⟨divides, rfl⟩
  cases offends with
  | outOfRange exact outside =>
    cases offends' with
    | outOfRange => rfl
    | byZero divides zero =>
      rw [noResult divides zero] at exact
      cases exact
    | leastByNegOne => rfl
  | byZero divides zero =>
    cases offends' with
    | outOfRange exact outside =>
      rw [noResult divides zero] at exact
      cases exact
    | byZero => rfl
    | leastByNegOne divides' least negOne =>
      rw [zero] at negOne
      cases negOne
  | leastByNegOne divides least negOne =>
    cases offends' with
    | outOfRange => rfl
    | byZero divides' zero =>
      rw [zero] at negOne
      cases negOne
    | leastByNegOne => rfl

theorem FirstOffence.offends (first : FirstOffence nodes node k) : node ∈ nodes ∧ Offends node k := by
  induction first with
  | here offends => exact ⟨List.mem_cons_self, offends⟩
  | later _ _ ih => exact ⟨List.mem_cons_of_mem _ ih.1, ih.2⟩

theorem FirstOffence.unique (first : FirstOffence nodes node k) (first' : FirstOffence nodes node' k') :
    node = node' ∧ k = k' := by
  induction first with
  | here offends =>
    cases first' with
    | here offends' => exact ⟨rfl, offends.unique offends'⟩
    | later sound _ => exact absurd offends (sound _)
  | later sound _ ih =>
    cases first' with
    | here offends' => exact absurd offends' (sound _)
    | later _ first' => exact ih first'

theorem FirstOffence.append (first : FirstOffence nodes node k) (behind : List (Calculation kind)) :
    FirstOffence (nodes ++ behind) node k := by
  induction first with
  | here offends => exact .here offends
  | later sound _ ih => exact .later sound ih

theorem FirstOffence.append_of_sound (sound : ∀ earlier ∈ nodes, ∀ k, ¬Offends earlier k)
    (first : FirstOffence behind node k) : FirstOffence (nodes ++ behind) node k := by
  induction nodes with
  | nil => exact first
  | cons earlier nodes ih =>
    rw [List.forall_mem_cons] at sound
    exact .later sound.1 (ih sound.2)

end Nodes

/-! ### Evaluation -/

/-- What one node gives for operands that are exact: its exact integer, or the way in which it goes
wrong. -/
def Agrees (node : Calculation kind) : Except Cause Value → Prop
  | .ok value =>
    (∃ w, value = kind.value w ∧ node.integer? = some (kind.toInt w)) ∧ ∀ k, ¬Offends node k
  | .error cause => Offends node cause.kind

/-- What evaluation gives: the exact integer if no node goes wrong, and otherwise the first node that
does. -/
def Decides (calculation : Calculation kind) : Outcome → Prop
  | .ok value => (∃ w, value = kind.value w ∧ calculation.integer? = some (kind.toInt w)) ∧
      ∀ node ∈ calculation.nodes, ∀ k, ¬Offends node k
  | .error error => ∃ node, FirstOffence calculation.nodes node error.kind ∧ node.term.span = error.span

theorem agrees_checked {node : Calculation kind} {n : Int} (exact : node.integer? = some n)
    (inRangeOnly : ∀ k, Offends node k → ¬kind.InRange n) (what : Overflow) :
    Agrees node (kind.checked what n) := by
  by_cases inRange : kind.InRange n
  · obtain ⟨w, computed, rfl⟩ := Integral.checked_of_inRange what inRange
    rw [computed]
    exact ⟨⟨w, rfl, exact⟩, fun k offends => inRangeOnly k offends inRange⟩
  · rw [Integral.checked_of_not_inRange what inRange]
    exact .outOfRange exact inRange

theorem agrees_negation {operand : Calculation .signed} {span : Span} {w : Int64}
    (exact : operand.integer? = some w.toInt) :
    Agrees (.negation span operand) (Value.unary .neg (.int w)) := by
  have opposite : (negation span operand).integer? = some (-w.toInt) := by rw [integer?, exact]; rfl
  refine agrees_checked opposite (fun k offends => ?_) .negation
  cases offends with
  | outOfRange exact' outside =>
    obtain rfl := Option.some.inj (opposite.symm.trans exact')
    exact outside

theorem agrees_operation {left right : Calculation kind} {span : Span} {op : Arithmetic} {a b : kind.Word}
    (exact : left.integer? = some (kind.toInt a)) (exact' : right.integer? = some (kind.toInt b)) :
    Agrees (.operation span op left right) (Value.strict op.operator (kind.value a) (kind.value b)) := by
  have found : (operation span op left right).integer? = op.integer? (kind.toInt a) (kind.toInt b) := by
    rw [integer?, exact, exact']
    rfl
  rw [Integral.strict_operator]
  cases result : op.integer? (kind.toInt a) (kind.toInt b) with
  | none =>
    obtain ⟨divides, zero⟩ := Arithmetic.integer?_eq_none_iff.mp result
    have offends : Offends (operation span op left right) op.zeroCause.kind := by
      rw [op.kind_zeroCause]
      exact .byZero divides (by rw [exact', zero])
    exact offends
  | some n =>
    dsimp only
    split
    · next overflows =>
      obtain ⟨divides, least, negOne⟩ := overflows
      cases kind with
      | signed => exact Offends.leastByNegOne divides (by rw [exact, least]) (by rw [exact', negOne])
      | unsigned =>
        have nonneg := (Integral.inRange_toInt b).1
        omega
    · next notOverflows =>
      refine agrees_checked (found.trans result) (fun k offends => ?_) _
      cases offends with
      | outOfRange exact outside =>
        rw [found, result] at exact
        cases exact
        exact outside
      | byZero divides zero =>
        have isZero : kind.toInt b = 0 := Option.some.inj (exact'.symm.trans zero)
        rw [Arithmetic.integer?_eq_none_iff.mpr ⟨divides, isZero⟩] at result
        cases result
      | leastByNegOne divides least negOne =>
        rw [exact] at least
        rw [exact'] at negOne
        exact absurd ⟨divides, Option.some.inj least, Option.some.inj negOne⟩ notOverflows

/-- What evaluation of a whole tree gives, if its nodes below the topmost one are sound. -/
theorem decides_of_agrees {node : Calculation kind} {below : List (Calculation kind)}
    {result : Except Cause Value} (nodes : node.nodes = below ++ [node])
    (sound : ∀ earlier ∈ below, ∀ k, ¬Offends earlier k) (agrees : Agrees node result) :
    Decides node (EvalError.locate node.term.span result) := by
  cases result with
  | ok value =>
    refine ⟨agrees.1, ?_⟩
    rw [nodes]
    intro member isMember
    rcases List.mem_append.mp isMember with isBelow | isTop
    · exact sound member isBelow
    · obtain rfl := List.mem_singleton.mp isTop
      exact agrees.2
  | error cause =>
    refine ⟨node, ?_, rfl⟩
    rw [nodes]
    exact FirstOffence.append_of_sound sound (.here agrees)

/-- Evaluation goes through the nodes in their order and stops at the first that goes wrong. -/
theorem decides_eval [Engines] (calculation : Calculation kind) (activation : Activation)
    (locals : List Value) :
    Decides calculation (Eval.eval activation locals calculation.term) := by
  induction calculation with
  | @word kind span w =>
    have computed : Eval.eval activation locals (word span w).term = .ok (kind.value w) := by
      cases kind <;> rw [term, Eval.eval] <;> rfl
    rw [computed]
    refine ⟨⟨w, rfl, rfl⟩, ?_⟩
    intro node isNode k offends
    obtain rfl := List.mem_singleton.mp isNode
    cases offends with
    | outOfRange exact outside =>
      obtain rfl := Option.some.inj exact
      exact outside (kind.inRange_toInt w)
  | negation span operand ih =>
    cases evaluated : Eval.eval activation locals operand.term with
    | error error =>
      rw [evaluated] at ih
      obtain ⟨node, first, place⟩ := ih
      rw [term, Eval.eval_unary_of_failure evaluated]
      exact ⟨node, first.append _, place⟩
    | ok value =>
      rw [evaluated] at ih
      obtain ⟨⟨w, rfl, exact⟩, sound⟩ := ih
      rw [term, Eval.eval_unary_of_operand evaluated]
      exact decides_of_agrees rfl sound (agrees_negation exact)
  | operation span op left right ih ih' =>
    cases evaluated : Eval.eval activation locals left.term with
    | error error =>
      rw [evaluated] at ih
      obtain ⟨node, first, place⟩ := ih
      rw [term, Eval.eval_strict_of_left_failure evaluated]
      exact ⟨node, first.append _, place⟩
    | ok value =>
      rw [evaluated] at ih
      obtain ⟨⟨a, rfl, exact⟩, sound⟩ := ih
      cases evaluated' : Eval.eval activation locals right.term with
      | error error =>
        rw [evaluated'] at ih'
        obtain ⟨node, first, place⟩ := ih'
        rw [term, Eval.eval_strict_of_right_failure evaluated evaluated']
        exact ⟨node, .append_of_sound sound (first.append _), place⟩
      | ok value =>
        rw [evaluated'] at ih'
        obtain ⟨⟨b, rfl, exact'⟩, sound'⟩ := ih'
        rw [term, Eval.eval_strict_of_operands evaluated evaluated']
        refine decides_of_agrees (List.append_assoc _ _ _).symm ?_ (agrees_operation exact exact')
        intro earlier isBelow
        rcases List.mem_append.mp isBelow with isLeft | isRight
        · exact sound earlier isLeft
        · exact sound' earlier isRight

section Outcomes

variable [Engines] {activation : Activation} {locals : List Value} {calculation : Calculation kind}

theorem eval_eq_ok_iff {value : Value} : Eval.eval activation locals calculation.term = .ok value ↔
    (∃ w, value = kind.value w ∧ calculation.integer? = some (kind.toInt w)) ∧
      ∀ node ∈ calculation.nodes, ∀ k, ¬Offends node k := by
  have decides := decides_eval calculation activation locals
  cases outcome : Eval.eval activation locals calculation.term with
  | ok found =>
    rw [outcome] at decides
    constructor
    · rintro ⟨⟩
      exact decides
    · rintro ⟨⟨w, rfl, exact⟩, -⟩
      obtain ⟨⟨w', rfl, exact'⟩, -⟩ := decides
      rw [Integral.toInt_inj.mp (Option.some.inj (exact'.symm.trans exact))]
  | error error =>
    rw [outcome] at decides
    obtain ⟨node, first, -⟩ := decides
    obtain ⟨isNode, offends⟩ := first.offends
    exact iff_of_false nofun fun ⟨_, sound⟩ => sound node isNode _ offends

theorem eval_fails_iff {k : EvalError.Kind} {span : Span} :
    (∃ error, Eval.eval activation locals calculation.term = .error error ∧ error.kind = k ∧
      error.span = span) ↔
      ∃ node, FirstOffence calculation.nodes node k ∧ node.term.span = span := by
  have decides := decides_eval calculation activation locals
  cases outcome : Eval.eval activation locals calculation.term with
  | ok found =>
    rw [outcome] at decides
    refine iff_of_false nofun ?_
    rintro ⟨node, first, -⟩
    obtain ⟨isNode, offends⟩ := first.offends
    exact decides.2 node isNode _ offends
  | error error =>
    rw [outcome] at decides
    obtain ⟨node, first, place⟩ := decides
    constructor
    · rintro ⟨_, ⟨⟩, rfl, rfl⟩
      exact ⟨node, first, place⟩
    · rintro ⟨node', first', rfl⟩
      obtain ⟨rfl, rfl⟩ := first.unique first'
      exact ⟨error, rfl, rfl, place.symm⟩

end Outcomes

/-! ### Quotients and remainders -/

/-- A quotient and its remainder are both computed, or both fail for the same reason. -/
theorem eval_div_mod [Engines] (a b : Calculation kind) (activation : Activation) (locals : List Value)
    (span span' : Span) :
    (∃ x y q r : kind.Word, Eval.eval activation locals a.term = .ok (kind.value x) ∧
      Eval.eval activation locals b.term = .ok (kind.value y) ∧
      Eval.eval activation locals (operation span .div a b).term = .ok (kind.value q) ∧
      Eval.eval activation locals (operation span' .mod a b).term = .ok (kind.value r) ∧
      kind.toInt q = (kind.toInt x).tdiv (kind.toInt y) ∧
      kind.toInt r = (kind.toInt x).tmod (kind.toInt y)) ∨
    ∃ error error', Eval.eval activation locals (operation span .div a b).term = .error error ∧
      Eval.eval activation locals (operation span' .mod a b).term = .error error' ∧
      error.kind = error'.kind := by
  simp only [term]
  have left := decides_eval a activation locals
  have right := decides_eval b activation locals
  cases evaluated : Eval.eval activation locals a.term with
  | error error =>
    exact .inr ⟨error, error, Eval.eval_strict_of_left_failure evaluated,
      Eval.eval_strict_of_left_failure evaluated, rfl⟩
  | ok value =>
    rw [evaluated] at left
    obtain ⟨⟨x, rfl, -⟩, -⟩ := left
    cases evaluated' : Eval.eval activation locals b.term with
    | error error =>
      exact .inr ⟨error, error, Eval.eval_strict_of_right_failure evaluated evaluated',
        Eval.eval_strict_of_right_failure evaluated evaluated', rfl⟩
    | ok value =>
      rw [evaluated'] at right
      obtain ⟨⟨y, rfl, -⟩, -⟩ := right
      rw [Eval.eval_strict_of_operands evaluated evaluated',
        Eval.eval_strict_of_operands evaluated evaluated']
      rcases Integral.strict_div_mod x y with
        ⟨q, r, computed, computed', denotes, denotes'⟩ | ⟨cause, cause', fails, fails', same⟩
      · refine .inl ⟨x, y, q, r, rfl, rfl, ?_, ?_, denotes, denotes'⟩
        · exact congrArg (EvalError.locate span) computed
        · exact congrArg (EvalError.locate span') computed'
      · refine .inr ⟨⟨cause, span⟩, ⟨cause', span'⟩, ?_, ?_, same⟩
        · exact congrArg (EvalError.locate span) fails
        · exact congrArg (EvalError.locate span') fails'

section Division

variable [Engines] {activation : Activation} {locals : List Value} (a b : Calculation kind)
  (left right : Span)

theorem div_fails_iff_mod_fails (k : EvalError.Kind) :
    (∃ error, Eval.eval activation locals (operation left .div a b).term = .error error ∧
      error.kind = k) ↔
    ∃ error, Eval.eval activation locals (operation right .mod a b).term = .error error ∧
      error.kind = k := by
  rcases eval_div_mod a b activation locals left right with
    ⟨_, _, _, _, -, -, computed, computed', -⟩ | ⟨error, error', fails, fails', same⟩
  · refine iff_of_false ?_ ?_
    · rintro ⟨_, fails, -⟩
      cases computed.symm.trans fails
    · rintro ⟨_, fails, -⟩
      cases computed'.symm.trans fails
  · constructor
    · rintro ⟨_, failed, rfl⟩
      cases fails.symm.trans failed
      exact ⟨error', fails', same.symm⟩
    · rintro ⟨_, failed, rfl⟩
      cases fails'.symm.trans failed
      exact ⟨error, fails, same⟩

/-- A quotient times its divisor, together with the remainder, is equal to the dividend. -/
theorem eval_dividend_eq {value : Value}
    (succeeds : Eval.eval activation locals (operation left .div a b).term = .ok value)
    (whole sum product : Span) :
    Eval.eval activation locals (.strict whole .eq (operation sum .add
      (operation product .mul (operation left .div a b) b) (operation right .mod a b)).term a.term) =
        .ok (.bool true) := by
  rcases eval_div_mod a b activation locals left right with
    ⟨x, y, q, r, dividend, divisor, computed, computed', denotes, denotes'⟩ | ⟨_, _, fails, -⟩
  · obtain ⟨p, multiplied, added⟩ := Integral.strict_mul_add denotes denotes'
    have productValue : Eval.eval activation locals
        (operation product .mul (operation left .div a b) b).term = .ok (kind.value p) := by
      refine (Eval.eval_strict_of_operands computed divisor).trans ?_
      exact congrArg (EvalError.locate product) multiplied
    have sumValue : Eval.eval activation locals (operation sum .add
        (operation product .mul (operation left .div a b) b) (operation right .mod a b)).term =
          .ok (kind.value x) := by
      refine (Eval.eval_strict_of_operands productValue computed').trans ?_
      exact congrArg (EvalError.locate sum) added
    refine (Eval.eval_strict_of_operands sumValue dividend).trans ?_
    rw [Integral.strict_eq_self]
    rfl
  · cases succeeds.symm.trans fails

end Division

/-- Calculations are exact or fail. Evaluation gives an integer exactly if no node goes wrong, which is then
the exact integer, and otherwise it fails for the first node that does. A quotient and its remainder fail
together and for the same reason, or the dividend is put together from them. -/
theorem calculations_exact [Engines] (calculation a b : Calculation kind) (activation : Activation)
    (locals : List Value) (whole sum product left right : Span) :
    let eval (term : Term) := Eval.eval activation locals term
    let quotient := operation left .div a b
    let remainder := operation right .mod a b
    (∀ value, eval calculation.term = .ok value ↔
      (∃ w, value = kind.value w ∧ calculation.integer? = some (kind.toInt w)) ∧
        ∀ node ∈ calculation.nodes, ∀ k, ¬Offends node k) ∧
    (∀ k span, (∃ error, eval calculation.term = .error error ∧ error.kind = k ∧ error.span = span) ↔
      ∃ node, FirstOffence calculation.nodes node k ∧ node.term.span = span) ∧
    (∀ k, (∃ error, eval quotient.term = .error error ∧ error.kind = k) ↔
      ∃ error, eval remainder.term = .error error ∧ error.kind = k) ∧
    (∀ value, eval quotient.term = .ok value →
      eval (.strict whole .eq (operation sum .add (operation product .mul quotient b) remainder).term
        a.term) = .ok (.bool true)) := by
  refine ⟨?_, ?_, ?_, ?_⟩
  · exact fun _ => eval_eq_ok_iff
  · exact fun _ _ => eval_fails_iff
  · exact div_fails_iff_mod_fails a b left right
  · exact fun _ succeeds => eval_dividend_eq a b left right succeeds whole sum product

/-- The least integer modulo minus one goes wrong before a division by zero behind it does, and minus seven
is put together from its quotient and remainder by two. -/
theorem calculations_exact_of_least :
    let word (start stop : Nat) (n : Int64) : Calculation .signed := .word ⟨start, stop⟩ n
    let remainder := operation ⟨0, 25⟩ .mod (word 0 20 (-9223372036854775808)) (word 23 25 (-1))
    let divided := operation ⟨28, 33⟩ .div (word 28 29 1) (word 32 33 0)
    let sum := operation ⟨0, 33⟩ .add remainder divided
    let a := word 0 2 (-7)
    let b := word 5 6 2
    let quotient := operation ⟨0, 6⟩ .div a b
    let rest := operation ⟨14, 20⟩ .mod a b
    FirstOffence sum.nodes remainder .overflow ∧
      (∃ error, Eval.eval .empty [] sum.term = .error error ∧ error.kind = .overflow ∧
        error.span = ⟨0, 25⟩) ∧
      Eval.eval .empty [] (.strict ⟨0, 26⟩ .eq
        (operation ⟨0, 20⟩ .add (operation ⟨0, 10⟩ .mul quotient b) rest).term a.term) =
          .ok (.bool true) := by
  intro word remainder divided sum a b quotient rest
  have laws := calculations_exact sum a b .empty [] ⟨0, 26⟩ ⟨0, 20⟩ ⟨0, 10⟩ ⟨0, 6⟩ ⟨14, 20⟩
  have sound (start stop : Nat) (n : Int64) (k : EvalError.Kind) : ¬Offends (word start stop n) k := by
    intro offends
    cases offends with
    | outOfRange exact outside =>
      obtain rfl := Option.some.inj exact
      exact outside (@Integral.inRange_toInt .signed n)
  have first : FirstOffence sum.nodes remainder .overflow :=
    .later (sound _ _ _) (.later (sound _ _ _) (.here (.leastByNegOne (.inr rfl) rfl rfl)))
  refine ⟨first, (laws.2.1 _ _).mpr ⟨remainder, first, rfl⟩, laws.2.2.2 (.int (-3)) ?_⟩
  rfl

end Calculation

end Cel
