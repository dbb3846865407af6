import Cel.Eval
import Cel.Proofs.Reveal.Persists
import Cel.Proofs.Value.Sound

/-! # What evaluation can give

`GivesOnly allowed result` says that `result`, if it is no failure, is an allowed one. Operations that
compute something new give sound values without parts; all others pass on what they are given. So a
property of sound and known values that holds everywhere in the operands holds everywhere in the
result, unless an operand is unknown: then the result is unknown for the names of such operands.
-/

namespace Cel

/-- If a result is no failure, it is an allowed one. -/
def GivesOnly {ε α : Type} (allowed : α → Prop) (result : Except ε α) : Prop :=
  ∀ value, result = .ok value → allowed value

namespace GivesOnly

variable {ε α β : Type} {allowed : α → Prop} {allowed' : β → Prop}

@[simp] theorem error {failure : ε} : GivesOnly allowed (.error failure : Except ε α) := nofun

@[simp] theorem ok_iff {value : α} :
    GivesOnly allowed (.ok value : Except ε α) ↔ allowed value := by
  constructor
  · exact fun givesOnly => givesOnly value rfl
  · rintro isAllowed _ ⟨⟩
    exact isAllowed

theorem bind {result : Except ε α} {next : α → Except ε β} (first : GivesOnly allowed result)
    (rest : ∀ value, allowed value → GivesOnly allowed' (next value)) :
    GivesOnly allowed' (result >>= next) := by
  cases result with
  | error failure => exact error
  | ok value => exact rest value (first value rfl)

/-- Whatever a computation gives, what is done with it may give only allowed results. -/
theorem bind_of_forall {result : Except ε α} {next : α → Except ε β}
    (rest : ∀ value, GivesOnly allowed' (next value)) : GivesOnly allowed' (result >>= next) := by
  cases result with
  | error failure => exact error
  | ok value => exact rest value

theorem map {result : Except ε α} (first : GivesOnly allowed result) {f : α → β}
    (rest : ∀ value, allowed value → allowed' (f value)) :
    GivesOnly allowed' (do return f (← result)) :=
  first.bind fun value isAllowed => ok_iff.mpr (rest value isAllowed)

theorem mono {allowed'' : α → Prop} {result : Except ε α} (givesOnly : GivesOnly allowed result)
    (implies : ∀ value, allowed value → allowed'' value) : GivesOnly allowed'' result :=
  fun value gives => implies value (givesOnly value gives)

theorem locate {result : Except EvalError.Cause α} (span : Span)
    (givesOnly : GivesOnly allowed result) : GivesOnly allowed (EvalError.locate span result) := by
  cases result with
  | error cause => exact error
  | ok value => exact ok_iff.mpr (givesOnly value rfl)

end GivesOnly

/-! ### Kept properties -/

/-- Evaluation keeps a property of values, and one of the names that unknown values carry: new values
have the former, unknown values do not, and the latter passes to unions. -/
structure Kept (p : Value → Prop) (q : Names → Prop) : Prop where
  ofSound : ∀ {value : Value}, value.Known → value.Sound → p value
  known : ∀ {value : Value}, p value → value.Known
  union : ∀ {a b : Names}, q a → q b → q (a.union b)

namespace Value

variable {p : Value → Prop} {q : Names → Prop}

/-- Whether a value is unknown for names with one property, or has another property everywhere. -/
def Keeps (p : Value → Prop) (q : Names → Prop) : Value → Prop
  | unknown names => q names
  | value => Everywhere p value

@[simp] theorem keeps_unknown {names : Names} : (unknown names).Keeps p q ↔ q names := Iff.rfl

theorem keeps_iff_of_known {value : Value} (known : value.Known) :
    value.Keeps p q ↔ Everywhere p value := by
  cases value with
  | unknown names => exact absurd known not_known_unknown
  | _ => exact Iff.rfl

end Value

namespace Kept

open Value (Everywhere Keeps Atomic unknowns? ifKnown listOf keeps_iff_of_known)

variable {p : Value → Prop} {q : Names → Prop} (kept : Kept p q)

include kept

theorem keeps {value : Value} (everywhere : Everywhere p value) : value.Keeps p q :=
  (keeps_iff_of_known (kept.known everywhere.here)).mpr everywhere

theorem everywhere_atomic {value : Value} (atomic : value.Atomic) : Everywhere p value :=
  .of_parts_eq_nil (kept.ofSound atomic.known atomic.sound) atomic.flat

theorem keeps_atomic {value : Value} (atomic : value.Atomic) : value.Keeps p q :=
  kept.keeps (kept.everywhere_atomic atomic)

/-- The names of the unknown ones among some values. -/
theorem of_unknowns? {values : List Value} (each : ∀ value ∈ values, value.Keeps p q)
    {names : Names} (found : unknowns? values = some names) : q names := by
  induction values generalizing names with
  | nil => cases found
  | cons value rest ih =>
    obtain ⟨head, tail⟩ := List.forall_mem_cons.mp each
    cases value with
    | unknown first =>
      cases others : unknowns? rest with
      | none =>
        simp only [unknowns?, others, Option.getD_none, Names.union_empty, Option.some.injEq] at found
        exact found ▸ head
      | some further =>
        simp only [unknowns?, others, Option.getD_some, Option.some.injEq] at found
        exact found ▸ kept.union head (ih tail others)
    | _ => exact ih tail found

omit kept in
/-- Values none of which is unknown have the property everywhere. -/
theorem everywhere_of_unknowns? {values : List Value} (each : ∀ value ∈ values, value.Keeps p q)
    (none : unknowns? values = .none) : ∀ value ∈ values, Everywhere p value := by
  intro value member
  have known := Value.unknowns?_eq_none_iff.mp none value member
  exact (keeps_iff_of_known known).mp (each value member)

theorem ifKnown_givesOnly {operands : List Value} {result : Except EvalError.Cause Value}
    (each : ∀ value ∈ operands, value.Keeps p q)
    (known : (∀ value ∈ operands, Everywhere p value) → GivesOnly (Everywhere p) result) :
    GivesOnly (Keeps p q) (ifKnown operands result) := by
  unfold Value.ifKnown
  split
  · next names found => exact GivesOnly.ok_iff.mpr (kept.of_unknowns? each found)
  · next none => exact (known (everywhere_of_unknowns? each none)).mono fun _ => kept.keeps

theorem keeps_listOf {items : List Value} (each : ∀ item ∈ items, item.Keeps p q) :
    (listOf items).Keeps p q := by
  unfold Value.listOf
  split
  · next names found => exact kept.of_unknowns? each found
  · next none =>
    have inside := everywhere_of_unknowns? each none
    exact kept.keeps (.intro (kept.ofSound rfl trivial) inside)

end Kept

end Cel
