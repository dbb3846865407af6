import Cel.Eval

/-! # Where failures come from

`FailsOnly allowed result` says that `result`, if it is a failure, is an allowed one. What evaluation
does with outcomes adds few failures of its own, so it fails only in allowed ways if its operands do
and those few are allowed.
-/

namespace Cel

/-- If a result is a failure, it is an allowed one. -/
def FailsOnly {ε α : Type} (allowed : ε → Prop) (result : Except ε α) : Prop :=
  ∀ error, result = .error error → allowed error

namespace FailsOnly

variable {ε α β : Type} {allowed : ε → Prop}

@[simp] theorem ok {value : α} : FailsOnly allowed (.ok value) := nofun

@[simp] theorem error_iff {error : ε} :
    FailsOnly allowed (.error error : Except ε α) ↔ allowed error := by
  constructor
  · exact fun failsOnly => failsOnly error rfl
  · rintro isAllowed _ ⟨⟩
    exact isAllowed

theorem bind {result : Except ε α} {next : α → Except ε β} (first : FailsOnly allowed result)
    (rest : ∀ value, result = .ok value → FailsOnly allowed (next value)) :
    FailsOnly allowed (result >>= next) := by
  cases result with
  | error error => exact error_iff.mpr (first error rfl)
  | ok value => exact rest value rfl

theorem map {result : Except ε α} (first : FailsOnly allowed result) (f : α → β) :
    FailsOnly allowed (do return f (← result)) :=
  first.bind fun _ _ => ok

theorem mono {allowed' : ε → Prop} {result : Except ε α} (failsOnly : FailsOnly allowed result)
    (implies : ∀ error, allowed error → allowed' error) : FailsOnly allowed' result :=
  fun error failed => implies error (failsOnly error failed)

end FailsOnly

open EvalError (Cause locate)

variable {α β : Type} {allowed : EvalError → Prop} {span : Span}

theorem locate_failsOnly {result : Except Cause α}
    (failsOnly : FailsOnly (fun cause => allowed ⟨cause, span⟩) result) :
    FailsOnly allowed (locate span result) := by
  cases result with
  | error cause => exact FailsOnly.error_iff.mpr (failsOnly cause rfl)
  | ok value => exact FailsOnly.ok

/-- A connective fails with the failure of an operand, or because an operand is no boolean. -/
theorem Connective.combine_failsOnly (op : Connective) {left right : Outcome}
    (noOverload : ∀ types, allowed ⟨.noOverload op.operation types, span⟩)
    (leftOnly : FailsOnly allowed left) (rightOnly : FailsOnly allowed right) :
    FailsOnly allowed (op.combine span left right) := by
  unfold combine
  split
  · exact FailsOnly.ok
  · split
    · exact FailsOnly.ok
    · exact FailsOnly.ok
    · exact FailsOnly.ok
    · exact FailsOnly.error_iff.mpr (leftOnly _ rfl)
    · exact FailsOnly.error_iff.mpr (rightOnly _ rfl)
    · exact FailsOnly.ok
    · exact FailsOnly.error_iff.mpr (noOverload _)

/-- The entries of a map literal fail at one of the keys, which is of no kind that can be a key or is there
already. -/
theorem Eval.entriesOf_failsOnly {evaluated : List (Span × Value × Value)}
    (keyType : ∀ entry ∈ evaluated, allowed ⟨.keyType entry.2.1.typeName, entry.1⟩)
    (repeated : ∀ entry ∈ evaluated, entry.2.1.key?.isSome = true →
      allowed ⟨.repeatedKey entry.2.1, entry.1⟩)
    (entries : List (MapKey × Value)) : FailsOnly allowed (entriesOf entries evaluated) := by
  induction evaluated generalizing entries with
  | nil => exact FailsOnly.ok
  | cons entry rest ih =>
    obtain ⟨notKey, laterNotKey⟩ := List.forall_mem_cons.mp keyType
    obtain ⟨again, laterAgain⟩ := List.forall_mem_cons.mp repeated
    unfold entriesOf
    split
    · exact FailsOnly.error_iff.mpr notKey
    · next stored isKey =>
      split
      · exact FailsOnly.error_iff.mpr (again (Option.isSome_of_mem isKey))
      · exact ih laterNotKey laterAgain _

theorem Eval.mapOf_failsOnly {evaluated : List (Span × Value × Value)}
    (keyType : ∀ entry ∈ evaluated, allowed ⟨.keyType entry.2.1.typeName, entry.1⟩)
    (repeated : ∀ entry ∈ evaluated, entry.2.1.key?.isSome = true →
      allowed ⟨.repeatedKey entry.2.1, entry.1⟩) : FailsOnly allowed (mapOf evaluated) := by
  unfold mapOf
  split
  · exact FailsOnly.ok
  · exact (entriesOf_failsOnly keyType repeated []).map _

namespace Loop

/-- A loop stops at an element that is not known, or with an allowed failure. -/
def StopAllowed (allowed : EvalError → Prop) : Stop → Prop
  | .error error => allowed error
  | .unknown _ => True

theorem overRange_failsOnly {range : Value} {elements? : Value → Option (List α)}
    {loop : List α → Outcome} (noOverload : ∀ types, allowed ⟨.noOverload .loop types, span⟩)
    (loopOnly : ∀ elements, elements? range = some elements → FailsOnly allowed (loop elements)) :
    FailsOnly allowed (overRange span range elements? loop) := by
  unfold overRange
  split
  · exact FailsOnly.ok
  · split
    · next elements found => exact loopOnly elements found
    · exact FailsOnly.error_iff.mpr (noOverload _)

/-- A search that goes on fails with the failure that was pending or that of an element. -/
theorem search_failsOnly {decisive : Bool} {test : α → Outcome} {elements : List α}
    (notBool : ∀ type, allowed ⟨.notBool type, span⟩)
    (tests : ∀ element ∈ elements, FailsOnly allowed (test element)) {pending : Pending}
    (pendingOnly : ∀ error ∈ pending.error, allowed error) :
    FailsOnly allowed (search decisive span test pending elements) := by
  -- The first failure counts, and whichever it is, it is an allowed one.
  have withError {pending : Pending} (pendingOnly : ∀ error ∈ pending.error, allowed error)
      {error : EvalError} (isAllowed : allowed error) :
      ∀ first ∈ (pending.withError error).error, allowed first := by
    rintro first ⟨⟩
    cases met : pending.error with
    | none => exact isAllowed
    | some earlier => exact pendingOnly earlier met
  induction elements generalizing pending with
  | nil =>
    unfold search Pending.conclude
    split
    · exact FailsOnly.ok
    · next error _ met => exact FailsOnly.error_iff.mpr (pendingOnly error met)
    · exact FailsOnly.ok
  | cons element rest ih =>
    obtain ⟨head, tail⟩ := List.forall_mem_cons.mp tests
    unfold search
    split
    · split
      · exact FailsOnly.ok
      · exact ih tail pendingOnly
    · exact ih tail pendingOnly
    · exact ih tail (withError pendingOnly (notBool _))
    · next error failed => exact ih tail (withError pendingOnly (head error failed))

theorem truth_failsOnly {outcome : Outcome} (notBool : ∀ type, allowed ⟨.notBool type, span⟩)
    (failsOnly : FailsOnly allowed outcome) :
    FailsOnly (StopAllowed allowed) (truth span outcome) := by
  unfold truth
  split
  · exact FailsOnly.ok
  · exact FailsOnly.error_iff.mpr trivial
  · exact FailsOnly.error_iff.mpr (notBool _)
  · exact FailsOnly.error_iff.mpr (failsOnly _ rfl)

theorem valueOf_failsOnly {outcome : Outcome} (failsOnly : FailsOnly allowed outcome) :
    FailsOnly (StopAllowed allowed) (valueOf outcome) := by
  cases outcome with
  | ok value => exact FailsOnly.ok
  | error error => exact FailsOnly.error_iff.mpr (failsOnly error rfl)

theorem count_failsOnly {stopAllowed : Stop → Prop} {holds : α → Except Stop Bool}
    {elements : List α} (tests : ∀ element ∈ elements, FailsOnly stopAllowed (holds element)) :
    FailsOnly stopAllowed (count holds elements) := by
  induction elements with
  | nil => exact FailsOnly.ok
  | cons element rest ih =>
    obtain ⟨head, tail⟩ := List.forall_mem_cons.mp tests
    exact head.bind fun _ _ => (ih tail).map _

theorem gather_failsOnly {stopAllowed : Stop → Prop} {step : α → Except Stop (Option β)}
    {elements : List α} (steps : ∀ element ∈ elements, FailsOnly stopAllowed (step element)) :
    FailsOnly stopAllowed (gather step elements) := by
  induction elements with
  | nil => exact FailsOnly.ok
  | cons element rest ih =>
    obtain ⟨head, tail⟩ := List.forall_mem_cons.mp steps
    exact head.bind fun _ _ => (ih tail).map _

theorem keep_failsOnly {stopAllowed : Stop → Prop} {holds : α → Except Stop Bool} {element : α}
    (failsOnly : FailsOnly stopAllowed (holds element)) :
    FailsOnly stopAllowed (keep holds element) :=
  failsOnly.map fun held => if held then some element else none

theorem finish_failsOnly {result : Except Stop Value}
    (failsOnly : FailsOnly (StopAllowed allowed) result) : FailsOnly allowed (finish result) := by
  unfold finish
  split
  · exact FailsOnly.ok
  · exact FailsOnly.error_iff.mpr (failsOnly _ rfl)
  · exact FailsOnly.ok

end Loop

theorem Eval.quantify_failsOnly (kind : Quantifier) {test : α → Outcome} {frames : List α}
    (notBool : ∀ type, allowed ⟨.notBool type, span⟩)
    (tests : ∀ frame ∈ frames, FailsOnly allowed (test frame)) :
    FailsOnly allowed (quantify kind span test frames) := by
  cases kind with
  | all | «exists» => exact Loop.search_failsOnly notBool tests nofun
  | existsOne =>
    have counted := Loop.count_failsOnly fun frame member =>
      Loop.truth_failsOnly notBool (tests frame member)
    exact Loop.finish_failsOnly (counted.map _)

end Cel
