import Cel.Eval.Logic

/-! # Loops

How the outcomes of a loop's body over all elements become the outcome of the loop. The quantifiers
`all` and `exists` go on after a failure or an unknown outcome, because a later element may still
decide the result. The other loops stop at the first element whose predicate fails or is not known.
-/

namespace Cel

open EvalError (Cause)

/-- The elements of a range: the items of a list, or the keys of a map. -/
def Value.elements? : Value → Option (List Value)
  | .list items => some items
  | .map entries => some (entries.map fun entry => .ofKey entry.1)
  | _ => none

/-- The values that a loop binds for each element of a range, those of the innermost names first. With
two names, items of a list come with their positions and values of a map with their keys. -/
def Binder.frames? (binder : Binder) (range : Value) : Option (List (List Value)) :=
  match binder.index, range with
  | none, range => range.elements?.map (·.map ([·]))
  | some _, .list items =>
    some (items.mapIdx fun position item => [item, .int (Int64.ofNat position)])
  | some _, .map entries => some (entries.map fun (key, value) => [value, .ofKey key])
  | some _, _ => none

namespace Loop

/-- Run a loop over the elements of a range. An unknown range makes the result unknown. -/
def overRange {α : Type} (span : Span) (range : Value) (elements? : Value → Option (List α))
    (loop : List α → Outcome) : Outcome :=
  match range with
  | .unknown names => .ok (.unknown names)
  | range =>
    match elements? range with
    | some elements => loop elements
    | none => .error ⟨.noOverload .loop [range.typeName], span⟩

/-! ### Quantifiers that go on -/

/-- What has been met while no element has decided the result. -/
structure Pending where
  unknown : Option Names
  error : Option EvalError

namespace Pending

def none : Pending := ⟨.none, .none⟩

/-- A further element is unknown. -/
def withUnknown (pending : Pending) (names : Names) : Pending :=
  { pending with unknown := some ((pending.unknown.getD .empty).union names) }

/-- A further element fails. The first failure counts. -/
def withError (pending : Pending) (error : EvalError) : Pending :=
  { pending with error := some (pending.error.getD error) }

/-- The result when no element has decided it. -/
def conclude (pending : Pending) (otherwise : Bool) : Outcome :=
  match pending.unknown, pending.error with
  | some names, _ => .ok (.unknown names)
  | .none, some error => .error error
  | .none, .none => .ok (.bool otherwise)

end Pending

/-- Look for an element whose predicate is `decisive`. -/
def search {α : Type} (decisive : Bool) (span : Span) (test : α → Outcome) (pending : Pending) :
    List α → Outcome
  | [] => pending.conclude !decisive
  | element :: rest =>
    match test element with
    | .ok (.bool b) =>
      if b = decisive then .ok (.bool decisive) else search decisive span test pending rest
    | .ok (.unknown names) => search decisive span test (pending.withUnknown names) rest
    | .ok other =>
      search decisive span test (pending.withError ⟨.notBool other.typeName, span⟩) rest
    | .error error => search decisive span test (pending.withError error) rest

/-! ### Loops that stop -/

/-- Why a loop stops early. -/
inductive Stop where
  | error (error : EvalError)
  | unknown (names : Names)

/-- The result of a loop that may stop early. -/
def finish : Except Stop Value → Outcome
  | .ok value => .ok value
  | .error (.error error) => .error error
  | .error (.unknown names) => .ok (.unknown names)

/-- The truth of a predicate with a given outcome. -/
def truth (span : Span) : Outcome → Except Stop Bool
  | .ok (.bool b) => .ok b
  | .ok (.unknown names) => .error (.unknown names)
  | .ok other => .error (.error ⟨.notBool other.typeName, span⟩)
  | .error error => .error (.error error)

/-- The value of a body with a given outcome. -/
def valueOf : Outcome → Except Stop Value
  | .ok value => .ok value
  | .error error => .error (.error error)

/-- The number of elements that satisfy a predicate. -/
def count {α : Type} (holds : α → Except Stop Bool) : List α → Except Stop Nat
  | [] => .ok 0
  | element :: rest => do
    let held ← holds element
    let others ← count holds rest
    return if held then others + 1 else others

/-- What a step makes of each element, less the elements of which it makes nothing. -/
def gather {α β : Type} (step : α → Except Stop (Option β)) : List α → Except Stop (List β)
  | [] => .ok []
  | element :: rest => do
    let made ← step element
    let others ← gather step rest
    return made.toList ++ others

/-- The step that keeps the elements that satisfy a predicate. -/
def keep {α : Type} (holds : α → Except Stop Bool) (element : α) : Except Stop (Option α) := do
  return if ← holds element then some element else none

end Loop

end Cel
