import Cel.Eval.Operators

/-! # Fields and elements

Selecting a field, testing for its presence, and indexing. Fields of maps are their string keys. An
index of a list is a number with an integral value, counted from zero; a key of a map may be a number
of any kind.
-/

namespace Cel.Value

open EvalError (Cause)

/-- The value of a field. -/
def select (field : String) : Value → Except Cause Value
  | map entries =>
    match Entries.find? (.string field) entries with
    | some value => .ok value
    | none => .error (.keyNotFound (string field))
  | struct _ fields =>
    match Entries.find? field fields with
    | some value => .ok value
    | none => .error (.fieldNotFound field)
  | unknown names => .ok (unknown names)
  | other => mismatch (.select field) [other]

/-- Whether a field is present. -/
def has (field : String) : Value → Except Cause Value
  | map entries => .ok (bool (Entries.find? (.string field) entries).isSome)
  | struct _ fields => .ok (bool (Entries.find? field fields).isSome)
  | unknown names => .ok (unknown names)
  | other => mismatch .has [other]

/-- The integer that a number denotes, if it denotes one. -/
def integer? : Value → Option Int
  | int n => some n.toInt
  | uint n => some n.toNat
  | double d => d.integer?
  | _ => none

/-- The element of a list at an integral position. -/
def element? (items : List Value) (position : Int) : Option Value :=
  if 0 ≤ position then items[position.toNat]? else none

/-- The element of a list or the value of a map that an index finds. -/
def index (container position : Value) : Except Cause Value :=
  ifKnown [container, position] <|
    match container with
    | list items =>
      match position.integer? with
      | some n =>
        match element? items n with
        | some value => .ok value
        | none => .error (.indexOutOfBounds position items.length)
      | none => mismatch .index [container, position]
    | map entries =>
      match position.lookup? entries with
      | some value => .ok value
      | none => .error (.keyNotFound position)
    | _ => mismatch .index [container, position]

end Cel.Value
