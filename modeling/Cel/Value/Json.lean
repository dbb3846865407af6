import Cel.Json
import Cel.Value

/-! # Values and JSON

JSON numbers without a fraction become signed integers if they fit, else unsigned integers if they
fit, and all other numbers doubles; objects become maps with string keys. In the other direction map
keys are written as plain text, bytes as numbers, timestamps as text with their offset, and durations
as nanoseconds. Unknown values and timestamps without a date cannot be written.
-/

namespace Cel.Value

mutual

/-- The value that a JSON text denotes. -/
def ofJson : Json → Value
  | .null => null
  | .bool value => bool value
  | .int n =>
    match Number.int64? n, Number.uint64? n with
    | some value, _ => int value
    | none, some value => uint value
    | none, none => double (.ofInt n)
  | .double value => double value
  | .string value => string value
  | .array items => list (ofJsonItems items)
  | .object members => ofEntries (ofJsonMembers members)

def ofJsonItems : List Json → List Value
  | [] => []
  | item :: rest => ofJson item :: ofJsonItems rest

def ofJsonMembers : List (String × Json) → List (MapKey × Value)
  | [] => []
  | (name, value) :: rest => (.string name, ofJson value) :: ofJsonMembers rest

end

/-- Why a value cannot be written as JSON. -/
inductive JsonFault where
  | noDate
  | unknown (names : Names)
deriving DecidableEq, Repr

def JsonFault.message : JsonFault → String
  | noDate => "timestamp out of range"
  | unknown names =>
    "cannot serialize a value that depends on unknown variables: " ++
      String.intercalate ", " names.toList

/-- Nanoseconds as an integer, or as a double where that does not fit. -/
def durationJson (d : Duration) : Json :=
  match Number.int64? d.total with
  | some nanos => .int nanos.toInt
  | none => .double (.ofInt d.total)

mutual

/-- A value as JSON. -/
def toJson : Value → Except JsonFault Json
  | null => .ok .null
  | bool value => .ok (.bool value)
  | int value => .ok (.int value.toInt)
  | uint value => .ok (.int value.toNat)
  | double value => .ok (.double value)
  | string value => .ok (.string value)
  | bytes value => .ok (.array (value.map fun byte => .int byte.toNat))
  | list items => do return .array (← toJsonItems items)
  | map entries => do return .object (← toJsonEntries entries)
  | struct _ fields => do return .object (← toJsonFields fields)
  | timestamp value =>
    match value.offsetText? with
    | some text => .ok (.string text)
    | none => .error .noDate
  | duration value => .ok (durationJson value)
  | unknown names => .error (.unknown names)

def toJsonItems : List Value → Except JsonFault (List Json)
  | [] => .ok []
  | item :: rest => do
    let item ← toJson item
    let items ← toJsonItems rest
    return item :: items

def toJsonEntries : List (MapKey × Value) → Except JsonFault (List (String × Json))
  | [] => .ok []
  | (key, value) :: rest => do
    let value ← toJson value
    let members ← toJsonEntries rest
    return (key.text, value) :: members

def toJsonFields : List (String × Value) → Except JsonFault (List (String × Json))
  | [] => .ok []
  | (name, value) :: rest => do
    let value ← toJson value
    let members ← toJsonFields rest
    return (name, value) :: members

end

end Cel.Value
