import Cel.Entries
import Cel.Number.Double
import Cel.Number.Word
import Cel.Names
import Cel.Time.Duration
import Cel.Time.Timestamp

/-! # Values

What an expression can evaluate to. Maps hold their entries in ascending order of their keys, and
structs in ascending order of their field names. An unknown value stands for a result that depends on
variables whose values are withheld, and names them.
-/

namespace Cel

/-- What can be the key of a map. -/
inductive MapKey where
  | bool (value : Bool)
  | int (value : Int64)
  | uint (value : UInt64)
  | string (value : String)
deriving DecidableEq, Repr

namespace MapKey

/-- The kinds of keys in the order in which maps list them. -/
def rank : MapKey → Nat
  | bool _ => 0
  | int _ => 1
  | uint _ => 2
  | string _ => 3

/-- Keys of one kind have their natural order. -/
def compare : MapKey → MapKey → Ordering
  | bool a, bool b => Ord.compare a b
  | int a, int b => Ord.compare a b
  | uint a, uint b => Ord.compare a b
  | string a, string b => Ord.compare a b
  | a, b => Ord.compare a.rank b.rank

instance : Ord MapKey := ⟨compare⟩

/-- A key as plain text. -/
def text : MapKey → String
  | bool value => if value then "true" else "false"
  | int value => toString value.toInt
  | uint value => toString value.toNat
  | string value => value

end MapKey

inductive Value where
  | null
  | bool (value : Bool)
  | int (value : Int64)
  | uint (value : UInt64)
  | double (value : Double)
  | string (value : String)
  | bytes (value : List UInt8)
  | list (items : List Value)
  | map (entries : List (MapKey × Value))
  | struct (typeName : String) (fields : List (String × Value))
  | timestamp (value : Timestamp)
  | duration (value : Duration)
  | unknown (names : Names)
deriving Repr

instance : Inhabited Value := ⟨.null⟩

namespace Value

/-- The name of the type of a value. -/
def typeName : Value → String
  | null => "null_type"
  | bool _ => "bool"
  | int _ => "int"
  | uint _ => "uint"
  | double _ => "double"
  | string _ => "string"
  | bytes _ => "bytes"
  | list _ => "list"
  | map _ => "map"
  | struct name _ => name
  | timestamp _ => "google.protobuf.Timestamp"
  | duration _ => "google.protobuf.Duration"
  | unknown _ => "unknown"

def isNumeric : Value → Bool
  | int _ | uint _ | double _ => true
  | _ => false

def isUnknown : Value → Bool
  | unknown _ => true
  | _ => false

/-- The key that a value is, if it can be one. -/
def key? : Value → Option MapKey
  | bool value => some (.bool value)
  | int value => some (.int value)
  | uint value => some (.uint value)
  | string value => some (.string value)
  | _ => none

/-- A key as a value. -/
def ofKey : MapKey → Value
  | .bool value => bool value
  | .int value => int value
  | .uint value => uint value
  | .string value => string value

/-- The map with the given entries, of which the later one counts where keys repeat. -/
def ofEntries (entries : List (MapKey × Value)) : Value := map (Entries.ofList entries)

/-- The struct with the given fields, of which the later one counts where names repeat. -/
def ofFields (typeName : String) (fields : List (String × Value)) : Value :=
  struct typeName (Entries.ofList fields)

/-- The keys that a value can find: itself, and for a number the equal keys of the other kinds. -/
def candidates : Value → List MapKey
  | int value => .int value :: ((Number.uint64? value.toInt).map .uint).toList
  | uint value => .uint value :: ((Number.int64? value.toNat).map .int).toList
  | double value =>
    match value.integer? with
    | some n => ((Number.int64? n).map .int).toList ++ ((Number.uint64? n).map .uint).toList
    | none => []
  | other => other.key?.toList

/-- The value that a map holds for a key, or else for an equal number of another kind. -/
def lookup? (key : Value) (entries : List (MapKey × Value)) : Option Value :=
  key.candidates.findSome? (Entries.find? · entries)

/-- The names that the unknown ones among some values depend on, if any is unknown. -/
def unknowns? : List Value → Option Names
  | [] => none
  | unknown names :: rest => some (names.union ((unknowns? rest).getD .empty))
  | _ :: rest => unknowns? rest

end Value

end Cel
