import Cel.Number.Decimal
import Cel.Text.Quoted

/-! # JSON

JSON values and their compact text. Integers and doubles are kept apart. Objects keep their members
in order and may repeat a name. The text has no blanks; in strings only the quotation mark, the
backslash and the control characters are escaped, and doubles that are not finite are written as
`null`.
-/

namespace Cel

inductive Json where
  | null
  | bool (value : Bool)
  | int (value : Int)
  | double (value : Double)
  | string (value : String)
  | array (items : List Json)
  | object (members : List (String × Json))
deriving Repr

instance : Inhabited Json := ⟨.null⟩

namespace Json

/-- The way one character is written in a string. -/
def escapeChar (c : Char) : List Char :=
  if c = '\x22' then ['\x5c', '\x22']
  else if c = '\x5c' then ['\x5c', '\x5c']
  else if c = '\x08' then ['\x5c', 'b']
  else if c = '\x0c' then ['\x5c', 'f']
  else if c = '\n' then ['\x5c', 'n']
  else if c = '\r' then ['\x5c', 'r']
  else if c = '\t' then ['\x5c', 't']
  else if c.toNat < 0x20 then
    '\x5c' :: 'u' :: '0' :: '0' :: Nat.digitChar (c.toNat / 16) :: [Nat.digitChar (c.toNat % 16)]
  else [c]

/-- A string between quotation marks. -/
def quoted (text : String) : String :=
  String.ofList ('\x22' :: (text.toList.flatMap escapeChar ++ ['\x22']))

/-- The text of a double. -/
def doubleText (d : Double) : String :=
  match d.form with
  | .finite negative significand exponent => Layout.json.finite negative significand exponent
  | _ => "null"

mutual

/-- The compact text of a JSON value. -/
def text : Json → String
  | .null => "null"
  | .bool value => if value then "true" else "false"
  | .int value => toString value
  | .double value => doubleText value
  | .string value => quoted value
  | .array [] => "[]"
  | .array (item :: items) => "[" ++ text item ++ itemsText items ++ "]"
  | .object [] => "\x7b\x7d"
  | .object ((name, value) :: members) =>
    "\x7b" ++ quoted name ++ ":" ++ text value ++ membersText members ++ "\x7d"

/-- Further items of an array, each after a comma. -/
def itemsText : List Json → String
  | [] => ""
  | item :: items => "," ++ text item ++ itemsText items

/-- Further members of an object, each after a comma. -/
def membersText : List (String × Json) → String
  | [] => ""
  | (name, value) :: members => "," ++ quoted name ++ ":" ++ text value ++ membersText members

end

end Json

end Cel
