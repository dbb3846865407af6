import Cel.Number.Decimal
import Cel.Text.Quoted
import Cel.Value

/-! # Values as text

Values are shown the way they are written in expressions, where that is possible: text is quoted,
unsigned integers end in `u`, whole doubles keep a point. Timestamps and durations are shown as the
calls that give them.
-/

namespace Cel

namespace Value

/-- The way one byte is written between the quotes. -/
def byteText (byte : UInt8) : List Char :=
  let n := byte.toNat
  if n = 0x22 then ['\x5c', '\x22']
  else if n = 0x5C then ['\x5c', '\x5c']
  else if 0x20 ≤ n ∧ n ≤ 0x7E then [Char.ofNat n]
  else ['\x5c', 'x', Nat.digitChar (n / 16), Nat.digitChar (n % 16)]

def bytesText (bytes : List UInt8) : String :=
  String.ofList ('b' :: '\x22' :: (bytes.flatMap byteText ++ ['\x22']))

/-- A key is shown like the value it is. -/
def keyText : MapKey → String
  | .bool value => if value then "true" else "false"
  | .int value => toString value.toInt
  | .uint value => toString value.toNat ++ "u"
  | .string value => Text.Quoted.write value

mutual

/-- A value as it is shown. -/
def text : Value → String
  | null => "null"
  | bool value => if value then "true" else "false"
  | int value => toString value.toInt
  | uint value => toString value.toNat ++ "u"
  | double value => value.sourceText
  | string value => Text.Quoted.write value
  | bytes value => bytesText value
  | list items => "[" ++ String.intercalate ", " (itemTexts items) ++ "]"
  | map entries => "\x7b" ++ String.intercalate ", " (entryTexts entries) ++ "\x7d"
  | struct name fields =>
    name ++ "\x7b" ++ String.intercalate ", " (fieldTexts fields) ++ "\x7d"
  | timestamp value => "timestamp(\x22" ++ value.text ++ "\x22)"
  | duration value => "duration(\x22" ++ value.text ++ "\x22)"
  | unknown names => "unknown(" ++ String.intercalate ", " names.toList ++ ")"

def itemTexts : List Value → List String
  | [] => []
  | item :: rest => item.text :: itemTexts rest

def entryTexts : List (MapKey × Value) → List String
  | [] => []
  | (key, value) :: rest => (keyText key ++ ": " ++ value.text) :: entryTexts rest

def fieldTexts : List (String × Value) → List String
  | [] => []
  | (name, value) :: rest => (name ++ ": " ++ value.text) :: fieldTexts rest

end

end Value

end Cel
