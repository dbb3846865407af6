import Cel.Number.Double
import Cel.Number.Word

/-! # Reading numbers

Integers are an optional sign and decimal digits. Doubles may have a fraction, an exponent, or be
one of the special names; a double is the one nearest to the decimal number written, whatever its
length. No blanks and no separators are allowed.
-/

namespace Cel.Number

/-- The value of a digit in bases up to sixteen. -/
def digit? (c : Char) : Option Nat :=
  if '0' ≤ c ∧ c ≤ '9' then some (c.toNat - '0'.toNat)
  else if 'a' ≤ c ∧ c ≤ 'f' then some (c.toNat - 'a'.toNat + 10)
  else if 'A' ≤ c ∧ c ≤ 'F' then some (c.toNat - 'A'.toNat + 10)
  else none

/-- Whether a character is one of the ten decimal digits. -/
def isDigit (c : Char) : Bool := '0' ≤ c && c ≤ '9'

/-- Whether a character is a digit in base sixteen. -/
def isHexDigit (c : Char) : Bool := (digit? c).isSome

/-- The number that digits spell, continuing from `value`. -/
def natOf (base : Nat) (value : Nat) : List Char → Nat
  | [] => value
  | c :: rest => natOf base (value * base + (digit? c).getD 0) rest

/-- The natural number that a nonempty run of decimal digits spells. -/
def nat? (text : List Char) : Option Nat :=
  if text ≠ [] ∧ text.all isDigit then some (natOf 10 0 text) else none

/-- Split off an optional sign; `true` means negative. -/
def sign : List Char → Bool × List Char
  | '-' :: rest => (true, rest)
  | '+' :: rest => (false, rest)
  | text => (false, text)

/-- The integer that an optional sign and decimal digits spell. -/
def integer? (text : List Char) : Option Int :=
  let (negative, digits) := sign text
  (nat? digits).map fun n => if negative then -(n : Int) else n

/-- Read a signed word. -/
def readInt64? (text : List Char) : Option Int64 := integer? text >>= int64?

/-- Read an unsigned word; a minus sign is not allowed. -/
def readUInt64? (text : List Char) : Option UInt64 :=
  match text with
  | '-' :: _ => none
  | text => integer? text >>= uint64?

/-- The double nearest to `n · 10 ^ exponent`. Far outside the range of doubles the power is not
computed: the result is infinite or zero in any case. -/
def scaled (negative : Bool) (n : Nat) (exponent : Int) : Double :=
  if n = 0 then .zero negative
  else
    let magnitude := exponent + (Nat.toDigits 10 n).length
    if 310 < magnitude then .infinity negative
    else if magnitude < -330 then .zero negative
    else .nearest negative (n * Nat.pow 10 exponent.toNat) (Nat.pow 10 (-exponent).toNat)

/-- Split a text after its leading decimal digits. -/
def spanDigits (text : List Char) : List Char × List Char := text.span isDigit

/-- Read an unsigned decimal number with an optional fraction and exponent. At least one digit must
stand beside the point. -/
def decimal? (negative : Bool) (text : List Char) : Option Double := do
  let (whole, rest) := spanDigits text
  let (fraction, rest) :=
    match rest with
    | '.' :: rest => spanDigits rest
    | rest => ([], rest)
  if whole = [] ∧ fraction = [] then none
  let exponent ←
    match rest with
    | [] => some 0
    | 'e' :: rest | 'E' :: rest => integer? rest
    | _ => none
  return scaled negative (natOf 10 0 (whole ++ fraction)) (exponent - fraction.length)

/-- Read a double: an optional sign, then a name of a special value in any case, or a decimal
number. -/
def readDouble? (text : List Char) : Option Double :=
  let (negative, rest) := sign text
  let name := rest.map Char.toLower
  if name = "inf".toList ∨ name = "infinity".toList then some (.infinity negative)
  else if name = "nan".toList then some .nan
  else decimal? negative rest

end Cel.Number
