import Cel.Text.Visible

/-! # Quoted text

Text is shown between double quotes. The two special characters and the four common controls have
short escapes, a character that is not visible is written by its code point, and every other
character stands for itself. Apostrophes are not escaped.
-/

namespace Cel.Text.Quoted

/-- A backslash. -/
def backslash : Char := '\x5c'

/-- A double quote. -/
def quote : Char := '\x22'

/-- The lower-case hexadecimal digits of a number, without leading zeros. -/
def hexDigits (n : Nat) : List Char := Nat.toDigits 16 n

/-- The letter after the backslash for the characters that have a short escape. -/
def short? (c : Char) : Option Char :=
  if c = '\x00' then some '0'
  else if c = '\t' then some 't'
  else if c = '\r' then some 'r'
  else if c = '\n' then some 'n'
  else if c = quote then some quote
  else if c = backslash then some backslash
  else none

/-- The way one character is written between the quotes. -/
def encodeChar (c : Char) : List Char :=
  match short? c with
  | some letter => [backslash, letter]
  | none =>
    if isVisible c then [c]
    else backslash :: 'u' :: '\x7b' :: (hexDigits c.toNat ++ ['\x7d'])

/-- The characters between the quotes. -/
def encode (text : List Char) : List Char := text.flatMap encodeChar

/-- A text between double quotes. -/
def write (text : String) : String := String.ofList (quote :: (encode text.toList ++ [quote]))

end Cel.Text.Quoted
