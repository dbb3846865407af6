import Cel.Number.Numeral
import Cel.Text.Quoted
import Cel.Text.Utf8

/-! # String and bytes literals

A literal opens with an optional `r` (raw), an optional `b` (bytes) and one or three quotation
marks. Its body is a sequence of items up to the same marks: plain characters and, unless the
literal is raw, escapes. An item is a character or, for the two-digit and octal escapes, an octet;
an octet is a code point in a string and a byte in bytes.
-/

namespace Cel

/-- The reasons why a source text is not a sequence of tokens. -/
inductive LexError.Cause where
  | unexpectedCharacter (c : Char)
  | unterminatedString
  | newlineInString
  | invalidEscape
  | integerOutOfRange (text : String)
deriving DecidableEq, Repr

namespace Literal

/-- The opening of a literal. -/
structure Opener where
  raw : Bool
  bytes : Bool
  mark : Char
  triple : Bool
deriving DecidableEq, Repr

/-- An apostrophe. -/
def apostrophe : Char := '\x27'

/-- Whether letters before a quotation mark make the literal raw, and whether they make it bytes. -/
def style? (letters : List Char) : Option (Bool × Bool) :=
  match letters.map Char.toLower with
  | [] => some (false, false)
  | ['r'] => some (true, false)
  | ['b'] => some (false, true)
  | ['b', 'r'] | ['r', 'b'] => some (true, true)
  | _ => none

/-- The literal that a text opens, with the number of characters in its opening. -/
def opener? (text : List Char) : Option (Opener × Nat) :=
  let letters := text.takeWhile Char.isAlpha
  match style? letters, text.drop letters.length with
  | some (raw, bytes), mark :: rest =>
    if mark = apostrophe ∨ mark = Text.Quoted.quote then
      let triple := rest.take 2 == [mark, mark]
      some (⟨raw, bytes, mark, triple⟩, letters.length + if triple then 3 else 1)
    else none
  | _, _ => none

/-- The marks that close a literal. -/
def Opener.closing (opener : Opener) : List Char :=
  List.replicate (if opener.triple then 3 else 1) opener.mark

/-- One unit of a literal's body. -/
inductive Item where
  | char (c : Char)
  | octet (value : UInt8)
deriving DecidableEq, Repr

/-- The character with a code point, unless it is a surrogate or out of range. -/
def char? (point : Nat) : Option Char :=
  if point.isValidChar then some (Char.ofNat point) else none

/-- The number that the first `count` characters spell, all of which must be digits of the base. -/
def digits? (base count : Nat) (text : List Char) : Option Nat :=
  let taken := text.take count
  if taken.length = count ∧ taken.all fun c => (Number.digit? c).any (· < base) then
    some (Number.natOf base 0 taken)
  else none

/-- The characters whose escape is a single letter or the character itself. -/
def simpleEscape? (c : Char) : Option Char :=
  if c = '\x5c' ∨ c = '/' ∨ c = '\x22' ∨ c = '\x27' ∨ c = '\x60' ∨ c = '?' then some c
  else if c = 'a' then some '\x07'
  else if c = 'b' then some '\x08'
  else if c = 'f' then some '\x0c'
  else if c = 'n' then some '\n'
  else if c = 'r' then some '\r'
  else if c = 't' then some '\t'
  else if c = 'v' then some '\x0b'
  else none

/-- The item that the text after a backslash spells, with the number of characters it takes. -/
def escape (text : List Char) : Except LexError.Cause (Item × Nat) :=
  match text with
  | [] => .error .unterminatedString
  | c :: rest =>
    let octet (digits : Option Nat) (taken : Nat) : Except LexError.Cause (Item × Nat) :=
      match digits with
      | some n => .ok (.octet (UInt8.ofNat n), taken)
      | none => .error .invalidEscape
    let point (digits : Option Nat) (taken : Nat) : Except LexError.Cause (Item × Nat) :=
      match digits >>= char? with
      | some d => .ok (.char d, taken)
      | none => .error .invalidEscape
    match simpleEscape? c with
    | some d => .ok (.char d, 1)
    | none =>
      if c = 'x' ∨ c = 'X' then octet (digits? 16 2 rest) 3
      else if c = 'u' then point (digits? 16 4 rest) 5
      else if c = 'U' then point (digits? 16 8 rest) 9
      else if '0' ≤ c ∧ c ≤ '3' then octet (digits? 8 3 text) 3
      else .error .invalidEscape

/-- The items of a body up to its closing marks, with the number of characters read, the marks
included. Closing marks are looked for before anything else. -/
def body (opener : Opener) : List Char → Except LexError.Cause (List Item × Nat)
  | [] => .error .unterminatedString
  | c :: rest =>
    if opener.closing.isPrefixOf (c :: rest) then .ok ([], opener.closing.length)
    else if c = '\x5c' ∧ ¬ opener.raw then do
      let (item, taken) ← escape rest
      let (items, read) ← body opener (rest.drop taken)
      return (item :: items, read + taken + 1)
    else if c = '\n' ∧ ¬ opener.triple then .error .newlineInString
    else do
      let (items, read) ← body opener rest
      return (.char c :: items, read + 1)
termination_by text => text.length
decreasing_by
  · simp only [List.length_drop, List.length_cons]; omega
  · simp only [List.length_cons]; omega

/-- The character an item stands for in a string. -/
def Item.toChar : Item → Char
  | .char c => c
  | .octet value => Char.ofNat value.toNat

/-- The bytes an item stands for in bytes. -/
def Item.toBytes : Item → List UInt8
  | .char c => Text.Utf8.encode [c]
  | .octet value => [value]

end Literal

end Cel
