import Cel.Span
import Cel.Token
import Cel.Token.Literal

/-! # Splitting a source text into tokens

At each place the longest token is taken; a longer form that breaks off falls back to the longest
complete one. Blanks and comments separate tokens and are dropped. The first place at which no
token starts, or at which a literal is malformed, ends the reading with an error.
-/

namespace Cel

/-- Why and where reading tokens failed. -/
structure LexError where
  cause : LexError.Cause
  span : Span
deriving DecidableEq, Repr

namespace LexError

def Cause.message : Cause → String
  | .unexpectedCharacter c => s!"unexpected character '{c}'"
  | .unterminatedString => "unterminated string literal"
  | .newlineInString => "newline in single-line string literal"
  | .invalidEscape => "invalid escape sequence"
  | .integerOutOfRange text => s!"integer literal out of range: {text}"

def message (e : LexError) : String := e.cause.message

end LexError

namespace Lexer

/-- What stands at one place of a source text. -/
inductive Piece where
  | skipped
  | token (found : Token)
  | invalid (cause : LexError.Cause)
deriving DecidableEq, Repr

def isBlank (c : Char) : Bool := c = ' ' || c = '\t' || c = '\n' || c = '\r'

def isWordStart (c : Char) : Bool := c.isAlpha || c = '_'

def isWordRest (c : Char) : Bool := isWordStart c || Number.isDigit c

/-- The signed literal with the given value. -/
def signed (text : List Char) (value : Int) : Piece :=
  match Number.int64? value with
  | some n => .token (.int n)
  | none => .invalid (.integerOutOfRange (String.ofList text))

/-- The unsigned literal with the given value. -/
def unsigned (text : List Char) (value : Int) : Piece :=
  match Number.uint64? value with
  | some n => .token (.uint n)
  | none => .invalid (.integerOutOfRange (String.ofList text))

/-- Whether a text starts with the mark of an unsigned literal. -/
def hasUnsignedMark : List Char → Bool
  | c :: _ => c = 'u' || c = 'U'
  | [] => false

/-- An integer literal of `length` characters, or one more if an unsigned mark follows. -/
def integer (text : List Char) (length value : Nat) : Piece × Nat :=
  if hasUnsignedMark (text.drop length) then (unsigned (text.take (length + 1)) value, length + 1)
  else (signed (text.take length) value, length)

/-- The length of a fraction at the start of a text: a point and at least one digit. -/
def fractionLength : List Char → Nat
  | '.' :: rest =>
    let digits := rest.takeWhile Number.isDigit
    if digits = [] then 0 else digits.length + 1
  | _ => 0

/-- The length of an exponent at the start of a text: its mark, an optional sign and at least one
digit. -/
def exponentLength : List Char → Nat
  | e :: rest =>
    if e = 'e' ∨ e = 'E' then
      let signLength := match rest with
        | c :: _ => if c = '+' ∨ c = '-' then 1 else 0
        | [] => 0
      let digits := (rest.drop signLength).takeWhile Number.isDigit
      if digits = [] then 0 else digits.length + signLength + 1
    else 0
  | [] => 0

/-- The number literal at the start of a text that starts with a digit, and its length. -/
def number (text : List Char) : Piece × Nat :=
  let hexDigits :=
    match text with
    | '0' :: x :: rest => if x = 'x' ∨ x = 'X' then rest.takeWhile Number.isHexDigit else []
    | _ => []
  if hexDigits ≠ [] then integer text (hexDigits.length + 2) (Number.natOf 16 0 hexDigits)
  else
    let whole := text.takeWhile Number.isDigit
    let fraction := fractionLength (text.drop whole.length)
    let exponent := exponentLength (text.drop (whole.length + fraction))
    if fraction = 0 ∧ exponent = 0 then integer text whole.length (Number.natOf 10 0 whole)
    else
      let length := whole.length + fraction + exponent
      (.token (.double ((Number.readDouble? (text.take length)).getD .nan)), length)

/-- The symbol of two characters, if they form one. -/
def symbol2? (c d : Char) : Option Symbol :=
  if c = '=' ∧ d = '=' then some .equal
  else if c = '!' ∧ d = '=' then some .notEqual
  else if c = '<' ∧ d = '=' then some .lessEqual
  else if c = '>' ∧ d = '=' then some .greaterEqual
  else if c = '&' ∧ d = '&' then some .and
  else if c = '|' ∧ d = '|' then some .or
  else none

/-- The symbol of one character, if it is one. -/
def symbol1? (c : Char) : Option Symbol :=
  [.plus, .minus, .star, .slash, .percent, .less, .greater, .not, .question, .colon, .leftParen,
    .rightParen, .leftBracket, .rightBracket, .leftBrace, .rightBrace, .dot, .comma].find?
      fun sign : Symbol => sign.text.toList == [c]

/-- The symbol at the start of a text, and its length. -/
def symbol (c : Char) (rest : List Char) : Piece × Nat :=
  match rest.head? >>= symbol2? c with
  | some sign => (.token (.symbol sign), 2)
  | none =>
    match symbol1? c with
    | some sign => (.token (.symbol sign), 1)
    | none => (.invalid (.unexpectedCharacter c), 1)

/-- The literal with a given opening, whose body starts the text, and its length. A malformed
literal is reported at its opening. -/
def literal (opener : Literal.Opener) (opening : Nat) (text : List Char) : Piece × Nat :=
  match Literal.body opener text with
  | .error cause => (.invalid cause, opening)
  | .ok (items, read) =>
    let token : Token :=
      if opener.bytes then .bytes (items.flatMap Literal.Item.toBytes)
      else .string (String.ofList (items.map Literal.Item.toChar))
    (.token token, opening + read)

/-- The longest piece at the start of a text, and the number of characters it takes. -/
def piece (c : Char) (rest : List Char) : Piece × Nat :=
  let text := c :: rest
  if isBlank c then (.skipped, (text.takeWhile isBlank).length)
  else if c = '/' ∧ rest.head? = some '/' then (.skipped, (text.takeWhile (· ≠ '\n')).length)
  else if Number.isDigit c then number text
  else
    match Literal.opener? text with
    | some (opener, opening) => literal opener opening (text.drop opening)
    | none =>
      if isWordStart c then
        let word := text.takeWhile isWordRest
        (.token (.ofWord (String.ofList word)), word.length)
      else symbol c rest

/-- The tokens of a text that starts at the given byte offset. -/
def tokensFrom (offset : Nat) : List Char → Except LexError (List (Located Token))
  | [] => .ok []
  | c :: rest =>
    let (found, length) := piece c rest
    let span : Span := ⟨offset, offset + Text.Utf8.width ((c :: rest).take length)⟩
    let remaining := rest.drop (length - 1)
    match found with
    | .skipped => tokensFrom span.stop remaining
    | .token token => do
      let tokens ← tokensFrom span.stop remaining
      return ⟨token, span⟩ :: tokens
    | .invalid cause => .error ⟨cause, span⟩
termination_by text => text.length
decreasing_by all_goals simp only [List.length_drop, List.length_cons]; omega

/-- The tokens of a source text. -/
def tokens (source : String) : Except LexError (List (Located Token)) :=
  tokensFrom 0 source.toList

end Lexer

end Cel
