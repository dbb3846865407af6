import Cel.Json
import Cel.Number.Numeral
import Cel.Token.Literal

/-! # Reading JSON

Reading accepts the JSON grammar with blanks between tokens. A number without fraction and exponent
is an integer of any size, except that minus zero is a double; every other number is the nearest
double. Surrogate escapes must come in pairs.
-/

namespace Cel.Json.Reader

def skipBlanks (text : List Char) : List Char :=
  text.dropWhile fun c => c = ' ' || c = '\t' || c = '\n' || c = '\r'

/-- The four hexadecimal digits of an escape, and the text after them. -/
def unit? (text : List Char) : Option (Nat × List Char) :=
  (Literal.digits? 16 4 text).map (·, text.drop 4)

/-- The code point of an escape whose first unit is `high`, and the text after it. -/
def point? (text : List Char) : Option (Char × List Char) := do
  let (high, rest) ← unit? text
  if 0xD800 ≤ high ∧ high < 0xDC00 then
    match rest with
    | '\x5c' :: 'u' :: rest =>
      let (low, rest) ← unit? rest
      if 0xDC00 ≤ low ∧ low < 0xE000 then
        return (← Literal.char? (0x10000 + (high - 0xD800) * 0x400 + (low - 0xDC00)), rest)
      else none
    | _ => none
  else return (← Literal.char? high, rest)

/-- The characters of a string up to its closing quotation mark, and the text after it. -/
def string? : (fuel : Nat) → List Char → Option (List Char × List Char)
  | 0, _ => none
  | fuel + 1, text =>
    match text with
    | [] => none
    | '\x22' :: rest => some ([], rest)
    | '\x5c' :: 'u' :: rest => do
      let (c, rest) ← point? rest
      let (cs, rest) ← string? fuel rest
      return (c :: cs, rest)
    | '\x5c' :: c :: rest => do
      let plain ← [('\x22', '\x22'), ('\x5c', '\x5c'), ('/', '/'), ('b', '\x08'), ('f', '\x0c'),
        ('n', '\n'), ('r', '\r'), ('t', '\t')].lookup c
      let (cs, rest) ← string? fuel rest
      return (plain :: cs, rest)
    | c :: rest =>
      if c.toNat < 0x20 then none
      else do
        let (cs, rest) ← string? fuel rest
        return (c :: cs, rest)

/-- A number, and the text after it. -/
def number? (text : List Char) : Option (Json × List Char) := do
  let (negative, rest) := match text with
    | '-' :: rest => (true, rest)
    | rest => (false, rest)
  let (whole, rest) := Number.spanDigits rest
  if whole = [] ∨ (whole.length ≠ 1 ∧ whole.head? = some '0') then none
  let (fraction, rest) ← match rest with
    | '.' :: rest =>
      let (digits, rest) := Number.spanDigits rest
      if digits = [] then none else some (some digits, rest)
    | rest => some (none, rest)
  let (exponent, rest) ← match rest with
    | e :: rest =>
      if e = 'e' ∨ e = 'E' then
        let (negative, digits) := Number.sign rest
        let (digits, rest) := Number.spanDigits digits
        if digits = [] then none
        else
          let n : Int := Number.natOf 10 0 digits
          some (some (if negative then -n else n), rest)
      else some (none, e :: rest)
    | [] => some (none, [])
  let value := Number.natOf 10 0 whole
  match fraction, exponent with
  | none, none =>
    return (if negative ∧ value = 0 then .double (.zero true)
      else .int (if negative then -(value : Int) else value), rest)
  | fraction, exponent =>
    let fraction := fraction.getD []
    return (.double (Number.scaled negative (Number.natOf 10 value fraction)
      (exponent.getD 0 - fraction.length)), rest)

mutual

/-- A value, and the text after it. -/
def value? : (fuel : Nat) → List Char → Option (Json × List Char)
  | 0, _ => none
  | fuel + 1, text =>
    match skipBlanks text with
    | '\x22' :: rest => do
      let (cs, rest) ← string? (rest.length + 1) rest
      return (.string (String.ofList cs), rest)
    | '[' :: rest =>
      match skipBlanks rest with
      | ']' :: rest => some (.array [], rest)
      | rest => do
        let (items, rest) ← items? fuel rest
        return (.array items, rest)
    | '\x7b' :: rest =>
      match skipBlanks rest with
      | '\x7d' :: rest => some (.object [], rest)
      | rest => do
        let (members, rest) ← members? fuel rest
        return (.object members, rest)
    | 't' :: 'r' :: 'u' :: 'e' :: rest => some (.bool true, rest)
    | 'f' :: 'a' :: 'l' :: 's' :: 'e' :: rest => some (.bool false, rest)
    | 'n' :: 'u' :: 'l' :: 'l' :: rest => some (.null, rest)
    | rest => number? rest

/-- The items of an array up to its closing bracket, and the text after it. -/
def items? : (fuel : Nat) → List Char → Option (List Json × List Char)
  | 0, _ => none
  | fuel + 1, text => do
    let (item, rest) ← value? fuel text
    match skipBlanks rest with
    | ',' :: rest =>
      let (items, rest) ← items? fuel rest
      return (item :: items, rest)
    | ']' :: rest => return ([item], rest)
    | _ => none

/-- The members of an object up to its closing brace, and the text after it. -/
def members? : (fuel : Nat) → List Char → Option (List (String × Json) × List Char)
  | 0, _ => none
  | fuel + 1, text => do
    match skipBlanks text with
    | '\x22' :: rest =>
      let (cs, rest) ← string? (rest.length + 1) rest
      match skipBlanks rest with
      | ':' :: rest =>
        let (value, rest) ← value? fuel rest
        let member := (String.ofList cs, value)
        match skipBlanks rest with
        | ',' :: rest =>
          let (members, rest) ← members? fuel rest
          return (member :: members, rest)
        | '\x7d' :: rest => return ([member], rest)
        | _ => none
      | _ => none
    | _ => none

end

end Reader

/-- The value that a text denotes, if it is JSON. -/
def parse? (text : String) : Option Json :=
  match Reader.value? (text.length + 1) text.toList with
  | some (value, rest) => if Reader.skipBlanks rest = [] then some value else none
  | none => none

end Cel.Json
