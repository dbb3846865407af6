import Cel.Number.Numeral
import Cel.Text.Utf8
import Cel.Time.Timestamp

/-! # Reading timestamps

RFC 3339 texts: a date, a time of the day, an optional fraction and an offset from universal time,
which is `Z` or a sign with hours and minutes. The fraction may have any number of digits, of which
nine count. Second 60 is read as a leap second. Whether a text ends too early is decided by its
length in bytes.
-/

namespace Cel.Time.Rfc3339

open Number (isDigit natOf)

/-- Why a text is no timestamp. -/
inductive Fault where
  | invalid | short | outOfRange | trailing
deriving DecidableEq, Repr

def Fault.message : Fault → String
  | invalid => "input contains invalid characters"
  | short => "premature end of input"
  | outOfRange => "input is out of range"
  | trailing => "trailing input"

/-- The date at the start of a text, and what follows it. -/
def date : List Char → Except Fault (Date × List Char)
  | y₁ :: y₂ :: y₃ :: y₄ :: '-' :: m₁ :: m₂ :: '-' :: d₁ :: d₂ :: rest =>
    if [y₁, y₂, y₃, y₄, m₁, m₂, d₁, d₂].all isDigit then
      let date : Date := ⟨natOf 10 0 [y₁, y₂, y₃, y₄], natOf 10 0 [m₁, m₂], natOf 10 0 [d₁, d₂]⟩
      if date.isValid then .ok (date, rest) else .error .outOfRange
    else .error .invalid
  | _ => .error .invalid

/-- A time of the day as it is written. -/
structure TimeOfDay where
  hour : Nat
  minute : Nat
  second : Nat
deriving DecidableEq, Repr

/-- The time of the day at the start of a text, and what follows it. -/
def timeOfDay : List Char → Except Fault (TimeOfDay × List Char)
  | h₁ :: h₂ :: ':' :: m₁ :: m₂ :: ':' :: s₁ :: s₂ :: rest =>
    if [h₁, h₂, m₁, m₂, s₁, s₂].all isDigit then
      .ok (⟨natOf 10 0 [h₁, h₂], natOf 10 0 [m₁, m₂], natOf 10 0 [s₁, s₂]⟩, rest)
    else .error .invalid
  | _ => .error .invalid

/-- The nanoseconds of an optional fraction, and what follows it. -/
def nanos : List Char → Except Fault (Nat × List Char)
  | '.' :: text =>
    match text.takeWhile isDigit, text with
    | [], [] => .error .short
    | [], _ => .error .invalid
    | digits, text =>
      let counted := digits.take 9
      .ok (natOf 10 0 counted * Nat.pow 10 (9 - counted.length), text.dropWhile isDigit)
  | text => .ok (0, text)

/-- The number of two digits at the start of a text, and what follows it. -/
def twoDigits (text : List Char) : Except Fault (Nat × List Char) :=
  if Text.Utf8.width text < 2 then .error .short
  else match text with
    | tens :: ones :: rest =>
      if isDigit tens && isDigit ones then .ok (natOf 10 0 [tens, ones], rest) else .error .invalid
    | _ => .error .invalid

/-- The hours and minutes of an offset in seconds, and what follows them. -/
def hoursAndMinutes (text : List Char) : Except Fault (Nat × List Char) := do
  let (hours, rest) ← twoDigits text
  match rest with
  | [] => .error .short
  | ':' :: rest =>
    let (minutes, rest) ← twoDigits rest
    if 60 ≤ minutes then .error .outOfRange
    else .ok (hours * 3600 + minutes * 60, rest)
  | _ => .error .invalid

/-- The offset at the start of a text in seconds, and what follows it. The minus sign may be the
mathematical one. -/
def offset : List Char → Except Fault (Int × List Char)
  | 'Z' :: rest | 'z' :: rest => .ok (0, rest)
  | '+' :: rest => do
    let (seconds, rest) ← hoursAndMinutes rest
    return ((seconds : Int), rest)
  | '-' :: rest | '\u2212' :: rest => do
    let (seconds, rest) ← hoursAndMinutes rest
    return (-(seconds : Int), rest)
  | [] => .error .short
  | _ => .error .invalid

/-- What stands between the date and the time of the day is skipped. -/
def separator : List Char → Except Fault (List Char)
  | 'T' :: rest | 't' :: rest | ' ' :: rest => .ok rest
  | _ => .error .invalid

/-- The second and the nanosecond that a text denotes. -/
def read (text : List Char) : Except Fault (Int × Nat) := do
  if Text.Utf8.width text < 19 then .error .short
  else
    let (date, rest) ← date text
    let rest ← separator rest
    let (time, rest) ← timeOfDay rest
    let (nanos, rest) ← nanos rest
    if 23 < time.hour ∨ 59 < time.minute ∨ 60 < time.second then .error .outOfRange
    else
      let (offset, rest) ← offset rest
      if rest ≠ [] then .error .trailing
      else if 86400 ≤ offset.natAbs then .error .outOfRange
      else
        let second := date.toDays * 86400 + time.hour * 3600 + time.minute * 60 + min time.second 59
        return (second - offset, nanos + if time.second = 60 then 1000000000 else 0)

end Cel.Time.Rfc3339

namespace Cel.Timestamp

/-- Why a text is no valid timestamp. -/
inductive Fault where
  | malformed (fault : Time.Rfc3339.Fault)
  | outside
deriving DecidableEq, Repr

def Fault.message (text : String) : Fault → String
  | malformed fault => s!"invalid timestamp '{text}': {fault.message}"
  | outside => s!"timestamp '{text}' is outside years 0001 to 9999"

/-- Read a valid timestamp. -/
def read (text : String) : Except Fault Timestamp :=
  match Time.Rfc3339.read text.toList with
  | .error fault => .error (.malformed fault)
  | .ok (seconds, nanos) =>
    let t : Timestamp := ⟨Int64.ofInt seconds, Int32.ofInt nanos⟩
    if t.isValid then .ok t else .error .outside

end Cel.Timestamp
