import Cel.Number.Numeral
import Cel.Number.Word
import Cel.Time.Digits

/-! # Durations

A duration is a number of seconds and a number of nanoseconds of the same sign. It is written as a
decimal number of seconds; it is read as a sequence of decimal numbers, each with a unit. Whole
parts are exact; fractions are doubles, scaled to nanoseconds and cut off.
-/

namespace Cel

structure Duration where
  seconds : Int64
  nanos : Int32
deriving DecidableEq, Repr

namespace Duration

/-- The longest duration in seconds, about ten thousand years. -/
def maxSeconds : Nat := 315576000000

/-- The length in nanoseconds. -/
def total (d : Duration) : Int := d.seconds.toInt * 1000000000 + d.nanos.toInt

/-- Whether the number of seconds is in range. -/
def isValid (d : Duration) : Bool := d.seconds.toInt.natAbs ≤ maxSeconds

/-- The duration of a number of nanoseconds, if it is in range. -/
def ofTotal? (total : Int) : Option Duration := do
  let seconds ← Number.int64? (total.tdiv 1000000000)
  let d : Duration := ⟨seconds, Int32.ofInt (total.tmod 1000000000)⟩
  if d.isValid then some d else none

def isNegative (d : Duration) : Bool := d.seconds < 0 || d.seconds == 0 && d.nanos < 0

/-- Durations are ordered by their length. -/
def compare (a b : Duration) : Ordering := Ord.compare a.total b.total

/-- A duration as a decimal number of seconds. -/
def text (d : Duration) : String :=
  let magnitude := d.total.natAbs
  String.ofList ((if d.total < 0 then ['-'] else []) ++ Nat.toDigits 10 (magnitude / 1000000000) ++
    Time.fraction (magnitude % 1000000000) ++ ['s'])

/-- Why a text is no duration. -/
inductive Fault where
  | malformed
  | unknownUnit (unit : String)
  | outOfRange
deriving DecidableEq, Repr

def Fault.message (text : String) : Fault → String
  | malformed => s!"invalid duration '{text}'"
  | unknownUnit unit => s!"unknown unit '{unit}' in duration '{text}'"
  | outOfRange => s!"duration '{text}' is out of range"

/-- The number of nanoseconds in a unit. -/
def unit? (unit : String) : Option Nat :=
  match unit with
  | "h" => some 3600000000000
  | "m" => some 60000000000
  | "s" => some 1000000000
  | "ms" => some 1000000
  | "us" | "\u00b5s" => some 1000
  | "ns" => some 1
  | _ => none

/-- Whether a character can stand in a number. -/
def inNumber (c : Char) : Bool := Number.isDigit c || c == '.'

/-- The nanoseconds in a fraction of a unit, given by the digits after the point. -/
def fractionNanos (digits : List Char) (unit : Nat) : Nat :=
  let share := Number.scaled false (Number.natOf 10 0 digits) (-digits.length)
  ((share.mul (Double.ofInt unit)).truncate?.getD 0).toNat

/-- Sums and products of this size and beyond are out of range at once. -/
def limit : Nat := 1 <<< 127

/-- The nanoseconds of one number with its unit. -/
def part (number : List Char) (unit : String) : Except Fault Nat :=
  if number = [] ∨ number = ['.'] then .error .malformed
  else match unit? unit with
    | none => .error (.unknownUnit unit)
    | some nanos =>
      let (whole, rest) := Number.spanDigits number
      let amount :=
        match rest with
        | [] => some (Number.natOf 10 0 whole * nanos)
        | _ :: digits =>
          if '.' ∈ digits then none
          else some (Number.natOf 10 0 whole * nanos + fractionNanos digits nanos)
      match amount with
      | none => .error .malformed
      | some amount => if amount < limit then .ok amount else .error .outOfRange

/-- What follows the leading number of a text and its unit. -/
def afterPart (text : List Char) : List Char :=
  (text.dropWhile inNumber).dropWhile (!inNumber ·)

/-- A nonempty text begins with a number or with a unit, so less of it follows them. -/
theorem length_afterPart_lt (first : Char) (rest : List Char) :
    (afterPart (first :: rest)).length < (first :: rest).length := by
  have shorter (p : Char → Bool) (l : List Char) : (l.dropWhile p).length ≤ l.length :=
    (List.dropWhile_suffix p).length_le
  unfold afterPart
  cases isNumber : inNumber first
  · have := shorter (!inNumber ·) rest
    simp [isNumber]
    omega
  · have := shorter (!inNumber ·) (rest.dropWhile inNumber)
    have := shorter inNumber rest
    simp [isNumber]
    omega

/-- Add up the numbers of a text, each with its unit. -/
def parts (sum : Nat) : List Char → Except Fault Nat
  | [] => .ok sum
  | first :: rest =>
    let number := (first :: rest).takeWhile inNumber
    let unit := ((first :: rest).dropWhile inNumber).takeWhile (!inNumber ·)
    match part number (String.ofList unit) with
    | .error fault => .error fault
    | .ok amount =>
      if limit ≤ sum + amount then .error .outOfRange
      else parts (sum + amount) (afterPart (first :: rest))
termination_by text => text.length
decreasing_by exact length_afterPart_lt first rest

/-- Read a duration. -/
def read (text : String) : Except Fault Duration := do
  let (negative, rest) := Number.sign text.toList
  if rest = [] then .error .malformed
  let sum ← parts 0 rest
  match ofTotal? (if negative then -(sum : Int) else sum) with
  | some d => .ok d
  | none => .error .outOfRange

end Duration

end Cel
