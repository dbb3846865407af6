import Cel.Number.Word
import Cel.Time.Clock

/-! # Timestamps

A timestamp counts seconds and nanoseconds since the first moment of 1970. Timestamps of the years 1
to 9999 are valid; others can be stored, but not computed.
-/

namespace Cel

structure Timestamp where
  seconds : Int64
  nanos : Int32
deriving DecidableEq, Repr

namespace Timestamp

open Time

/-- The first second of year 1. -/
def minSeconds : Int := -62135596800

/-- The last second of year 9999. -/
def maxSeconds : Int := 253402300799

/-- The nanoseconds since the first moment of 1970. -/
def total (t : Timestamp) : Int := t.seconds.toInt * 1000000000 + t.nanos.toInt

/-- Whether the timestamp lies in the years 1 to 9999 and its nanoseconds are less than a second. -/
def isValid (t : Timestamp) : Bool :=
  minSeconds ≤ t.seconds.toInt && t.seconds.toInt ≤ maxSeconds &&
    (0 ≤ t.nanos.toInt && t.nanos.toInt < 1000000000)

/-- The timestamp of a number of nanoseconds, if it is valid. -/
def ofTotal? (total : Int) : Option Timestamp := do
  let seconds ← Number.int64? (total / 1000000000)
  let t : Timestamp := ⟨seconds, Int32.ofInt (total % 1000000000)⟩
  if t.isValid then some t else none

/-- Timestamps are ordered by their seconds, and within a second by their nanoseconds. -/
def compare (a b : Timestamp) : Ordering :=
  (Ord.compare a.seconds.toInt b.seconds.toInt).then (Ord.compare a.nanos.toInt b.nanos.toInt)

/-- What a clock shows that is `offset` seconds ahead of universal time. Only the last second of a
minute may hold more than a billion nanoseconds. -/
def clock? (t : Timestamp) (offset : Int) : Option Clock :=
  let seconds := t.seconds.toInt
  let nanos := t.nanos.toInt
  if 0 ≤ nanos ∧ (nanos < 1000000000 ∨ nanos < 2000000000 ∧ seconds % 60 = 59) ∧
      firstDay ≤ seconds / 86400 ∧ seconds / 86400 ≤ lastDay then
    let shown := seconds + offset
    some ⟨shown / 86400, (shown % 86400).toNat, nanos.toNat⟩
  else none

/-- A timestamp in universal time, with as many digits of the fraction as are significant. A timestamp
without a date is written as its number of seconds. -/
def text (t : Timestamp) : String :=
  match t.clock? 0 with
  | some clock => String.ofList (clock.text ++ fraction clock.nanos ++ ['Z'])
  | none => s!"{t.seconds.toInt}s"

/-- A timestamp with its offset from universal time in hours and minutes, which is zero. -/
def offsetText? (t : Timestamp) : Option String := do
  let clock ← t.clock? 0
  return String.ofList (clock.text ++ clock.fractionText ++ "+00:00".toList)

end Timestamp

end Cel
