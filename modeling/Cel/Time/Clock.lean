import Cel.Time.Calendar
import Cel.Time.Digits

/-! # Clocks

What a clock shows at a moment: a day, a second of the day and nanoseconds. A second that is followed
by a leap second holds up to two billion nanoseconds, and its second half is written as second 60.
-/

namespace Cel.Time

/-- The number of the day, the second of the day, and the nanoseconds, which reach a billion in a
leap second. -/
structure Clock where
  day : Int
  second : Nat
  nanos : Nat
deriving DecidableEq, Repr

/-- The first day that has a date. -/
def firstDay : Int := Date.toDays ⟨-262143, 1, 1⟩

/-- The last day that has a date. -/
def lastDay : Int := Date.toDays ⟨262142, 12, 31⟩

/-- The parts of a moment that can be asked for. Months, days of the month, days of the week and days
of the year are counted from zero, but `date` is counted from one. -/
inductive Component where
  | fullYear | month | date | dayOfMonth | dayOfWeek | dayOfYear
  | hours | minutes | seconds | milliseconds
deriving DecidableEq, Repr

namespace Clock

def date (c : Clock) : Date := .ofDays c.day

def component (c : Clock) : Component → Int
  | .fullYear => c.date.year
  | .month => c.date.month - 1
  | .date => c.date.day
  | .dayOfMonth => c.date.day - 1
  | .dayOfWeek => weekday c.day
  | .dayOfYear => c.date.dayOfYear
  | .hours => c.second / 3600
  | .minutes => c.second / 60 % 60
  | .seconds => c.second % 60
  | .milliseconds => c.nanos % 1000000000 / 1000000

/-- Years of four digits are written plainly, all others with their sign. -/
def yearText (year : Int) : List Char :=
  if 0 ≤ year ∧ year ≤ 9999 then padded 4 year.natAbs
  else (if year < 0 then '-' else '+') :: padded 4 year.natAbs

/-- The date and the time of the day to the second. -/
def text (c : Clock) : List Char :=
  yearText c.date.year ++ '-' :: padded 2 c.date.month ++ '-' :: padded 2 c.date.day ++
    'T' :: padded 2 (c.second / 3600) ++ ':' :: padded 2 (c.second / 60 % 60) ++
    ':' :: padded 2 (c.second % 60 + c.nanos / 1000000000)

/-- The fraction of the second with three, six or nine digits, as many as are needed, or nothing. -/
def fractionText (c : Clock) : List Char :=
  let nanos := c.nanos % 1000000000
  if nanos = 0 then []
  else if nanos % 1000000 = 0 then '.' :: padded 3 (nanos / 1000000)
  else if nanos % 1000 = 0 then '.' :: padded 6 (nanos / 1000)
  else '.' :: padded 9 nanos

end Clock

end Cel.Time
