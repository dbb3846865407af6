/-! # The calendar

The proleptic Gregorian calendar: every year divisible by four is a leap year, except the centuries
that are not divisible by four hundred, in all of the past and the future. Days are numbered from
1970-01-01, which is day zero. A date is found from its day number by taking off whole periods of
400, 100, 4 and 1 years, counted from the first day of year one.
-/

namespace Cel.Time

def isLeap (year : Int) : Bool := year % 4 == 0 && (year % 100 != 0 || year % 400 == 0)

/-- The lengths of the months of a year. -/
def monthLengths (leap : Bool) : List Nat :=
  [31, if leap then 29 else 28, 31, 30, 31, 30, 31, 31, 30, 31, 30, 31]

/-- A day of the calendar. Months and days of a month are counted from one. -/
structure Date where
  year : Int
  month : Nat
  day : Nat
deriving DecidableEq, Repr

namespace Date

/-- The number of days from the first day of year one to the first day of a year. -/
def daysBeforeYear (year : Int) : Int :=
  365 * (year - 1) + (year - 1) / 4 - (year - 1) / 100 + (year - 1) / 400

/-- The number of days from the first day of a year to the first day of a month. -/
def daysBeforeMonth (leap : Bool) (month : Nat) : Nat :=
  ((monthLengths leap).take (month - 1)).foldl (· + ·) 0

/-- Whether the calendar has the day. -/
def isValid (date : Date) : Bool :=
  1 ≤ date.day && match (monthLengths (isLeap date.year))[date.month - 1]? with
    | some length => 1 ≤ date.month && date.day ≤ length
    | none => false

/-- The number of days from the first day of its year to a date. -/
def dayOfYear (date : Date) : Nat :=
  daysBeforeMonth (isLeap date.year) date.month + (date.day - 1)

/-- The number of days from the first day of year one to 1970-01-01. -/
def epoch : Int := 719162

/-- The number of a day. -/
def toDays (date : Date) : Int := daysBeforeYear date.year + date.dayOfYear - epoch

/-- The month and the day of the month of the day `rest` days after the first day of month `month`,
where `lengths` are the lengths of that month and the ones after it. -/
def inMonths (month rest : Nat) : (lengths : List Nat) → Nat × Nat
  | [] => (month, rest + 1)
  | length :: lengths =>
    if rest < length then (month, rest + 1) else inMonths (month + 1) (rest - length) lengths

/-- The year of a day counted from the first day of year one, and its day of the year. -/
def yearOf (days : Int) : Int × Int :=
  let afterEras := days % 146097
  let century := min (afterEras / 36524) 3
  let afterCenturies := afterEras - 36524 * century
  let cycle := afterCenturies / 1461
  let afterCycles := afterCenturies - 1461 * cycle
  let year := min (afterCycles / 365) 3
  (400 * (days / 146097) + 100 * century + 4 * cycle + year + 1, afterCycles - 365 * year)

/-- The date of a day number. -/
def ofDays (days : Int) : Date :=
  let (year, dayOfYear) := yearOf (days + epoch)
  let (month, day) := inMonths 1 dayOfYear.toNat (monthLengths (isLeap year))
  ⟨year, month, day⟩

end Date

/-- The day of the week of a day number, counted from Sunday. -/
def weekday (days : Int) : Nat := ((days + 4) % 7).toNat

end Cel.Time
