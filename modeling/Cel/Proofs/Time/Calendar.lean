import Mathlib.Algebra.GroupWithZero.Nat
import Mathlib.Data.Int.Init
import Cel.Time.Calendar

/-! # The days of the calendar

The calendar is laid down by its rule for the next day alone, from 1970-01-01 on and back. Years and
months are prefix sums of their lengths, and finding a date inverts them. So every day has exactly one
date, and every date of the calendar is that of exactly one day.
-/

namespace Cel.Time

theorem isLeap_iff (year : Int) :
    isLeap year = true ↔ year % 4 = 0 ∧ (year % 100 ≠ 0 ∨ year % 400 = 0) := by
  simp [isLeap]

/-- The number of days in a year. -/
def yearLength (year : Int) : Nat := if isLeap year then 366 else 365

theorem length_monthLengths (leap : Bool) : (monthLengths leap).length = 12 := rfl

theorem sum_monthLengths (leap : Bool) : (monthLengths leap).sum = if leap then 366 else 365 := by
  cases leap <;> rfl

namespace Date

/-! ### Years -/

theorem daysBeforeYear_succ (year : Int) :
    daysBeforeYear (year + 1) = daysBeforeYear year + yearLength year := by
  unfold daysBeforeYear yearLength
  have rule := isLeap_iff year
  split
  · next leap =>
    have := rule.mp leap
    omega
  · next common =>
    have := mt rule.mpr common
    omega

/-- A year has passed before any later one starts. -/
theorem daysBeforeYear_add_le {year later : Int} (less : year < later) :
    daysBeforeYear year + yearLength year ≤ daysBeforeYear later := by
  rw [← daysBeforeYear_succ]
  unfold daysBeforeYear
  omega

section Periods

variable (era : Int) {century cycle year : Int} (centuries : 0 ≤ century ∧ century ≤ 3)
  (cycles : 0 ≤ cycle ∧ cycle ≤ 24) (years : 0 ≤ year ∧ year ≤ 3)

include centuries cycles years

theorem daysBeforeYear_periods :
    daysBeforeYear (400 * era + 100 * century + 4 * cycle + year + 1) =
      146097 * era + 36524 * century + 1461 * cycle + 365 * year := by
  unfold daysBeforeYear
  omega

/-- The last year of a cycle is a leap year, unless the cycle is the last one of a century that is not
the last one of an era. -/
theorem isLeap_periods :
    isLeap (400 * era + 100 * century + 4 * cycle + year + 1) = true ↔
      year = 3 ∧ (cycle = 24 → century = 3) := by
  rw [isLeap_iff]
  omega

end Periods

/-- The year that is found for a day, and the day of that year. -/
theorem yearOf_spec (days : Int) :
    0 ≤ (yearOf days).2 ∧ (yearOf days).2 < yearLength (yearOf days).1 ∧
      daysBeforeYear (yearOf days).1 + (yearOf days).2 = days := by
  let afterEras := days % 146097
  let century := min (afterEras / 36524) 3
  let afterCenturies := afterEras - 36524 * century
  let cycle := afterCenturies / 1461
  let afterCycles := afterCenturies - 1461 * cycle
  let year := min (afterCycles / 365) 3
  -- An era has a day more than four common centuries, and a cycle a day more than four common years.
  -- The minimum leaves that day in the last of the four.
  have eras : 0 ≤ afterEras ∧ afterEras < 146097 := by omega
  have centuries : 0 ≤ century ∧ century ≤ 3 := by omega
  have inCentury : 0 ≤ afterCenturies ∧ afterCenturies ≤ 36524 ∧
      (afterCenturies = 36524 → century = 3) := by omega
  have cycles : 0 ≤ cycle ∧ cycle ≤ 24 := by omega
  have inCycle : 0 ≤ afterCycles ∧ afterCycles ≤ 1460 ∧
      (afterCycles = 1460 → cycle = 24 → century = 3) := by omega
  have years : 0 ≤ year ∧ year ≤ 3 := by omega
  have inYear : 0 ≤ afterCycles - 365 * year ∧ afterCycles - 365 * year ≤ 365 ∧
      (afterCycles - 365 * year = 365 → year = 3 ∧ afterCycles = 1460) := by omega
  have found : yearOf days = (400 * (days / 146097) + 100 * century + 4 * cycle + year + 1,
      afterCycles - 365 * year) := rfl
  have leap := isLeap_periods (days / 146097) centuries cycles years
  rw [found]
  refine ⟨inYear.1, ?_, ?_⟩
  · simp only [yearLength]
    split
    · omega
    · next common =>
      have := mt leap.mpr common
      omega
  · simp only [daysBeforeYear_periods _ centuries cycles years]
    omega

/-- A day of a year is in no other year. -/
theorem year_eq_of_days {year year' : Int} {day day' : Nat} (inside : day < yearLength year)
    (inside' : day' < yearLength year') (same : daysBeforeYear year + day = daysBeforeYear year' + day') :
    year = year' ∧ day = day' := by
  rcases Int.lt_trichotomy year year' with less | rfl | greater
  · have := daysBeforeYear_add_le less
    omega
  · exact ⟨rfl, by omega⟩
  · have := daysBeforeYear_add_le greater
    omega

/-! ### Months -/

/-- The number of days in a month. -/
def daysInMonth (leap : Bool) (month : Nat) : Nat := (monthLengths leap)[month - 1]?.getD 0

theorem daysInMonth_pos (leap : Bool) {month : Nat} (inYear : month ≤ 12) : 1 ≤ daysInMonth leap month := by
  have each : ∀ leap, ∀ month < 13, 1 ≤ daysInMonth leap month := by decide
  exact each leap month (by omega)

theorem daysInMonth_le (leap : Bool) {month : Nat} (inYear : month ≤ 12) : daysInMonth leap month ≤ 31 := by
  have each : ∀ leap, ∀ month < 13, daysInMonth leap month ≤ 31 := by decide
  exact each leap month (by omega)

theorem daysBeforeMonth_eq (leap : Bool) (month : Nat) :
    daysBeforeMonth leap month = ((monthLengths leap).take (month - 1)).sum :=
  List.sum_eq_foldl.symm

theorem daysBeforeMonth_succ (leap : Bool) {month : Nat} (started : 1 ≤ month) :
    daysBeforeMonth leap (month + 1) = daysBeforeMonth leap month + daysInMonth leap month := by
  obtain ⟨before, rfl⟩ : ∃ before, month = before + 1 := ⟨month - 1, by omega⟩
  rw [daysBeforeMonth_eq, daysBeforeMonth_eq, daysInMonth, Nat.add_sub_cancel, Nat.add_sub_cancel,
    List.take_add_one, List.sum_append]
  cases (monthLengths leap)[before]? <;> simp

/-- A month has passed before any later one starts. -/
theorem daysBeforeMonth_add_le (leap : Bool) {month later : Nat} (started : 1 ≤ month)
    (less : month < later) :
    daysBeforeMonth leap month + daysInMonth leap month ≤ daysBeforeMonth leap later := by
  obtain ⟨months, rfl⟩ : ∃ months, later = month + 1 + months := ⟨later - (month + 1), by omega⟩
  clear less
  induction months with
  | zero => exact Nat.le_of_eq (daysBeforeMonth_succ leap started).symm
  | succ months ih =>
    have further : 1 ≤ month + 1 + months := by omega
    rw [← Nat.add_assoc, daysBeforeMonth_succ leap further]
    omega

theorem daysBeforeMonth_one (leap : Bool) : daysBeforeMonth leap 1 = 0 := rfl

theorem daysBeforeMonth_thirteen (year : Int) : daysBeforeMonth (isLeap year) 13 = yearLength year := by
  unfold yearLength
  cases isLeap year <;> rfl

/-- The month that is found for a day is one that is not over before it. -/
theorem inMonths_spec {lengths : List Nat} {rest : Nat} (inside : rest < lengths.sum) (month : Nat) :
    ∃ before length after, lengths = before ++ length :: after ∧
      inMonths month rest lengths = (month + before.length, rest - before.sum + 1) ∧
      before.sum ≤ rest ∧ rest < before.sum + length := by
  induction lengths generalizing month rest with
  | nil => exact absurd inside (Nat.not_lt_zero rest)
  | cons first lengths ih =>
    rw [List.sum_cons] at inside
    rw [inMonths]
    split
    · next early => exact ⟨[], first, lengths, rfl, rfl, Nat.zero_le _, by simpa using early⟩
    · next late =>
      have inside' : rest - first < lengths.sum := by omega
      obtain ⟨before, length, after, parts, found, passed, lasts⟩ := ih inside' (month + 1)
      refine ⟨first :: before, length, after, by rw [parts]; rfl, ?_, ?_, ?_⟩
      · rw [found, List.length_cons, List.sum_cons, Prod.mk.injEq]
        omega
      · rw [List.sum_cons]
        omega
      · rw [List.sum_cons]
        omega

/-! ### Days -/

theorem isValid_iff {date : Date} : date.isValid = true ↔ (1 ≤ date.month ∧ date.month ≤ 12) ∧
    1 ≤ date.day ∧ date.day ≤ daysInMonth (isLeap date.year) date.month := by
  have twelve := length_monthLengths (isLeap date.year)
  unfold isValid daysInMonth
  cases isLength : (monthLengths (isLeap date.year))[date.month - 1]? with
  | none =>
    simp only [Bool.and_false, Option.getD_none, Bool.false_eq_true, false_iff]
    omega
  | some length =>
    have := (List.getElem?_eq_some_iff.mp isLength).1
    simp only [Bool.and_eq_true, decide_eq_true_eq, Option.getD_some]
    omega

theorem dayOfYear_lt {date : Date} (valid : date.isValid = true) :
    date.dayOfYear < yearLength date.year := by
  obtain ⟨⟨started, inYear⟩, first, last⟩ := isValid_iff.mp valid
  have passed := daysBeforeMonth_add_le (isLeap date.year) started (Nat.lt_succ_of_le inYear)
  rw [daysBeforeMonth_thirteen] at passed
  unfold dayOfYear
  omega

/-- Only one date has a given number. -/
theorem eq_of_toDays_eq {date date' : Date} (valid : date.isValid = true)
    (valid' : date'.isValid = true) (same : date.toDays = date'.toDays) : date = date' := by
  obtain ⟨sameYear, sameDay⟩ : date.year = date'.year ∧ date.dayOfYear = date'.dayOfYear := by
    apply year_eq_of_days (dayOfYear_lt valid) (dayOfYear_lt valid')
    unfold toDays at same
    omega
  obtain ⟨⟨started, -⟩, first, last⟩ := isValid_iff.mp valid
  obtain ⟨⟨started', -⟩, first', last'⟩ := isValid_iff.mp valid'
  obtain ⟨year, month, day⟩ := date
  obtain ⟨year', month', day'⟩ := date'
  dsimp only [dayOfYear] at *
  subst sameYear
  rcases Nat.lt_trichotomy month month' with less | rfl | greater
  · have := daysBeforeMonth_add_le (isLeap year) started less
    omega
  · rw [Date.mk.injEq]
    exact ⟨rfl, rfl, by omega⟩
  · have := daysBeforeMonth_add_le (isLeap year) started' greater
    omega

/-- The date that is found for a day is one of the calendar, with the number of the day. -/
theorem ofDays_spec (days : Int) : (ofDays days).isValid = true ∧ (ofDays days).toDays = days := by
  obtain ⟨nonneg, inYear, sum⟩ := yearOf_spec (days + epoch)
  rcases isYear : yearOf (days + epoch) with ⟨year, dayOfYear⟩
  rw [isYear] at nonneg inYear sum
  dsimp only at nonneg inYear sum
  have whole : (monthLengths (isLeap year)).sum = yearLength year := sum_monthLengths _
  have inside : dayOfYear.toNat < (monthLengths (isLeap year)).sum := by omega
  obtain ⟨before, length, after, parts, found, passed, lasts⟩ := inMonths_spec inside 1
  have isDate : ofDays days = ⟨year, 1 + before.length, dayOfYear.toNat - before.sum + 1⟩ := by
    simp only [ofDays, isYear, found]
  have isLength : daysInMonth (isLeap year) (1 + before.length) = length := by
    rw [daysInMonth, parts, Nat.add_sub_cancel_left, List.getElem?_append_right (Nat.le_refl _),
      Nat.sub_self]
    rfl
  have isBefore : daysBeforeMonth (isLeap year) (1 + before.length) = before.sum := by
    rw [daysBeforeMonth_eq, parts, Nat.add_sub_cancel_left, List.take_left]
  have twelve : before.length < 12 := by
    have count := congrArg List.length parts
    rw [length_monthLengths, List.length_append, List.length_cons] at count
    omega
  rw [isDate]
  constructor
  · rw [isValid_iff, isLength]
    dsimp only
    omega
  · simp only [toDays, Date.dayOfYear, isBefore]
    omega

theorem ofDays_toDays {date : Date} (valid : date.isValid = true) : ofDays date.toDays = date :=
  eq_of_toDays_eq (ofDays_spec _).1 valid (ofDays_spec _).2

theorem isValid_first (year : Int) : isValid ⟨year, 1, 1⟩ = true :=
  isValid_iff.mpr ⟨⟨Nat.le_refl 1, Nat.le_add_left 1 11⟩, Nat.le_refl 1,
    daysInMonth_pos _ (Nat.le_add_left 1 11)⟩

/-- Days are counted on from the first day of the year. -/
theorem toDays_eq_first_add (date : Date) : date.toDays = toDays ⟨date.year, 1, 1⟩ + date.dayOfYear := by
  simp only [toDays, dayOfYear, daysBeforeMonth_one]
  omega

/-- The year of a day is the last one that has started. -/
theorem le_year_ofDays_iff {days year : Int} : year ≤ (ofDays days).year ↔ toDays ⟨year, 1, 1⟩ ≤ days := by
  obtain ⟨valid, isNumber⟩ := ofDays_spec days
  have inside := dayOfYear_lt valid
  have first : toDays ⟨year, 1, 1⟩ = daysBeforeYear year - Date.epoch := by
    simp only [toDays, dayOfYear, daysBeforeMonth_one]
    omega
  unfold toDays at isNumber
  rw [first]
  constructor
  · intro started
    rcases Int.lt_or_eq_of_le started with earlier | same
    · have := daysBeforeYear_add_le earlier
      omega
    · rw [same]
      omega
  · intro reached
    rcases Int.lt_or_le (ofDays days).year year with later | started
    · have := daysBeforeYear_add_le later
      omega
    · exact started

/-! ### The rule for the next day -/

/-- The day after a date. -/
def next (date : Date) : Date :=
  if date.day < daysInMonth (isLeap date.year) date.month then ⟨date.year, date.month, date.day + 1⟩
  else if date.month < 12 then ⟨date.year, date.month + 1, 1⟩
  else ⟨date.year + 1, 1, 1⟩

/-- The dates of the days, which follow each other from 1970-01-01 on and back. -/
inductive IsDay : Int → Date → Prop
  | epoch : IsDay 0 ⟨1970, 1, 1⟩
  | next {days : Int} {date : Date} (isDay : IsDay days date) : IsDay (days + 1) date.next
  | previous {days : Int} {date : Date} (valid : date.isValid = true)
      (isDay : IsDay (days + 1) date.next) : IsDay days date

/-- The calendar goes on by one day. -/
theorem next_spec {date : Date} (valid : date.isValid = true) :
    date.next.isValid = true ∧ date.next.toDays = date.toDays + 1 := by
  obtain ⟨⟨started, inYear⟩, first, last⟩ := isValid_iff.mp valid
  obtain ⟨year, month, day⟩ := date
  dsimp only at started inYear first last
  have passed := daysBeforeMonth_succ (isLeap year) started
  simp only [next]
  split
  · next early =>
    constructor
    · exact isValid_iff.mpr ⟨⟨started, inYear⟩, Nat.le_add_left 1 _, early⟩
    · simp only [toDays, dayOfYear]
      omega
  · next isLast =>
    split
    · next goesOn =>
      constructor
      · exact isValid_iff.mpr ⟨⟨Nat.le_add_left 1 _, goesOn⟩, Nat.le_refl 1, daysInMonth_pos _ goesOn⟩
      · simp only [toDays, dayOfYear]
        omega
    · next ends =>
      obtain rfl : month = 12 := by omega
      rw [daysBeforeMonth_thirteen] at passed
      constructor
      · exact isValid_first (year + 1)
      · simp only [toDays, dayOfYear, daysBeforeMonth_one, daysBeforeYear_succ]
        omega

theorem ofDays_succ (days : Int) : ofDays (days + 1) = (ofDays days).next := by
  obtain ⟨valid, isNumber⟩ := ofDays_spec days
  obtain ⟨valid', isNext⟩ := next_spec valid
  rw [← ofDays_toDays valid', isNext, isNumber]

/-- The calendar has exactly one date for each day, which is the one that is found for it. -/
theorem isDay_iff {days : Int} {date : Date} : IsDay days date ↔ date = ofDays days := by
  constructor
  · intro isDay
    induction isDay with
    | epoch => decide
    | next _ ih => rw [ih, ofDays_succ]
    | @previous days date valid _ ih =>
      have isNext := (next_spec valid).2
      rw [ih, (ofDays_spec _).2] at isNext
      rw [← ofDays_toDays valid]
      congr 1
      omega
  · rintro rfl
    induction days using Int.induction_on with
    | zero => exact .epoch
    | succ count ih =>
      rw [ofDays_succ]
      exact ih.next
    | pred count ih =>
      apply IsDay.previous (ofDays_spec _).1
      rw [← ofDays_succ, Int.sub_add_cancel]
      exact ih

theorem isDay_toDays {date : Date} (valid : date.isValid = true) : IsDay date.toDays date :=
  isDay_iff.mpr (ofDays_toDays valid).symm

end Date

end Cel.Time
