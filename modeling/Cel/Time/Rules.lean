import Cel.Time.Timestamp

/-! # Rules of time zones

A zone has a standard offset from universal time and possibly a summer time. Summer time is one hour
ahead of standard time and begins and ends on a Sunday of a month; in the south it lasts over the turn
of the year.
-/

namespace Cel.Time

/-- A moment of each year: so many seconds after the start, in universal time, of the first Sunday
of a month that is not before a given day. -/
structure YearlyMoment where
  month : Nat
  notBefore : Nat
  seconds : Int
deriving DecidableEq, Repr

/-- The moment in a given year, in seconds since the first moment of 1970. -/
def YearlyMoment.inYear (moment : YearlyMoment) (year : Int) : Int :=
  let earliest := Date.toDays ⟨year, moment.month, moment.notBefore⟩
  (earliest + (7 - weekday earliest) % 7) * 86400 + moment.seconds

structure SummerTime where
  start : YearlyMoment
  stop : YearlyMoment
deriving DecidableEq, Repr

/-- Whether a moment lies in the summer time. -/
def SummerTime.includes (summer : SummerTime) (seconds : Int) : Bool :=
  let year := (Date.ofDays (seconds / 86400)).year
  let start := summer.start.inYear year
  let stop := summer.stop.inYear year
  if start < stop then start ≤ seconds && seconds < stop
  else start ≤ seconds || seconds < stop

/-- The rules of a named zone. -/
structure ZoneRules where
  standard : Int
  summer : Option SummerTime
deriving DecidableEq, Repr

namespace ZoneRules

/-- Some zones by their names, with the rules they have had since 2008. -/
def table : List (String × ZoneRules) :=
  [("UTC", ⟨0, none⟩),
    ("Etc/GMT+5", ⟨-18000, none⟩),
    ("Asia/Tokyo", ⟨32400, none⟩),
    ("Asia/Kolkata", ⟨19800, none⟩),
    ("Asia/Kathmandu", ⟨20700, none⟩),
    ("America/New_York", ⟨-18000, some ⟨⟨3, 8, 25200⟩, ⟨11, 1, 21600⟩⟩⟩),
    ("Europe/London", ⟨0, some ⟨⟨3, 25, 3600⟩, ⟨10, 25, 3600⟩⟩⟩),
    ("Australia/Sydney", ⟨36000, some ⟨⟨10, 1, -28800⟩, ⟨4, 1, -28800⟩⟩⟩)]

/-- How many seconds the clocks of the zone are ahead of universal time at a moment. -/
def ahead (rules : ZoneRules) (seconds : Int) : Int :=
  match rules.summer with
  | some summer => if summer.includes seconds then rules.standard + 3600 else rules.standard
  | none => rules.standard

end ZoneRules

end Cel.Time
