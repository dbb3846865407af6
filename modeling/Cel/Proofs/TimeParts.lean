import Cel.Engines.Standard
import Cel.Eval.Functions
import Cel.Proofs.Except
import Cel.Proofs.Time.Clock

/-! # The parts of an instant

What the functions on timestamps answer is what a clock and a calendar show at the instant, at a fixed
offset from universal time: the parts of the time of the day are those of the second of the day, and the
parts of the date are those of the one date that the calendar has for the day.
-/

namespace Cel

namespace Time.Zone

theorem field?_le {digits : List Char} {most value : Nat} (found : field? digits most = some value) :
    value ≤ most := by
  unfold field? at found
  split at found
  · exact of_decide_eq_true (Option.filter_eq_some_iff.mp found).2
  · cases found

/-- A fixed offset is shorter than a day. -/
theorem natAbs_offset?_lt {text : List Char} {seconds : Int} (read : offset? text = some seconds) :
    seconds.natAbs < 86400 := by
  simp only [offset?] at read
  split at read
  · next colon minutes behind =>
    obtain ⟨hours, isHours, read⟩ := Option.bind_eq_some_iff.mp read
    obtain ⟨minutes, isMinutes, read⟩ := Option.bind_eq_some_iff.mp read
    have := field?_le isHours
    have := field?_le isMinutes
    cases read
    split
    · omega
    · omega
  · cases read

theorem mem_of_mem_trim {c : Char} {text : List Char} (member : c ∈ trim text) : c ∈ text := by
  have front := (List.dropWhile_sublist _).subset (List.mem_reverse.mp member)
  exact (List.dropWhile_sublist _).subset (List.mem_reverse.mp front)

theorem mem_of_mem_sign {c : Char} {text : List Char} (member : c ∈ (Number.sign text).2) : c ∈ text := by
  unfold Number.sign at member
  split at member
  · exact List.mem_cons_of_mem _ member
  · exact List.mem_cons_of_mem _ member
  · exact member

/-- A fixed offset has a colon between its hours and its minutes. -/
theorem colon_mem_of_offset? {text : List Char} {seconds : Int} (read : offset? text = some seconds) :
    ':' ∈ text := by
  simp only [offset?] at read
  split at read
  · next first minutes behind =>
    have stops := List.head_dropWhile_not (· ≠ ':') (behind ▸ List.cons_ne_nil first minutes)
    simp only [behind, List.head_cons] at stops
    obtain rfl := not_not.mp (of_decide_eq_false stops)
    refine mem_of_mem_sign ((List.dropWhile_sublist (· ≠ ':')).subset ?_)
    rw [behind]
    exact List.mem_cons_self
  · cases read

/-- No named zone looks like a fixed offset. -/
theorem zone?_of_offset? [Engines] {text : String} {seconds : Int}
    (read : offset? (trim text.toList) = some seconds) : Engines.zone? text = none := by
  cases found : Engines.zone? text with
  | none => rfl
  | some ahead => exact absurd (mem_of_mem_trim (colon_mem_of_offset? read)) (Engines.noColon found)

end Time.Zone

namespace Builtin

open Time (Clock Component Date)
open Value (argument timestampPart partOf)

/-- The arguments that ask for what a clock shows so many seconds ahead of universal time: none or the name of
universal time, or a fixed offset. -/
inductive Ahead : List Value → Int → Prop
  | universal : Ahead [] 0
  | named : Ahead [.string "UTC"] 0
  | offset {text : String} {seconds : Int}
      (reads : Time.Zone.offset? (Time.Zone.trim text.toList) = some seconds) :
      Ahead [.string text] seconds

theorem Ahead.natAbs_lt {zone : List Value} {ahead : Int} (isAhead : Ahead zone ahead) :
    ahead.natAbs < 86400 := by
  cases isAhead with
  | universal => decide
  | named => decide
  | offset reads => exact Time.Zone.natAbs_offset?_lt reads

section Parts

variable [Engines] {t : Timestamp} {zone : List Value} {ahead : Int}

/-- Whether a function answers an integer. -/
def Answers (function : Builtin) (args : List Value) (n : Int) : Prop :=
  ∃ word, function.call args = .ok (.int word) ∧ word.toInt = n

/-- A part of a timestamp in a zone is a part of what a clock there shows. -/
theorem timestampPart_of_zone {text : String} {found : Time.Zone} (isZone : Time.Zone.read? text = some found)
    (function : Builtin) (component : Component) :
    timestampPart function component [.timestamp t, .string text] = partOf component (t.clockIn? found) := by
  have isTimestamp : argument [.timestamp t, .string text] 0 = .ok (.timestamp t) := rfl
  have isText : [Value.timestamp t, .string text][1]? = some (.string text) := rfl
  rw [timestampPart]
  refine (bind_eq_of_eq_ok isTimestamp).trans ?_
  simp only [isText, isZone]

/-- A part of a timestamp is a part of what the clock shows. -/
theorem Ahead.timestampPart_eq (isAhead : Ahead zone ahead) (function : Builtin) (component : Component) :
    timestampPart function component (.timestamp t :: zone) = partOf component (t.clock? ahead) := by
  cases isAhead with
  | universal => rfl
  | named =>
    have isZone : Time.Zone.read? "UTC" = some (.named "UTC" fun _ => 0) := by
      rw [Time.Zone.read?, Engines.universal]
    exact timestampPart_of_zone isZone function component
  | @offset text _ reads =>
    have isZone : Time.Zone.read? text = some (.fixed ahead) := by
      rw [Time.Zone.read?, Time.Zone.zone?_of_offset? reads, reads]
      rfl
    exact timestampPart_of_zone isZone function component

/-- A function that asks for a part of what a clock shows answers this part, if it is a word. -/
theorem answers_of_part {function : Builtin} {component : Component} (isAhead : Ahead zone ahead)
    (canonical : t.Canonical)
    (asks : function.call (.timestamp t :: zone) = timestampPart function component (.timestamp t :: zone))
    {n : Int} (small : n.natAbs < 2 ^ 63)
    (shown : Clock.component ⟨(t.seconds.toInt + ahead) / 86400,
      ((t.seconds.toInt + ahead) % 86400).toNat, t.nanos.toInt.toNat⟩ component = n) :
    Answers function (.timestamp t :: zone) n := by
  refine ⟨Int64.ofInt n, ?_, ?_⟩
  · rw [asks, isAhead.timestampPart_eq, Timestamp.clock?_of_canonical canonical, partOf, shown]
  · apply Int64.toInt_ofInt_of_le
    · omega
    · omega

/-- The parts of the time of the day are those of the second of the day. -/
theorem timeOfDay_parts (isAhead : Ahead zone ahead) (canonical : t.Canonical) :
    Answers .getHours (.timestamp t :: zone) ((t.seconds.toInt + ahead) % 86400 / 3600) ∧
      Answers .getMinutes (.timestamp t :: zone) ((t.seconds.toInt + ahead) % 3600 / 60) ∧
      Answers .getSeconds (.timestamp t :: zone) ((t.seconds.toInt + ahead) % 60) ∧
      Answers .getMilliseconds (.timestamp t :: zone) (t.nanos.toInt / 1000000) := by
  have notNegative := canonical.notNegative
  have nanos := canonical.nanos
  refine ⟨?_, ?_, ?_, ?_⟩
  all_goals
    apply answers_of_part isAhead canonical rfl
    · omega
    · simp only [Clock.component]
      omega

/-- The parts of the date are those of the date of the day. -/
theorem date_parts (isAhead : Ahead zone ahead) (canonical : t.Canonical) {date : Date}
    (isDate : date = Date.ofDays ((t.seconds.toInt + ahead) / 86400)) :
    Answers .getFullYear (.timestamp t :: zone) date.year ∧
      Answers .getMonth (.timestamp t :: zone) (date.month - 1) ∧
      Answers .getDate (.timestamp t :: zone) date.day ∧
      Answers .getDayOfMonth (.timestamp t :: zone) (date.day - 1) ∧
      Answers .getDayOfYear (.timestamp t :: zone) date.dayOfYear := by
  have years := Timestamp.year_bounds_ahead canonical isAhead.natAbs_lt
  have valid := (Date.ofDays_spec ((t.seconds.toInt + ahead) / 86400)).1
  rw [← isDate] at years valid
  have months := (Date.isValid_iff.mp valid).1
  have inYear := Date.dayOfYear_lt valid
  have days : date.day - 1 ≤ date.dayOfYear := Nat.le_add_left _ _
  have longest : Time.yearLength date.year ≤ 366 := by
    unfold Time.yearLength
    split <;> decide
  refine ⟨?_, ?_, ?_, ?_, ?_⟩
  all_goals
    apply answers_of_part isAhead canonical rfl
    · omega
    · simp only [Clock.component, Clock.date, isDate]

theorem weekday_part (isAhead : Ahead zone ahead) (canonical : t.Canonical) :
    Answers .getDayOfWeek (.timestamp t :: zone) (((t.seconds.toInt + ahead) / 86400 + 4) % 7) := by
  apply answers_of_part isAhead canonical rfl
  · omega
  · simp only [Clock.component, Time.weekday]
    omega

/-- The functions on a timestamp answer the parts of the second of the day, of the one date that the calendar
has for the day, and of the nanoseconds. Months and the days of months, of years and of weeks are counted
from zero, but the day of a date from one. -/
theorem parts_of_timestamp (valid : t.isValid = true) (isAhead : Ahead zone ahead) :
    let shown := t.seconds.toInt + ahead
    let args := .timestamp t :: zone
    (Answers .getHours args (shown % 86400 / 3600) ∧ Answers .getMinutes args (shown % 3600 / 60) ∧
      Answers .getSeconds args (shown % 60) ∧ Answers .getMilliseconds args (t.nanos.toInt / 1000000)) ∧
    (∃ date first, (∀ other, Date.IsDay (shown / 86400) other ↔ other = date) ∧
      Date.IsDay first ⟨date.year, 1, 1⟩ ∧ Answers .getFullYear args date.year ∧
      Answers .getMonth args (date.month - 1) ∧ Answers .getDate args date.day ∧
      Answers .getDayOfMonth args (date.day - 1) ∧
      Answers .getDayOfYear args (shown / 86400 - first)) ∧
    Answers .getDayOfWeek args ((shown / 86400 + 4) % 7) := by
  intro shown args
  have canonical := Timestamp.canonical_of_isValid valid
  obtain ⟨year, month, day, dayOfMonth, dayOfYear⟩ := date_parts isAhead canonical rfl
  refine ⟨timeOfDay_parts isAhead canonical, ⟨Date.ofDays (shown / 86400), _, fun _ => Date.isDay_iff,
    Date.isDay_toDays (Date.isValid_first _), year, month, day, dayOfMonth, ?_⟩,
    weekday_part isAhead canonical⟩
  have counted := Date.toDays_eq_first_add (Date.ofDays (shown / 86400))
  rw [(Date.ofDays_spec _).2] at counted
  have fromFirst : shown / 86400 - Date.toDays ⟨(Date.ofDays (shown / 86400)).year, 1, 1⟩ =
      (Date.ofDays (shown / 86400)).dayOfYear := by omega
  rw [fromFirst]
  exact dayOfYear

end Parts

/-- One minute behind the first second of year 1 it is the last day of year 0, a leap year. -/
theorem parts_of_timestamp_in_year_zero :
    let t : Timestamp := ⟨-62135596800, 999999999⟩
    let args := [.timestamp t, .string "-00:01"]
    t.isValid = true ∧ Ahead [.string "-00:01"] (-60) ∧ Answers .getHours args 23 ∧
      Answers .getMinutes args 59 ∧ Answers .getMilliseconds args 999 ∧ Answers .getFullYear args 0 ∧
      Answers .getMonth args 11 ∧ Answers .getDate args 31 ∧ Answers .getDayOfYear args 365 ∧
      Answers .getDayOfWeek args 0 := by
  intro t args
  have valid : t.isValid = true := by decide
  have isAhead : Ahead [.string "-00:01"] (-60) := .offset (by decide)
  obtain ⟨⟨hours, minutes, -, milliseconds⟩, ⟨date, first, dates, isFirst, year, month, day, -, dayOfYear⟩,
    weekday⟩ := parts_of_timestamp valid isAhead
  have before : (t.seconds.toInt + -60) / 86400 = Date.toDays ⟨0, 12, 31⟩ := by decide
  have isDate : (⟨0, 12, 31⟩ : Date) = date := by
    rw [← dates, before]
    exact Date.isDay_toDays (by decide)
  subst isDate
  have number : first = Date.toDays ⟨0, 1, 1⟩ := by
    rw [Date.isDay_iff.mp isFirst, (Date.ofDays_spec first).2]
  have nanos : t.nanos.toInt / 1000000 = 999 := by decide
  rw [before, number] at dayOfYear
  rw [before] at weekday
  rw [nanos] at milliseconds
  exact ⟨valid, isAhead, hours, minutes, milliseconds, year, month, day, dayOfYear, weekday⟩

end Builtin

end Cel
