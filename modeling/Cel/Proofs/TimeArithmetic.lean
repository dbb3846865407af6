import Cel.Eval.Operators
import Cel.Proofs.Except
import Cel.Proofs.Time.Total

/-! # Arithmetic with timestamps and durations

Sums, differences and negations of times are exact in nanoseconds, or they fail because the exact result
is out of range. No difference of valid timestamps and no negation of a duration fails. So differences
cancel what was added, and sums may be taken in any order that does not fail.
-/

namespace Cel.Value

open EvalError (Cause)

/-- Whether a value is the valid timestamp at a number of nanoseconds. -/
def IsTimestamp (total : Int) (value : Value) : Prop :=
  ∃ t, value = timestamp t ∧ t.isValid = true ∧ t.total = total

/-- Whether a value is the normalised duration of a number of nanoseconds. -/
def IsDuration (total : Int) (value : Value) : Prop :=
  ∃ d, value = duration d ∧ d.Canonical ∧ d.total = total

/-- Whether a computation finds a value of a kind if it is in range, and fails for its range if not. -/
def Ranged (inRange : Prop) (found : Value → Prop) (result : Except Cause Value) : Prop :=
  (inRange → ∃ value, result = .ok value ∧ found value) ∧
    (¬inRange → ∃ cause, result = .error cause ∧ cause.kind = .range)

/-- Whether a result is the timestamp at an exact number of nanoseconds, if there is one. -/
def ExactTimestamp (total : Int) : Except Cause Value → Prop :=
  Ranged (Timestamp.InRange total) (IsTimestamp total)

/-- Whether a result is the duration of an exact number of nanoseconds, if there is one. -/
def ExactDuration (total : Int) : Except Cause Value → Prop :=
  Ranged (Duration.InRange total) (IsDuration total)

/-! ### Values from numbers of nanoseconds -/

section Made

variable {α : Type} {made : Option α} {make : α → Value} {denotes : α → Prop} {cause : Cause}
  {result : Except Cause Value} (computes : ∀ x, made = some x → result = .ok (make x))
  (fails : made = none → result = .error cause) (made_iff : ∀ x, made = some x ↔ denotes x)

include computes fails made_iff

theorem eq_ok_iff_of_made {value : Value} :
    result = .ok value ↔ ∃ x, value = make x ∧ denotes x := by
  cases found : made with
  | none =>
    rw [fails found]
    refine ⟨nofun, fun ⟨x, _, isMade⟩ => ?_⟩
    rw [← made_iff, found] at isMade
    cases isMade
  | some y =>
    rw [computes y found]
    constructor
    · rintro ⟨⟩
      exact ⟨y, rfl, (made_iff y).mp found⟩
    · rintro ⟨x, rfl, isMade⟩
      rw [← made_iff, found] at isMade
      cases isMade
      rfl

theorem ranged_of_made {inRange : Prop} (isRange : cause.kind = .range)
    (exists_iff : (∃ x, made = some x) ↔ inRange) :
    Ranged inRange (fun value => ∃ x, value = make x ∧ denotes x) result := by
  constructor
  · intro inside
    obtain ⟨x, found⟩ := exists_iff.mpr inside
    exact ⟨make x, computes x found, x, rfl, (made_iff x).mp found⟩
  · intro outside
    have none : made = none :=
      Option.eq_none_iff_forall_ne_some.mpr fun x found => outside (exists_iff.mp ⟨x, found⟩)
    exact ⟨cause, fails none, isRange⟩

end Made

theorem timestampOf_of_some {total : Int} (t : Timestamp) (made : Timestamp.ofTotal? total = some t) :
    timestampOf total = .ok (timestamp t) := by rw [timestampOf, made]

theorem timestampOf_of_none {total : Int} (none : Timestamp.ofTotal? total = none) :
    timestampOf total = .error .timestampRange := by rw [timestampOf, none]

theorem durationOf_of_some {total : Int} (d : Duration) (made : Duration.ofTotal? total = some d) :
    durationOf total = .ok (duration d) := by rw [durationOf, made]

theorem durationOf_of_none {total : Int} (none : Duration.ofTotal? total = none) :
    durationOf total = .error .durationRange := by rw [durationOf, none]

theorem timestampOf_exact (total : Int) : ExactTimestamp total (timestampOf total) :=
  ranged_of_made timestampOf_of_some timestampOf_of_none (fun _ => Timestamp.ofTotal?_eq_some_iff) rfl
    Timestamp.exists_ofTotal?_iff

theorem durationOf_exact (total : Int) : ExactDuration total (durationOf total) :=
  ranged_of_made durationOf_of_some durationOf_of_none (fun _ => Duration.ofTotal?_eq_some_iff) rfl
    Duration.exists_ofTotal?_iff

theorem timestampOf_eq_ok_iff {total : Int} {value : Value} :
    timestampOf total = .ok value ↔ IsTimestamp total value :=
  eq_ok_iff_of_made timestampOf_of_some timestampOf_of_none fun _ => Timestamp.ofTotal?_eq_some_iff

theorem durationOf_eq_ok_iff {total : Int} {value : Value} :
    durationOf total = .ok value ↔ IsDuration total value :=
  eq_ok_iff_of_made durationOf_of_some durationOf_of_none fun _ => Duration.ofTotal?_eq_some_iff

/-! ### What is computed from times -/

section Operators

variable (s t : Timestamp) (c d : Duration)

theorem strict_add_timestamp_duration :
    strict .add (timestamp t) (duration d) = timestampOf (t.total + d.total) := rfl

theorem strict_add_durations :
    strict .add (duration c) (duration d) = durationOf (c.total + d.total) := rfl

theorem strict_sub_timestamp_duration :
    strict .sub (timestamp t) (duration d) = timestampOf (t.total - d.total) := rfl

theorem strict_sub_timestamps :
    strict .sub (timestamp s) (timestamp t) = durationOf (s.total - t.total) := rfl

end Operators

variable {t t₁ t₂ : Timestamp} {d : Duration}

/-- The years 1 to 9999 are shorter than the longest duration. -/
theorem inRange_sub_timestamps (valid₁ : t₁.isValid = true) (valid₂ : t₂.isValid = true) :
    Duration.InRange (t₁.total - t₂.total) := by
  have first : Time.Date.toDays ⟨1, 1, 1⟩ = -719162 := by decide
  have behindLast : Time.Date.toDays ⟨10000, 1, 1⟩ = 2932897 := by decide
  have longest : Duration.maxSeconds = 315576000000 := rfl
  obtain ⟨notBefore₁, notAfter₁, notNegative₁, nanos₁⟩ := Timestamp.canonical_of_isValid valid₁
  obtain ⟨notBefore₂, notAfter₂, notNegative₂, nanos₂⟩ := Timestamp.canonical_of_isValid valid₂
  unfold Duration.InRange Timestamp.total
  omega

theorem inRange_neg (canonical : d.Canonical) : Duration.InRange (-d.total) := by
  have inRange := canonical.inRange
  unfold Duration.InRange at inRange ⊢
  rwa [Int.natAbs_neg]

/-- A difference is what has to be added. -/
theorem add_sub_timestamps (valid₁ : t₁.isValid = true) (valid₂ : t₂.isValid = true) :
    ∃ apart, strict .sub (timestamp t₁) (timestamp t₂) = .ok apart ∧
      strict .add (timestamp t₂) apart = .ok (timestamp t₁) := by
  obtain ⟨_, computed, apart, rfl, canonical, total⟩ :=
    (durationOf_exact (t₁.total - t₂.total)).1 (inRange_sub_timestamps valid₁ valid₂)
  refine ⟨duration apart, computed, ?_⟩
  rw [strict_add_timestamp_duration, timestampOf_eq_ok_iff]
  exact ⟨t₁, rfl, valid₁, by omega⟩

/-- What was added can be taken off again, and is the difference. -/
theorem sub_of_add (valid : t.isValid = true) (canonical : d.Canonical) {later : Value}
    (added : strict .add (timestamp t) (duration d) = .ok later) :
    strict .sub later (duration d) = .ok (timestamp t) ∧
      strict .sub later (timestamp t) = .ok (duration d) := by
  rw [strict_add_timestamp_duration, timestampOf_eq_ok_iff] at added
  obtain ⟨later, rfl, -, total⟩ := added
  rw [strict_sub_timestamp_duration, strict_sub_timestamps, timestampOf_eq_ok_iff, durationOf_eq_ok_iff]
  exact ⟨⟨t, rfl, valid, by omega⟩, ⟨d, rfl, canonical, by omega⟩⟩

/-- Durations may be added one after the other or at once, if both ways stay in range. -/
theorem add_add_duration {d₁ d₂ : Duration} {middle sum later later' : Value}
    (first : strict .add (timestamp t) (duration d₁) = .ok middle)
    (second : strict .add middle (duration d₂) = .ok later)
    (added : strict .add (duration d₁) (duration d₂) = .ok sum)
    (atOnce : strict .add (timestamp t) sum = .ok later') : later = later' := by
  rw [strict_add_timestamp_duration, timestampOf_eq_ok_iff] at first
  obtain ⟨middle, rfl, -, total⟩ := first
  rw [strict_add_durations, durationOf_eq_ok_iff] at added
  obtain ⟨sum, rfl, -, total'⟩ := added
  have same : middle.total + d₂.total = t.total + sum.total := by omega
  rw [strict_add_timestamp_duration, same] at second
  rw [strict_add_timestamp_duration] at atOnce
  exact Except.ok.inj (second.symm.trans atOnce)

/-- Sums, differences and negations of times are exact, and fail only out of range. Differences of
timestamps and negations never fail, differences cancel sums, and sums of one timestamp and two durations
are associative where they do not fail. -/
theorem time_arithmetic (d₁ d₂ : Duration) (valid : t.isValid = true) (valid₁ : t₁.isValid = true)
    (valid₂ : t₂.isValid = true) (canonical : d.Canonical) :
    (ExactTimestamp (t.total + d.total) (strict .add (timestamp t) (duration d)) ∧
      ExactTimestamp (t.total + d.total) (strict .add (duration d) (timestamp t)) ∧
      ExactTimestamp (t.total - d.total) (strict .sub (timestamp t) (duration d)) ∧
      ExactDuration (t₁.total - t₂.total) (strict .sub (timestamp t₁) (timestamp t₂)) ∧
      ExactDuration (d₁.total + d₂.total) (strict .add (duration d₁) (duration d₂)) ∧
      ExactDuration (d₁.total - d₂.total) (strict .sub (duration d₁) (duration d₂)) ∧
      ExactDuration (-d.total) (unary .neg (duration d))) ∧
    (∃ apart, strict .sub (timestamp t₁) (timestamp t₂) = .ok apart ∧
      strict .add (timestamp t₂) apart = .ok (timestamp t₁)) ∧
    (∃ opposite, unary .neg (duration d) = .ok opposite) ∧
    (∀ later, strict .add (timestamp t) (duration d) = .ok later →
      strict .sub later (duration d) = .ok (timestamp t) ∧
        strict .sub later (timestamp t) = .ok (duration d)) ∧
    (∀ later later',
      (strict .add (timestamp t) (duration d₁) >>= (strict .add · (duration d₂))) = .ok later →
      (strict .add (duration d₁) (duration d₂) >>= strict .add (timestamp t)) = .ok later' →
        later = later') := by
  refine ⟨⟨?_, ?_, ?_, ?_, ?_, ?_, ?_⟩, ?_, ?_, ?_, ?_⟩
  · exact timestampOf_exact _
  · exact timestampOf_exact _
  · exact timestampOf_exact _
  · exact durationOf_exact _
  · exact durationOf_exact _
  · exact durationOf_exact _
  · exact durationOf_exact _
  · exact add_sub_timestamps valid₁ valid₂
  · obtain ⟨opposite, computed, -⟩ := (durationOf_exact (-d.total)).1 (inRange_neg canonical)
    exact ⟨opposite, computed⟩
  · exact fun later added => sub_of_add valid canonical added
  · intro later later' oneByOne atOnce
    obtain ⟨middle, first, second⟩ := bind_eq_ok_iff.mp oneByOne
    obtain ⟨sum, added, atOnce⟩ := bind_eq_ok_iff.mp atOnce
    exact add_add_duration first second added atOnce

/-- From half a second before 1970 back by one and six tenths of a second, and from the first moment to the
last. -/
theorem time_arithmetic_across_1970 :
    let before := timestamp ⟨-1, 500000000⟩
    let back := duration ⟨-1, -600000000⟩
    let earlier := timestamp ⟨-3, 900000000⟩
    let first := timestamp ⟨-62135596800, 0⟩
    let last := timestamp ⟨253402300799, 999999999⟩
    strict .add before back = .ok earlier ∧ strict .sub earlier back = .ok before ∧
      strict .sub earlier before = .ok back ∧
      ∃ apart, strict .sub last first = .ok apart ∧ strict .add first apart = .ok last := by
  intro before back earlier first last
  have valid : (⟨-1, 500000000⟩ : Timestamp).isValid = true := by decide
  have validFirst : (⟨-62135596800, 0⟩ : Timestamp).isValid = true := by decide
  have validLast : (⟨253402300799, 999999999⟩ : Timestamp).isValid = true := by decide
  have canonical : (⟨-1, -600000000⟩ : Duration).Canonical := by
    constructor <;> decide
  have added : strict .add before back = .ok earlier := rfl
  obtain ⟨-, differ, -, cancel, -⟩ :=
    time_arithmetic ⟨0, 700000000⟩ ⟨-2, -1⟩ valid validLast validFirst canonical
  exact ⟨added, (cancel _ added).1, (cancel _ added).2, differ⟩

end Cel.Value
