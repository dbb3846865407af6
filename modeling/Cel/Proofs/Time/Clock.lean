import Cel.Proofs.Time.Calendar
import Cel.Proofs.Value.Sound

/-! # What clocks show

At every moment of the years 1 to 9999 a clock shows a day, a second of that day and nanoseconds. If it
is less than a day ahead of universal time or behind it, the year that it shows has four digits, or is
the one before or behind those years.
-/

namespace Cel.Timestamp

open Time

variable {t : Timestamp}

/-- The clock at a canonical timestamp, so many seconds ahead of universal time. -/
theorem clock?_of_canonical (canonical : t.Canonical) (ahead : Int) :
    t.clock? ahead = some ⟨(t.seconds.toInt + ahead) / 86400,
      ((t.seconds.toInt + ahead) % 86400).toNat, t.nanos.toInt.toNat⟩ := by
  have first : firstDay = -96465292 := by decide
  have last : lastDay = 95026236 := by decide
  have yearOne : Date.toDays ⟨1, 1, 1⟩ = -719162 := by decide
  have yearTenThousand : Date.toDays ⟨10000, 1, 1⟩ = 2932897 := by decide
  obtain ⟨notBefore, notAfter, notNegative, nanos⟩ := canonical
  exact if_pos (by omega)

/-- In universal time, years have four digits. -/
theorem year_bounds (canonical : t.Canonical) :
    1 ≤ (Date.ofDays (t.seconds.toInt / 86400)).year ∧
      (Date.ofDays (t.seconds.toInt / 86400)).year ≤ 9999 := by
  obtain ⟨notBefore, notAfter, -, -⟩ := canonical
  constructor
  · rw [Date.le_year_ofDays_iff]
    omega
  · by_contra tooLarge
    have reached : 10000 ≤ (Date.ofDays (t.seconds.toInt / 86400)).year := by omega
    rw [Date.le_year_ofDays_iff] at reached
    omega

/-- A clock of universal time shows the second and the nanosecond in a year of four digits. -/
theorem exists_clock? (canonical : t.Canonical) : ∃ clock, t.clock? 0 = some clock ∧
    (1 ≤ clock.date.year ∧ clock.date.year ≤ 9999) ∧ clock.second < 86400 ∧ clock.nanos < 1000000000 ∧
    clock.day * 86400 + clock.second = t.seconds.toInt ∧ clock.nanos = t.nanos.toInt := by
  have shown := clock?_of_canonical canonical 0
  rw [Int.add_zero] at shown
  refine ⟨_, shown, year_bounds canonical, ?_, ?_, ?_, ?_⟩
  · exact (Int.toNat_lt (Int.emod_nonneg _ (by decide))).mpr (Int.emod_lt_of_pos _ (by decide))
  · exact (Int.toNat_lt canonical.notNegative).mpr canonical.nanos
  · change t.seconds.toInt / 86400 * 86400 + (t.seconds.toInt % 86400).toNat = t.seconds.toInt
    omega
  · exact Int.toNat_of_nonneg canonical.notNegative

/-- On a clock less than a day ahead or behind, years differ by at most one. -/
theorem year_bounds_ahead (canonical : t.Canonical) {ahead : Int} (near : ahead.natAbs < 86400) :
    0 ≤ (Date.ofDays ((t.seconds.toInt + ahead) / 86400)).year ∧
      (Date.ofDays ((t.seconds.toInt + ahead) / 86400)).year ≤ 10000 := by
  have yearZero : Date.toDays ⟨0, 1, 1⟩ = -719528 := by decide
  have yearOne : Date.toDays ⟨1, 1, 1⟩ = -719162 := by decide
  have yearTenThousand : Date.toDays ⟨10000, 1, 1⟩ = 2932897 := by decide
  have nextYear : Date.toDays ⟨10001, 1, 1⟩ = 2933263 := by decide
  obtain ⟨notBefore, notAfter, -, -⟩ := canonical
  constructor
  · rw [Date.le_year_ofDays_iff]
    omega
  · by_contra tooLarge
    have reached : 10001 ≤ (Date.ofDays ((t.seconds.toInt + ahead) / 86400)).year := by omega
    rw [Date.le_year_ofDays_iff] at reached
    omega

end Cel.Timestamp
