import Cel.Proofs.Value.Sound

/-! # Times as numbers of nanoseconds

Seconds and nanoseconds are found from a total number of nanoseconds, for a timestamp by rounding down
and for a duration by cutting off. In their ranges, which are not the same, this inverts the total: every
total is that of exactly one timestamp and of exactly one duration.
-/

namespace Cel

namespace Timestamp

/-- Whether a number of nanoseconds lies in the years 1 to 9999. -/
def InRange (total : Int) : Prop :=
  Time.Date.toDays ⟨1, 1, 1⟩ * 86400000000000 ≤ total ∧
    total < Time.Date.toDays ⟨10000, 1, 1⟩ * 86400000000000

theorem inRange_iff {total : Int} :
    InRange total ↔ minSeconds ≤ total / 1000000000 ∧ total / 1000000000 ≤ maxSeconds := by
  have first : Time.Date.toDays ⟨1, 1, 1⟩ * 86400 = minSeconds := by decide
  have behindLast : Time.Date.toDays ⟨10000, 1, 1⟩ * 86400 = maxSeconds + 1 := by decide
  unfold InRange
  omega

theorem toInt_ofInt_emod (total : Int) : (Int32.ofInt (total % 1000000000)).toInt = total % 1000000000 := by
  apply Int32.toInt_ofInt_of_le
  · omega
  · omega

/-- A number of nanoseconds is taken apart into the seconds and the nanoseconds of a valid timestamp. -/
theorem ofTotal?_eq_some_iff {total : Int} {t : Timestamp} :
    ofTotal? total = some t ↔ t.isValid = true ∧ t.total = total := by
  simp only [ofTotal?, Option.bind_eq_bind, Option.bind_eq_some_iff, Number.int64?_eq_some_iff,
    Option.ite_none_right_eq_some, Option.some.injEq]
  constructor
  · rintro ⟨seconds, whole, valid, rfl⟩
    have rest := toInt_ofInt_emod total
    refine ⟨valid, ?_⟩
    simp only [Timestamp.total, whole, rest]
    omega
  · rintro ⟨valid, rfl⟩
    obtain ⟨-, -, notNegative, nanos⟩ := canonical_of_isValid valid
    have whole : t.total / 1000000000 = t.seconds.toInt := by
      unfold Timestamp.total
      omega
    have rest : t.total % 1000000000 = t.nanos.toInt := by
      unfold Timestamp.total
      omega
    have same : (⟨t.seconds, Int32.ofInt (t.total % 1000000000)⟩ : Timestamp) = t := by
      rw [rest, Int32.ofInt_toInt]
    exact ⟨t.seconds, whole.symm, by rwa [same], same⟩

theorem exists_ofTotal?_iff {total : Int} : (∃ t, ofTotal? total = some t) ↔ InRange total := by
  rw [inRange_iff]
  constructor
  · rintro ⟨t, found⟩
    obtain ⟨valid, rfl⟩ := ofTotal?_eq_some_iff.mp found
    simp only [isValid, Bool.and_eq_true, decide_eq_true_eq] at valid
    unfold Timestamp.total
    omega
  · intro inRange
    have first : minSeconds = -62135596800 := rfl
    have last : maxSeconds = 253402300799 := rfl
    have whole : (Int64.ofInt (total / 1000000000)).toInt = total / 1000000000 := by
      apply Int64.toInt_ofInt_of_le
      · omega
      · omega
    have rest := toInt_ofInt_emod total
    refine ⟨⟨Int64.ofInt (total / 1000000000), Int32.ofInt (total % 1000000000)⟩, ?_⟩
    rw [ofTotal?_eq_some_iff]
    constructor
    · simp only [isValid, whole, rest, Bool.and_eq_true, decide_eq_true_eq]
      omega
    · simp only [Timestamp.total, whole, rest]
      omega

end Timestamp

namespace Duration

/-- Whether a number of nanoseconds has no more whole seconds than the longest duration, of either
sign. -/
def InRange (total : Int) : Prop := total.natAbs / 1000000000 ≤ maxSeconds

theorem total_of_ofTotal? {total : Int} {d : Duration} (made : ofTotal? total = some d) :
    d.total = total ∧ InRange total := by
  simp only [ofTotal?, Option.bind_eq_bind, Option.bind_eq_some_iff] at made
  obtain ⟨seconds, narrowed, made⟩ := made
  split at made
  · next valid =>
    cases made
    have whole : seconds.toInt = total.tdiv 1000000000 := Number.int64?_eq_some_iff.mp narrowed
    have below := (sameSign total).1
    have rest : (Int32.ofInt (total.tmod 1000000000)).toInt = total.tmod 1000000000 := by
      apply Int32.toInt_ofInt_of_le
      · omega
      · omega
    have inRange : seconds.toInt.natAbs ≤ maxSeconds := of_decide_eq_true valid
    rw [whole, Int.natAbs_tdiv] at inRange
    refine ⟨?_, inRange⟩
    simp only [Duration.total, whole, rest]
    rw [Int.mul_comm]
    exact Int.mul_tdiv_add_tmod total 1000000000
  · cases made

theorem exists_ofTotal? {total : Int} (inRange : InRange total) :
    ∃ d, ofTotal? total = some d := by
  have size : (total.tdiv 1000000000).natAbs ≤ maxSeconds := by
    rw [Int.natAbs_tdiv]
    exact inRange
  have most : maxSeconds = 315576000000 := rfl
  cases narrowed : Number.int64? (total.tdiv 1000000000) with
  | none =>
    rcases Number.int64?_eq_none_iff.mp narrowed with low | high
    · omega
    · omega
  | some seconds =>
    have whole : seconds.toInt = total.tdiv 1000000000 := Number.int64?_eq_some_iff.mp narrowed
    have valid : (⟨seconds, Int32.ofInt (total.tmod 1000000000)⟩ : Duration).isValid = true := by
      apply decide_eq_true
      rw [whole]
      exact size
    refine ⟨⟨seconds, Int32.ofInt (total.tmod 1000000000)⟩, ?_⟩
    simp only [ofTotal?, narrowed, Option.bind_eq_bind, Option.bind_some, if_pos valid]

/-- Only one duration has a given length. -/
theorem Canonical.eq_of_total {d d' : Duration} (canonical : d.Canonical) (canonical' : d'.Canonical)
    (same : d.total = d'.total) : d = d' := by
  obtain ⟨-, nanos, notFalling, notRising⟩ := canonical
  obtain ⟨-, nanos', notFalling', notRising'⟩ := canonical'
  unfold total at same
  obtain ⟨seconds, nanos⟩ := d
  obtain ⟨seconds', nanos'⟩ := d'
  rw [Duration.mk.injEq, ← Int64.toInt_inj, ← Int32.toInt_inj]
  dsimp only at *
  omega

theorem Canonical.inRange {d : Duration} (canonical : d.Canonical) : InRange d.total := by
  obtain ⟨seconds, nanos, notFalling, notRising⟩ := canonical
  have most : maxSeconds = 315576000000 := rfl
  unfold InRange total
  omega

/-- A number of nanoseconds is taken apart into the seconds and the nanoseconds of a normalised
duration. -/
theorem ofTotal?_eq_some_iff {total : Int} {d : Duration} :
    ofTotal? total = some d ↔ d.Canonical ∧ d.total = total := by
  constructor
  · exact fun made => ⟨canonical_of_ofTotal? made, (total_of_ofTotal? made).1⟩
  · rintro ⟨canonical, rfl⟩
    obtain ⟨found, made⟩ := exists_ofTotal? canonical.inRange
    have same := (canonical_of_ofTotal? made).eq_of_total canonical (total_of_ofTotal? made).1
    rw [made, same]

theorem exists_ofTotal?_iff {total : Int} : (∃ d, ofTotal? total = some d) ↔ InRange total :=
  ⟨fun ⟨_, made⟩ => (total_of_ofTotal? made).2, exists_ofTotal?⟩

end Duration

end Cel
