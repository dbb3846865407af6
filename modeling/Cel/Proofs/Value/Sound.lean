import Cel.Proofs.Reveal.Persists
import Cel.Proofs.Value.Keys
import Cel.Proofs.Value.Parts

/-! # Well-formed values

A well-formed value holds, at every depth, no map that has a number under two keys, only timestamps of
the years 1 to 9999, and only durations in range whose seconds and nanoseconds do not have opposite
signs. Times that are computed from a number of nanoseconds or read from a text are of this kind.
-/

namespace Cel

/-- Whether a timestamp lies in the years 1 to 9999, and its nanoseconds are less than a second. -/
structure Timestamp.Canonical (t : Timestamp) : Prop where
  notBefore : Time.Date.toDays ⟨1, 1, 1⟩ * 86400 ≤ t.seconds.toInt
  notAfter : t.seconds.toInt < Time.Date.toDays ⟨10000, 1, 1⟩ * 86400
  notNegative : 0 ≤ t.nanos.toInt
  nanos : t.nanos.toInt < 1000000000

/-- The timestamps that are checked to be valid are those of the years 1 to 9999. -/
theorem Timestamp.canonical_of_isValid {t : Timestamp} (valid : t.isValid = true) :
    t.Canonical := by
  have first : Time.Date.toDays ⟨1, 1, 1⟩ * 86400 = minSeconds := by decide
  have behindLast : Time.Date.toDays ⟨10000, 1, 1⟩ * 86400 = maxSeconds + 1 := by decide
  simp only [isValid, Bool.and_eq_true, decide_eq_true_eq] at valid
  obtain ⟨⟨notBefore, notAfter⟩, notNegative, nanos⟩ := valid
  exact ⟨by rwa [first], by rw [behindLast]; omega, notNegative, nanos⟩

/-- Whether a duration is in range, and its parts are in range and not of opposite signs. -/
structure Duration.Canonical (d : Duration) : Prop where
  seconds : d.seconds.toInt.natAbs ≤ 315576000000
  nanos : d.nanos.toInt.natAbs < 1000000000
  notFalling : ¬(0 < d.seconds.toInt ∧ d.nanos.toInt < 0)
  notRising : ¬(d.seconds.toInt < 0 ∧ 0 < d.nanos.toInt)

/-- A number of nanoseconds is cut off toward zero, so what is left over has its sign. -/
theorem Duration.sameSign (total : Int) :
    (total.tmod 1000000000).natAbs < 1000000000 ∧
      (0 ≤ total.tdiv 1000000000 ∧ 0 ≤ total.tmod 1000000000 ∨
        total.tdiv 1000000000 ≤ 0 ∧ total.tmod 1000000000 ≤ 0) := by
  rcases Int.le_total 0 total with nonneg | nonpos
  · rw [Int.tdiv_eq_ediv_of_nonneg nonneg, Int.tmod_eq_emod_of_nonneg nonneg]
    omega
  · obtain ⟨magnitude, rfl⟩ : ∃ magnitude : Int, total = -magnitude := ⟨-total, by omega⟩
    rw [Int.neg_tdiv, Int.neg_tmod, Int.tdiv_eq_ediv_of_nonneg (by omega),
      Int.tmod_eq_emod_of_nonneg (by omega)]
    omega

theorem Duration.canonical_of_ofTotal? {total : Int} {d : Duration}
    (found : Duration.ofTotal? total = some d) : d.Canonical := by
  simp only [ofTotal?, Option.bind_eq_bind, Option.bind_eq_some_iff] at found
  obtain ⟨seconds, narrowed, found⟩ := found
  obtain ⟨below, signs⟩ := sameSign total
  split at found
  · next valid =>
    cases found
    have whole : seconds.toInt = total.tdiv 1000000000 := Number.int64?_eq_some_iff.mp narrowed
    have rest : (Int32.ofInt (total.tmod 1000000000)).toInt = total.tmod 1000000000 := by
      apply Int32.toInt_ofInt_of_le <;> omega
    refine ⟨of_decide_eq_true valid, ?_, ?_, ?_⟩ <;> simp only [whole, rest] <;> omega
  · cases found

theorem Duration.canonical_of_read {text : String} {d : Duration}
    (denoted : Duration.read text = .ok d) : d.Canonical := by
  unfold read at denoted
  simp only at denoted
  split at denoted
  · cases denoted
  · cases sum : parts 0 (Number.sign text.toList).2 with
    | error fault =>
      rw [sum] at denoted
      cases denoted
    | ok nanos =>
      rw [sum] at denoted
      simp only [bind, Except.bind] at denoted
      split at denoted
      · next found =>
        cases denoted
        exact canonical_of_ofTotal? found
      · cases denoted

theorem Timestamp.canonical_of_ofTotal? {total : Int} {t : Timestamp}
    (found : Timestamp.ofTotal? total = some t) : t.Canonical := by
  simp only [ofTotal?, Option.bind_eq_bind, Option.bind_eq_some_iff] at found
  obtain ⟨seconds, -, found⟩ := found
  split at found
  · next valid =>
    cases found
    exact canonical_of_isValid valid
  · cases found

theorem Timestamp.canonical_of_read {text : String} {t : Timestamp}
    (denoted : Timestamp.read text = .ok t) : t.Canonical := by
  unfold read at denoted
  split at denoted
  · cases denoted
  · simp only at denoted
    split at denoted
    · next valid =>
      cases denoted
      exact canonical_of_isValid valid
    · cases denoted

namespace Value

/-- Whether a value, regardless of its parts, is well-formed. -/
def Sound : Value → Prop
  | map entries => DistinctKeys entries
  | timestamp t => t.Canonical
  | duration d => d.Canonical
  | _ => True

/-- Whether a value is well-formed at every depth. -/
def WellFormed (value : Value) : Prop := Everywhere Sound value

/-- Whether no unknown value stands anywhere in a value. -/
def UnknownFree (value : Value) : Prop := Everywhere Known value

/-- Whether a value is sound and known and has no parts. Most operations make such values. -/
structure Atomic (value : Value) : Prop where
  flat : value.parts = []
  known : value.Known
  sound : value.Sound

@[simp] theorem atomic_null : Atomic null := ⟨rfl, rfl, trivial⟩

@[simp] theorem atomic_bool (value : Bool) : Atomic (bool value) := ⟨rfl, rfl, trivial⟩

@[simp] theorem atomic_int (value : Int64) : Atomic (int value) := ⟨rfl, rfl, trivial⟩

@[simp] theorem atomic_uint (value : UInt64) : Atomic (uint value) := ⟨rfl, rfl, trivial⟩

@[simp] theorem atomic_double (value : Double) : Atomic (double value) := ⟨rfl, rfl, trivial⟩

@[simp] theorem atomic_string (value : String) : Atomic (string value) := ⟨rfl, rfl, trivial⟩

@[simp] theorem atomic_bytes (value : List UInt8) : Atomic (bytes value) := ⟨rfl, rfl, trivial⟩

theorem atomic_timestamp {t : Timestamp} (canonical : t.Canonical) : Atomic (timestamp t) :=
  ⟨rfl, rfl, canonical⟩

theorem atomic_duration {d : Duration} (canonical : d.Canonical) : Atomic (duration d) :=
  ⟨rfl, rfl, canonical⟩

/-- A key is a value without parts. -/
@[simp] theorem atomic_ofKey (key : MapKey) : Atomic (ofKey key) := by
  cases key <;> simp [ofKey]

@[simp] theorem atomic_ofConstant (constant : Constant) : Atomic (ofConstant constant) := by
  cases constant <;> simp [ofConstant]

end Value

end Cel
