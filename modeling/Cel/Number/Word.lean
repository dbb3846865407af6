/-! # Machine integers

Integers are 64-bit words, signed or unsigned. Arithmetic is carried out exactly on unbounded
integers and the result is narrowed afterwards, so that an operation either gives the exact result
or none at all.
-/

namespace Cel.Number

/-- The signed word with the value `n`, if there is one. -/
def int64? (n : Int) : Option Int64 :=
  if -0x8000000000000000 ≤ n ∧ n < 0x8000000000000000 then some (Int64.ofInt n) else none

/-- The unsigned word with the value `n`, if there is one. -/
def uint64? (n : Int) : Option UInt64 :=
  if 0 ≤ n ∧ n < 0x10000000000000000 then some (UInt64.ofNat n.toNat) else none

/-- Narrowing finds exactly the word whose value was asked for. -/
theorem int64?_eq_some_iff {n : Int} {word : Int64} : int64? n = some word ↔ word.toInt = n := by
  unfold int64?
  have low := Int64.le_toInt word
  have high := Int64.toInt_lt word
  constructor
  · intro narrowed
    split at narrowed
    · next bounds =>
      cases narrowed
      exact Int64.toInt_ofInt_of_le bounds.1 bounds.2
    · contradiction
  · rintro rfl
    rw [if_pos ⟨low, high⟩, Int64.ofInt_toInt]

/-- Narrowing fails exactly outside the signed range. -/
theorem int64?_eq_none_iff {n : Int} : int64? n = none ↔ n < -0x8000000000000000 ∨ 0x8000000000000000 ≤ n := by
  unfold int64?
  split <;> simp only [reduceCtorEq, false_iff, true_iff] <;> omega

/-- Narrowing finds exactly the word whose value was asked for. -/
theorem uint64?_eq_some_iff {n : Int} {word : UInt64} :
    uint64? n = some word ↔ (word.toNat : Int) = n := by
  unfold uint64?
  have high := UInt64.toNat_lt word
  constructor
  · intro narrowed
    split at narrowed
    · next bounds =>
      cases narrowed
      rw [UInt64.toNat_ofNat_of_lt' (show n.toNat < 2 ^ 64 by omega)]
      omega
    · contradiction
  · rintro rfl
    rw [if_pos (by omega)]
    simp

/-- Narrowing fails exactly outside the unsigned range. -/
theorem uint64?_eq_none_iff {n : Int} : uint64? n = none ↔ n < 0 ∨ 0x10000000000000000 ≤ n := by
  unfold uint64?
  split <;> simp only [reduceCtorEq, false_iff, true_iff] <;> omega

end Cel.Number
