import Cel.Proofs.Number.Exact

/-! # Rounding errors

A rounded number is off by at most half a unit of its last place, and the size of the number bounds that
place. So a number that is very close to an integer is rounded to the integer. Products of doubles are
rounded once.
-/

namespace Cel.Double

namespace Rounds

variable {q : ℚ} {significand : Nat} {exponent : Int}

/-- Half a unit of the last place bounds the error. -/
theorem error_le (rounds : Rounds q significand exponent) :
    |(significand : ℚ) * 2 ^ exponent - q| ≤ 2 ^ exponent / 2 := by
  have unit : (0 : ℚ) < 2 ^ exponent := zpow_pos (by norm_num) _
  have split : (significand : ℚ) * 2 ^ exponent - q = (significand - q / 2 ^ exponent) * 2 ^ exponent := by
    rw [sub_mul, div_mul_cancel₀ _ unit.ne']
  calc |(significand : ℚ) * 2 ^ exponent - q|
      = |significand - q / 2 ^ exponent| * 2 ^ exponent := by rw [split, abs_mul, abs_of_pos unit]
    _ ≤ 1 / 2 * 2 ^ exponent := mul_le_mul_of_nonneg_right rounds.near unit.le
    _ = 2 ^ exponent / 2 := by ring

/-- The last place of a large number is large. -/
theorem le_exponent (rounds : Rounds q significand exponent) {top : Int} (large : 2 ^ top ≤ q) :
    top ≤ exponent + 52 := by
  have := (zpow_lt_zpow_iff_right₀ (by norm_num : (1 : ℚ) < 2)).mp (large.trans_lt rounds.above)
  omega

/-- A number that is closer to an integer than half a unit of its last place is rounded to the integer. -/
theorem eq_of_near (rounds : Rounds q significand exponent) {n : Nat} (fine : exponent ≤ 0)
    (near : |q - n| < 2 ^ exponent / 2) : (significand : ℚ) * 2 ^ exponent = n := by
  obtain ⟨count, rfl⟩ : ∃ count : Nat, exponent = -count := ⟨(-exponent).toNat, by omega⟩
  have unit : (0 : ℚ) < 2 ^ (-(count : Int)) := zpow_pos (by norm_num) _
  have whole : (n : ℚ) = ((n * 2 ^ count : Nat) : ℚ) * 2 ^ (-(count : Int)) := by
    rw [zpow_neg, zpow_natCast]
    push_cast
    field_simp
  have close : |q / 2 ^ (-(count : Int)) - ((n * 2 ^ count : Nat) : ℚ)| < 1 / 2 := by
    have split : q / 2 ^ (-(count : Int)) - ((n * 2 ^ count : Nat) : ℚ) =
        (q - n) / 2 ^ (-(count : Int)) := by
      rw [sub_div, eq_comm]
      congr 1
      rw [div_eq_iff unit.ne']
      exact whole
    rw [split, abs_div, abs_of_pos unit, div_lt_iff₀ unit]
    linarith only [near]
  have same : significand = n * 2 ^ count := by
    have total : |(significand : ℚ) - ((n * 2 ^ count : Nat) : ℚ)| < 1 :=
      calc |(significand : ℚ) - ((n * 2 ^ count : Nat) : ℚ)|
          ≤ |(significand : ℚ) - q / 2 ^ (-(count : Int))| +
              |q / 2 ^ (-(count : Int)) - ((n * 2 ^ count : Nat) : ℚ)| := abs_sub_le _ _ _
        _ < 1 / 2 + 1 / 2 := add_lt_add_of_le_of_lt rounds.near close
        _ = 1 := by norm_num
    exact eq_of_abs_sub_lt_one total
  rw [same]
  exact whole.symm

end Rounds

/-- A positive product is rounded once. -/
theorem exists_rat?_mul {a b : Double} {x y : ℚ} (left : a.rat? = some x) (right : b.rat? = some y)
    (pos : 0 < x * y) (small : x * y < 2 ^ (1023 : Int)) :
    ∃ significand exponent, Rounds (x * y) significand exponent ∧
      (a.mul b).rat? = some ((significand : ℚ) * 2 ^ exponent) := by
  obtain ⟨v, leftExact, rfl⟩ := exists_dyadic?_of_rat? left
  obtain ⟨w, rightExact, rfl⟩ := exists_dyadic?_of_rat? right
  obtain ⟨s, _, _, leftForm, -⟩ := form_of_rat? left
  obtain ⟨t, _, _, rightForm, -⟩ := form_of_rat? right
  have product : a.mul b = ofDyadic (s ^^ t) (v * w) := by
    simp only [mul, leftForm, rightForm, leftExact, rightExact, Option.getD_some]
  rw [← Dyadic.toRat_mul] at pos small ⊢
  rw [product]
  generalize v * w = value at pos small ⊢
  cases value with
  | zero => exact absurd pos (lt_irrefl 0)
  | ofOdd n precision odd =>
    obtain ⟨size, signed⟩ := signOf_mul_quotient n precision odd
    rw [abs_of_pos pos] at size signed
    have isPositive : signOf (n < 0) = 1 := mul_right_cancel₀ pos.ne' (signed.trans (one_mul _).symm)
    have denPos : 0 < 1 <<< precision.toNat := by
      rw [Nat.one_shiftLeft]
      exact Nat.two_pow_pos _
    have numPos : 0 < n.natAbs <<< (-precision).toNat := by
      apply Nat.pos_of_ne_zero
      intro zero
      rw [zero, Nat.cast_zero, zero_div] at size
      exact pos.ne size
    rw [← size] at small ⊢
    obtain ⟨significand, exponent, rounds, denotes⟩ := exists_rat?_nearest (n < 0) numPos denPos small
    rw [isPositive, one_mul] at denotes
    exact ⟨significand, exponent, rounds, denotes⟩

end Cel.Double
