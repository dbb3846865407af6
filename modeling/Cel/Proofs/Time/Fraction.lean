import Cel.Proofs.Number.Error
import Cel.Proofs.Time.Digits
import Cel.Time.Duration

/-! # Fractions of a second as doubles

The digits of a fraction are read as a double, which is multiplied by a billion and cut off. Both steps
round, and so a nanosecond can be lost, but no more than one. None is lost if the share of the second has
a last place that is fine enough, which depends on how far below the next power of two a billion lies.
-/

namespace Cel.Duration

open Double (Rounds)

/-! ### Two roundings -/

/-- Whether a number of nanoseconds, doubled often enough, lies between a billion and the next power of
two. -/
def IsCoarse (nanos : Nat) : Prop := ∃ place, 10 ^ 9 ≤ nanos * 2 ^ place ∧ nanos * 2 ^ place < 2 ^ 30

section Rounded

variable {nanos significand product : Nat} {exponent place : Int} (small : nanos < 10 ^ 9)
  (share : Rounds (nanos / 10 ^ 9) significand exponent)
  (rounds : Rounds (significand * 2 ^ exponent * 10 ^ 9) product place)

include share

/-- The error of a share is multiplied by a billion. -/
theorem share_error_le :
    |(significand : ℚ) * 2 ^ exponent * 10 ^ 9 - nanos| ≤ 10 ^ 9 * (2 ^ exponent / 2) := by
  have split : (significand : ℚ) * 2 ^ exponent * 10 ^ 9 - nanos =
      10 ^ 9 * (significand * 2 ^ exponent - nanos / 10 ^ 9) := by ring
  rw [split, abs_mul, abs_of_pos (by norm_num : (0 : ℚ) < 10 ^ 9)]
  exact mul_le_mul_of_nonneg_left share.error_le (by norm_num)

include small

theorem share_error_lt : |(significand : ℚ) * 2 ^ exponent * 10 ^ 9 - nanos| < 1 / 2 ^ 24 := by
  have below : (nanos : ℚ) / 10 ^ 9 < 2 ^ (0 : Int) := by
    rw [zpow_zero, div_lt_one (by norm_num)]
    exact_mod_cast small
  have top := share.exponent_le below (by decide)
  have unit : (2 : ℚ) ^ exponent ≤ 2 ^ (-53 : Int) := zpow_le_zpow_right₀ (by norm_num) (by omega)
  have value : (2 : ℚ) ^ (-53 : Int) = 1 / 2 ^ 53 := by norm_num
  rw [value] at unit
  have error := share_error_le share
  linarith only [error, unit]

include rounds

/-- The last place of the product is at most the twenty-third behind the point. -/
theorem place_le : place ≤ -23 := by
  have error := abs_lt.mp (share_error_lt small share)
  have whole : (nanos : ℚ) ≤ 10 ^ 9 := by exact_mod_cast small.le
  have below : (significand : ℚ) * 2 ^ exponent * 10 ^ 9 < 2 ^ (30 : Int) := by
    have value : (2 : ℚ) ^ (30 : Int) = 1073741824 := by norm_num
    rw [value]
    linarith only [error, whole]
  have := rounds.exponent_le below (by decide)
  omega

/-- At most one nanosecond is lost. -/
theorem floor_product_cases :
    ⌊(product : ℚ) * 2 ^ place⌋₊ = nanos ∨ ⌊(product : ℚ) * 2 ^ place⌋₊ + 1 = nanos := by
  have nonneg : (0 : ℚ) ≤ product * 2 ^ place :=
    mul_nonneg (Nat.cast_nonneg _) (zpow_nonneg (by norm_num) _)
  have unit : (2 : ℚ) ^ place ≤ 2 ^ (-23 : Int) :=
    zpow_le_zpow_right₀ (by norm_num) (place_le small share rounds)
  have value : (2 : ℚ) ^ (-23 : Int) = 1 / 2 ^ 23 := by norm_num
  rw [value] at unit
  obtain ⟨low, high⟩ := abs_lt.mp (share_error_lt small share)
  obtain ⟨low', high'⟩ := abs_le.mp rounds.error_le
  rcases le_or_gt (nanos : ℚ) (product * 2 ^ place) with reached | missed
  · left
    rw [Nat.floor_eq_iff nonneg]
    exact ⟨reached, by linarith only [unit, high, high']⟩
  · right
    obtain ⟨before, rfl⟩ : ∃ before, nanos = before + 1 := by
      apply Nat.exists_eq_succ_of_ne_zero
      rintro rfl
      rw [Nat.cast_zero] at missed
      exact absurd missed (not_lt.mpr nonneg)
    push_cast at missed low
    have floor : ⌊(product : ℚ) * 2 ^ place⌋₊ = before := by
      rw [Nat.floor_eq_iff nonneg]
      exact ⟨by linarith only [unit, low, low'], missed⟩
    rw [floor]

/-- No nanosecond is lost if the share is fine, unless the number is a power of two, below which doubles
are finer than above. -/
theorem floor_product_eq (fine : ¬IsCoarse nanos) (notPower : ∀ count, nanos ≠ 2 ^ count)
    (pos : 0 < nanos) : ⌊(product : ℚ) * 2 ^ place⌋₊ = nanos := by
  let bits := nanos.log2
  have least : 2 ^ bits < nanos := Nat.lt_of_le_of_ne (Nat.log2_self_le pos.ne') (notPower bits).symm
  have most : nanos < 2 ^ (bits + 1) := Nat.lt_log2_self
  have short : bits ≤ 29 := by
    have : 2 ^ bits < 2 ^ 30 := by omega
    have := (Nat.pow_lt_pow_iff_right (by decide)).mp this
    omega
  have lifted : nanos * 2 ^ (29 - bits) < 10 ^ 9 := by
    by_contra reaches
    refine fine ⟨29 - bits, not_lt.mp reaches, ?_⟩
    calc nanos * 2 ^ (29 - bits) < 2 ^ (bits + 1) * 2 ^ (29 - bits) :=
          Nat.mul_lt_mul_of_pos_right most (Nat.two_pow_pos _)
      _ = 2 ^ 30 := by
        rw [← Nat.pow_add]
        congr 1
        omega
  have below : (nanos : ℚ) / 10 ^ 9 < 2 ^ ((bits : Int) - 29) := by
    have power : (2 : ℚ) ^ ((bits : Int) - 29) = 1 / 2 ^ (29 - bits) := by
      rw [one_div, ← zpow_natCast, ← zpow_neg]
      congr 1
      omega
    have lifted' : (nanos : ℚ) * 2 ^ (29 - bits) < 10 ^ 9 := by exact_mod_cast lifted
    rw [power, div_lt_div_iff₀ (by norm_num) (pow_pos (by norm_num) _), one_mul]
    exact lifted'
  have top := share.exponent_le below (by omega)
  have unit : (2 : ℚ) ^ exponent ≤ 2 ^ ((bits : Int) - 82) := zpow_le_zpow_right₀ (by norm_num) (by omega)
  have error := share_error_le share
  have large : (2 : ℚ) ^ (bits : Int) ≤ significand * 2 ^ exponent * 10 ^ 9 := by
    have bound := (abs_lt.mp (share_error_lt small share)).1
    have least' : (2 : ℚ) ^ bits + 1 ≤ nanos := by exact_mod_cast least
    rw [zpow_natCast]
    linarith only [bound, least']
  have fits := rounds.le_exponent large
  have near : |(significand : ℚ) * 2 ^ exponent * 10 ^ 9 - nanos| < 2 ^ place / 2 := by
    have unitPos : (0 : ℚ) < 2 ^ ((bits : Int) - 82) := zpow_pos (by norm_num) _
    have step : (2 : ℚ) ^ ((bits : Int) - 82) * 2 ^ (30 : Int) = 2 ^ ((bits : Int) - 52) := by
      rw [← zpow_add₀ (by norm_num)]
      congr 1
      omega
    have lower : (2 : ℚ) ^ ((bits : Int) - 52) ≤ 2 ^ place :=
      zpow_le_zpow_right₀ (by norm_num) (by omega)
    have value : (2 : ℚ) ^ (30 : Int) = 1073741824 := by norm_num
    rw [value] at step
    linarith only [error, unit, unitPos, step, lower]
  have fine := place_le small share rounds
  rw [rounds.eq_of_near (by omega) near, Nat.floor_natCast]

end Rounded

/-! ### The digits of a fraction -/

open Number (natOf)
open Time (fractionDigits fractionDigits_spec)

/-- A share of a second is rounded to a double. -/
theorem scaled_eq_nearest {value count : Nat} (pos : 0 < value) (proper : value < 10 ^ count)
    (short : count ≤ 9) : Number.scaled false value (-count) = .nearest false value (10 ^ count) := by
  have countPos : 0 < count := by
    apply Nat.pos_of_ne_zero
    rintro rfl
    omega
  have length : (Nat.toDigits 10 value).length ≤ count :=
    (Nat.length_toDigits_le_iff (by decide) countPos).mpr proper
  have upper : ¬(310 : Int) < -count + (Nat.toDigits 10 value).length := by omega
  have lower : ¬(-count + (Nat.toDigits 10 value).length : Int) < -330 := by omega
  have numerator : value * Nat.pow 10 (-(count : Int)).toNat = value := by
    rw [show (-(count : Int)).toNat = 0 by omega]
    exact Nat.mul_one _
  have denominator : Nat.pow 10 (-(-(count : Int))).toNat = 10 ^ count := by
    rw [neg_neg, Int.toNat_natCast]
    rfl
  simp only [Number.scaled, if_neg pos.ne', if_neg upper, if_neg lower, numerator, denominator]

theorem lt_two_pow_1023 {q : ℚ} (small : q < 2 ^ 30) : q < 2 ^ (1023 : Int) := by
  have power : (2 : ℚ) ^ 30 = 2 ^ (30 : Int) := (zpow_natCast 2 30).symm
  rw [power] at small
  exact small.trans_le (zpow_le_zpow_right₀ (by norm_num) (by decide))

theorem rat?_billion : (Double.ofInt 1000000000).rat? = some (10 ^ 9) := by
  have small : ((1000000000 : Nat) : ℚ) * 2 ^ (0 : Int) < 2 ^ (1023 : Int) := by
    apply lt_two_pow_1023
    norm_num
  have value : |((1000000000 : Int) : ℚ)| = (1000000000 : Nat) * 2 ^ (0 : Int) := by norm_num
  have denotes := Double.rat?_ofInt_of_fits (by decide) (by decide) small value
  rw [denotes]
  norm_num

/-- The two roundings of a fraction of a second. -/
theorem exists_fractionNanos {digits : List Char} {nanos : Nat} (short : digits.length ≤ 9)
    (spells : natOf 10 0 digits * 10 ^ (9 - digits.length) = nanos) (pos : 0 < nanos)
    (small : nanos < 10 ^ 9) :
    ∃ (significand product : Nat) (exponent place : Int),
      Rounds (nanos / 10 ^ 9) significand exponent ∧
      Rounds (significand * 2 ^ exponent * 10 ^ 9) product place ∧
      fractionNanos digits 1000000000 = ⌊(product : ℚ) * 2 ^ place⌋₊ := by
  generalize isValue : natOf 10 0 digits = value at spells
  generalize isCount : digits.length = count at short spells
  have powers : 10 ^ count * 10 ^ (9 - count) = 10 ^ 9 := by
    rw [← Nat.pow_add]
    congr 1
    omega
  have valuePos : 0 < value := by
    apply Nat.pos_of_ne_zero
    rintro rfl
    omega
  have proper : value < 10 ^ count := by
    apply Nat.lt_of_mul_lt_mul_right (a := 10 ^ (9 - count))
    rw [spells, powers]
    exact small
  have quotient : (value : ℚ) / (10 ^ count : Nat) = nanos / 10 ^ 9 := by
    have powers' : ((10 ^ count : Nat) : ℚ) * 10 ^ (9 - count) = 10 ^ 9 := by exact_mod_cast powers
    have spells' : (nanos : ℚ) = value * 10 ^ (9 - count) := by exact_mod_cast spells.symm
    rw [← powers', spells', mul_div_mul_right _ _ (pow_ne_zero _ (by norm_num))]
  have below : (value : ℚ) / (10 ^ count : Nat) < 2 ^ (1023 : Int) := by
    apply lt_two_pow_1023
    have less : (value : ℚ) / (10 ^ count : Nat) < 1 := by
      rw [div_lt_one (by exact_mod_cast Nat.pow_pos (by decide))]
      exact_mod_cast proper
    linarith only [less]
  obtain ⟨significand, exponent, share, denotes⟩ :=
    Double.exists_rat?_nearest false valuePos (Nat.pow_pos (by decide)) below
  rw [quotient] at share
  have positive : Double.signOf false = 1 := rfl
  rw [positive, one_mul] at denotes
  obtain ⟨low, high⟩ := abs_lt.mp (share_error_lt small share)
  have least : (1 : ℚ) ≤ nanos := by exact_mod_cast pos
  have most : (nanos : ℚ) ≤ 10 ^ 9 := by exact_mod_cast small.le
  obtain ⟨product, place, rounds, product'⟩ := Double.exists_rat?_mul denotes rat?_billion
    (by linarith only [low, least]) (lt_two_pow_1023 (by linarith only [high, most]))
  refine ⟨significand, product, exponent, place, share, rounds, ?_⟩
  have nonneg : (0 : ℚ) ≤ product * 2 ^ place :=
    mul_nonneg (Nat.cast_nonneg _) (zpow_nonneg (by norm_num) _)
  have truncated := Double.truncate?_of_rat? product'
  rw [Double.towardZero, if_pos nonneg] at truncated
  have computed : fractionNanos digits 1000000000 =
      (((Number.scaled false value (-count)).mul (Double.ofInt 1000000000)).truncate?.getD 0).toNat := by
    rw [fractionNanos, isValue, isCount]
    rfl
  rw [computed, scaled_eq_nearest valuePos proper short, truncated, Option.getD_some, Int.floor_toNat]

/-- A fraction of a second is read with a loss of at most one nanosecond. -/
theorem fractionNanos_cases {digits : List Char} {nanos : Nat} (short : digits.length ≤ 9)
    (spells : natOf 10 0 digits * 10 ^ (9 - digits.length) = nanos) (pos : 0 < nanos)
    (small : nanos < 10 ^ 9) :
    fractionNanos digits 1000000000 = nanos ∨ fractionNanos digits 1000000000 + 1 = nanos := by
  obtain ⟨significand, product, exponent, place, share, rounds, computed⟩ :=
    exists_fractionNanos short spells pos small
  rw [computed]
  exact floor_product_cases small share rounds

theorem fractionNanos_eq {digits : List Char} {nanos : Nat} (short : digits.length ≤ 9)
    (spells : natOf 10 0 digits * 10 ^ (9 - digits.length) = nanos) (pos : 0 < nanos)
    (small : nanos < 10 ^ 9) (fine : ¬IsCoarse nanos) (notPower : ∀ count, nanos ≠ 2 ^ count) :
    fractionNanos digits 1000000000 = nanos := by
  obtain ⟨significand, product, exponent, place, share, rounds, computed⟩ :=
    exists_fractionNanos short spells pos small
  rw [computed]
  exact floor_product_eq small share rounds fine notPower pos

/-! ### What is read -/

/-- The powers of two up to half a billion are read as they are. -/
theorem fractionNanos_two_pow : ∀ count < 30,
    fractionNanos (fractionDigits (2 ^ count)) 1000000000 = 2 ^ count := by decide +kernel

/-- The nanoseconds that a written fraction is read as. -/
def readNanos (nanos : Nat) : Nat :=
  if nanos = 0 then 0 else fractionNanos (fractionDigits nanos) 1000000000

/-- At most one nanosecond is lost. -/
theorem readNanos_cases {nanos : Nat} (small : nanos < 10 ^ 9) :
    readNanos nanos = nanos ∨ readNanos nanos + 1 = nanos := by
  rw [readNanos]
  rcases Nat.eq_zero_or_pos nanos with rfl | pos
  · exact .inl rfl
  · rw [if_neg pos.ne']
    obtain ⟨short, -, spells⟩ := fractionDigits_spec small
    exact fractionNanos_cases short spells pos small

/-- No nanosecond is lost of a number that is not coarse. -/
theorem readNanos_eq {nanos : Nat} (small : nanos < 10 ^ 9) (fine : ¬IsCoarse nanos) :
    readNanos nanos = nanos := by
  rw [readNanos]
  rcases Nat.eq_zero_or_pos nanos with rfl | pos
  · rfl
  rw [if_neg pos.ne']
  by_cases isPower : ∃ count, nanos = 2 ^ count
  · obtain ⟨count, rfl⟩ := isPower
    apply fractionNanos_two_pow
    have bound : 2 ^ count < 2 ^ 30 := by omega
    exact (Nat.pow_lt_pow_iff_right (by decide)).mp bound
  · obtain ⟨short, -, spells⟩ := fractionDigits_spec small
    exact fractionNanos_eq short spells pos small fine (not_exists.mp isPower)

end Cel.Duration
