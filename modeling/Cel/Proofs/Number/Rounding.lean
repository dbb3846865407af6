import Mathlib.Algebra.Order.Field.Power
import Mathlib.Algebra.Order.Round
import Mathlib.Data.Nat.Cast.Order.Field
import Mathlib.Data.Rat.Floor
import Mathlib.Tactic.FieldSimp
import Mathlib.Tactic.Linarith
import Mathlib.Tactic.Positivity
import Mathlib.Tactic.Ring
import Cel.Number.Double

/-! # Rounding to doubles

A finite double denotes a rational number. A quotient is rounded to a significand of at most
fifty-three bits at an exponent that depends on its size only; the double then denotes the multiple of
that power of two which is nearest to the quotient. A number that is such a multiple itself is not
changed.
-/

namespace Cel.Double

/-! ### What finite doubles denote -/

/-- The factor that a sign stands for. -/
def signOf (negative : Bool) : ℚ := if negative then -1 else 1

theorem abs_signOf_mul (negative : Bool) (x : ℚ) : |signOf negative * x| = |x| := by
  cases negative with
  | false => rw [signOf, if_neg Bool.false_ne_true, one_mul]
  | true => rw [signOf, if_pos rfl, neg_one_mul, abs_neg]

theorem signOf_mul_abs (n : Int) : signOf (n < 0) * |(n : ℚ)| = n := by
  rcases lt_or_ge n 0 with negative | nonneg
  · have negative' : (n : ℚ) < 0 := by exact_mod_cast negative
    simp [signOf, negative, abs_of_neg negative']
  · have nonneg' : (0 : ℚ) ≤ n := by exact_mod_cast nonneg
    simp [signOf, not_lt.mpr nonneg, abs_of_nonneg nonneg']

/-- The rational number that a finite double denotes. -/
def rat? (d : Double) : Option ℚ :=
  match d.form with
  | .finite negative significand exponent => some (signOf negative * (significand * 2 ^ exponent))
  | _ => none

theorem rat?_of_form {d : Double} {negative : Bool} {significand : Nat} {exponent : Int}
    (form : d.form = .finite negative significand exponent) :
    d.rat? = some (signOf negative * (significand * 2 ^ exponent)) := by
  simp only [rat?, form]

/-- A finite double has at most fifty-three bits, and its exponent is in range. -/
theorem bounds_of_form {d : Double} {negative : Bool} {significand : Nat} {exponent : Int}
    (form : d.form = .finite negative significand exponent) :
    significand < 2 ^ 53 ∧ -1074 ≤ exponent ∧ exponent ≤ 971 := by
  have fraction : d.bits.toNat % (1 <<< 52) < 2 ^ 52 := Nat.mod_lt _ (by decide)
  have biased : (d.bits.toNat >>> 52) % (1 <<< 11) < 2 ^ 11 := Nat.mod_lt _ (by decide)
  simp only [Double.form] at form
  split at form
  · split at form <;> cases form
  · next notTop =>
    split at form
    · cases form
      omega
    · next notLow =>
      cases form
      omega

/-- A double is put together from its sign, its exponent and its fraction. -/
theorem form_ofMagnitude (negative : Bool) {magnitude : Nat} (small : magnitude < 2 ^ 63) :
    (ofMagnitude negative magnitude).form =
      if magnitude / 2 ^ 52 = 2047 then
        if magnitude % 2 ^ 52 = 0 then .infinite negative else .nan
      else if magnitude / 2 ^ 52 = 0 then .finite negative (magnitude % 2 ^ 52) (-1074)
      else .finite negative (2 ^ 52 + magnitude % 2 ^ 52) ((magnitude / 2 ^ 52 : Nat) - 1075) := by
  obtain ⟨top, isTop⟩ : ∃ top, top = if negative then 2 ^ 63 else 0 := ⟨_, rfl⟩
  have signs : negative = false ∧ top = 0 ∨ negative = true ∧ top = 2 ^ 63 := by
    cases negative with
    | false => exact .inl ⟨rfl, isTop⟩
    | true => exact .inr ⟨rfl, isTop⟩
  have bits : (ofMagnitude negative magnitude).bits.toNat = top + magnitude := by
    rw [isTop]
    apply UInt64.toNat_ofNat_of_lt'
    change (if negative then 2 ^ 63 else 0) + magnitude < 2 ^ 64
    rw [← isTop]
    omega
  have sign : decide (2 ^ 63 ≤ top + magnitude) = negative := by
    rcases signs with ⟨rfl, rfl⟩ | ⟨rfl, rfl⟩
    · exact decide_eq_false (by omega)
    · exact decide_eq_true (by omega)
  have biased : ((top + magnitude) >>> 52) % 2 ^ 11 = magnitude / 2 ^ 52 := by
    rw [Nat.shiftRight_eq_div_pow]
    omega
  have fraction : (top + magnitude) % 2 ^ 52 = magnitude % 2 ^ 52 := by omega
  simp only [form, bits]
  change (if ((top + magnitude) >>> 52) % 2 ^ 11 = 2047 then
      if (top + magnitude) % 2 ^ 52 = 0 then Form.infinite (decide (2 ^ 63 ≤ top + magnitude)) else .nan
    else if ((top + magnitude) >>> 52) % 2 ^ 11 = 0 then
      .finite (decide (2 ^ 63 ≤ top + magnitude)) ((top + magnitude) % 2 ^ 52) (-1074)
    else .finite (decide (2 ^ 63 ≤ top + magnitude)) (2 ^ 52 + (top + magnitude) % 2 ^ 52)
      ((((top + magnitude) >>> 52) % 2 ^ 11 : Nat) - 1075)) = _
  rw [sign, biased, fraction]

/-- A significand of at most fifty-three bits, or the next number after them, is put together with an
exponent. Only at the least exponent may it have fewer bits. -/
theorem rat?_packed (negative : Bool) {significand : Nat} {exponent : Int}
    (least : -1074 ≤ exponent) (greatest : exponent ≤ 970) (fits : significand ≤ 2 ^ 53)
    (full : exponent = -1074 ∨ 2 ^ 52 ≤ significand) :
    (ofMagnitude negative (((exponent + 1074).toNat <<< 52) + significand)).rat? =
      some (signOf negative * (significand * 2 ^ exponent)) := by
  obtain ⟨place, rfl⟩ : ∃ place : Nat, exponent = place - 1074 :=
    ⟨(exponent + 1074).toNat, by omega⟩
  have shifted : ((place : Int) - 1074 + 1074).toNat <<< 52 = place * 2 ^ 52 := by
    rw [Nat.shiftLeft_eq]
    congr 1
    omega
  have form := form_ofMagnitude negative
    (show place * 2 ^ 52 + significand < 2 ^ 63 by omega)
  rw [shifted]
  rcases Nat.lt_or_ge significand (2 ^ 52) with short | long
  · -- The least exponent, with a significand of fewer bits.
    obtain rfl : place = 0 := by omega
    rw [if_neg (by omega), if_pos (by omega)] at form
    rw [rat?_of_form form]
    have same : (0 * 2 ^ 52 + significand) % 2 ^ 52 = significand := by omega
    rw [same]
    norm_num
  rcases Nat.lt_or_ge significand (2 ^ 53) with proper | carried
  · rw [if_neg (by omega), if_neg (by omega)] at form
    have same : 2 ^ 52 + (place * 2 ^ 52 + significand) % 2 ^ 52 = significand := by omega
    have exponent : (((place * 2 ^ 52 + significand) / 2 ^ 52 : Nat) : Int) - 1075 =
        (place : Int) - 1074 := by omega
    rw [same, exponent] at form
    exact rat?_of_form form
  · -- The significand has been rounded up to a power of two, and the exponent goes up by one.
    obtain rfl : significand = 2 ^ 53 := by omega
    rw [if_neg (by omega), if_neg (by omega)] at form
    have same : 2 ^ 52 + (place * 2 ^ 52 + 2 ^ 53) % 2 ^ 52 = 2 ^ 52 := by omega
    have exponent : (((place * 2 ^ 52 + 2 ^ 53) / 2 ^ 52 : Nat) : Int) - 1075 =
        (place : Int) - 1074 + 1 := by omega
    rw [same, exponent] at form
    have denoted := rat?_of_form form
    have value : ((2 ^ 52 : Nat) : ℚ) * 2 ^ ((place : Int) - 1074 + 1) =
        (2 ^ 53 : Nat) * 2 ^ ((place : Int) - 1074) := by
      rw [zpow_add_one₀ (by norm_num)]
      push_cast
      ring
    rw [value] at denoted
    exact denoted

/-! ### Rounding a quotient -/

/-- The nearest natural number is at most half away. -/
theorem abs_roundQuotient_sub_le (num : Nat) {den : Nat} (pos : 0 < den) :
    |(roundQuotient num den : ℚ) - num / den| ≤ 1 / 2 := by
  have denPos : (0 : ℚ) < den := by exact_mod_cast pos
  have divided := Nat.div_add_mod num den
  have rest := Nat.mod_lt num pos
  have value : (num : ℚ) / den = (num / den : Nat) + (num % den : Nat) / den := by
    rw [div_eq_iff denPos.ne', add_mul, div_mul_cancel₀ _ denPos.ne']
    exact_mod_cast (by rw [Nat.mul_comm]; exact divided.symm)
  have low : (0 : ℚ) ≤ (num % den : Nat) / den := by positivity
  have high : ((num % den : Nat) : ℚ) / den < 1 := by
    rw [div_lt_one denPos]
    exact_mod_cast rest
  have half : (2 * ((num % den : Nat) : ℚ) / den < 1 ↔ 2 * (num % den) < den) ∧
      (1 < 2 * ((num % den : Nat) : ℚ) / den ↔ den < 2 * (num % den)) := by
    constructor
    · rw [div_lt_one denPos]
      exact_mod_cast Iff.rfl
    · rw [one_lt_div denPos]
      exact_mod_cast Iff.rfl
  rw [value, abs_le]
  simp only [mul_div_assoc] at half
  unfold roundQuotient
  dsimp only
  split
  · next below =>
    have := half.1.mpr below
    constructor <;> linarith
  · next notBelow =>
    have atLeast := not_lt.mp (mt half.1.mp notBelow)
    split
    · push_cast
      constructor <;> linarith
    · next notAbove =>
      have atMost := not_lt.mp (mt half.2.mp notAbove)
      have parity : num / den % 2 = 0 ∨ num / den % 2 = 1 := by omega
      rcases parity with even | odd
      · rw [even]
        push_cast
        constructor <;> linarith
      · rw [odd]
        push_cast
        constructor <;> linarith

/-- Scaling divides by a power of two. -/
theorem scale_value (num : Nat) {den : Nat} (pos : 0 < den) (exponent : Int) :
    0 < (scale num den exponent).2 ∧
      ((scale num den exponent).1 : ℚ) / (scale num den exponent).2 =
        num / den / 2 ^ exponent := by
  have denPos : (0 : ℚ) < den := by exact_mod_cast pos
  unfold scale
  split
  · next nonneg =>
    obtain ⟨count, rfl⟩ := Int.eq_ofNat_of_zero_le nonneg
    simp only [Int.toNat_natCast, Nat.shiftLeft_eq]
    refine ⟨by positivity, ?_⟩
    push_cast
    rw [zpow_natCast, div_div]
  · next negative =>
    obtain ⟨count, rfl⟩ : ∃ count : Nat, exponent = -count := ⟨(-exponent).toNat, by omega⟩
    simp only [neg_neg, Int.toNat_natCast, Nat.shiftLeft_eq]
    refine ⟨pos, ?_⟩
    push_cast
    rw [zpow_neg, zpow_natCast, div_inv_eq_mul, div_mul_eq_mul_div]

/-- A natural number lies between two powers of two. -/
theorem two_zpow_log2_le {n : Nat} (pos : 0 < n) :
    (2 : ℚ) ^ (n.log2 : Int) ≤ n ∧ (n : ℚ) < 2 ^ ((n.log2 : Int) + 1) := by
  constructor
  · rw [zpow_natCast]
    exact_mod_cast Nat.log2_self_le pos.ne'
  · have above : n < 2 ^ (n.log2 + 1) := Nat.lt_log2_self
    rw [← Int.natCast_succ, zpow_natCast]
    exact_mod_cast above

/-- At the chosen exponent a quotient has fifty-three bits before the point, or fewer if the exponent
is the least one. -/
theorem exponentFor_spec {num den : Nat} (numPos : 0 < num) (denPos : 0 < den) :
    -1074 ≤ exponentFor num den ∧ (num : ℚ) / den < 2 ^ (exponentFor num den + 53) ∧
      (exponentFor num den = -1074 ∨ 2 ^ (exponentFor num den + 52) ≤ (num : ℚ) / den) := by
  have two : (2 : ℚ) ≠ 0 := by norm_num
  have denPos' : (0 : ℚ) < den := by exact_mod_cast denPos
  obtain ⟨numLow, numHigh⟩ := two_zpow_log2_le numPos
  obtain ⟨denLow, denHigh⟩ := two_zpow_log2_le denPos
  set guess : Int := (num.log2 : Int) - den.log2 - 53 with isGuess
  -- The quotient of the logarithms is off by less than one in either direction.
  have above : (num : ℚ) / den < 2 ^ (guess + 54) := by
    rw [div_lt_iff₀ denPos']
    calc (num : ℚ) < 2 ^ ((num.log2 : Int) + 1) := numHigh
      _ = 2 ^ (guess + 54) * 2 ^ (den.log2 : Int) := by
        rw [← zpow_add₀ two]
        congr 1
        omega
      _ ≤ 2 ^ (guess + 54) * den := by gcongr
  have below : (2 : ℚ) ^ (guess + 52) ≤ num / den := by
    rw [le_div_iff₀ denPos']
    calc (2 : ℚ) ^ (guess + 52) * den ≤ 2 ^ (guess + 52) * 2 ^ ((den.log2 : Int) + 1) := by gcongr
      _ = 2 ^ (num.log2 : Int) := by
        rw [← zpow_add₀ two]
        congr 1
        omega
      _ ≤ num := numLow
  obtain ⟨scaledPos, scaledValue⟩ := scale_value num denPos guess
  have scaledPos' : (0 : ℚ) < (scale num den guess).2 := by exact_mod_cast scaledPos
  have reaches : (scale num den guess).2 <<< 53 ≤ (scale num den guess).1 ↔
      (2 : ℚ) ^ (guess + 53) ≤ num / den := by
    have cast : (scale num den guess).2 <<< 53 ≤ (scale num den guess).1 ↔
        (2 : ℚ) ^ (53 : Int) * (scale num den guess).2 ≤ (scale num den guess).1 := by
      rw [Nat.shiftLeft_eq, mul_comm]
      exact_mod_cast Iff.rfl
    rw [cast, ← le_div_iff₀ scaledPos', scaledValue, le_div_iff₀ (by positivity),
      ← zpow_add₀ two, add_comm]
  have chosen : exponentFor num den =
      max (if (scale num den guess).2 <<< 53 ≤ (scale num den guess).1 then guess + 1 else guess)
        (-1074) := rfl
  have lift {low high : Int} (le : low ≤ high) : (2 : ℚ) ^ low ≤ 2 ^ high :=
    zpow_le_zpow_right₀ (by norm_num) le
  rw [chosen]
  refine ⟨le_max_right _ _, ?_, ?_⟩
  · split
    · exact above.trans_le (lift (by omega))
    · next short => exact (not_le.mp (mt reaches.mpr short)).trans_le (lift (by omega))
  · split
    · next long =>
      rcases le_total (guess + 1) (-1074) with low | high
      · exact .inl (max_eq_right low)
      · right
        rw [max_eq_left high, show guess + 1 + 52 = guess + 53 by ring]
        exact reaches.mp long
    · rcases le_total guess (-1074) with low | high
      · exact .inl (max_eq_right low)
      · right
        rw [max_eq_left high]
        exact below

/-! ### The nearest double -/

/-- How a positive number is rounded: to the nearest multiple of a power of two at which it has
fifty-three bits, or of the least power of two. -/
structure Rounds (q : ℚ) (significand : Nat) (exponent : Int) : Prop where
  least : -1074 ≤ exponent
  above : q < 2 ^ (exponent + 53)
  full : exponent = -1074 ∨ 2 ^ (exponent + 52) ≤ q
  near : |(significand : ℚ) - q / 2 ^ exponent| ≤ 1 / 2

theorem eq_of_abs_sub_lt_one {m n : Nat} (close : |(m : ℚ) - n| < 1) : m = n := by
  have close' : |(m : Int) - n| < 1 := by exact_mod_cast close
  have := Int.abs_lt_one_iff.mp close'
  omega

namespace Rounds

variable {q : ℚ} {significand : Nat} {exponent : Int}

/-- The last place of a small number is small. -/
theorem exponent_le (rounds : Rounds q significand exponent) {top : Int} (small : q < 2 ^ top)
    (inRange : -1021 ≤ top) : exponent + 53 ≤ top := by
  rcases rounds.full with low | full
  · omega
  · have := (zpow_lt_zpow_iff_right₀ (by norm_num : (1 : ℚ) < 2)).mp (full.trans_lt small)
    omega

/-- The significand may be rounded up to the next power of two. -/
theorem significand_le (rounds : Rounds q significand exponent) : significand ≤ 2 ^ 53 := by
  have bound : q / 2 ^ exponent < 2 ^ 53 := by
    rw [div_lt_iff₀ (zpow_pos (by norm_num) _), ← zpow_natCast, ← zpow_add₀ (by norm_num), add_comm]
    exact rounds.above
  have below : (significand : ℚ) < ((2 ^ 53 + 1 : Nat) : ℚ) := by
    push_cast
    linarith only [bound, (abs_le.mp rounds.near).2]
  have : significand < 2 ^ 53 + 1 := by exact_mod_cast below
  omega

theorem le_significand (rounds : Rounds q significand exponent) :
    exponent = -1074 ∨ 2 ^ 52 ≤ significand := by
  refine rounds.full.imp_right fun full => ?_
  have bound : (2 : ℚ) ^ 52 ≤ q / 2 ^ exponent := by
    rw [le_div_iff₀ (zpow_pos (by norm_num) _), ← zpow_natCast, ← zpow_add₀ (by norm_num), add_comm]
    exact full
  have above : ((2 ^ 52 - 1 : Nat) : ℚ) < significand := by
    push_cast
    linarith only [bound, (abs_le.mp rounds.near).1]
  have : 2 ^ 52 - 1 < significand := by exact_mod_cast above
  omega

/-- A multiple of a power of two that has at most fifty-three bits is not changed. -/
theorem eq_of_fits {bits : Nat} {place : Int} (rounds : Rounds (bits * 2 ^ place) significand exponent)
    (fits : bits < 2 ^ 53) (least : -1074 ≤ place) :
    (significand : ℚ) * 2 ^ exponent = bits * 2 ^ place := by
  have two : (2 : ℚ) ≠ 0 := by norm_num
  have bound : (bits : ℚ) * 2 ^ place < 2 ^ (place + 53) := by
    rw [zpow_add₀ two, mul_comm]
    gcongr
    exact_mod_cast fits
  have le := rounds.exponent_le bound (by omega)
  obtain ⟨count, rfl⟩ : ∃ count : Nat, place = exponent + count := ⟨(place - exponent).toNat, by omega⟩
  have scaled : (bits : ℚ) * 2 ^ (exponent + (count : Int)) / 2 ^ exponent =
      ((bits * 2 ^ count : Nat) : ℚ) := by
    rw [zpow_add₀ two, zpow_natCast]
    push_cast
    field_simp
  have near := rounds.near
  rw [scaled] at near
  rw [eq_of_abs_sub_lt_one (near.trans_lt (by norm_num)), zpow_add₀ two, zpow_natCast]
  push_cast
  ring

end Rounds

/-- The nearest double to a positive quotient that is not too large. -/
theorem exists_rat?_nearest (negative : Bool) {num den : Nat} (numPos : 0 < num) (denPos : 0 < den)
    (small : (num : ℚ) / den < 2 ^ (1023 : Int)) :
    ∃ significand exponent, Rounds (num / den) significand exponent ∧
      (nearest negative num den).rat? = some (signOf negative * (significand * 2 ^ exponent)) := by
  obtain ⟨least, above, full⟩ := exponentFor_spec numPos denPos
  set exponent := exponentFor num den with isExponent
  obtain ⟨scaledPos, scaledValue⟩ := scale_value num denPos exponent
  set significand := roundQuotient (scale num den exponent).1 (scale num den exponent).2
    with isSignificand
  have near := abs_roundQuotient_sub_le (scale num den exponent).1 scaledPos
  rw [scaledValue, ← isSignificand] at near
  have rounds : Rounds (num / den) significand exponent := ⟨least, above, full, near⟩
  have greatest := rounds.exponent_le small (by decide)
  have fits := rounds.significand_le
  refine ⟨significand, exponent, rounds, ?_⟩
  have packed := rat?_packed negative least (by omega) fits rounds.le_significand
  have notCut : ((exponent + 1074).toNat <<< 52) + significand ≤ 2047 <<< 52 := by
    rw [Nat.shiftLeft_eq]
    omega
  have unfolded : nearest negative num den = ofMagnitude negative
      (min (((exponent + 1074).toNat <<< 52) + significand) (2047 <<< 52)) := by
    simp only [nearest, if_neg numPos.ne', ← isExponent, ← isSignificand]
  rw [unfolded, Nat.min_eq_left notCut]
  exact packed

end Cel.Double
