import Mathlib.Algebra.Order.Floor.Semifield
import Mathlib.Order.Compare
import Cel.Proofs.Number.Rounding

/-! # Exact operations on doubles

Doubles are compared by the numbers that they denote. The whole part of a double, its fraction and the
double with the opposite sign are all doubles again, and so they are computed without an error.
-/

namespace Cel

/-! ### Numbers and their order -/

theorem cmp_isLE_iff {α : Type} [LinearOrder α] (x y : α) : (cmp x y).isLE = true ↔ x ≤ y := by
  rw [← not_lt, ← cmp_eq_gt_iff]
  cases cmp x y <;> decide

theorem cmp_isGE_iff {α : Type} [LinearOrder α] (x y : α) : (cmp x y).isGE = true ↔ y ≤ x := by
  rw [← cmp_swap, Ordering.isGE_swap, cmp_isLE_iff]

namespace Double

theorem form_of_rat? {d : Double} {q : ℚ} (denotes : d.rat? = some q) :
    ∃ negative significand exponent, d.form = .finite negative significand exponent ∧
      q = signOf negative * (significand * 2 ^ exponent) := by
  unfold rat? at denotes
  split at denotes
  · next negative significand exponent form =>
    exact ⟨negative, significand, exponent, form, (Option.some.inj denotes).symm⟩
  · cases denotes

/-- The dyadic rational of a finite double is the number that it denotes. -/
theorem exists_dyadic?_of_rat? {d : Double} {q : ℚ} (denotes : d.rat? = some q) :
    ∃ x, d.dyadic? = some x ∧ x.toRat = q := by
  obtain ⟨negative, significand, exponent, form, rfl⟩ := form_of_rat? denotes
  have exact : d.dyadic? = some
      (Dyadic.ofIntWithPrec (if negative then -(significand : Int) else significand) (-exponent)) := by
    simp only [dyadic?, form]
  refine ⟨_, exact, ?_⟩
  rw [Dyadic.toRat_ofIntWithPrec_eq_mul_two_pow, neg_neg]
  cases negative with
  | false => simp [signOf]
  | true => simp [signOf]

theorem exists_extended?_of_rat? {d : Double} {q : ℚ} (denotes : d.rat? = some q) :
    ∃ x, d.extended? = some (.exact x) ∧ x.toRat = q := by
  obtain ⟨x, exact, value⟩ := exists_dyadic?_of_rat? denotes
  obtain ⟨negative, significand, exponent, form, -⟩ := form_of_rat? denotes
  exact ⟨x, by simp only [extended?, form, exact, Option.map_some], value⟩

theorem Extended.compare_exact (x y : Dyadic) :
    (Extended.exact x).compare (.exact y) = cmp x.toRat y.toRat := by
  change (if x < y then .lt else if y < x then .gt else .eq) =
    if x.toRat < y.toRat then Ordering.lt else if y.toRat < x.toRat then .gt else .eq
  simp only [Dyadic.toRat_lt_toRat_iff]

/-- Finite doubles are in the order of the numbers that they denote. -/
theorem compare?_of_rat? {a b : Double} {x y : ℚ} (left : a.rat? = some x) (right : b.rat? = some y) :
    a.compare? b = some (cmp x y) := by
  obtain ⟨x, leftExact, rfl⟩ := exists_extended?_of_rat? left
  obtain ⟨y, rightExact, rfl⟩ := exists_extended?_of_rat? right
  rw [compare?, leftExact, rightExact]
  exact congrArg some (Extended.compare_exact x y)

/-! ### Numbers that are doubles -/

theorem rat?_zero (negative : Bool) : (zero negative).rat? = some 0 := by
  have form := form_ofMagnitude negative (show 0 < 2 ^ 63 by decide)
  rw [if_neg (by decide), if_pos (by decide)] at form
  rw [zero, rat?_of_form form]
  simp

/-- A dyadic rational as a sign and a quotient. -/
theorem signOf_mul_quotient (n precision : Int) (odd : n % 2 = 1) :
    ((n.natAbs <<< (-precision).toNat : Nat) : ℚ) / (1 <<< precision.toNat : Nat) =
        |(Dyadic.ofOdd n precision odd).toRat| ∧
      signOf (n < 0) * |(Dyadic.ofOdd n precision odd).toRat| =
        (Dyadic.ofOdd n precision odd).toRat := by
  have power : (2 : ℚ) ^ (-precision).toNat / 2 ^ precision.toNat = 2 ^ (-precision) := by
    rw [← zpow_natCast, ← zpow_natCast, ← zpow_sub₀ (by norm_num)]
    congr 1
    omega
  have powPos : (0 : ℚ) < 2 ^ (-precision) := by positivity
  rw [Dyadic.toRat_ofOdd_eq_mul_two_pow, abs_mul, abs_of_pos powPos]
  constructor
  · rw [Nat.shiftLeft_eq, Nat.one_shiftLeft]
    push_cast
    rw [mul_div_assoc, power, Nat.cast_natAbs, Int.cast_abs]
  · rw [← mul_assoc, signOf_mul_abs]

section Fits

variable {bits : Nat} {place : Int} (fits : bits < 2 ^ 53) (least : -1074 ≤ place)
  (small : (bits : ℚ) * 2 ^ place < 2 ^ (1023 : Int))

include fits least small

/-- A quotient that has at most fifty-three bits is rounded to itself. -/
theorem rat?_nearest_of_fits (negative : Bool) {num den : Nat} (denPos : 0 < den)
    (value : (num : ℚ) / den = bits * 2 ^ place) :
    (nearest negative num den).rat? = some (signOf negative * (num / den)) := by
  rcases Nat.eq_zero_or_pos num with rfl | numPos
  · simpa [nearest] using rat?_zero negative
  rw [← value] at small
  obtain ⟨significand, exponent, rounds, denotes⟩ :=
    exists_rat?_nearest negative numPos denPos small
  rw [value] at rounds
  rw [denotes, rounds.eq_of_fits fits least, value]

theorem rat?_ofInt_of_fits {n : Int} (value : |(n : ℚ)| = bits * 2 ^ place) :
    (ofInt n).rat? = some (n : ℚ) := by
  have size : ((n.natAbs : Nat) : ℚ) / (1 : Nat) = |(n : ℚ)| := by
    rw [Nat.cast_one, div_one, Nat.cast_natAbs, Int.cast_abs]
  rw [ofInt, rat?_nearest_of_fits fits least small _ Nat.one_pos (size.trans value), size,
    signOf_mul_abs]

/-- A dyadic rational that has at most fifty-three bits is rounded to itself. -/
theorem rat?_ofDyadic_of_fits (zeroNegative : Bool) {x : Dyadic}
    (value : |x.toRat| = bits * 2 ^ place) : (ofDyadic zeroNegative x).rat? = some x.toRat := by
  cases x with
  | zero => simpa [ofDyadic] using rat?_zero zeroNegative
  | ofOdd n precision odd =>
    obtain ⟨size, signed⟩ := signOf_mul_quotient n precision odd
    have denPos : 0 < 1 <<< precision.toNat := by
      rw [Nat.one_shiftLeft]
      positivity
    rw [ofDyadic, rat?_nearest_of_fits fits least small _ denPos (size.trans value), size, signed]

end Fits

/-- The powers of two in range, of either sign, are doubles. -/
theorem rat?_ofInt_of_abs_eq_two_pow {n : Int} {place : Nat} (value : |n| = 2 ^ place)
    (small : place < 1023) : (ofInt n).rat? = some (n : ℚ) := by
  have value' : |(n : ℚ)| = (1 : Nat) * 2 ^ (place : Int) := by
    rw [Nat.cast_one, one_mul, zpow_natCast]
    exact_mod_cast value
  refine rat?_ofInt_of_fits (by decide) (by omega) ?_ value'
  rw [Nat.cast_one, one_mul]
  exact zpow_lt_zpow_right₀ (by norm_num) (by omega)

theorem rat?_ofInt_zero : (ofInt 0).rat? = some ((0 : Int) : ℚ) := by
  rw [Int.cast_zero]
  exact rat?_zero false

/-! ### Signs and differences -/

theorem rat?_neg {d : Double} {q : ℚ} (denotes : d.rat? = some q) : d.neg.rat? = some (-q) := by
  obtain ⟨negative, significand, exponent, form, rfl⟩ := form_of_rat? denotes
  have opposite : d.neg.form = .finite (!negative) significand exponent := by
    have small : d.bits.toNat % 2 ^ 63 < 2 ^ 63 := Nat.mod_lt _ (by decide)
    have whole : d.bits.toNat < 2 ^ 64 := UInt64.toNat_lt _
    have same : d.neg = ofMagnitude (!negative) (d.bits.toNat % 2 ^ 63) := by
      simp only [neg, form]
      rfl
    rw [same, form_ofMagnitude _ small]
    have biased : (d.bits.toNat >>> 52) % (1 <<< 11) = d.bits.toNat % 2 ^ 63 / 2 ^ 52 := by
      change (d.bits.toNat >>> 52) % 2 ^ 11 = _
      rw [Nat.shiftRight_eq_div_pow]
      omega
    have fraction : d.bits.toNat % (1 <<< 52) = d.bits.toNat % 2 ^ 63 % 2 ^ 52 := by
      change d.bits.toNat % 2 ^ 52 = _
      omega
    simp only [Double.form, biased, fraction] at form
    split at form
    · split at form <;> cases form
    · next notTop =>
      rw [if_neg notTop]
      split at form
      · next low =>
        cases form
        rw [if_pos low]
      · next notLow =>
        cases form
        rw [if_neg notLow]
        rfl
  rw [rat?_of_form opposite]
  cases negative <;> simp [signOf]

/-- A difference that has at most fifty-three bits is computed without an error. -/
theorem rat?_sub_of_fits {a b : Double} {x y : ℚ} (left : a.rat? = some x) (right : b.rat? = some y)
    {bits : Nat} {place : Int} (fits : bits < 2 ^ 53) (least : -1074 ≤ place)
    (small : (bits : ℚ) * 2 ^ place < 2 ^ (1023 : Int)) (value : |x - y| = bits * 2 ^ place) :
    (a.sub b).rat? = some (x - y) := by
  have opposite := rat?_neg right
  obtain ⟨x, leftExact, rfl⟩ := exists_dyadic?_of_rat? left
  obtain ⟨z, rightExact, isOpposite⟩ := exists_dyadic?_of_rat? opposite
  obtain ⟨s, _, _, leftForm, -⟩ := form_of_rat? left
  obtain ⟨t, _, _, rightForm, -⟩ := form_of_rat? opposite
  have sum : a.sub b = ofDyadic (s && t) (x + z) := by
    simp only [sub, add, leftForm, rightForm, leftExact, rightExact, Option.getD_some]
  have total : (x + z).toRat = x.toRat - y := by
    rw [Dyadic.toRat_add, isOpposite, ← sub_eq_add_neg]
  rw [← total] at value ⊢
  rw [sum]
  exact rat?_ofDyadic_of_fits fits least small _ value

/-! ### Whole parts and fractions -/

/-- The whole part of a product with a power of two. -/
theorem whole_eq_floor (significand : Nat) (exponent : Int) :
    (if 0 ≤ exponent then significand <<< exponent.toNat else significand >>> (-exponent).toNat) =
      ⌊(significand : ℚ) * 2 ^ exponent⌋₊ := by
  split
  · next nonneg =>
    obtain ⟨count, rfl⟩ := Int.eq_ofNat_of_zero_le nonneg
    rw [Int.toNat_natCast, Nat.shiftLeft_eq, zpow_natCast]
    exact_mod_cast (Nat.floor_natCast (significand * 2 ^ count)).symm
  · next negative =>
    obtain ⟨count, rfl⟩ : ∃ count : Nat, exponent = -count := ⟨(-exponent).toNat, by omega⟩
    rw [neg_neg, Int.toNat_natCast, Nat.shiftRight_eq_div_pow, zpow_neg, zpow_natCast,
      ← div_eq_mul_inv, ← Nat.floor_div_eq_div (K := ℚ)]
    norm_cast

/-- The whole part and the fraction of a double have no more bits than the double. -/
theorem exists_parts_fit {significand : Nat} {exponent : Int} (fits : significand < 2 ^ 53)
    (least : -1074 ≤ exponent) :
    (∃ (bits : Nat) (place : Int), bits < 2 ^ 53 ∧ 0 ≤ place ∧
      (⌊(significand : ℚ) * 2 ^ exponent⌋₊ : ℚ) = bits * 2 ^ place) ∧
    ∃ (bits : Nat) (place : Int), bits < 2 ^ 53 ∧ -1074 ≤ place ∧
      (significand : ℚ) * 2 ^ exponent - ⌊(significand : ℚ) * 2 ^ exponent⌋₊ = bits * 2 ^ place := by
  rw [← whole_eq_floor]
  split
  · next nonneg =>
    obtain ⟨count, rfl⟩ := Int.eq_ofNat_of_zero_le nonneg
    have whole : ((significand <<< count : Nat) : ℚ) = significand * 2 ^ (count : Int) := by
      rw [Nat.shiftLeft_eq, zpow_natCast]
      push_cast
      rfl
    rw [Int.toNat_natCast, whole]
    refine ⟨⟨significand, count, fits, nonneg, rfl⟩, 0, 0, by decide, by decide, ?_⟩
    simp
  · next negative =>
    obtain ⟨count, rfl⟩ : ∃ count : Nat, exponent = -count := ⟨(-exponent).toNat, by omega⟩
    rw [neg_neg, Int.toNat_natCast, Nat.shiftRight_eq_div_pow]
    have less : significand / 2 ^ count ≤ significand := Nat.div_le_self _ _
    have rest : significand % 2 ^ count ≤ significand := Nat.mod_le _ _
    refine ⟨⟨significand / 2 ^ count, 0, by omega, le_rfl, by simp⟩, significand % 2 ^ count, -count,
      by omega, least, ?_⟩
    have divided : (significand : ℚ) =
        2 ^ count * (significand / 2 ^ count : Nat) + (significand % 2 ^ count : Nat) := by
      exact_mod_cast (Nat.div_add_mod significand (2 ^ count)).symm
    rw [zpow_neg, zpow_natCast, sub_eq_iff_eq_add]
    nth_rewrite 1 [divided]
    field_simp
    ring

/-- A number without its fractional part. -/
def towardZero (q : ℚ) : Int := if 0 ≤ q then ⌊q⌋ else ⌈q⌉

theorem towardZero_signed (negative : Bool) {p : ℚ} (nonneg : 0 ≤ p) :
    towardZero (signOf negative * p) = if negative then -(⌊p⌋₊ : Int) else ⌊p⌋₊ := by
  have floor : ((⌊p⌋₊ : Nat) : Int) = ⌊p⌋ := Int.natCast_floor_eq_floor nonneg
  cases negative with
  | false => simp [towardZero, signOf, nonneg, floor]
  | true =>
    rcases nonneg.eq_or_lt with rfl | pos
    · simp [towardZero, signOf]
    · simp [towardZero, signOf, not_le.mpr pos, floor, Int.ceil_neg]

theorem towardZero_intCast (n : Int) : towardZero (n : ℚ) = n := by
  simp [towardZero]

theorem truncate?_of_rat? {d : Double} {q : ℚ} (denotes : d.rat? = some q) :
    d.truncate? = some (towardZero q) := by
  obtain ⟨negative, significand, exponent, form, rfl⟩ := form_of_rat? denotes
  rw [towardZero_signed negative (by positivity), ← whole_eq_floor]
  simp only [truncate?, form]

/-- A double that is not too large has a whole part and a fraction, both without an error. -/
theorem rat?_trunc {d : Double} {q : ℚ} (denotes : d.rat? = some q) (small : |q| < 2 ^ (1023 : Int)) :
    d.trunc.rat? = some (towardZero q : ℚ) ∧
      (d.sub d.trunc).rat? = some (q - (towardZero q : ℚ)) := by
  have truncated := truncate?_of_rat? denotes
  obtain ⟨negative, significand, exponent, form, rfl⟩ := form_of_rat? denotes
  obtain ⟨fits, least, -⟩ := bounds_of_form form
  set p : ℚ := significand * 2 ^ exponent with isMagnitude
  have nonneg : 0 ≤ p := mul_nonneg (Nat.cast_nonneg _) (zpow_nonneg (by norm_num) _)
  rw [abs_signOf_mul, abs_of_nonneg nonneg] at small
  have below : (⌊p⌋₊ : ℚ) ≤ p := Nat.floor_le nonneg
  obtain ⟨⟨bits, place, bitsFit, placeNonneg, whole⟩, fraction, place', fractionFits, least', rest⟩ :=
    exists_parts_fit fits least
  rw [← isMagnitude] at whole rest
  have signedWhole : (towardZero (signOf negative * p) : ℚ) = signOf negative * ⌊p⌋₊ := by
    rw [towardZero_signed negative nonneg]
    cases negative <;> simp [signOf]
  have magnitude : (towardZero (signOf negative * p)).natAbs = ⌊p⌋₊ := by
    rw [towardZero_signed negative nonneg]
    cases negative <;> simp
  have wholeDenotes : d.trunc.rat? = some (towardZero (signOf negative * p) : ℚ) := by
    have unfolded : d.trunc = nearest negative ⌊p⌋₊ 1 := by
      simp only [trunc, form, truncated, Option.getD_some, magnitude]
    have small' : (bits : ℚ) * 2 ^ place < 2 ^ (1023 : Int) := by
      rw [← whole]
      exact below.trans_lt small
    have value : ((⌊p⌋₊ : Nat) : ℚ) / (1 : Nat) = bits * 2 ^ place := by
      rw [Nat.cast_one, div_one, whole]
    rw [unfolded, rat?_nearest_of_fits bitsFit (by omega) small' negative Nat.one_pos value,
      signedWhole, Nat.cast_one, div_one]
  refine ⟨wholeDenotes, ?_⟩
  have small' : (fraction : ℚ) * 2 ^ place' < 2 ^ (1023 : Int) := by
    rw [← rest]
    have : (0 : ℚ) ≤ ⌊p⌋₊ := Nat.cast_nonneg _
    linarith only [this, small]
  have value : |signOf negative * p - (towardZero (signOf negative * p) : ℚ)| =
      fraction * 2 ^ place' := by
    rw [signedWhole, ← mul_sub, ← rest, abs_signOf_mul, abs_of_nonneg (sub_nonneg.mpr below)]
  exact rat?_sub_of_fits denotes wholeDenotes fractionFits least' small' value

/-! ### Integers -/

/-- A number has no fraction exactly if its magnitude has none. -/
theorem towardZero_signed_eq_iff (negative : Bool) {p : ℚ} (nonneg : 0 ≤ p) :
    (towardZero (signOf negative * p) : ℚ) = signOf negative * p ↔ (⌊p⌋₊ : ℚ) = p := by
  rw [towardZero_signed negative nonneg]
  cases negative <;> simp [signOf]

/-- The bits behind the point are all zero exactly if there is no fraction. -/
theorem noFraction_iff (significand : Nat) (exponent : Int) :
    (0 ≤ exponent ∨ significand % (1 <<< (-exponent).toNat) = 0) ↔
      (⌊(significand : ℚ) * 2 ^ exponent⌋₊ : ℚ) = significand * 2 ^ exponent := by
  rw [← whole_eq_floor]
  split
  · next nonneg =>
    obtain ⟨count, rfl⟩ := Int.eq_ofNat_of_zero_le nonneg
    refine iff_of_true (.inl nonneg) ?_
    rw [Int.toNat_natCast, Nat.shiftLeft_eq, zpow_natCast]
    push_cast
    rfl
  · next negative =>
    obtain ⟨count, rfl⟩ : ∃ count : Nat, exponent = -count := ⟨(-exponent).toNat, by omega⟩
    have powPos : (0 : ℚ) < 2 ^ count := by positivity
    rw [neg_neg, Int.toNat_natCast, Nat.shiftRight_eq_div_pow, Nat.one_shiftLeft, zpow_neg,
      zpow_natCast, ← div_eq_mul_inv, eq_div_iff powPos.ne', or_iff_right negative,
      ← Nat.dvd_iff_mod_eq_zero, Nat.dvd_iff_div_mul_eq]
    norm_cast

/-- A double denotes an integer exactly if this is its value. -/
theorem integer?_eq_some_iff {d : Double} {n : Int} : d.integer? = some n ↔ d.rat? = some (n : ℚ) := by
  cases form : d.form with
  | nan | infinite => simp [integer?, rat?, form]
  | finite negative significand exponent =>
    have denotes := rat?_of_form form
    have nonneg : (0 : ℚ) ≤ significand * 2 ^ exponent :=
      mul_nonneg (Nat.cast_nonneg _) (zpow_nonneg (by norm_num) _)
    have whole := (noFraction_iff significand exponent).trans
      (towardZero_signed_eq_iff negative nonneg).symm
    obtain ⟨q, isValue⟩ : ∃ q : ℚ, q = signOf negative * (significand * 2 ^ exponent) := ⟨_, rfl⟩
    rw [← isValue] at denotes whole
    have found : d.integer? = if (towardZero q : ℚ) = q then d.truncate? else none := by
      simp only [integer?, truncate?, form, whole]
    rw [found, truncate?_of_rat? denotes, denotes, Option.some.injEq]
    constructor
    · intro isInteger
      split at isInteger
      · next noFraction =>
        rw [← noFraction, Option.some.inj isInteger]
      · cases isInteger
    · rintro rfl
      rw [towardZero_intCast, if_pos rfl]

theorem rat?_eq_some_iff {d : Double} {x : Dyadic} :
    d.rat? = some x.toRat ↔ d.extended? = some (.exact x) := by
  constructor
  · intro denotes
    obtain ⟨y, exact, value⟩ := exists_extended?_of_rat? denotes
    rw [exact, Dyadic.toRat_inj.mp value]
  · intro exact
    cases form : d.form with
    | nan => simp [extended?, form] at exact
    | infinite negative => cases negative <;> simp [extended?, form] at exact
    | finite negative significand exponent =>
      obtain ⟨y, exact', value⟩ := exists_extended?_of_rat? (rat?_of_form form)
      cases exact.symm.trans exact'
      rw [value, rat?_of_form form]

end Double

end Cel
