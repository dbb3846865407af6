import Cel.Number.Word
import Cel.Proofs.Value.Numbers

/-! # Doubles as machine integers

The whole part of a finite double is a double again, however large it is. A double without a fraction is
tested against the bounds of the words, which are powers of two and so doubles themselves. So the test is
exact, and a double is narrowed as the integer that its whole part denotes.
-/

namespace Cel.Double

variable {d : Double} {q : ℚ} {n : Int}

/-! ### Whole parts of large doubles -/

/-- A significand of fifty-three bits before the point keeps its place. -/
theorem exponentFor_of_full {significand place : Nat} (full : 2 ^ 52 ≤ significand)
    (fits : significand < 2 ^ 53) : exponentFor (significand <<< place) 1 = place := by
  have pos : 0 < significand <<< place := by
    rw [Nat.shiftLeft_eq]
    positivity
  have value : ((significand <<< place : Nat) : ℚ) / (1 : Nat) = significand * 2 ^ (place : Int) := by
    rw [Nat.shiftLeft_eq, Nat.cast_one, div_one, zpow_natCast]
    push_cast
    rfl
  have low : (2 : ℚ) ^ (place + 52 : Int) ≤ significand * 2 ^ (place : Int) := by
    rw [zpow_add₀ (by norm_num), mul_comm]
    gcongr
    exact_mod_cast full
  have high : (significand : ℚ) * 2 ^ (place : Int) < 2 ^ (place + 53 : Int) := by
    rw [zpow_add₀ (by norm_num), mul_comm]
    gcongr
    exact_mod_cast fits
  obtain ⟨least, above, below⟩ := exponentFor_spec pos Nat.one_pos
  rw [value] at above below
  have grows : StrictMono fun exponent : Int => (2 : ℚ) ^ exponent := zpow_right_strictMono₀ (by norm_num)
  have atLeast := grows.lt_iff_lt.mp (low.trans_lt above)
  rcases below with least | below
  · omega
  · have atMost := grows.lt_iff_lt.mp (below.trans_lt high)
    omega

theorem roundQuotient_shiftLeft (n place : Nat) : roundQuotient (n <<< place) (1 <<< place) = n := by
  have unit : 0 < 1 <<< place := by
    rw [Nat.one_shiftLeft]
    positivity
  have split : n <<< place = n * 1 <<< place := by rw [Nat.shiftLeft_eq, Nat.one_shiftLeft]
  simp only [roundQuotient, split, Nat.mul_div_cancel n unit, Nat.mul_mod_left, Nat.mul_zero, if_pos unit]

/-- An integer with fifty-three bits before its zeros is a double in the same form. -/
theorem form_nearest_of_full (negative : Bool) {significand place : Nat} (full : 2 ^ 52 ≤ significand)
    (fits : significand < 2 ^ 53) (inRange : place ≤ 971) :
    (nearest negative (significand <<< place) 1).form = .finite negative significand place := by
  have pos : significand <<< place ≠ 0 := by
    rw [Nat.shiftLeft_eq]
    positivity
  have scaled : scale (significand <<< place) 1 place = (significand <<< place, 1 <<< place) := by
    rw [scale, if_pos (Int.natCast_nonneg place), Int.toNat_natCast]
  have shifted : ((place : Int) + 1074).toNat <<< 52 = (place + 1074) * 2 ^ 52 := by
    rw [Nat.shiftLeft_eq]
    congr 1
  have notCut : (place + 1074) * 2 ^ 52 + significand ≤ 2047 <<< 52 := by
    rw [Nat.shiftLeft_eq]
    omega
  have unfolded : nearest negative (significand <<< place) 1 =
      ofMagnitude negative ((place + 1074) * 2 ^ 52 + significand) := by
    simp only [nearest, if_neg pos, exponentFor_of_full full fits, scaled, roundQuotient_shiftLeft, shifted,
      Nat.min_eq_left notCut]
  have packed := form_ofMagnitude negative
    (show (place + 1074) * 2 ^ 52 + significand < 2 ^ 63 by omega)
  rw [if_neg (by omega), if_neg (by omega)] at packed
  have same : 2 ^ 52 + ((place + 1074) * 2 ^ 52 + significand) % 2 ^ 52 = significand := by omega
  have exponent : ((((place + 1074) * 2 ^ 52 + significand) / 2 ^ 52 : Nat) : Int) - 1075 = place := by
    omega
  rw [unfolded, packed, same, exponent]

/-- A double that is too large for the bound of `rat?_trunc` has all the bits of its significand before the
point. -/
theorem exists_form_of_large (denotes : d.rat? = some q) (large : 2 ^ (1023 : Int) ≤ |q|) :
    ∃ negative significand, ∃ place : Nat, d.form = .finite negative significand place ∧
      2 ^ 52 ≤ significand := by
  obtain ⟨negative, significand, exponent, form, rfl⟩ := form_of_rat? denotes
  obtain ⟨fits, -, atMost⟩ := bounds_of_form form
  have nonneg : (0 : ℚ) ≤ significand * 2 ^ exponent :=
    mul_nonneg (Nat.cast_nonneg _) (zpow_nonneg (by norm_num) _)
  rw [abs_signOf_mul, abs_of_nonneg nonneg] at large
  have grows : StrictMono fun exponent : Int => (2 : ℚ) ^ exponent := zpow_right_strictMono₀ (by norm_num)
  have power : (2 : ℚ) ^ (1023 : Int) = 2 ^ (1023 - exponent) * 2 ^ exponent := by
    rw [← zpow_add₀ (by norm_num), sub_add_cancel]
  have bits : (2 : ℚ) ^ (1023 - exponent) ≤ significand :=
    le_of_mul_le_mul_right (power ▸ large) (zpow_pos (by norm_num) _)
  have few : (significand : ℚ) < 2 ^ (53 : Int) := by exact_mod_cast fits
  have greatest := grows.lt_iff_lt.mp (bits.trans_lt few)
  obtain ⟨place, rfl⟩ := Int.eq_ofNat_of_zero_le (show 0 ≤ exponent by omega)
  have full : (2 : ℚ) ^ (52 : Int) ≤ significand := by
    have last : (1023 : Int) - place = 52 := by omega
    rwa [last] at bits
  exact ⟨negative, significand, place, form, by exact_mod_cast full⟩

theorem towardZero_of_large (denotes : d.rat? = some q) (large : 2 ^ (1023 : Int) ≤ |q|) :
    (towardZero q : ℚ) = q := by
  obtain ⟨negative, significand, place, form, -⟩ := exists_form_of_large denotes large
  rw [rat?_of_form form, Option.some.injEq] at denotes
  rw [← denotes]
  have nonneg : (0 : ℚ) ≤ significand * 2 ^ (place : Int) :=
    mul_nonneg (Nat.cast_nonneg _) (zpow_nonneg (by norm_num) _)
  exact (towardZero_signed_eq_iff negative nonneg).mpr
    ((noFraction_iff significand place).mp (.inl (Int.natCast_nonneg place)))

theorem rat?_trunc_of_large (denotes : d.rat? = some q) (large : 2 ^ (1023 : Int) ≤ |q|) :
    d.trunc.rat? = some (towardZero q : ℚ) := by
  obtain ⟨negative, significand, place, form, full⟩ := exists_form_of_large denotes large
  obtain ⟨fits, -, atMost⟩ := bounds_of_form form
  have whole : d.trunc = nearest negative (significand <<< place) 1 := by
    simp only [trunc, form, truncate?, if_pos (Int.natCast_nonneg place), Int.toNat_natCast, Option.getD_some]
    congr 1
    cases negative with
    | false => exact Int.natAbs_natCast _
    | true => exact (Int.natAbs_neg _).trans (Int.natAbs_natCast _)
  rw [towardZero_of_large denotes large, ← denotes, rat?_of_form form, whole,
    rat?_of_form (form_nearest_of_full negative full fits (by omega))]

/-- The whole part of every finite double is a double. -/
theorem rat?_trunc_of_rat? (denotes : d.rat? = some q) : d.trunc.rat? = some (towardZero q : ℚ) := by
  rcases lt_or_ge |q| (2 ^ (1023 : Int)) with small | large
  · exact (rat?_trunc denotes small).1
  · exact rat?_trunc_of_large denotes large

theorem trunc_of_rat?_eq_none (notFinite : d.rat? = none) : d.trunc = d := by
  cases form : d.form with
  | nan | infinite => simp only [trunc, form]
  | finite => simp [rat?, form] at notFinite

/-! ### The bounds of the words -/

theorem compare?_ofInt {bound : Int} (denotes : d.rat? = some (n : ℚ))
    (isDouble : (ofInt bound).rat? = some (bound : ℚ)) :
    d.compare? (ofInt bound) = some (cmp n bound) := by
  have embedded : StrictMono fun n : Int => (n : ℚ) := Int.cast_strictMono
  rw [compare?_of_rat? denotes isDouble]
  exact congrArg some (embedded.cmp_map_eq n bound)

theorem rat?_ofInt_least : (ofInt (-0x8000000000000000)).rat? = some ((-0x8000000000000000 : Int) : ℚ) :=
  rat?_ofInt_of_abs_eq_two_pow (show |(-0x8000000000000000 : Int)| = 2 ^ 63 by decide) (by decide)

theorem rat?_ofInt_bound : (ofInt 0x8000000000000000).rat? = some ((0x8000000000000000 : Int) : ℚ) :=
  rat?_ofInt_of_abs_eq_two_pow (show |(0x8000000000000000 : Int)| = 2 ^ 63 by decide) (by decide)

theorem rat?_ofInt_neg_one : (ofInt (-1)).rat? = some ((-1 : Int) : ℚ) :=
  rat?_ofInt_of_abs_eq_two_pow (show |(-1 : Int)| = 2 ^ 0 by decide) (by decide)

theorem rat?_ofInt_unsignedBound :
    (ofInt 0x10000000000000000).rat? = some ((0x10000000000000000 : Int) : ℚ) :=
  rat?_ofInt_of_abs_eq_two_pow (show |(0x10000000000000000 : Int)| = 2 ^ 64 by decide) (by decide)

/-- A double that denotes an integer is narrowed as the integer. -/
theorem int64?_of_rat? (denotes : d.rat? = some (n : ℚ)) : d.int64? = Number.int64? n := by
  have low := compare?_ofInt denotes rat?_ofInt_least
  have high := compare?_ofInt denotes rat?_ofInt_bound
  have tested : ((cmp n (-0x8000000000000000)).isGE && (cmp n 0x8000000000000000).isLT) = true ↔
      -0x8000000000000000 ≤ n ∧ n < 0x8000000000000000 := by
    rw [Bool.and_eq_true, cmp_isGE_iff, Ordering.isLT_iff_eq_lt, cmp_eq_lt_iff]
  rw [int64?, Number.int64?, low, high, Option.any_some, Option.any_some]
  by_cases inRange : -0x8000000000000000 ≤ n ∧ n < 0x8000000000000000
  · rw [if_pos (tested.mpr inRange), if_pos inRange, clamp_of_rat? denotes, min_eq_right (by omega),
      max_eq_right inRange.1]
  · rw [if_neg (mt tested.mp inRange), if_neg inRange]

theorem uint64?_of_rat? (denotes : d.rat? = some (n : ℚ)) : d.uint64? = Number.uint64? n := by
  have low := compare?_ofInt denotes rat?_ofInt_neg_one
  have high := compare?_ofInt denotes rat?_ofInt_unsignedBound
  have tested : ((cmp n (-1)).isGT && (cmp n 0x10000000000000000).isLT) = true ↔
      0 ≤ n ∧ n < 0x10000000000000000 := by
    rw [Bool.and_eq_true, Ordering.isGT_iff_eq_gt, cmp_eq_gt_iff, Ordering.isLT_iff_eq_lt, cmp_eq_lt_iff]
    omega
  rw [uint64?, Number.uint64?, low, high, Option.any_some, Option.any_some]
  by_cases inRange : 0 ≤ n ∧ n < 0x10000000000000000
  · rw [if_pos (tested.mpr inRange), if_pos inRange, clamp_of_rat? denotes, min_eq_right (by omega),
      max_eq_right inRange.1]
  · rw [if_neg (mt tested.mp inRange), if_neg inRange]

/-- Neither NaN nor an infinity is a word. -/
theorem int64?_of_rat?_eq_none (notFinite : d.rat? = none) : d.int64? = none ∧ d.uint64? = none := by
  obtain ⟨least, leastExact, -⟩ := exists_extended?_of_rat? rat?_ofInt_least
  obtain ⟨bound, boundExact, -⟩ := exists_extended?_of_rat? rat?_ofInt_bound
  obtain ⟨negOne, negOneExact, -⟩ := exists_extended?_of_rat? rat?_ofInt_neg_one
  obtain ⟨unsignedBound, unsignedExact, -⟩ := exists_extended?_of_rat? rat?_ofInt_unsignedBound
  cases form : d.form with
  | nan => simp [int64?, uint64?, compare?, extended?, form]
  | infinite negative =>
    have exact : d.extended? = some (if negative then .bottom else .top) := by simp [extended?, form]
    cases negative <;> simp [int64?, uint64?, compare?, exact, leastExact, boundExact, negOneExact,
      unsignedExact, Extended.compare]
  | finite => simp [rat?, form] at notFinite

/-! ### Narrowing -/

/-- A double without its fraction is narrowed as the integer that remains. -/
theorem int64?_trunc (d : Double) :
    d.trunc.int64? = d.rat?.bind fun q => Number.int64? (towardZero q) := by
  cases denotes : d.rat? with
  | none => rw [trunc_of_rat?_eq_none denotes, (int64?_of_rat?_eq_none denotes).1, Option.bind_none]
  | some q => rw [int64?_of_rat? (rat?_trunc_of_rat? denotes), Option.bind_some]

theorem uint64?_trunc (d : Double) :
    d.trunc.uint64? = d.rat?.bind fun q => Number.uint64? (towardZero q) := by
  cases denotes : d.rat? with
  | none => rw [trunc_of_rat?_eq_none denotes, (int64?_of_rat?_eq_none denotes).2, Option.bind_none]
  | some q => rw [uint64?_of_rat? (rat?_trunc_of_rat? denotes), Option.bind_some]

end Cel.Double
