import Cel.Proofs.Number.Exact
import Cel.Value.Compare

/-! # Comparing numbers of different kinds

An integer and a double are compared by the whole part of the double, and by its fraction if that is
the same. Outside the range of the integers the double decides by its size. This is the order of the
exact values, and so are all comparisons of numbers.
-/

namespace Cel

open Double (Extended towardZero)

/-! ### Integers and rational numbers -/

/-- The whole part decides, unless it is the integer; then the fraction does. -/
theorem cmp_towardZero (n : Int) (q : ℚ) :
    (match compare n (towardZero q) with
      | .eq => cmp 0 (q - (towardZero q : ℚ))
      | order => order) = cmp (n : ℚ) q := by
  rcases lt_trichotomy n (towardZero q) with below | same | above
  · rw [compare_lt_iff_lt.mpr below]
    refine ((cmp_eq_lt_iff _ _).mpr ?_).symm
    unfold towardZero at below
    split at below
    · exact lt_of_lt_of_le (by exact_mod_cast below) (Int.floor_le q)
    · exact Int.lt_ceil.mp below
  · rw [compare_eq_iff_eq.mpr same, ← same]
    change cmp 0 (q - (n : ℚ)) = _
    rw [← cmp_swap, cmp_sub_zero, cmp_swap]
  · rw [compare_gt_iff_gt.mpr above]
    refine ((cmp_eq_gt_iff _ _).mpr ?_).symm
    unfold towardZero at above
    split at above
    · exact Int.floor_lt.mp above
    · exact lt_of_le_of_lt (Int.le_ceil q) (by exact_mod_cast above)

/-- The whole part of a number between two integers lies between them as well. -/
theorem towardZero_bounds {least bound : Int} {q : ℚ} (notBelow : (least : ℚ) ≤ q) (below : q < bound)
    (around : least ≤ 0 ∧ 0 < bound) : least ≤ towardZero q ∧ towardZero q ≤ bound - 1 := by
  unfold towardZero
  split
  · exact ⟨Int.le_floor.mpr notBelow, by have := Int.floor_lt.mpr below; omega⟩
  · next negative =>
    have ceil : ⌈q⌉ ≤ 0 := Int.ceil_le.mpr (by exact_mod_cast (not_le.mp negative).le)
    have : least ≤ ⌈q⌉ := by exact_mod_cast notBelow.trans (Int.le_ceil q)
    omega

theorem Double.clamp_of_rat? {d : Double} {n : Int} (denotes : d.rat? = some (n : ℚ))
    (least greatest : Int) : d.clamp least greatest = max least (min greatest n) := by
  have truncated := truncate?_of_rat? denotes
  obtain ⟨negative, significand, exponent, form, -⟩ := form_of_rat? denotes
  rw [towardZero_intCast] at truncated
  simp only [clamp, form, truncated, Option.getD_some]

namespace Double.Extended

theorem compare_swap (x y : Extended) : (x.compare y).swap = y.compare x := by
  cases x with
  | bottom | top => cases y <;> rfl
  | exact x =>
    cases y with
    | bottom | top => rfl
    | exact y => rw [compare_exact, compare_exact, cmp_swap]

theorem exact_ofInt_toRat (n : Int) : (Dyadic.ofInt n).toRat = n := Dyadic.toRat_intCast n

end Double.Extended

/-! ### Words -/

theorem Number.compare_int64 (n m : Int64) : Ord.compare n m = cmp n.toInt m.toInt := by
  have same : n = m ↔ n.toInt = m.toInt := Int64.toInt_inj.symm
  change compareOfLessAndEq n m =
    if n.toInt < m.toInt then .lt else if m.toInt < n.toInt then .gt else .eq
  simp only [compareOfLessAndEq, Int64.lt_iff_toInt_lt, same]
  split_ifs <;> first
    | rfl
    | omega

theorem Number.compare_uint64 (n m : UInt64) : Ord.compare n m = cmp (n.toNat : Int) m.toNat := by
  have same : n = m ↔ n.toNat = m.toNat := UInt64.toNat_inj.symm
  change compareOfLessAndEq n m =
    if (n.toNat : Int) < m.toNat then .lt else if (m.toNat : Int) < n.toNat then .gt else .eq
  simp only [compareOfLessAndEq, UInt64.lt_iff_toNat_lt, same, Int.ofNat_lt]
  split_ifs <;> first
    | rfl
    | omega

namespace Value

variable {least bound n : Int} {d : Double}

/-- An integer among the words is compared with a double by its exact value. -/
theorem compareWord_eq (among : least ≤ n ∧ n < bound) (around : least ≤ 0 ∧ 0 < bound)
    (size : -0x10000000000000000 ≤ least ∧ bound ≤ 0x10000000000000000)
    (leastDenotes : (Double.ofInt least).rat? = some (least : ℚ))
    (boundDenotes : (Double.ofInt bound).rat? = some (bound : ℚ)) :
    compareWord least bound n d =
      d.extended?.map fun x => (Extended.exact (Dyadic.ofInt n)).compare x := by
  obtain ⟨low, lowExact, -⟩ := Double.exists_extended?_of_rat? leastDenotes
  obtain ⟨high, highExact, -⟩ := Double.exists_extended?_of_rat? boundDenotes
  cases form : d.form with
  | nan => simp [compareWord, Double.isNaN, Double.extended?, form]
  | infinite negative =>
    have notNaN : d.isNaN = false := by simp [Double.isNaN, form]
    have exact : d.extended? = some (if negative then .bottom else .top) := by
      simp [Double.extended?, form]
    cases negative with
    | false => simp [compareWord, notNaN, Double.compare?, exact, highExact, Extended.compare]
    | true =>
      simp [compareWord, notNaN, Double.compare?, exact, highExact, lowExact, Extended.compare]
  | finite negative significand exponent =>
    have notNaN : d.isNaN = false := by simp [Double.isNaN, form]
    have denotes := Double.rat?_of_form form
    obtain ⟨q, isValue⟩ : ∃ q : ℚ, q = Double.signOf negative * (significand * 2 ^ exponent) := ⟨_, rfl⟩
    rw [← isValue] at denotes
    obtain ⟨x, exact, value⟩ := Double.exists_extended?_of_rat? denotes
    have order : (Extended.exact (Dyadic.ofInt n)).compare (.exact x) = cmp (n : ℚ) q := by
      rw [Extended.compare_exact, Extended.exact_ofInt_toRat, value]
    rw [exact, Option.map_some, order]
    rw [compareWord, notNaN, if_neg Bool.false_ne_true, Double.compare?_of_rat? denotes boundDenotes,
      Double.compare?_of_rat? denotes leastDenotes, Option.any_some, Option.any_some]
    rcases le_or_gt (bound : ℚ) q with above | below
    · -- The double is greater than all words.
      have less : (n : ℚ) < q := lt_of_lt_of_le (by exact_mod_cast among.2) above
      rw [if_pos ((cmp_isGE_iff _ _).mpr above), (cmp_eq_lt_iff _ _).mpr less]
    · have notGE : ¬(cmp q (bound : ℚ)).isGE = true := by
        rw [cmp_isGE_iff]
        exact not_le.mpr below
      rw [if_neg notGE]
      rcases lt_or_ge q (least : ℚ) with smaller | notBelow
      · -- The double is less than all words.
        have greater : q < n := lt_of_lt_of_le smaller (by exact_mod_cast among.1)
        rw [(cmp_eq_lt_iff _ _).mpr smaller, (cmp_eq_gt_iff _ _).mpr greater]
        rfl
      · have notLT : ¬(cmp q (least : ℚ)).isLT = true := by
          rw [Ordering.isLT_iff_eq_lt, cmp_eq_lt_iff]
          exact not_lt.mpr notBelow
        rw [if_neg notLT]
        have small : |q| < 2 ^ (1023 : Int) := by
          have lower : (-2 ^ (64 : Int) : ℚ) ≤ least := by
            norm_num
            exact_mod_cast size.1
          have upper : (bound : ℚ) ≤ 2 ^ (64 : Int) := by
            norm_num
            exact_mod_cast size.2
          have wide : (2 : ℚ) ^ (64 : Int) < 2 ^ (1023 : Int) :=
            zpow_lt_zpow_right₀ (by norm_num) (by norm_num)
          refine lt_of_le_of_lt (abs_le.mpr ⟨lower.trans notBelow, ?_⟩) wide
          exact below.le.trans upper
        obtain ⟨whole, fraction⟩ := Double.rat?_trunc denotes small
        obtain ⟨inLow, inHigh⟩ := towardZero_bounds notBelow below around
        rw [Double.clamp_of_rat? whole, min_eq_right inHigh, max_eq_right inLow,
          Double.compare?_of_rat? (Double.rat?_zero false) fraction, ← cmp_towardZero]
        cases Ord.compare n (towardZero q) <;> rfl

theorem compareSigned_eq (n : Int64) (d : Double) :
    compareSigned n d = d.extended?.map fun x => (Extended.exact (Dyadic.ofInt n.toInt)).compare x := by
  have low := Int64.le_toInt n
  have high := Int64.toInt_lt n
  refine compareWord_eq ⟨low, high⟩ (by decide) (by decide) ?_ ?_
  · exact Double.rat?_ofInt_of_abs_eq_two_pow (show |(-0x8000000000000000 : Int)| = 2 ^ 63 by decide)
      (by decide)
  · exact Double.rat?_ofInt_of_abs_eq_two_pow (show |(0x8000000000000000 : Int)| = 2 ^ 63 by decide)
      (by decide)

theorem compareUnsigned_eq (n : UInt64) (d : Double) :
    compareUnsigned n d =
      d.extended?.map fun x => (Extended.exact (Dyadic.ofInt n.toNat)).compare x := by
  have high := UInt64.toNat_lt n
  refine compareWord_eq ⟨by omega, by omega⟩ (by decide) (by decide) Double.rat?_ofInt_zero ?_
  exact Double.rat?_ofInt_of_abs_eq_two_pow (show |(0x10000000000000000 : Int)| = 2 ^ 64 by decide)
    (by decide)

theorem compare_exact_ofInt (n m : Int) :
    (Extended.exact (Dyadic.ofInt n)).compare (.exact (Dyadic.ofInt m)) = cmp n m := by
  rw [Extended.compare_exact, Extended.exact_ofInt_toRat, Extended.exact_ofInt_toRat]
  exact Int.cast_strictMono.cmp_map_eq n m

theorem compareMixed_eq (n : Int64) (m : UInt64) : compareMixed n m = cmp n.toInt (m.toNat : Int) := by
  cases narrowed : Number.uint64? n.toInt with
  | some word =>
    rw [compareMixed, narrowed, ← Number.uint64?_eq_some_iff.mp narrowed]
    exact Number.compare_uint64 word m
  | none =>
    rw [compareMixed, narrowed]
    have high := Int64.toInt_lt n
    have negative : n.toInt < 0 := by
      rcases Number.uint64?_eq_none_iff.mp narrowed with negative | large
      · exact negative
      · omega
    exact ((cmp_eq_lt_iff _ _).mpr (by omega)).symm

/-- Numbers are compared by their exact values, whatever their kinds. -/
theorem compareNumbers_eq (a b : Value) :
    compareNumbers a b = (do return (← a.exactValue?).compare (← b.exactValue?)) := by
  cases a with
  | int n =>
    cases b with
    | int m => exact congrArg some ((Number.compare_int64 n m).trans (compare_exact_ofInt _ _).symm)
    | uint m => exact congrArg some ((compareMixed_eq n m).trans (compare_exact_ofInt _ _).symm)
    | double d =>
      cases exact : d.extended? <;> simp [compareNumbers, exactValue?, compareSigned_eq, exact]
    | _ => simp [compareNumbers, exactValue?]
  | uint n =>
    cases b with
    | int m =>
      have swapped : (compareMixed m n).swap = cmp (n.toNat : Int) m.toInt := by
        rw [compareMixed_eq, cmp_swap]
      exact congrArg some (swapped.trans (compare_exact_ofInt _ _).symm)
    | uint m => exact congrArg some ((Number.compare_uint64 n m).trans (compare_exact_ofInt _ _).symm)
    | double d =>
      cases exact : d.extended? <;> simp [compareNumbers, exactValue?, compareUnsigned_eq, exact]
    | _ => simp [compareNumbers, exactValue?]
  | double d =>
    cases b with
    | int m =>
      cases exact : d.extended? <;>
        simp [compareNumbers, exactValue?, compareSigned_eq, exact, Extended.compare_swap]
    | uint m =>
      cases exact : d.extended? <;>
        simp [compareNumbers, exactValue?, compareUnsigned_eq, exact, Extended.compare_swap]
    | double e => rfl
    | _ => simp [compareNumbers, exactValue?]
  | _ => simp [compareNumbers, exactValue?]

end Value

end Cel
