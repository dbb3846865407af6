import Cel.Eval.Access
import Cel.Proofs.Number.Narrow

/-! # Integers among the doubles by guards and casts

Whether a double denotes an integer is told by doubles alone: what is behind its point equals zero. The word
is then found by a cast, which a guard protects or which saturates, and where it saturates no list is long
enough to tell the difference. So the keys that a double can find, and the elements that it can point at, are
the same by guards and casts as by the exact integer.
-/

namespace Cel

namespace Double

variable {d : Double} {q : ℚ} {n : Int}

/-- What is behind the point of a double. -/
def fract (d : Double) : Double := d.sub d.trunc

def isFinite (d : Double) : Bool :=
  match d.form with
  | .finite .. => true
  | _ => false

/-- The unsigned word that is nearest to a double without its fraction. -/
def toWord (d : Double) : UInt64 := UInt64.ofNat (d.clamp 0 0xFFFFFFFFFFFFFFFF).toNat

theorem isFinite_of_rat? (denotes : d.rat? = some q) : d.isFinite = true := by
  obtain ⟨negative, significand, exponent, form, -⟩ := form_of_rat? denotes
  simp only [isFinite, form]

/-! ### The test for a fraction -/

/-- A fraction is computed without an error. -/
theorem rat?_fract (denotes : d.rat? = some q) : d.fract.rat? = some (q - (towardZero q : ℚ)) := by
  rcases lt_or_ge |q| (2 ^ (1023 : Int)) with small | large
  · exact (rat?_trunc denotes small).2
  · have whole := rat?_trunc_of_large denotes large
    have noFraction : |q - (towardZero q : ℚ)| = (0 : Nat) * 2 ^ (0 : Int) := by
      simp [towardZero_of_large denotes large]
    exact rat?_sub_of_fits denotes whole (by decide) (by decide) (by norm_num) noFraction

/-- What is not finite has no fraction either, since an infinity less itself is not a number. -/
theorem form_fract (notFinite : d.rat? = none) : d.fract.form = .nan := by
  have isNaN : nan.form = .nan := by decide
  rw [fract, trunc_of_rat?_eq_none notFinite]
  cases form : d.form with
  | nan => simp only [sub, add, form, isNaN]
  | infinite negative =>
    have opposite : (infinity !negative).form = .infinite (!negative) := by
      cases negative <;> decide
    simp only [sub, add, neg, form, opposite]
    cases negative <;> exact isNaN
  | finite => simp [rat?, form] at notFinite

/-- The fraction of a double equals zero exactly if the double denotes an integer. -/
theorem fract_eq_zero_iff : d.fract.compare? (zero false) = some .eq ↔ ∃ n, d.integer? = some n := by
  simp only [integer?_eq_some_iff]
  cases denotes : d.rat? with
  | none =>
    have undefined : d.fract.compare? (zero false) = none := by
      simp [compare?, extended?, form_fract denotes]
    simp [undefined]
  | some q =>
    rw [compare?_of_rat? (rat?_fract denotes) (rat?_zero false), Option.some.injEq, cmp_eq_eq_iff, sub_eq_zero]
    constructor
    · intro whole
      exact ⟨towardZero q, congrArg some whole⟩
    · rintro ⟨n, isInteger⟩
      rw [Option.some.inj isInteger, towardZero_intCast]

end Double

namespace Value

variable {items : List Value} {position : Value} {n : Int}

/-! ### Keys -/

/-- The keys that a double can find, by a test for its fraction and guarded casts. -/
theorem candidates_double (d : Double) :
    (double d).candidates =
      if d.isFinite ∧ d.fract.compare? (.zero false) = some .eq then
        (d.int64?.map MapKey.int).toList ++ (d.uint64?.map MapKey.uint).toList
      else [] := by
  cases isInteger : d.integer? with
  | none =>
    have fraction : ¬d.fract.compare? (.zero false) = some .eq := by
      simp [Double.fract_eq_zero_iff, isInteger]
    simp only [candidates, isInteger, fraction, and_false, if_false]
  | some n =>
    have denotes := Double.integer?_eq_some_iff.mp isInteger
    have passes : d.isFinite ∧ d.fract.compare? (.zero false) = some .eq :=
      ⟨Double.isFinite_of_rat? denotes, Double.fract_eq_zero_iff.mpr ⟨n, isInteger⟩⟩
    rw [if_pos passes, Double.int64?_of_rat? denotes, Double.uint64?_of_rat? denotes]
    simp only [candidates, isInteger]

/-! ### Positions -/

/-- The word that an index of a list stands for, by tests and a cast that saturates: none for what is no
index, and no word for an index that no word can be. -/
def word? : Value → Option (Option UInt64)
  | int n => some (Number.uint64? n.toInt)
  | uint n => some (some n)
  | double d =>
    if d.fract.compare? (.zero false) = some .eq then
      if d.compare? (.zero false) = some .lt ∨ ¬d.isFinite then some none else some (some d.toWord)
    else none
  | _ => none

/-- The element of a list at the word that an index stands for. -/
def elementAt (items : List Value) (position : Value) : Except EvalError.Cause Value :=
  match position.word? with
  | none => mismatch .index [list items, position]
  | some word =>
    match word.bind fun w => items[w.toNat]? with
    | some value => .ok value
    | none => .error (.indexOutOfBounds position items.length)

theorem word?_eq_none_iff : position.word? = none ↔ position.integer? = none := by
  cases position with
  | double d =>
    rw [word?, integer?]
    split
    · next whole =>
      obtain ⟨n, isInteger⟩ := Double.fract_eq_zero_iff.mp whole
      split <;> simp [isInteger]
    · next fraction =>
      rw [Double.fract_eq_zero_iff, ← Option.isSome_iff_exists, Option.not_isSome_iff_eq_none] at fraction
      simp [fraction]
  | _ => simp [word?, integer?]

/-- No list has more elements than there are words, and so the positions of its elements are words. -/
theorem element?_of_uint64? (short : items.length < 2 ^ 64) (n : Int) :
    ((Number.uint64? n).bind fun w => items[w.toNat]?) = element? items n := by
  rw [element?]
  cases narrowed : Number.uint64? n with
  | none =>
    rw [Option.bind_none]
    split
    · have large := Number.uint64?_eq_none_iff.mp narrowed
      exact (List.getElem?_eq_none (by omega)).symm
    · rfl
  | some w =>
    have same := Number.uint64?_eq_some_iff.mp narrowed
    rw [Option.bind_some, if_pos (by omega), ← same, Int.toNat_natCast]

/-- A cast that saturates gives the last word, which is behind the last element as the exact position is. -/
theorem element?_of_toWord {d : Double} (denotes : d.rat? = some (n : ℚ)) (nonneg : 0 ≤ n)
    (short : items.length < 2 ^ 64) : items[d.toWord.toNat]? = element? items n := by
  have cast : d.clamp 0 0xFFFFFFFFFFFFFFFF = min 0xFFFFFFFFFFFFFFFF n := by
    rw [Double.clamp_of_rat? denotes, max_eq_right (by omega)]
  have word : d.toWord.toNat = (min 0xFFFFFFFFFFFFFFFF n).toNat := by
    rw [Double.toWord, cast, UInt64.toNat_ofNat_of_lt' (show _ < 2 ^ 64 by omega)]
  rw [word, element?, if_pos nonneg]
  rcases lt_or_ge n 0x10000000000000000 with small | large
  · rw [min_eq_right (by omega)]
  · rw [List.getElem?_eq_none (by omega), List.getElem?_eq_none (by omega)]

theorem exists_word? (isInteger : position.integer? = some n) (short : items.length < 2 ^ 64) :
    ∃ word, position.word? = some word ∧ (word.bind fun w => items[w.toNat]?) = element? items n := by
  cases position with
  | int w =>
    cases isInteger
    exact ⟨Number.uint64? w.toInt, rfl, element?_of_uint64? short _⟩
  | uint w =>
    cases isInteger
    have narrowed : Number.uint64? w.toNat = some w := Number.uint64?_eq_some_iff.mpr rfl
    refine ⟨some w, rfl, ?_⟩
    rw [← element?_of_uint64? short, narrowed]
  | double d =>
    have denotes := Double.integer?_eq_some_iff.mp isInteger
    have compared : d.compare? (.zero false) = some .lt ↔ n < 0 := by
      rw [Double.compare?_of_rat? denotes (Double.rat?_zero false), Option.some.injEq, cmp_eq_lt_iff,
        Int.cast_lt_zero]
    rw [word?, if_pos (Double.fract_eq_zero_iff.mpr ⟨n, isInteger⟩)]
    rcases lt_or_ge n 0 with negative | nonneg
    · refine ⟨none, if_pos (.inl (compared.mpr negative)), ?_⟩
      rw [element?, if_neg (by omega), Option.bind_none]
    · refine ⟨some d.toWord, if_neg ?_, element?_of_toWord denotes nonneg short⟩
      simp [Double.isFinite_of_rat? denotes, compared, nonneg]
  | _ => cases isInteger

/-- An index finds in a list what is at its word. -/
theorem index_list (short : items.length < 2 ^ 64) (position : Value) :
    (list items).index position = ifKnown [list items, position] (elementAt items position) := by
  rw [index, elementAt]
  cases isInteger : position.integer? with
  | none => rw [word?_eq_none_iff.mpr isInteger]
  | some n =>
    obtain ⟨word, isWord, same⟩ := exists_word? isInteger short
    rw [isWord]
    cases found : element? items n with
    | none | some => simp only [same, found]

end Value

end Cel
