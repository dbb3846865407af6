import Cel.Proofs.NumberOrder
import Cel.Proofs.Reveal.Persists

/-! # Finding by equality

A map does not compare its keys with the value that is looked up. It tries the few keys that the value
could be equal to, and a number tries the words of the integer that it denotes. These are exactly the
keys that are equal to the value, so a lookup neither misses nor invents a match. A position in a list is
the integer that a number denotes as well. So equal numbers, of whatever kinds, find the same.
-/

namespace Cel.Value

open EvalError (Cause)
open Double (Extended)

variable {a b value : Value} {key : MapKey} {entries : List (MapKey × Value)}

/-! ### Integers among the numbers -/

theorem ofInt_inj {n m : Int} : Dyadic.ofInt n = Dyadic.ofInt m ↔ n = m := by
  rw [← Dyadic.toRat_inj, Extended.exact_ofInt_toRat, Extended.exact_ofInt_toRat, Int.cast_inj]

/-- A value denotes an integer exactly if this is its exact value. -/
theorem integer?_eq_some_iff {n : Int} :
    value.integer? = some n ↔ value.exactValue? = some (.exact (Dyadic.ofInt n)) := by
  cases value with
  | int word => simp only [integer?, exactValue?, Option.some.injEq, Extended.exact.injEq, ofInt_inj]
  | uint word => simp only [integer?, exactValue?, Option.some.injEq, Extended.exact.injEq, ofInt_inj]
  | double d =>
    simp only [integer?, exactValue?, Double.integer?_eq_some_iff, ← Double.rat?_eq_some_iff,
      Extended.exact_ofInt_toRat]
  | _ => simp only [integer?, exactValue?, reduceCtorEq]

/-- Values with the same exact value denote the same integer, or neither denotes one. -/
theorem integer?_congr (same : a.exactValue? = b.exactValue?) : a.integer? = b.integer? :=
  Option.ext fun n => by rw [integer?_eq_some_iff, integer?_eq_some_iff, same]

/-! ### Keys that are equal to a value -/

theorem equal_iff_of_exactValue? {x : Extended} (exact : a.exactValue? = some x) :
    a.equal b = true ↔ b.exactValue? = some x := by
  rw [equal_iff]
  constructor
  · intro same
    cases same with
    | number left right => rw [right, ← left, exact]
    | _ => cases exact
  · exact fun exact' => .number exact exact'

theorem equal_iff_of_exactValue?_right {x : Extended} (exact : b.exactValue? = some x) :
    a.equal b = true ↔ a.exactValue? = some x := by
  rw [equal_iff]
  constructor
  · intro same
    cases same with
    | number left right => rw [left, ← right, exact]
    | _ => cases exact
  · exact fun exact' => .number exact' exact

theorem meaning?_eq_number_iff {n : Int} :
    value.meaning? = some (.number n) ↔ value.integer? = some n := by
  cases value <;> simp [meaning?, integer?]

/-- A key is equal to the values that stand for the same. -/
theorem equal_ofKey_iff : (ofKey key).equal value = true ↔ value.meaning? = some key.meaning := by
  cases key with
  | int word =>
    exact (equal_iff_of_exactValue? rfl).trans (integer?_eq_some_iff.symm.trans meaning?_eq_number_iff.symm)
  | uint word =>
    exact (equal_iff_of_exactValue? rfl).trans (integer?_eq_some_iff.symm.trans meaning?_eq_number_iff.symm)
  | bool b =>
    cases value with
    | bool c => simpa [ofKey, equal, meaning?, MapKey.meaning] using eq_comm
    | _ => simp [ofKey, equal, compareNumbers, meaning?, MapKey.meaning, integer?]
  | string text =>
    cases value with
    | string other => simpa [ofKey, equal, meaning?, MapKey.meaning] using eq_comm
    | _ => simp [ofKey, equal, compareNumbers, meaning?, MapKey.meaning, integer?]

theorem equal_ofKey_ofKey_iff {other : MapKey} :
    (ofKey key).equal (ofKey other) = true ↔ key.meaning = other.meaning := by
  rw [equal_ofKey_iff, meaning?_ofKey, Option.some.injEq, eq_comm]

/-- The other way round, a value is equal to the same keys. -/
theorem equal_ofKey_comm (key : MapKey) (value : Value) :
    value.equal (ofKey key) = (ofKey key).equal value := by
  rw [Bool.eq_iff_iff, equal_iff, equal_iff]
  constructor
  · intro same
    cases key <;> cases same <;> constructor <;> assumption
  · intro same
    cases key <;> cases same <;> constructor <;> assumption

/-! ### Lookups -/

/-- A lookup finds the value of an entry whose key is equal to the value that is looked up, and nothing
exactly if there is no such entry. So a value is in a map exactly if it is in the list of its keys. -/
theorem lookup?_agrees_with_equal (value : Value) (entries : List (MapKey × Value)) :
    (∀ entry ∈ entries, (ofKey entry.1).equal value = true →
      ∃ found ∈ entries, (ofKey found.1).equal value = true ∧
        value.lookup? entries = some found.2) ∧
      (value.lookup? entries = none ↔ ∀ entry ∈ entries, (ofKey entry.1).equal value = false) ∧
      strict .in value (map entries) =
        strict .in value (list (entries.map fun entry => ofKey entry.1)) := by
  have nothing : value.lookup? entries = none ↔
      ∀ entry ∈ entries, (ofKey entry.1).equal value = false := by
    rw [lookup?_eq_none_iff_meaning?]
    refine forall₂_congr fun entry _ => ?_
    rw [Bool.eq_false_iff, ne_eq, ne_eq, equal_ofKey_iff]
  refine ⟨fun entry member same => ?_, nothing, ?_⟩
  · cases lookup : value.lookup? entries with
    | none =>
      rw [nothing.mp lookup entry member] at same
      cases same
    | some found =>
      obtain ⟨stored, isEntry, standsFor⟩ := exists_meaning?_of_lookup? lookup
      exact ⟨(stored, found), isEntry, equal_ofKey_iff.mpr standsFor, rfl⟩
  · have answers : (value.lookup? entries).isSome =
        (entries.map fun entry => ofKey entry.1).any (equal · value) := by
      rw [← Bool.not_inj_iff, Bool.eq_iff_iff]
      simp [nothing]
    have known : unknowns? [value, map entries] =
        unknowns? [value, list (entries.map fun entry => ofKey entry.1)] := by
      cases value <;> rfl
    simp only [strict, ifKnown, known, isIn, answers]

/-- The double `2 ^ 63` finds the unsigned key that is equal to it, and not the greatest signed one, which
is the nearest below it. -/
theorem lookup?_agrees_with_equal_at_limit :
    let power := double ⟨0x43E0000000000000⟩
    let entries := [(MapKey.int 0x7FFFFFFFFFFFFFFF, string "below"), (.uint 0x8000000000000000, string "same")]
    (ofKey (.uint 0x8000000000000000)).equal power = true ∧
      ∃ found ∈ entries, (ofKey found.1).equal power = true ∧ power.lookup? entries = some found.2 := by
  intro power entries
  have same : (ofKey (.uint 0x8000000000000000)).equal power = true := by decide +kernel
  have member : (MapKey.uint 0x8000000000000000, string "same") ∈ entries := by simp [entries]
  exact ⟨same, (lookup?_agrees_with_equal power entries).1 _ member same⟩

/-! ### Equal numbers -/

/-- Whether two values find the same in a container: as indices they give the same value or fail for the
same kind of reason, and they are both in it or both not. -/
structure FindSame (container a b : Value) : Prop where
  index : (container.index a).mapError Cause.kind = (container.index b).mapError Cause.kind
  membership : ∃ holds, strict .in a container = .ok (bool holds) ∧
    strict .in b container = .ok (bool holds)

theorem known_of_exactValue? {x : Extended} (exact : a.exactValue? = some x) : a.Known := by
  cases a with
  | unknown names => cases exact
  | _ => rfl

theorem known_of_meaning? {standsFor : MapKey.Meaning} (found : a.meaning? = some standsFor) :
    a.Known := by
  cases a with
  | unknown names => cases found
  | _ => rfl

theorem meaning?_of_exactValue? {x : Extended} (exact : a.exactValue? = some x) :
    a.meaning? = a.integer?.map .number := by
  cases a with
  | bool | string => cases exact
  | _ => rfl

section ExactValue

variable {x : Extended} (exact : a.exactValue? = some x) (exact' : b.exactValue? = some x)

include exact exact'

/-- Numbers of the same value find the same items of a list. -/
theorem findSame_list (items : List Value) : FindSame (list items) a b := by
  have known := known_of_exactValue? exact
  have known' := known_of_exactValue? exact'
  have isList : (list items).Known := rfl
  have position : a.integer? = b.integer? := integer?_congr (exact.trans exact'.symm)
  have answers : items.any (equal · a) = items.any (equal · b) := by
    congr 1
    funext item
    rw [Bool.eq_iff_iff, equal_iff_of_exactValue?_right exact, equal_iff_of_exactValue?_right exact']
  constructor
  · simp only [index, ifKnown_pair isList known, ifKnown_pair isList known', position]
    cases b.integer? with
    | none => rfl
    | some n =>
      dsimp only
      cases element? items n <;> rfl
  · refine ⟨_, ifKnown_pair known isList _, ?_⟩
    rw [answers]
    exact ifKnown_pair known' isList _

/-- Numbers of the same value find the same values of a map with distinct keys. -/
theorem findSame_map (distinct : DistinctKeys entries) : FindSame (map entries) a b := by
  have known := known_of_exactValue? exact
  have known' := known_of_exactValue? exact'
  have isMap : (map entries).Known := rfl
  have standsFor : a.meaning? = b.meaning? := by
    rw [meaning?_of_exactValue? exact, meaning?_of_exactValue? exact',
      integer?_congr (exact.trans exact'.symm)]
  have found : a.lookup? entries = b.lookup? entries := by
    refine Option.ext fun value => ?_
    rw [distinct.lookup?_eq_some_iff_meaning?, distinct.lookup?_eq_some_iff_meaning?, standsFor]
  constructor
  · simp only [index, ifKnown_pair isMap known, ifKnown_pair isMap known', found]
    cases b.lookup? entries <;> rfl
  · refine ⟨_, ifKnown_pair known isMap _, ?_⟩
    rw [found]
    exact ifKnown_pair known' isMap _

end ExactValue

/-- Equal numbers, of whatever kinds, find the same in every list, and in every map that holds no number
under two keys. -/
theorem findSame_of_equal (numeric : a.isNumeric = true) (same : a.equal b = true) :
    (∀ items, FindSame (list items) a b) ∧
      ∀ entries, DistinctKeys entries → FindSame (map entries) a b := by
  rw [equal_of_isNumeric numeric, beq_iff_eq] at same
  obtain ⟨x, exact, exact'⟩ := compareNumbers_eq_iff.mp same
  exact ⟨findSame_list exact exact', fun _ => findSame_map exact exact'⟩

/-- The double `2 ^ 63` for the unsigned key of this size, and the negative zero as a position. -/
theorem findSame_of_equal_of_doubles :
    let key := uint 0x8000000000000000
    let power := double ⟨0x43E0000000000000⟩
    let negativeZero := double ⟨0x8000000000000000⟩
    let entries := [(MapKey.int (-1), null), (.uint 0x8000000000000000, string "large")]
    key.equal power = true ∧ DistinctKeys entries ∧ FindSame (map entries) key power ∧
      (int 0).equal negativeZero = true ∧ FindSame (list [string "first"]) (int 0) negativeZero := by
  intro key power negativeZero entries
  have same : key.equal power = true := by decide +kernel
  have distinct : DistinctKeys entries := by
    unfold DistinctKeys
    decide +kernel
  have zeros : (int 0).equal negativeZero = true := by decide +kernel
  exact ⟨same, distinct, (findSame_of_equal rfl same).2 entries distinct, zeros,
    (findSame_of_equal rfl zeros).1 _⟩

end Cel.Value
