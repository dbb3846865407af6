import Mathlib.Data.List.Nodup
import Cel.Eval.Access
import Cel.Proofs.Entries

/-! # Keys and what they stand for

Two keys are equal as values if they stand for the same boolean, text or number, and then a lookup
with one finds the other. A map may store a number twice, as a signed and as an unsigned key. Maps
whose keys all stand for different things hold at most one entry for each key to find.
-/

namespace Cel

namespace MapKey

/-! ### The order of keys -/

instance : Std.LawfulEqOrd MapKey where
  compare_self {a} := by
    cases a with
    | bool value => exact Std.ReflOrd.compare_self (a := value)
    | int value => exact Std.ReflOrd.compare_self (a := value)
    | uint value => exact Std.ReflOrd.compare_self (a := value)
    | string value => exact Std.ReflOrd.compare_self (a := value)
  eq_of_compare {a b} same := by
    -- Keys of different kinds are never in the same place, since their ranks differ.
    cases a <;> cases b <;> first
      | cases same
      | exact congrArg _ (Std.LawfulEqOrd.eq_of_compare same)

theorem rank_le_of_isLE {a b : MapKey} (le : (Ord.compare a b).isLE = true) : a.rank ≤ b.rank := by
  cases a <;> cases b <;> first
    | exact Nat.le_of_ble_eq_true rfl
    | cases le

theorem isLE_of_rank_lt {a b : MapKey} (less : a.rank < b.rank) : (Ord.compare a b).isLE = true := by
  cases a <;> cases b <;> first
    | simp [rank] at less; done
    | rfl

instance : Std.TransOrd MapKey where
  eq_swap {a b} := by
    cases a with
    | bool x =>
      cases b with
      | bool y => exact Std.OrientedOrd.eq_swap (a := x) (b := y)
      | _ => rfl
    | int x =>
      cases b with
      | int y => exact Std.OrientedOrd.eq_swap (a := x) (b := y)
      | _ => rfl
    | uint x =>
      cases b with
      | uint y => exact Std.OrientedOrd.eq_swap (a := x) (b := y)
      | _ => rfl
    | string x =>
      cases b with
      | string y => exact Std.OrientedOrd.eq_swap (a := x) (b := y)
      | _ => rfl
  isLE_trans {a b c} first second := by
    have lower := rank_le_of_isLE first
    have upper := rank_le_of_isLE second
    rcases Nat.lt_or_ge a.rank c.rank with less | notLess
    · exact isLE_of_rank_lt less
    -- All three keys are of one kind, and each kind is ordered.
    have same : a.rank = b.rank := by omega
    have same' : b.rank = c.rank := by omega
    cases a with
    | bool x =>
      cases b with
      | bool y =>
        cases c with
        | bool z => exact Std.TransOrd.isLE_trans (a := x) (b := y) (c := z) first second
        | _ => cases same'
      | _ => cases same
    | int x =>
      cases b with
      | int y =>
        cases c with
        | int z => exact Std.TransOrd.isLE_trans (a := x) (b := y) (c := z) first second
        | _ => cases same'
      | _ => cases same
    | uint x =>
      cases b with
      | uint y =>
        cases c with
        | uint z => exact Std.TransOrd.isLE_trans (a := x) (b := y) (c := z) first second
        | _ => cases same'
      | _ => cases same
    | string x =>
      cases b with
      | string y =>
        cases c with
        | string z => exact Std.TransOrd.isLE_trans (a := x) (b := y) (c := z) first second
        | _ => cases same'
      | _ => cases same

/-! ### What keys stand for -/

/-- What a key stands for, whatever the kind of a number. -/
inductive Meaning where
  | bool (value : Bool)
  | number (value : Int)
  | string (value : String)
deriving DecidableEq

def meaning : MapKey → Meaning
  | bool value => .bool value
  | int value => .number value.toInt
  | uint value => .number value.toNat
  | string value => .string value

end MapKey

namespace Value

open MapKey (meaning)

/-- What a value stands for as a key: a boolean or a text itself, and the integer that a number
denotes. -/
def meaning? : Value → Option MapKey.Meaning
  | bool value => some (.bool value)
  | string value => some (.string value)
  | value => value.integer?.map .number

@[simp] theorem meaning?_ofKey (key : MapKey) : (ofKey key).meaning? = some key.meaning := by
  cases key <;> rfl

/-- The keys that a value can find are those that stand for the same. -/
theorem mem_candidates_iff {key : MapKey} {value : Value} :
    key ∈ value.candidates ↔ value.meaning? = some key.meaning := by
  rw [eq_comm]
  cases value with
  | bool value => cases key <;> simp [candidates, key?, meaning?, meaning]
  | string value => cases key <;> simp [candidates, key?, meaning?, meaning]
  | int value =>
    cases key with
    | int word => simp [candidates, meaning?, integer?, meaning, Int64.toInt_inj]
    | uint word => simp [candidates, meaning?, integer?, meaning, Number.uint64?_eq_some_iff]
    | bool | string => simp [candidates, meaning?, integer?, meaning]
  | uint value =>
    cases key with
    | int word => simp [candidates, meaning?, integer?, meaning, Number.int64?_eq_some_iff]
    | uint word =>
      have same : word = value ↔ (word.toNat : Int) = value.toNat := by
        rw [← UInt64.toNat_inj]
        omega
      simpa [candidates, meaning?, integer?, meaning] using same
    | bool | string => simp [candidates, meaning?, integer?, meaning]
  | double value =>
    cases whole : value.integer? with
    | none => simp [candidates, meaning?, integer?, whole]
    | some n =>
      cases key <;> simp [candidates, meaning?, integer?, meaning, whole, Number.int64?_eq_some_iff,
        Number.uint64?_eq_some_iff]
  | _ => simp [candidates, key?, meaning?, integer?]

/-- A value that can be a key is that key as a value. -/
theorem eq_ofKey_of_key? {value : Value} {key : MapKey} (isKey : value.key? = some key) :
    value = ofKey key := by
  cases value <;> cases isKey <;> rfl

theorem key?_ofKey (key : MapKey) : (ofKey key).key? = some key := by
  cases key <;> rfl

theorem ofKey_injective : Function.Injective ofKey := fun a b same => by
  rw [← Option.some.injEq, ← key?_ofKey, same, key?_ofKey]

variable {key : MapKey} {value found : Value} {entries : List (MapKey × Value)}

/-- Nothing is found for a value exactly if no entry has a key that stands for the same. -/
theorem lookup?_eq_none_iff_meaning? :
    value.lookup? entries = none ↔ ∀ entry ∈ entries, value.meaning? ≠ some entry.1.meaning := by
  unfold lookup?
  simp only [List.findSome?_eq_none_iff, Entries.find?_eq_none_iff, mem_candidates_iff]
  constructor
  · intro nowhere entry member same
    exact nowhere entry.1 same entry member rfl
  · rintro different candidate same entry member rfl
    exact different entry member same

/-- What is found for a value stands under a key that stands for the same. -/
theorem exists_meaning?_of_lookup? (found? : value.lookup? entries = some found) :
    ∃ stored, (stored, found) ∈ entries ∧ value.meaning? = some stored.meaning := by
  obtain ⟨candidate, isCandidate, here⟩ := List.exists_of_findSome?_eq_some found?
  exact ⟨candidate, Entries.mem_of_find?_eq_some here, mem_candidates_iff.mp isCandidate⟩

/-- Nothing is found for a key exactly if no entry has a key that stands for the same. -/
theorem lookup?_eq_none_iff :
    (ofKey key).lookup? entries = none ↔
      ∀ entry ∈ entries, entry.1.meaning ≠ key.meaning := by
  rw [lookup?_eq_none_iff_meaning?]
  refine forall₂_congr fun entry _ => ?_
  rw [meaning?_ofKey, ne_eq, Option.some.injEq, eq_comm]

/-- What is found for a key stands under a key that stands for the same. -/
theorem exists_mem_of_lookup? (found? : (ofKey key).lookup? entries = some found) :
    ∃ stored, (stored, found) ∈ entries ∧ stored.meaning = key.meaning := by
  obtain ⟨stored, member, same⟩ := exists_meaning?_of_lookup? found?
  rw [meaning?_ofKey, Option.some.injEq] at same
  exact ⟨stored, member, same.symm⟩

/-- Whether the keys of the entries all stand for different things. -/
def DistinctKeys (entries : List (MapKey × Value)) : Prop :=
  (entries.map fun entry => entry.1.meaning).Nodup

theorem DistinctKeys.perm {others : List (MapKey × Value)} (distinct : DistinctKeys entries)
    (same : entries.Perm others) : DistinctKeys others :=
  (same.map _).nodup_iff.mp distinct

theorem DistinctKeys.eq_of_meaning (distinct : DistinctKeys entries)
    {first second : MapKey × Value} (here : first ∈ entries) (there : second ∈ entries)
    (same : first.1.meaning = second.1.meaning) : first = second :=
  List.inj_on_of_nodup_map distinct here there same

/-- Where the keys are distinct, a lookup finds the value of the entry whose key stands for the
same. -/
theorem DistinctKeys.lookup?_eq_some_iff_meaning? (distinct : DistinctKeys entries) :
    value.lookup? entries = some found ↔
      ∃ stored, (stored, found) ∈ entries ∧ value.meaning? = some stored.meaning := by
  constructor
  · exact exists_meaning?_of_lookup?
  · rintro ⟨stored, member, same⟩
    cases lookup : value.lookup? entries with
    | none => exact absurd same (lookup?_eq_none_iff_meaning?.mp lookup _ member)
    | some other =>
      obtain ⟨stored', member', same'⟩ := exists_meaning?_of_lookup? lookup
      have together := distinct.eq_of_meaning member member' (Option.some.inj (same.symm.trans same'))
      rw [(Prod.mk.inj together).2]

/-- Where the keys are distinct, looking up a key finds the value of the entry whose key stands for the
same. -/
theorem DistinctKeys.lookup?_eq_some_iff (distinct : DistinctKeys entries) :
    (ofKey key).lookup? entries = some found ↔
      ∃ stored, (stored, found) ∈ entries ∧ stored.meaning = key.meaning := by
  rw [distinct.lookup?_eq_some_iff_meaning?]
  refine exists_congr fun stored => and_congr_right' ?_
  rw [meaning?_ofKey, Option.some.injEq, eq_comm]

/-- An entry can stand beside others exactly if its key does not find one of them. -/
theorem distinctKeys_cons_iff :
    DistinctKeys ((key, value) :: entries) ↔
      (ofKey key).lookup? entries = none ∧ DistinctKeys entries := by
  rw [DistinctKeys, List.map_cons, List.nodup_cons, lookup?_eq_none_iff, List.mem_map]
  refine and_congr_left' ?_
  simp only [not_exists, not_and]

/-- An entry that is not found yet is added to the others. -/
theorem insert_perm_of_lookup? (notFound : (ofKey key).lookup? entries = none) (value : Value) :
    (Entries.insert key value entries).Perm ((key, value) :: entries) :=
  Entries.insert_perm fun entry member same =>
    lookup?_eq_none_iff.mp notFound entry member (congrArg meaning same)

theorem DistinctKeys.insert (distinct : DistinctKeys entries)
    (notFound : (ofKey key).lookup? entries = none) (value : Value) :
    DistinctKeys (Entries.insert key value entries) :=
  (distinctKeys_cons_iff.mpr ⟨notFound, distinct⟩).perm (insert_perm_of_lookup? notFound value).symm

/-- Entries with distinct keys can be put in ascending order. -/
theorem DistinctKeys.exists_ascending (distinct : DistinctKeys entries) :
    ∃ sorted, Entries.Ascending sorted ∧ sorted.Perm entries := by
  induction entries with
  | nil => exact ⟨[], .nil, .refl _⟩
  | cons entry rest ih =>
    obtain ⟨key, value⟩ := entry
    obtain ⟨notFound, distinctRest⟩ := distinctKeys_cons_iff.mp distinct
    obtain ⟨sorted, ascending, same⟩ := ih distinctRest
    have added : (Entries.insert key value sorted).Perm ((key, value) :: sorted) :=
      Entries.insert_perm fun other member isKey =>
        lookup?_eq_none_iff.mp notFound other (same.subset member) (congrArg meaning isKey)
    exact ⟨_, Entries.ascending_insert ascending key value, added.trans (same.cons _)⟩

end Value

end Cel
