import Cel.Engines.Standard
import Cel.Proofs.Except
import Cel.Proofs.Failures
import Cel.Proofs.Lookup

/-! # Map literals

The entries of a map literal are put into the map one after the other, and each key is first looked up
among those before it. So the loop succeeds exactly if all keys stand for different things, and the map
then holds the entries of the literal in the order of their keys, whatever their order in the literal was.
-/

namespace Cel

open Value (ofKey meaning? DistinctKeys)

namespace Value

/-- A key and its value as two values. -/
def ofEntry (entry : MapKey × Value) : Value × Value := (ofKey entry.1, entry.2)

/-- Whether keys can stand in one map, each with its value: every one is of a kind that can be a key, and
no two of them are equal. -/
structure Storable (pairs : List (Value × Value)) : Prop where
  isKey : ∀ pair ∈ pairs, ∃ key, pair.1 = ofKey key
  different : pairs.Pairwise fun first second =>
    first.1.equal second.1 = false ∧ second.1.equal first.1 = false

theorem ofEntry_injective : Function.Injective ofEntry := fun first second same => by
  obtain ⟨sameKey, sameValue⟩ := Prod.mk.inj same
  exact Prod.ext (ofKey_injective sameKey) sameValue

theorem exists_map_ofEntry {pairs : List (Value × Value)}
    (isKey : ∀ pair ∈ pairs, ∃ key, pair.1 = ofKey key) :
    ∃ entries : List (MapKey × Value), entries.map ofEntry = pairs := by
  have areEntries : pairs ∈ Set.range (List.map ofEntry) := by
    rw [Set.range_list_map]
    intro pair member
    obtain ⟨key, same⟩ := isKey pair member
    exact ⟨(key, pair.2), by rw [ofEntry, ← same]⟩
  exact areEntries

/-- What can stand in one map are the entries whose keys stand for different things. -/
theorem storable_iff {pairs : List (Value × Value)} :
    Storable pairs ↔ ∃ entries, entries.map ofEntry = pairs ∧ DistinctKeys entries := by
  have different (entries : List (MapKey × Value)) :
      (entries.map ofEntry).Pairwise (fun first second =>
        first.1.equal second.1 = false ∧ second.1.equal first.1 = false) ↔ DistinctKeys entries := by
    rw [DistinctKeys, List.Nodup, List.pairwise_map, List.pairwise_map]
    refine List.Pairwise.iff fun first second => ?_
    change (ofKey first.1).equal (ofKey second.1) = false ∧
      (ofKey second.1).equal (ofKey first.1) = false ↔ _
    rw [equal_ofKey_comm first.1, and_self, ← Bool.not_eq_true, equal_ofKey_ofKey_iff]
  constructor
  · rintro ⟨isKey, distinct⟩
    obtain ⟨entries, rfl⟩ := exists_map_ofEntry isKey
    exact ⟨entries, rfl, (different entries).mp distinct⟩
  · rintro ⟨entries, rfl, distinct⟩
    refine ⟨fun pair member => ?_, (different entries).mpr distinct⟩
    obtain ⟨entry, -, rfl⟩ := List.mem_map.mp member
    exact ⟨entry.1, rfl⟩

/-- In a map with distinct keys, what is equal to a key finds the value beside it. -/
theorem index_of_equal {entries : List (MapKey × Value)} {entry : MapKey × Value} {index : Value}
    (distinct : DistinctKeys entries) (member : entry ∈ entries)
    (same : index.equal (ofKey entry.1) = true) : (map entries).index index = .ok entry.2 := by
  rw [equal_ofKey_comm] at same
  have standsFor : index.meaning? = some entry.1.meaning := equal_ofKey_iff.mp same
  have found : index.lookup? entries = some entry.2 :=
    distinct.lookup?_eq_some_iff_meaning?.mpr ⟨entry.1, member, standsFor⟩
  have isMap : (map entries).Known := rfl
  simp only [Value.index, ifKnown_pair isMap (known_of_meaning? standsFor), found]

end Value

namespace Eval

variable {stored result : List (MapKey × Value)} {evaluated : List (Span × Value × Value)}

/-! ### The loop over the entries -/

theorem exists_cons_of_map_ofEntry {key : MapKey} {value : Value} {rest : List (Value × Value)}
    {entries : List (MapKey × Value)}
    (same : entries.map Value.ofEntry = (ofKey key, value) :: rest) :
    ∃ others, entries = (key, value) :: others ∧ others.map Value.ofEntry = rest := by
  obtain ⟨first, others, rfl, isFirst, areOthers⟩ := List.map_eq_cons_iff.mp same
  have isEntry : first = (key, value) := Value.ofEntry_injective isFirst
  cases isEntry
  exact ⟨others, rfl, areOthers⟩

/-- Entries are added to a map exactly if no two keys stand for the same, and the result is the ascending
list of those stored before and those added. By induction on the entries that are left; the keys stored
so far stay distinct and in ascending order. -/
theorem entriesOf_eq_ok_iff (distinct : DistinctKeys stored) (ascending : Entries.Ascending stored) :
    entriesOf stored evaluated = .ok result ↔
      ∃ entries, entries.map Value.ofEntry = evaluated.map (·.2) ∧ DistinctKeys (stored ++ entries) ∧
        Entries.Ascending result ∧ result.Perm (stored ++ entries) := by
  induction evaluated generalizing stored with
  | nil =>
    rw [entriesOf, Except.ok.injEq]
    constructor
    · rintro rfl
      exact ⟨[], rfl, by rwa [List.append_nil], ascending, by rw [List.append_nil]⟩
    · rintro ⟨entries, none, -, ascending', same⟩
      rw [List.map_nil, List.map_eq_nil_iff] at none
      rw [none, List.append_nil] at same
      exact (Entries.eq_of_perm_of_ascending ascending' ascending same).symm
  | cons entry rest ih =>
    obtain ⟨span, key, value⟩ := entry
    unfold entriesOf
    split
    · next notKey =>
      refine iff_of_false (fun succeeds => by cases succeeds) ?_
      rintro ⟨entries, same, -⟩
      obtain ⟨first, others, -, isFirst, -⟩ := List.map_eq_cons_iff.mp same
      rw [← (Prod.mk.inj isFirst).1, Value.key?_ofKey] at notKey
      cases notKey
    · next storedKey isKey =>
      cases Value.eq_ofKey_of_key? isKey
      split
      · next isStored =>
        refine iff_of_false (fun succeeds => by cases succeeds) ?_
        rintro ⟨entries, same, distinct', -⟩
        obtain ⟨others, rfl, -⟩ := exists_cons_of_map_ofEntry same
        obtain ⟨notFound, -⟩ := Value.distinctKeys_cons_iff.mp (distinct'.perm List.perm_middle)
        obtain ⟨found, lookup⟩ := Option.isSome_iff_exists.mp isStored
        obtain ⟨storedKey', member, sameMeaning⟩ := Value.exists_mem_of_lookup? lookup
        exact Value.lookup?_eq_none_iff.mp notFound _ (List.mem_append_left others member) sameMeaning
      · next notStored =>
        rw [Bool.not_eq_true, Option.isSome_eq_false_iff, Option.isNone_iff_eq_none] at notStored
        rw [ih (distinct.insert notStored value) (Entries.ascending_insert ascending storedKey value)]
        have added (entries : List (MapKey × Value)) :
            (Entries.insert storedKey value stored ++ entries).Perm
              (stored ++ (storedKey, value) :: entries) :=
          ((Value.insert_perm_of_lookup? notStored value).append_right entries).trans
            List.perm_middle.symm
        constructor
        · rintro ⟨entries, same, distinct', ascending', sorted⟩
          refine ⟨(storedKey, value) :: entries, ?_, distinct'.perm (added entries), ascending',
            sorted.trans (added entries)⟩
          rw [List.map_cons, List.map_cons, same]
          rfl
        · rintro ⟨entries, same, distinct', ascending', sorted⟩
          obtain ⟨others, rfl, sameRest⟩ := exists_cons_of_map_ofEntry same
          exact ⟨others, sameRest, distinct'.perm (added others).symm, ascending',
            sorted.trans (added others).symm⟩

/-! ### Literals -/

section Literal

variable [Engines] {activation : Activation} {locals : List Value} {span : Span}
  {entries : List (Term × Term)} {pairs : List (Value × Value)}

/-- Keys and values that can be evaluated are evaluated in their order. -/
theorem exists_evalEntries (each : List.Forall₂ (fun entry pair =>
      eval activation locals entry.1 = .ok pair.1 ∧ eval activation locals entry.2 = .ok pair.2)
      entries pairs) :
    ∃ evaluated, evalEntries activation locals entries = .ok evaluated ∧
      evaluated.map (·.2) = pairs := by
  induction each with
  | nil => exact ⟨[], rfl, rfl⟩
  | @cons entry pair rest others head tail ih =>
    obtain ⟨evaluated, given, same⟩ := ih
    refine ⟨(entry.1.span, pair) :: evaluated, ?_, by rw [List.map_cons, same]⟩
    simp only [evalEntries, head.1, head.2, given]
    rfl

omit [Engines] in
/-- Without unknown keys and values, only the loop over the entries counts. -/
theorem mapOf_of_known (known : ∀ pair ∈ evaluated.map (·.2), pair.1.Known ∧ pair.2.Known) :
    mapOf evaluated = do return .map (← entriesOf [] evaluated) := by
  have none : Value.unknowns? (keysAndValues evaluated) = none := by
    rw [Value.unknowns?_eq_none_iff]
    intro value member
    obtain ⟨entry, isEntry, isPart⟩ := List.mem_flatMap.mp member
    obtain ⟨knownKey, knownValue⟩ := known entry.2 (List.mem_map_of_mem isEntry)
    rcases List.mem_pair.mp isPart with rfl | rfl
    · exact knownKey
    · exact knownValue
  simp only [mapOf, none]

variable (each : List.Forall₂ (fun entry pair =>
    eval activation locals entry.1 = .ok pair.1 ∧ eval activation locals entry.2 = .ok pair.2)
    entries pairs)
  (known : ∀ pair ∈ pairs, pair.1.Known ∧ pair.2.Known)

include each known

theorem exists_eval_map :
    ∃ evaluated, evaluated.map (·.2) = pairs ∧ eval activation locals (.map span entries) =
      do return .map (← entriesOf [] evaluated) := by
  obtain ⟨evaluated, given, rfl⟩ := exists_evalEntries each
  refine ⟨evaluated, rfl, ?_⟩
  rw [← mapOf_of_known known]
  simp only [eval, given]
  rfl

/-- A map literal evaluates to the ascending list of its entries, if no two of its keys stand for the
same. -/
theorem eval_map_eq_ok_iff {value : Value} :
    eval activation locals (.map span entries) = .ok value ↔
      ∃ stored all, value = .map stored ∧ all.map Value.ofEntry = pairs ∧ DistinctKeys all ∧
        Entries.Ascending stored ∧ stored.Perm all := by
  obtain ⟨evaluated, same, evaluates⟩ := exists_eval_map each known
  have made {stored : List (MapKey × Value)} : entriesOf [] evaluated = .ok stored ↔
      ∃ all, all.map Value.ofEntry = evaluated.map (·.2) ∧ DistinctKeys all ∧
        Entries.Ascending stored ∧ stored.Perm all :=
    entriesOf_eq_ok_iff List.nodup_nil List.Pairwise.nil
  rw [evaluates, bind_eq_ok_iff]
  constructor
  · rintro ⟨stored, gives, ⟨⟩⟩
    obtain ⟨all, isAll, distinct, ascending, sorted⟩ := made.mp gives
    exact ⟨stored, all, rfl, isAll.trans same, distinct, ascending, sorted⟩
  · rintro ⟨stored, all, rfl, isAll, distinct, ascending, sorted⟩
    exact ⟨stored, made.mpr ⟨all, isAll.trans same.symm, distinct, ascending, sorted⟩, rfl⟩

theorem exists_eval_map_eq_ok_iff :
    (∃ value, eval activation locals (.map span entries) = .ok value) ↔ Value.Storable pairs := by
  rw [Value.storable_iff]
  constructor
  · rintro ⟨value, given⟩
    obtain ⟨stored, all, -, isAll, distinct, -, -⟩ := (eval_map_eq_ok_iff each known).mp given
    exact ⟨all, isAll, distinct⟩
  · rintro ⟨all, isAll, distinct⟩
    obtain ⟨stored, ascending, sorted⟩ := distinct.exists_ascending
    exact ⟨_, (eval_map_eq_ok_iff each known).mpr
      ⟨stored, all, rfl, isAll, distinct, ascending, sorted⟩⟩

theorem eval_map_failsOnly :
    FailsOnly (·.kind = .invalidArgument) (eval activation locals (.map span entries)) := by
  obtain ⟨evaluated, -, evaluates⟩ := exists_eval_map each known
  rw [evaluates]
  exact (entriesOf_failsOnly (fun _ _ => rfl) (fun _ _ _ => rfl) []).map _

/-- Entries in another order make the same map. -/
theorem eval_map_of_perm {value : Value} {entries' : List (Term × Term)} {span' : Span}
    (permuted : entries'.Perm entries)
    (given : eval activation locals (.map span entries) = .ok value) :
    eval activation locals (.map span' entries') = .ok value := by
  obtain ⟨stored, all, rfl, rfl, distinct, ascending, sorted⟩ :=
    (eval_map_eq_ok_iff each known).mp given
  obtain ⟨pairs', each', same⟩ := List.perm_comp_forall₂ permuted each
  have known' : ∀ pair ∈ pairs', pair.1.Known ∧ pair.2.Known :=
    fun pair member => known pair (same.subset member)
  obtain ⟨all', rfl⟩ := Value.exists_map_ofEntry fun pair member => by
    obtain ⟨entry, -, rfl⟩ := List.mem_map.mp (same.subset member)
    exact ⟨entry.1, rfl⟩
  have permuted' : all'.Perm all := (List.map_perm_map_iff Value.ofEntry_injective).mp same
  exact (eval_map_eq_ok_iff each' known').mpr
    ⟨stored, all', rfl, rfl, distinct.perm permuted'.symm, ascending, sorted.trans permuted'.symm⟩

/-- A map literal whose keys and values can be evaluated and are known succeeds exactly if its keys are of
kinds that can be keys and no two of them are equal, and otherwise it fails at one of them. It gives a map
of just its entries, in which everything that is equal to a key finds the value beside the key, and which
does not depend on the order of the entries. -/
theorem mapLiteral_outcome (span : Span) :
    let outcome := eval activation locals (.map span entries)
    ((∃ value, outcome = .ok value) ↔ Value.Storable pairs) ∧
      (¬Value.Storable pairs →
        ∃ error, outcome = .error error ∧ error.kind = .invalidArgument) ∧
      ∀ value, outcome = .ok value →
        (∃ stored, value = .map stored ∧ Entries.Ascending stored ∧
          (stored.map Value.ofEntry).Perm pairs) ∧
        (∀ pair ∈ pairs, ∀ index : Value, index.equal pair.1 = true →
          value.index index = .ok pair.2) ∧
        ∀ span' entries', entries'.Perm entries →
          eval activation locals (.map span' entries') = .ok value := by
  intro outcome
  have succeeds : (∃ value, outcome = .ok value) ↔ Value.Storable pairs :=
    exists_eval_map_eq_ok_iff each known
  refine ⟨succeeds, fun notStorable => ?_, fun value given => ⟨?_, ?_, ?_⟩⟩
  · cases failed : outcome with
    | ok value => exact absurd (succeeds.mp ⟨value, failed⟩) notStorable
    | error error => exact ⟨error, rfl, eval_map_failsOnly each known error failed⟩
  · obtain ⟨stored, all, rfl, rfl, -, ascending, sorted⟩ := (eval_map_eq_ok_iff each known).mp given
    exact ⟨stored, rfl, ascending, sorted.map _⟩
  · obtain ⟨stored, all, rfl, rfl, distinct, -, sorted⟩ := (eval_map_eq_ok_iff each known).mp given
    rintro _ member index same
    obtain ⟨entry, isEntry, rfl⟩ := List.mem_map.mp member
    exact Value.index_of_equal (distinct.perm sorted.symm) (sorted.symm.subset isEntry) same
  · exact fun span' entries' permuted => eval_map_of_perm each known permuted given

end Literal

/-- In a literal with keys of different kinds, the double `2.0` finds the value beside the unsigned key. -/
theorem mapLiteral_outcome_of_mixed_kinds :
    let place := Span.point 0
    let entries : List (Term × Term) :=
      [(.constant place (.string "two"), .constant place .null),
        (.constant place (.uint 2), .constant place (.bool true))]
    let pairs := [(Value.string "two", Value.null), (.uint 2, .bool true)]
    Value.Storable pairs ∧ ∃ value, eval .empty [] (.map place entries) = .ok value ∧
      value.index (.double ⟨0x4000000000000000⟩) = .ok (.bool true) ∧
      eval .empty [] (.map place entries.reverse) = .ok value := by
  intro place entries pairs
  have each : List.Forall₂ (fun entry pair => eval .empty [] entry.1 = .ok pair.1 ∧
      eval .empty [] entry.2 = .ok pair.2) entries pairs :=
    .cons ⟨rfl, rfl⟩ (.cons ⟨rfl, rfl⟩ .nil)
  have known : ∀ pair ∈ pairs, pair.1.Known ∧ pair.2.Known := by
    simp [pairs, Value.Known, Value.isUnknown]
  have distinct : DistinctKeys [(.string "two", .null), (.uint 2, .bool true)] := by
    unfold DistinctKeys
    decide +kernel
  have storable : Value.Storable pairs := Value.storable_iff.mpr ⟨_, rfl, distinct⟩
  obtain ⟨succeeds, -, found⟩ := mapLiteral_outcome each known place
  obtain ⟨value, given⟩ := succeeds.mpr storable
  obtain ⟨-, indexed, permuted⟩ := found value given
  exact ⟨storable, value, given, indexed (.uint 2, .bool true) (by simp [pairs]) _ (by decide +kernel),
    permuted place _ (List.reverse_perm _)⟩

end Eval

end Cel
