import Mathlib.Data.List.Forall2
import Mathlib.Data.List.Perm.Subperm
import Cel.Proofs.Value.Keys
import Cel.Proofs.Value.Numbers
import Cel.Proofs.Value.Parts

/-! # Equality

Equality of values is symmetric where every map holds each number under one key only. Maps of equal
size are compared by looking up the keys of the first, so that every entry of the first has its
counterpart in the second; distinct keys have distinct counterparts, and then none is left over. A
map that holds a number both as a signed and as an unsigned key can find one counterpart for both,
and what is left over goes unnoticed.
-/

namespace Cel

theorem Double.Extended.compare_eq_eq_iff {a b : Extended} : a.compare b = .eq ↔ a = b := by
  cases a with
  | bottom | top => cases b <;> simp [compare]
  | exact x =>
    cases b with
    | bottom | top => simp [compare]
    | exact y =>
      simp only [compare, exact.injEq]
      constructor
      · intro same
        by_cases below : x < y
        · rw [if_pos below] at same
          cases same
        · rw [if_neg below] at same
          by_cases above : y < x
          · rw [if_pos above] at same
            cases same
          · exact Dyadic.le_antisymm (Dyadic.not_le.mp above) (Dyadic.not_le.mp below)
      · rintro rfl
        have notBelow : ¬x < x := Dyadic.not_le.mpr (Dyadic.le_refl x)
        rw [if_neg notBelow, if_neg notBelow]

namespace Value


variable {a b : Value}

/-! ### Equality by kinds -/

/-- Two numbers are equal if they have the same exact value. -/
theorem compareNumbers_eq_iff :
    compareNumbers a b = some .eq ↔ ∃ x, a.exactValue? = some x ∧ b.exactValue? = some x := by
  simp [compareNumbers_eq, Option.bind_eq_some_iff, Double.Extended.compare_eq_eq_iff]

theorem equalItems_iff {items items' : List Value} :
    equalItems items items' = true ↔ List.Forall₂ (fun a b => a.equal b = true) items items' := by
  induction items generalizing items' with
  | nil => cases items' <;> simp [equalItems]
  | cons item rest ih => cases items' <;> simp [equalItems, ih]

theorem equalFields_iff {fields fields' : List (String × Value)} :
    equalFields fields fields' = true ↔
      List.Forall₂ (fun a b => a.1 = b.1 ∧ a.2.equal b.2 = true) fields fields' := by
  induction fields generalizing fields' with
  | nil => cases fields' <;> simp [equalFields]
  | cons field rest ih =>
    cases fields' with
    | nil => simp [equalFields]
    | cons field' rest' =>
      rw [equalFields, Bool.and_eq_true, Bool.and_eq_true, beq_iff_eq, ih, List.forall₂_cons]

theorem equalEntries_iff {entries stored : List (MapKey × Value)} :
    equalEntries entries stored = true ↔ ∀ entry ∈ entries, ∃ found,
      (ofKey entry.1).lookup? stored = some found ∧ found.equal entry.2 = true := by
  induction entries with
  | nil => simp [equalEntries]
  | cons entry rest ih =>
    rw [equalEntries, Bool.and_eq_true, ih, List.forall_mem_cons]
    refine and_congr_left' ?_
    split
    · next found here => simp [here]
    · next nothing => simp [nothing]

/-- How two values can be equal: the same value of a kind without parts, numbers of the same exact
value, or lists, maps and structs of equal parts. -/
inductive Equal : Value → Value → Prop where
  | null : Equal null null
  | bool (value : Bool) : Equal (bool value) (bool value)
  | string (value : String) : Equal (string value) (string value)
  | bytes (value : List UInt8) : Equal (bytes value) (bytes value)
  | timestamp (value : Timestamp) : Equal (timestamp value) (timestamp value)
  | duration (value : Duration) : Equal (duration value) (duration value)
  | unknown (names : Names) : Equal (unknown names) (unknown names)
  | number {a b : Value} {x : Double.Extended} (left : a.exactValue? = some x)
    (right : b.exactValue? = some x) : Equal a b
  | list {items items' : List Value}
    (each : List.Forall₂ (fun a b => a.equal b = true) items items') :
    Equal (list items) (list items')
  | map {entries stored : List (MapKey × Value)} (size : entries.length = stored.length)
    (each : ∀ entry ∈ entries, ∃ found,
      (ofKey entry.1).lookup? stored = some found ∧ found.equal entry.2 = true) :
    Equal (map entries) (map stored)
  | struct {name : String} {fields fields' : List (String × Value)}
    (each : List.Forall₂ (fun a b => a.1 = b.1 ∧ a.2.equal b.2 = true) fields fields') :
    Equal (struct name fields) (struct name fields')

theorem equal_iff : a.equal b = true ↔ Equal a b := by
  constructor
  · intro same
    rw [equal.eq_def] at same
    split at same
    · exact .null
    · cases beq_iff_eq.mp same
      exact .bool _
    · cases beq_iff_eq.mp same
      exact .string _
    · cases beq_iff_eq.mp same
      exact .bytes _
    · exact .list (equalItems_iff.mp same)
    · obtain ⟨size, each⟩ := (Bool.and_eq_true _ _).mp same
      exact .map (beq_iff_eq.mp size) (equalEntries_iff.mp each)
    · obtain ⟨named, each⟩ := (Bool.and_eq_true _ _).mp same
      cases beq_iff_eq.mp named
      exact .struct (equalFields_iff.mp each)
    · cases beq_iff_eq.mp same
      exact .timestamp _
    · cases beq_iff_eq.mp same
      exact .duration _
    · cases beq_iff_eq.mp same
      exact .unknown _
    · obtain ⟨x, left, right⟩ := compareNumbers_eq_iff.mp (beq_iff_eq.mp same)
      exact .number left right
  · intro same
    cases same with
    | null | bool | string | bytes | timestamp | duration | unknown => simp [equal]
    | list each => simpa [equal] using equalItems_iff.mpr each
    | map size each => simpa [equal, size] using equalEntries_iff.mpr each
    | struct each => simpa [equal] using equalFields_iff.mpr each
    | @number a b x left right =>
      have compared : compareNumbers a b = some .eq := compareNumbers_eq_iff.mpr ⟨x, left, right⟩
      cases a with
      | int | uint | double =>
        cases b with
        | int | uint | double => simpa [equal] using compared
        | _ => cases right
      | _ => cases left

/-! ### Symmetry -/

/-- Whether a value, if it is a map, has distinct keys. -/
def KeysDistinct : Value → Prop
  | map entries => DistinctKeys entries
  | _ => True

theorem forall₂_symm {α β : Type} {r : α → β → Prop} {s : β → α → Prop} {items : List α}
    {items' : List β} (each : List.Forall₂ r items items')
    (swap : ∀ x ∈ items, ∀ y ∈ items', r x y → s y x) : List.Forall₂ s items' items := by
  induction each with
  | nil => exact .nil
  | cons first rest ih =>
    refine .cons (swap _ List.mem_cons_self _ List.mem_cons_self first) (ih ?_)
    intro x here y there
    exact swap x (List.mem_cons_of_mem _ here) y (List.mem_cons_of_mem _ there)

/-- If every entry of a map has its counterpart in another map of the same size, then every entry of
the other one has its counterpart in the first, where the keys of both are distinct. -/
theorem counterparts_symm {entries stored : List (MapKey × Value)}
    (distinct : DistinctKeys entries) (distinct' : DistinctKeys stored)
    (size : entries.length = stored.length)
    (swap : ∀ entry ∈ entries, ∀ other ∈ stored,
      other.2.equal entry.2 = true → entry.2.equal other.2 = true)
    (each : ∀ entry ∈ entries, ∃ found,
      (ofKey entry.1).lookup? stored = some found ∧ found.equal entry.2 = true) :
    ∀ other ∈ stored, ∃ found,
      (ofKey other.1).lookup? entries = some found ∧ found.equal other.2 = true := by
  -- The keys of the entries are among those stored, and as many, so none of those is left over.
  have within : entries.map (·.1.meaning) ⊆ stored.map (·.1.meaning) := by
    intro key member
    obtain ⟨entry, here, rfl⟩ := List.mem_map.mp member
    obtain ⟨found, lookup, -⟩ := each entry here
    obtain ⟨key', there, same⟩ := exists_mem_of_lookup? lookup
    exact List.mem_map.mpr ⟨(key', found), there, same⟩
  have together : (entries.map (·.1.meaning)).Perm (stored.map (·.1.meaning)) := by
    refine (List.subperm_of_subset distinct within).perm_of_length_le ?_
    simp [size]
  intro other there
  have met : other.1.meaning ∈ entries.map (·.1.meaning) :=
    together.symm.subset (List.mem_map.mpr ⟨other, there, rfl⟩)
  obtain ⟨entry, here, same⟩ := List.mem_map.mp met
  obtain ⟨found, lookup, equal⟩ := each entry here
  have counterpart : (ofKey entry.1).lookup? stored = some other.2 :=
    distinct'.lookup?_eq_some_iff.mpr ⟨other.1, there, same.symm⟩
  cases lookup.symm.trans counterpart
  exact ⟨entry.2, distinct.lookup?_eq_some_iff.mpr ⟨entry.1, here, same⟩, swap _ here _ there equal⟩

/-- Equality is symmetric if it is symmetric for the parts and the keys are distinct. -/
theorem Equal.symm (same : Equal a b) (distinct : a.KeysDistinct) (distinct' : b.KeysDistinct)
    (swap : ∀ x ∈ a.parts, ∀ y ∈ b.parts, x.equal y = y.equal x) : Equal b a := by
  cases same with
  | null => exact .null
  | bool value => exact .bool value
  | string value => exact .string value
  | bytes value => exact .bytes value
  | timestamp value => exact .timestamp value
  | duration value => exact .duration value
  | unknown names => exact .unknown names
  | number left right => exact .number right left
  | list each =>
    refine .list (forall₂_symm each fun x here y there equal => ?_)
    rwa [← swap x here y there]
  | map size each =>
    refine .map size.symm (counterparts_symm distinct distinct' size ?_ each)
    intro entry here other there equal
    rwa [swap _ (List.mem_map_of_mem here) _ (List.mem_map_of_mem there)]
  | struct each =>
    refine .struct (forall₂_symm each fun x here y there equal => ⟨equal.1.symm, ?_⟩)
    rw [← swap _ (List.mem_map_of_mem here) _ (List.mem_map_of_mem there)]
    exact equal.2

/-- Equality of values is symmetric where no map inside them holds a number under two keys. -/
theorem equal_comm_of_keysDistinct (distinct : Everywhere KeysDistinct a)
    (distinct' : Everywhere KeysDistinct b) : a.equal b = b.equal a := by
  induction distinct generalizing b with
  | @intro a here inside ih =>
    have swap : ∀ x ∈ a.parts, ∀ y ∈ b.parts, x.equal y = y.equal x := fun x member y member' =>
      ih x member (distinct'.inside y member')
    rw [Bool.eq_iff_iff, equal_iff, equal_iff]
    constructor
    · exact fun same => same.symm here distinct'.here swap
    · exact fun same => same.symm distinct'.here here fun y member' x member =>
        (swap x member y member').symm

/-- Lists of maps with a signed and with an unsigned key are equal both ways. -/
theorem equal_comm_of_keysDistinct_mixed :
    (list [map [(.int 1, null)]]).equal (list [map [(.uint 1, null)]]) =
      (list [map [(.uint 1, null)]]).equal (list [map [(.int 1, null)]]) := by
  have distinct (key : MapKey) : Everywhere KeysDistinct (list [map [(key, null)]]) := by
    have inMap : Everywhere KeysDistinct (map [(key, null)]) :=
      .intro (List.nodup_singleton _) (List.forall_mem_singleton.mpr (.of_parts_eq_nil trivial rfl))
    exact .intro trivial (List.forall_mem_singleton.mpr inMap)
  exact equal_comm_of_keysDistinct (distinct (.int 1)) (distinct (.uint 1))

/-- A map that holds a number under two keys finds the same counterpart for both. -/
theorem equal_not_comm_of_repeated_number :
    (ofEntries [(.int 1, int 0), (.uint 1, int 0)]).equal
        (ofEntries [(.int 1, int 0), (.int 2, int 0)]) = true ∧
      (ofEntries [(.int 1, int 0), (.int 2, int 0)]).equal
        (ofEntries [(.int 1, int 0), (.uint 1, int 0)]) = false := by
  decide +kernel

end Value

end Cel
