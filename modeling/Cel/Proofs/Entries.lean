import Mathlib.Data.List.Nodup
import Cel.Entries

/-! # Entries of finite maps

What is found for a key stands among the entries, and nothing is found exactly if no entry has the
key. Inserting an entry under a new key adds it to the others, and whatever is inserted, ascending
entries stay ascending.
-/

namespace Cel.Entries

variable {κ α : Type} [Ord κ] {key : κ} {value : α} {entries : List (κ × α)}

section Find

variable [Std.LawfulEqOrd κ]

theorem mem_of_find?_eq_some (found : find? key entries = some value) : (key, value) ∈ entries := by
  induction entries with
  | nil => cases found
  | cons entry rest ih =>
    unfold find? at found
    split at found
    · next same =>
      cases found
      rw [Std.LawfulEqOrd.eq_of_compare same]
      exact List.mem_cons_self
    · exact List.mem_cons_of_mem _ (ih found)

theorem find?_eq_none_iff : find? key entries = none ↔ ∀ entry ∈ entries, entry.1 ≠ key := by
  induction entries with
  | nil => simp [find?]
  | cons entry rest ih =>
    unfold find?
    split
    · next same => simp [Std.LawfulEqOrd.eq_of_compare same]
    · next other =>
      have notHere : entry.1 ≠ key := by
        rintro rfl
        exact other Std.ReflCmp.compare_self
      simp [ih, notHere]

end Find

theorem mem_or_eq_of_mem_insert {entry : κ × α} (member : entry ∈ insert key value entries) :
    entry = (key, value) ∨ entry ∈ entries := by
  induction entries with
  | nil => exact .inl (List.mem_singleton.mp member)
  | cons first rest ih =>
    unfold insert at member
    split at member
    · exact List.mem_cons.mp member
    · exact (List.mem_cons.mp member).imp id (List.mem_cons_of_mem first)
    · rcases List.mem_cons.mp member with rfl | later
      · exact .inr List.mem_cons_self
      · exact (ih later).imp id (List.mem_cons_of_mem first)

/-- Inserting under a new key adds the entry to the others. -/
theorem insert_perm [Std.LawfulEqOrd κ] (fresh : ∀ entry ∈ entries, entry.1 ≠ key) :
    (insert key value entries).Perm ((key, value) :: entries) := by
  induction entries with
  | nil => exact .refl _
  | cons first rest ih =>
    obtain ⟨notFirst, notRest⟩ := List.forall_mem_cons.mp fresh
    unfold insert
    split
    · exact .refl _
    · next same => exact absurd (Std.LawfulEqOrd.eq_of_compare same).symm notFirst
    · exact ((ih notRest).cons first).trans (.swap _ _ _)

theorem mem_of_mem_ofList {list : List (κ × α)} {entry : κ × α} (member : entry ∈ ofList list) :
    entry ∈ list := by
  have inserted (start : List (κ × α))
      (member : entry ∈ list.foldl (fun entries entry => insert entry.1 entry.2 entries) start) :
      entry ∈ list ∨ entry ∈ start := by
    clear * - member
    induction list generalizing start with
    | nil => exact .inr member
    | cons first rest ih =>
      rcases ih _ member with later | here
      · exact .inl (List.mem_cons_of_mem first later)
      · rcases mem_or_eq_of_mem_insert here with rfl | before
        · exact .inl List.mem_cons_self
        · exact .inr before
  exact (inserted [] member).resolve_right List.not_mem_nil

section Distinct

variable [Std.LawfulEqOrd κ]

/-- Under different keys, all entries are kept. -/
theorem ofList_perm {list : List (κ × α)} (distinct : (list.map (·.1)).Nodup) : (ofList list).Perm list := by
  have inserted (start : List (κ × α)) (fresh : ∀ entry ∈ start, ∀ other ∈ list, entry.1 ≠ other.1) :
      (list.foldl (fun entries entry => insert entry.1 entry.2 entries) start).Perm (list ++ start) := by
    induction list generalizing start with
    | nil => exact .refl _
    | cons first rest ih =>
      obtain ⟨notLater, distinctRest⟩ := List.nodup_cons.mp distinct
      have added : (insert first.1 first.2 start).Perm (first :: start) :=
        insert_perm fun entry member => fresh entry member first List.mem_cons_self
      refine (ih distinctRest _ fun entry member other later => ?_).trans ?_
      · rcases mem_or_eq_of_mem_insert member with rfl | old
        · exact fun same => notLater (List.mem_map.mpr ⟨other, later, same.symm⟩)
        · exact fresh entry old other (List.mem_cons_of_mem _ later)
      · exact (added.append_left rest).trans List.perm_middle
  exact (inserted [] nofun).trans (.of_eq (List.append_nil list))

/-- Under different keys, an entry is found by its key. -/
theorem find?_eq_some_of_mem (distinct : (entries.map (·.1)).Nodup) (member : (key, value) ∈ entries) :
    find? key entries = some value := by
  cases found : find? key entries with
  | none => exact absurd rfl (find?_eq_none_iff.mp found _ member)
  | some other =>
    have same := List.inj_on_of_nodup_map distinct (mem_of_find?_eq_some found) member rfl
    exact congrArg some (Prod.mk.inj same).2

end Distinct

section Ascending

variable [Std.TransOrd κ]

theorem ascending_insert (ascending : Ascending entries) (key : κ) (value : α) :
    Ascending (insert key value entries) := by
  induction entries with
  | nil => exact List.pairwise_singleton _ _
  | cons first rest ih =>
    obtain ⟨before, sorted⟩ := List.pairwise_cons.mp ascending
    unfold insert
    split
    · next earlier =>
      refine List.pairwise_cons.mpr ⟨fun other member => ?_, ascending⟩
      rcases List.mem_cons.mp member with rfl | later
      · exact earlier
      · exact Std.TransCmp.lt_trans earlier (before other later)
    · next same =>
      refine List.pairwise_cons.mpr ⟨fun other member => ?_, sorted⟩
      exact Std.TransCmp.lt_of_eq_of_lt same (before other member)
    · next later =>
      refine List.pairwise_cons.mpr ⟨fun other member => ?_, ih sorted⟩
      rcases mem_or_eq_of_mem_insert member with rfl | old
      · exact Std.OrientedCmp.lt_of_gt later
      · exact before other old

theorem ascending_ofList (list : List (κ × α)) : Ascending (ofList list) := by
  have inserted (start : List (κ × α)) (ascending : Ascending start) :
      Ascending (list.foldl (fun entries entry => insert entry.1 entry.2 entries) start) := by
    induction list generalizing start with
    | nil => exact ascending
    | cons first rest ih => exact ih _ (ascending_insert ascending first.1 first.2)
  exact inserted [] List.Pairwise.nil

/-- Ascending entries have different keys. -/
theorem nodup_keys_of_ascending (ascending : Ascending entries) : (entries.map (·.1)).Nodup := by
  rw [List.Nodup, List.pairwise_map]
  refine ascending.imp fun {first second} earlier same => ?_
  have equal : compare first.1 second.1 = .eq := by
    rw [same]
    exact Std.ReflCmp.compare_self
  rw [equal] at earlier
  cases earlier

/-- Ascending entries are the only ones in their order. -/
theorem eq_of_perm_of_ascending {others : List (κ × α)} (ascending : Ascending entries)
    (ascending' : Ascending others) (same : entries.Perm others) : entries = others := by
  refine same.eq_of_pairwise (fun first second _ _ before after => ?_) ascending ascending'
  rw [Std.OrientedCmp.gt_of_lt before] at after
  cases after

end Ascending

end Cel.Entries
