/-! # Sets of names

A finite set of names, kept as a strictly ascending list, so that two sets with the same members are
equal and listing a set needs no sorting. Strings are ordered by their characters, which is also the
order of their bytes.
-/

namespace Cel

/-- A finite set of names in ascending order. -/
structure Names where
  toList : List String
  ascending : toList.Pairwise (· < ·) := by simp
deriving DecidableEq, Repr

namespace Names

/-- Put a name into its place in an ascending list, unless it is there already. -/
def place (name : String) : List String → List String
  | [] => [name]
  | first :: rest =>
    if name < first then name :: first :: rest
    else if first < name then first :: place name rest
    else first :: rest

theorem mem_place {name other : String} {list : List String} :
    other ∈ place name list ↔ other = name ∨ other ∈ list := by
  induction list with
  | nil => simp [place]
  | cons first rest ih =>
    unfold place
    split
    · simp
    · split
      · simp only [List.mem_cons, ih]
        grind
      · next notBefore notAfter =>
        have same : name = first :=
          String.le_antisymm (String.not_lt.mp notAfter) (String.not_lt.mp notBefore)
        simp [same]

theorem ascending_place {name : String} {list : List String} (ascending : list.Pairwise (· < ·)) :
    (place name list).Pairwise (· < ·) := by
  induction list with
  | nil => simp [place]
  | cons first rest ih =>
    obtain ⟨before, sorted⟩ := List.pairwise_cons.mp ascending
    unfold place
    split
    · next earlier =>
      refine List.pairwise_cons.mpr ⟨fun other member => ?_, ascending⟩
      rcases List.mem_cons.mp member with rfl | later
      · exact earlier
      · exact String.lt_trans earlier (before other later)
    · split
      · next later =>
        refine List.pairwise_cons.mpr ⟨fun other member => ?_, ih sorted⟩
        rcases mem_place.mp member with rfl | old
        · exact later
        · exact before other old
      · exact ascending

instance : Membership String Names := ⟨fun set name => name ∈ set.toList⟩

theorem mem_def {set : Names} {name : String} : name ∈ set ↔ name ∈ set.toList := Iff.rfl

instance (set : Names) (name : String) : Decidable (name ∈ set) :=
  inferInstanceAs (Decidable (name ∈ set.toList))

def empty : Names := ⟨[], .nil⟩

def singleton (name : String) : Names := ⟨[name], by simp⟩

def insert (name : String) (set : Names) : Names :=
  ⟨place name set.toList, ascending_place set.ascending⟩

/-- The names of a list, which may be in any order and repeat. -/
def ofList (list : List String) : Names := list.foldr insert empty

def union (first second : Names) : Names := first.toList.foldr insert second

def isEmpty (set : Names) : Bool := set.toList.isEmpty

@[simp] theorem mem_empty {name : String} : name ∈ empty ↔ False := by simp [mem_def, empty]

@[simp] theorem mem_singleton {name other : String} : other ∈ singleton name ↔ other = name := by
  simp [mem_def, singleton]

@[simp] theorem mem_insert {name other : String} {set : Names} :
    other ∈ set.insert name ↔ other = name ∨ other ∈ set := mem_place

theorem mem_foldr_insert {list : List String} {set : Names} {name : String} :
    name ∈ list.foldr insert set ↔ name ∈ list ∨ name ∈ set := by
  induction list with
  | nil => simp
  | cons first rest ih => simp [ih, or_assoc]

@[simp] theorem mem_ofList {list : List String} {name : String} : name ∈ ofList list ↔ name ∈ list := by
  simp [ofList, mem_foldr_insert]

@[simp] theorem mem_union {first second : Names} {name : String} :
    name ∈ first.union second ↔ name ∈ first ∨ name ∈ second := mem_foldr_insert

/-- Two ascending lists with the same members are equal. -/
theorem eq_of_same_members {first second : List String} (ascending : first.Pairwise (· < ·))
    (ascending' : second.Pairwise (· < ·)) (same : ∀ name, name ∈ first ↔ name ∈ second) :
    first = second := by
  induction first generalizing second with
  | nil => exact (List.eq_nil_iff_forall_not_mem.mpr fun name member => by
      simpa using (same name).mpr member).symm
  | cons head tail ih =>
    cases second with
    | nil => simpa using (same head).mp (by simp)
    | cons head' tail' =>
      obtain ⟨before, sorted⟩ := List.pairwise_cons.mp ascending
      obtain ⟨before', sorted'⟩ := List.pairwise_cons.mp ascending'
      have heads : head = head' := by
        rcases List.mem_cons.mp ((same head).mp (by simp)) with found | found
        · exact found
        · rcases List.mem_cons.mp ((same head').mpr (by simp)) with found' | found'
          · exact found'.symm
          · exact absurd (before' head found) (String.lt_asymm (before head' found'))
      subst heads
      congr 1
      refine ih sorted sorted' fun name => ⟨fun member => ?_, fun member => ?_⟩
      · rcases List.mem_cons.mp ((same name).mp (by simp [member])) with rfl | found
        · exact absurd (before name member) (String.lt_irrefl name)
        · exact found
      · rcases List.mem_cons.mp ((same name).mpr (by simp [member])) with rfl | found
        · exact absurd (before' name member) (String.lt_irrefl name)
        · exact found

/-- A set is determined by its members. -/
@[ext] theorem ext {first second : Names} (same : ∀ name, name ∈ first ↔ name ∈ second) :
    first = second := by
  cases first
  cases second
  simp only [mk.injEq]
  exact eq_of_same_members ‹_› ‹_› same

theorem union_assoc (a b c : Names) : (a.union b).union c = a.union (b.union c) :=
  ext fun _ => by simp [or_assoc]

theorem union_comm (a b : Names) : a.union b = b.union a :=
  ext fun _ => by simp [or_comm]

theorem empty_union (a : Names) : empty.union a = a :=
  ext fun _ => by simp

theorem union_empty (a : Names) : a.union empty = a :=
  ext fun _ => by simp

end Names

end Cel
