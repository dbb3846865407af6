/-! # Ordered entries

Finite maps, kept as lists of entries in ascending order of their keys. Inserting puts an entry into
its place and replaces one with the same key.
-/

namespace Cel.Entries

variable {κ α : Type} [Ord κ]

/-- Whether the keys of a list of entries are in strictly ascending order. -/
def Ascending (entries : List (κ × α)) : Prop :=
  entries.Pairwise fun first second => compare first.1 second.1 = .lt

/-- Put an entry into its place. -/
def insert (key : κ) (value : α) : List (κ × α) → List (κ × α)
  | [] => [(key, value)]
  | (first, old) :: rest =>
    match compare key first with
    | .lt => (key, value) :: (first, old) :: rest
    | .eq => (key, value) :: rest
    | .gt => (first, old) :: insert key value rest

/-- The entries of a list in any order. Of two entries with the same key the later one counts. -/
def ofList (list : List (κ × α)) : List (κ × α) :=
  list.foldl (fun entries entry => insert entry.1 entry.2 entries) []

/-- The value of a key. -/
def find? (key : κ) : List (κ × α) → Option α
  | [] => none
  | (first, value) :: rest => if compare key first = .eq then some value else find? key rest

/-- The entries without a key. -/
def erase (key : κ) (entries : List (κ × α)) : List (κ × α) :=
  entries.filter fun entry => compare key entry.1 != .eq

theorem mem_of_find? {key : κ} {value : α} {entries : List (κ × α)}
    (found : find? key entries = some value) : ∃ stored, (stored, value) ∈ entries := by
  induction entries with
  | nil => simp [find?] at found
  | cons entry rest ih =>
    unfold find? at found
    split at found
    · cases found
      exact ⟨entry.1, by simp⟩
    · obtain ⟨stored, member⟩ := ih found
      exact ⟨stored, List.mem_cons_of_mem _ member⟩

end Cel.Entries
