import Cel.Expr

/-! # Numbered trees

Whatever kind a node is of, its height, its size and its number follow from the trees below it, which
are numbered one after the other. So the heights of nodes can be kept in a table by number while a
tree is built from its leaves: when a node is complete, its height is found from the entries of the
nodes directly below it, and it becomes the next entry.
-/

namespace Cel.Expr

variable {α : Type}

/-! ### A node and the trees below it -/

theorem heightOfEntries_eq (entries : List (Expr α × Expr α)) :
    heightOfEntries entries = heightOfAll (entries.flatMap fun (key, value) => [key, value]) := by
  induction entries with
  | nil => rfl
  | cons entry rest ih =>
    simp only [heightOfEntries, List.flatMap_cons, List.cons_append, List.nil_append, heightOfAll, ih,
      Nat.max_assoc]

theorem heightOfFields_eq (fields : List (String × Expr α)) :
    heightOfFields fields = heightOfAll (fields.map (·.2)) := by
  induction fields with
  | nil => rfl
  | cons field rest ih => simp only [heightOfFields, List.map_cons, heightOfAll, ih]

theorem height_eq (e : Expr α) : e.height = heightOfAll e.children + 1 := by
  cases e with
  | map note entries => rw [height, heightOfEntries_eq, children]
  | struct note typeName fields => rw [height, heightOfFields_eq, children, heightOfAll]
  | _ => simp only [height, children, heightOfAll, Nat.max_zero]

theorem sizeOfEntries_eq (entries : List (Expr α × Expr α)) :
    sizeOfEntries entries = sizeOfAll (entries.flatMap fun (key, value) => [key, value]) := by
  induction entries with
  | nil => rfl
  | cons entry rest ih =>
    simp only [sizeOfEntries, List.flatMap_cons, List.cons_append, List.nil_append, sizeOfAll, ih,
      Nat.add_assoc]

theorem sizeOfFields_eq (fields : List (String × Expr α)) :
    sizeOfFields fields = sizeOfAll (fields.map (·.2)) := by
  induction fields with
  | nil => rfl
  | cons field rest ih => simp only [sizeOfFields, List.map_cons, sizeOfAll, ih]

theorem size_eq (e : Expr α) : e.size = sizeOfAll e.children + 1 := by
  cases e with
  | map note entries => rw [size, sizeOfEntries_eq, children]
  | struct note typeName fields => rw [size, sizeOfFields_eq, children, sizeOfAll]
  | _ => simp only [size, children, sizeOfAll, Nat.add_zero, Nat.add_assoc]

theorem sizeOfAll_append (trees others : List (Expr α)) :
    sizeOfAll (trees ++ others) = sizeOfAll trees + sizeOfAll others := by
  induction trees with
  | nil => exact (Nat.zero_add _).symm
  | cons e rest ih => rw [List.cons_append, sizeOfAll, sizeOfAll, ih, Nat.add_assoc]

theorem nodesOfEntries_eq (entries : List (Expr α × Expr α)) :
    nodesOfEntries entries = nodesOfAll (entries.flatMap fun (key, value) => [key, value]) := by
  induction entries with
  | nil => rfl
  | cons entry rest ih =>
    simp only [nodesOfEntries, List.flatMap_cons, List.cons_append, List.nil_append, nodesOfAll, ih,
      List.append_assoc]

theorem nodesOfFields_eq (fields : List (String × Expr α)) :
    nodesOfFields fields = nodesOfAll (fields.map (·.2)) := by
  induction fields with
  | nil => rfl
  | cons field rest ih => simp only [nodesOfFields, List.map_cons, nodesOfAll, ih]

theorem nodes_eq (e : Expr α) : e.nodes = nodesOfAll e.children ++ [e] := by
  cases e with
  | map note entries => rw [nodes, nodesOfEntries_eq, children]
  | struct note typeName fields => rw [nodes, nodesOfFields_eq, children, nodesOfAll]
  | _ => simp only [nodes, children, nodesOfAll, List.append_nil, List.append_assoc, List.nil_append]

theorem nodesOfAll_eq (trees : List (Expr α)) : nodesOfAll trees = trees.flatMap nodes := by
  induction trees with
  | nil => rfl
  | cons e rest ih => rw [nodesOfAll, List.flatMap_cons, ih]

theorem mem_nodes {node e : Expr α} :
    node ∈ e.nodes ↔ node = e ∨ ∃ child ∈ e.children, node ∈ child.nodes := by
  rw [nodes_eq, nodesOfAll_eq, List.mem_append, List.mem_singleton, List.mem_flatMap, or_comm]

theorem self_mem_nodes (e : Expr α) : e ∈ e.nodes := mem_nodes.mpr (.inl rfl)

theorem size_le_of_mem {e : Expr α} {trees : List (Expr α)} (member : e ∈ trees) :
    e.size ≤ sizeOfAll trees := by
  induction trees with
  | nil => cases member
  | cons tree rest ih =>
    rw [sizeOfAll]
    rcases List.mem_cons.mp member with rfl | later
    · omega
    · have := ih later
      omega

/-- What holds of a node if it holds of the trees below it holds of every tree. -/
@[elab_as_elim]
theorem childrenInduction {motive : Expr α → Prop}
    (node : ∀ e : Expr α, (∀ child ∈ e.children, motive child) → motive e) (e : Expr α) :
    motive e := by
  induction bound : e.size using Nat.strongRecOn generalizing e with
  | ind size ih =>
    refine node e fun child member => ih child.size ?_ child rfl
    have := size_le_of_mem member
    rw [← bound, size_eq e]
    omega

/-- The nodes of a part of a tree stand in the order in which they stand in the tree. -/
theorem nodes_sublist {node e : Expr α} (member : node ∈ e.nodes) : node.nodes.Sublist e.nodes := by
  induction e using childrenInduction with
  | node e ih =>
    rcases mem_nodes.mp member with rfl | ⟨child, isChild, below⟩
    · exact .refl _
    · have inChildren : child.nodes.Sublist (e.children.flatMap nodes) :=
        List.sublist_flatten_of_mem (List.mem_map_of_mem isChild)
      rw [nodes_eq e, nodesOfAll_eq]
      exact ((ih child isChild below).trans inChildren).trans (List.sublist_append_left _ _)

theorem length_nodesOfAll {trees : List (Expr α)}
    (each : ∀ e ∈ trees, e.nodes.length = e.size) : (nodesOfAll trees).length = sizeOfAll trees := by
  induction trees with
  | nil => rfl
  | cons e rest ih =>
    obtain ⟨head, tail⟩ := List.forall_mem_cons.mp each
    rw [nodesOfAll, sizeOfAll, List.length_append, head, ih tail]

theorem length_nodes (e : Expr α) : e.nodes.length = e.size := by
  induction e using childrenInduction with
  | node e ih =>
    rw [nodes_eq, size_eq, List.length_append, length_nodesOfAll ih, List.length_singleton]

/-! ### Numbers -/

theorem numberEntries_eq (first : Nat) (entries : List (Expr Span × Expr Span)) :
    ((numberEntries first entries).flatMap fun (key, value) => [key, value]) =
      numberAll first (entries.flatMap fun (key, value) => [key, value]) := by
  induction entries generalizing first with
  | nil => rfl
  | cons entry rest ih =>
    simp only [numberEntries, List.flatMap_cons, List.cons_append, List.nil_append, numberAll, ih]

theorem numberFields_eq (first : Nat) (fields : List (String × Expr Span)) :
    (numberFields first fields).map (·.2) = numberAll first (fields.map (·.2)) := by
  induction fields generalizing first with
  | nil => rfl
  | cons field rest ih => simp only [numberFields, List.map_cons, numberAll, ih]

theorem numberAll_append (first : Nat) (trees others : List (Expr Span)) :
    numberAll first (trees ++ others) =
      numberAll first trees ++ numberAll (first + sizeOfAll trees) others := by
  induction trees generalizing first with
  | nil => rfl
  | cons e rest ih =>
    rw [List.cons_append, numberAll, ih, numberAll, sizeOfAll, Nat.add_assoc, List.cons_append]

@[simp] theorem isCallee_number (first : Nat) (e : Expr Span) :
    (e.number first).isCallee = e.isCallee := by
  cases e <;> rfl

@[simp] theorem isTypeName_number (first : Nat) (e : Expr Span) :
    (e.number first).isTypeName = e.isTypeName := by
  cases e <;> rfl

/-- The trees below a node are numbered one after the other. -/
theorem children_number (first : Nat) (e : Expr Span) :
    (e.number first).children = numberAll first e.children := by
  cases e with
  | map span entries => exact numberEntries_eq first entries
  | struct span typeName fields =>
    simp only [number, children, numberAll, numberFields_eq]
  | _ => simp only [number, children, numberAll]

/-- A node is numbered after the trees below it. -/
theorem id_number (first : Nat) (e : Expr Span) :
    (e.number first).note.id = first + sizeOfAll e.children := by
  cases e with
  | map span entries => simp only [number, note, children, sizeOfEntries_eq]
  | struct span typeName fields =>
    simp only [number, note, children, sizeOfAll, sizeOfFields_eq, Nat.add_assoc]
  | _ => simp only [number, note, children, sizeOfAll, Nat.add_zero, Nat.add_assoc]

theorem sizeOfAll_numberAll {trees : List (Expr Span)}
    (each : ∀ e ∈ trees, ∀ first, (e.number first).size = e.size) (first : Nat) :
    sizeOfAll (numberAll first trees) = sizeOfAll trees := by
  induction trees generalizing first with
  | nil => rfl
  | cons e rest ih =>
    obtain ⟨head, tail⟩ := List.forall_mem_cons.mp each
    rw [numberAll, sizeOfAll, sizeOfAll, head, ih tail]

@[simp] theorem size_number (first : Nat) (e : Expr Span) : (e.number first).size = e.size := by
  induction e using childrenInduction generalizing first with
  | node e ih => rw [size_eq, size_eq, children_number, sizeOfAll_numberAll ih]

@[simp] theorem span_number (first : Nat) (e : Expr Span) : (e.number first).note.span = e.note := by
  cases e <;> rfl

theorem exists_of_mem_numberAll {trees : List (Expr Span)} {first : Nat} {tree : Expr Mark}
    (member : tree ∈ numberAll first trees) : ∃ e ∈ trees, ∃ start, tree = e.number start := by
  induction trees generalizing first with
  | nil => cases member
  | cons e rest ih =>
    rw [numberAll] at member
    rcases List.mem_cons.mp member with rfl | later
    · exact ⟨e, List.mem_cons_self, first, rfl⟩
    · obtain ⟨other, isLater, numbered⟩ := ih later
      exact ⟨other, List.mem_cons_of_mem _ isLater, numbered⟩

/-- The nodes of a numbered tree are its nodes, numbered. -/
theorem exists_of_mem_nodes_number {e : Expr Span} {first : Nat} {node : Expr Mark}
    (member : node ∈ (e.number first).nodes) : ∃ bare ∈ e.nodes, ∃ start, node = bare.number start := by
  induction e using childrenInduction generalizing first with
  | node e ih =>
    rcases mem_nodes.mp member with rfl | ⟨child, isChild, below⟩
    · exact ⟨e, self_mem_nodes e, first, rfl⟩
    · rw [children_number] at isChild
      obtain ⟨bareChild, isBareChild, start, rfl⟩ := exists_of_mem_numberAll isChild
      obtain ⟨bare, isBelow, numbered⟩ := ih bareChild isBareChild below
      exact ⟨bare, mem_nodes.mpr (.inr ⟨bareChild, isBareChild, isBelow⟩), numbered⟩

theorem spans_numberAll (first : Nat) (trees : List (Expr Span)) :
    (numberAll first trees).map (·.note.span) = trees.map note := by
  induction trees generalizing first with
  | nil => rfl
  | cons e rest ih => rw [numberAll, List.map_cons, List.map_cons, ih, span_number]

theorem ids_numberAll {trees : List (Expr Span)}
    (each : ∀ e ∈ trees, ∀ first,
      (e.number first).nodes.map (·.note.id) = List.range' first e.size) (first : Nat) :
    (nodesOfAll (numberAll first trees)).map (·.note.id) = List.range' first (sizeOfAll trees) := by
  induction trees generalizing first with
  | nil => rfl
  | cons e rest ih =>
    obtain ⟨head, tail⟩ := List.forall_mem_cons.mp each
    rw [numberAll, nodesOfAll, List.map_append, head, ih tail, sizeOfAll, List.range'_append_1]

/-- In the order in which they are complete, nodes are numbered one after the other. -/
theorem ids_number (first : Nat) (e : Expr Span) :
    (e.number first).nodes.map (·.note.id) = List.range' first e.size := by
  induction e using childrenInduction generalizing first with
  | node e ih =>
    rw [nodes_eq, children_number, List.map_append, ids_numberAll ih, List.map_singleton, id_number,
      size_eq, List.range'_1_concat]

/-! ### Tables of heights -/

/-- The height of a node according to a table of heights by number. -/
def heightBy (table : List Nat) (node : Expr Mark) : Nat :=
  (node.children.map fun child => table.getD (child.note.id - 1) 0).foldr max 0 + 1

/-- Enter the heights of nodes into a table, each found from the entries before it. -/
def enter (table : List Nat) (nodes : List (Expr Mark)) : List Nat :=
  nodes.foldl (fun table node => table ++ [heightBy table node]) table

theorem enter_append (table : List Nat) (first second : List (Expr Mark)) :
    enter table (first ++ second) = enter (enter table first) second :=
  List.foldl_append

/-- Where the table holds the heights of the nodes directly below a node, it gives the height of the
node. -/
theorem heightBy_eq {table : List Nat} {node : Expr Mark}
    (below : ∀ child ∈ node.children, table[child.note.id - 1]? = some child.height) :
    heightBy table node = node.height := by
  rw [heightBy, height_eq]
  generalize node.children = trees at below
  congr 1
  induction trees with
  | nil => rfl
  | cons e rest ih =>
    obtain ⟨head, tail⟩ := List.forall_mem_cons.mp below
    rw [List.map_cons, List.foldr_cons, heightOfAll, ih tail, List.getD_eq_getElem?_getD, head,
      Option.getD_some]

/-- The heights of a numbered tree, in the order of the numbers, end with its own. -/
theorem getElem?_heights (first : Nat) (e : Expr Span) :
    ((e.number first).nodes.map height)[(e.number first).note.id - first]? =
      some (e.number first).height := by
  have before : ((nodesOfAll (e.number first).children).map height).length = sizeOfAll e.children := by
    rw [List.length_map, length_nodesOfAll fun child _ => length_nodes child, children_number,
      sizeOfAll_numberAll fun child _ first => size_number first child]
  rw [nodes_eq, List.map_append, id_number, Nat.add_sub_cancel_left, ← before,
    List.getElem?_append_right (Nat.le_refl _), Nat.sub_self]
  rfl

/-- In the heights of trees that are numbered one after the other, the number of each tree points at
its height. -/
theorem getElem?_heightsOfAll {trees : List (Expr Span)} {first : Nat} {tree : Expr Mark}
    (member : tree ∈ numberAll first trees) :
    first ≤ tree.note.id ∧ ((nodesOfAll (numberAll first trees)).map height)[tree.note.id - first]? =
      some tree.height := by
  induction trees generalizing first with
  | nil => cases member
  | cons e rest ih =>
    have count : ((e.number first).nodes.map height).length = e.size := by
      rw [List.length_map, length_nodes, size_number]
    rw [numberAll] at member ⊢
    rw [nodesOfAll, List.map_append]
    rcases List.mem_cons.mp member with rfl | later
    · refine ⟨by rw [id_number]; exact Nat.le_add_right _ _, ?_⟩
      have here := getElem?_heights first e
      rw [List.getElem?_append_left (List.getElem?_eq_some_iff.mp here).1, here]
    · obtain ⟨notBefore, found⟩ := ih later
      refine ⟨by omega, ?_⟩
      rw [List.getElem?_append_right (by omega), count, ← found]
      congr 1
      omega

theorem enter_nodesOfAll {trees : List (Expr Span)}
    (each : ∀ e ∈ trees, ∀ table : List Nat, enter table (e.number (table.length + 1)).nodes =
      table ++ (e.number (table.length + 1)).nodes.map height) (table : List Nat) :
    enter table (nodesOfAll (numberAll (table.length + 1) trees)) =
      table ++ (nodesOfAll (numberAll (table.length + 1) trees)).map height := by
  induction trees generalizing table with
  | nil => exact (List.append_nil table).symm
  | cons e rest ih =>
    obtain ⟨head, tail⟩ := List.forall_mem_cons.mp each
    have next : (table ++ (e.number (table.length + 1)).nodes.map height).length + 1 =
        table.length + 1 + e.size := by
      rw [List.length_append, List.length_map, length_nodes, size_number]
      omega
    rw [numberAll, nodesOfAll, enter_append, head, List.map_append, ← List.append_assoc, ← next]
    exact ih tail _

/-- A table that goes on with the nodes of a tree in the order of their numbers holds their heights. -/
theorem enter_nodes (e : Expr Span) (table : List Nat) :
    enter table (e.number (table.length + 1)).nodes =
      table ++ (e.number (table.length + 1)).nodes.map height := by
  induction e using childrenInduction generalizing table with
  | node e ih =>
    rw [nodes_eq, children_number, enter_append, enter_nodesOfAll ih, List.map_append,
      ← List.append_assoc]
    refine congrArg (_ ++ [·]) (heightBy_eq fun child member => ?_)
    rw [children_number] at member
    obtain ⟨notBefore, found⟩ := getElem?_heightsOfAll member
    rw [List.getElem?_append_right (by omega), ← found]
    congr 1
    omega

end Cel.Expr
