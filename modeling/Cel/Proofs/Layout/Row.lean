import Cel.Expr.Parser
import Cel.Proofs.Expr.Numbering

/-! # Spans in a row

Tokens stand one after the other in a source, and so do the expressions below a node, within the span
of the node. The offsets at which spans may begin and end are those at which tokens do.
-/

namespace Cel

/-- Whether one span lies within another. -/
def Span.Within (inner outer : Span) : Prop :=
  outer.start ≤ inner.start ∧ inner.stop ≤ outer.stop

theorem Span.Within.trans {inner middle outer : Span} (first : inner.Within middle)
    (second : middle.Within outer) : inner.Within outer :=
  ⟨Nat.le_trans second.1 first.1, Nat.le_trans first.2 second.2⟩

/-- Whether spans stand one after the other between two offsets. -/
def InRow : Nat → Nat → List Span → Prop
  | first, last, [] => first ≤ last
  | first, last, span :: rest =>
    first ≤ span.start ∧ span.start ≤ span.stop ∧ InRow span.stop last rest

namespace InRow

variable {first middle last : Nat} {span : Span} {spans others : List Span}

theorem le (row : InRow first last spans) : first ≤ last := by
  induction spans generalizing first with
  | nil => exact row
  | cons span rest ih =>
    obtain ⟨notBefore, proper, after⟩ := row
    have := ih after
    omega

theorem mono {first' last' : Nat} (row : InRow first last spans) (before : first' ≤ first)
    (behind : last ≤ last') : InRow first' last' spans := by
  induction spans generalizing first first' with
  | nil =>
    have within : first ≤ last := row
    show first' ≤ last'
    omega
  | cons span rest ih =>
    obtain ⟨notBefore, proper, after⟩ := row
    exact ⟨Nat.le_trans before notBefore, proper, ih after (Nat.le_refl _)⟩

theorem append (row : InRow first middle spans) (behind : InRow middle last others) :
    InRow first last (spans ++ others) := by
  induction spans generalizing first with
  | nil => exact behind.mono row (Nat.le_refl _)
  | cons span rest ih =>
    obtain ⟨notBefore, proper, after⟩ := row
    exact ⟨notBefore, proper, ih after⟩

theorem within (row : InRow first last spans) (member : span ∈ spans) :
    span.start ≤ span.stop ∧ span.Within ⟨first, last⟩ := by
  induction spans generalizing first with
  | nil => cases member
  | cons next rest ih =>
    obtain ⟨notBefore, proper, after⟩ := row
    rcases List.mem_cons.mp member with rfl | later
    · exact ⟨proper, notBefore, after.le⟩
    · obtain ⟨properLater, notBeforeLater, notBehind⟩ := ih after later
      have : next.stop ≤ span.start := notBeforeLater
      exact ⟨properLater, Nat.le_trans (Nat.le_trans notBefore proper) this, notBehind⟩

/-- A row also ends where its last span does. -/
theorem toEnd (row : InRow first last (spans ++ [span])) :
    InRow first span.stop (spans ++ [span]) ∧ span.stop ≤ last := by
  induction spans generalizing first with
  | nil =>
    obtain ⟨notBefore, proper, behind⟩ := row
    exact ⟨⟨notBefore, proper, Nat.le_refl _⟩, behind⟩
  | cons next rest ih =>
    obtain ⟨notBefore, proper, after⟩ := row
    obtain ⟨within, behind⟩ := ih after
    exact ⟨⟨notBefore, proper, within⟩, behind⟩

/-- Of two spans in a row, the earlier one ends before the later one begins. -/
theorem pairwise (row : InRow first last spans) :
    spans.Pairwise fun earlier later => earlier.stop ≤ later.start := by
  induction spans generalizing first with
  | nil => exact .nil
  | cons span rest ih =>
    obtain ⟨-, -, after⟩ := row
    refine .cons (fun later member => ?_) (ih after)
    exact (after.within member).2.1

end InRow

namespace Parser

/-- Whether tokens stand one after the other from an offset on, and are all among some others. -/
def InOrder (whole : Tokens) : Nat → Tokens → Prop
  | _, [] => True
  | first, next :: rest =>
    next ∈ whole ∧ first ≤ next.span.start ∧ next.span.start ≤ next.span.stop ∧
      InOrder whole next.span.stop rest

/-- Tokens that are in order from an offset on are so from every earlier one on. -/
theorem InOrder.mono {whole tokens : Tokens} {first first' : Nat} (before : first' ≤ first)
    (inOrder : InOrder whole first tokens) : InOrder whole first' tokens := by
  cases tokens with
  | nil => trivial
  | cons next rest =>
    obtain ⟨member, notBefore, notEmpty, after⟩ := inOrder
    exact ⟨member, Nat.le_trans before notBefore, notEmpty, after⟩

/-- Whether a span begins where a token does, and ends where a token does. -/
structure Bounded (whole : Tokens) (span : Span) : Prop where
  starts : ∃ token ∈ whole, token.span.start = span.start
  stops : ∃ token ∈ whole, token.span.stop = span.stop

variable {whole : Tokens}

/-- Whether a node begins and ends with tokens, and the trees below it stand in a row within it. -/
structure InPlace (whole : Tokens) (node : Tree) : Prop where
  bounded : Bounded whole node.note
  inRow : InRow node.note.start node.note.stop (node.children.map Expr.note)

/-- Whether all nodes of a tree are in their places. -/
def Placed (whole : Tokens) (tree : Tree) : Prop := ∀ node ∈ tree.nodes, InPlace whole node

theorem Placed.bounded {tree : Tree} (placed : Placed whole tree) : Bounded whole tree.note :=
  (placed tree (Expr.self_mem_nodes tree)).bounded

/-- Whether trees whose nodes are in their places stand one after the other between two offsets. -/
structure Row (whole : Tokens) (first last : Nat) (trees : List Tree) : Prop where
  placed : ∀ tree ∈ trees, Placed whole tree
  inRow : InRow first last (trees.map Expr.note)

namespace Row

variable {first middle last : Nat} {trees others : List Tree}

theorem nil (le : first ≤ last) : Row whole first last [] := ⟨nofun, le⟩

theorem le (row : Row whole first last trees) : first ≤ last := row.inRow.le

theorem mono {first' last' : Nat} (row : Row whole first last trees) (before : first' ≤ first)
    (behind : last ≤ last') : Row whole first' last' trees :=
  ⟨row.placed, row.inRow.mono before behind⟩

theorem append (row : Row whole first middle trees) (behind : Row whole middle last others) :
    Row whole first last (trees ++ others) := by
  refine ⟨List.forall_mem_append.mpr ⟨row.placed, behind.placed⟩, ?_⟩
  rw [List.map_append]
  exact row.inRow.append behind.inRow

/-- A node around a row of trees is in its place. -/
theorem node {tree : Tree} (bounded : Bounded whole tree.note)
    (row : Row whole tree.note.start tree.note.stop tree.children) :
    Row whole tree.note.start tree.note.stop [tree] := by
  refine ⟨List.forall_mem_singleton.mpr fun node member => ?_, Nat.le_refl _, row.le, Nat.le_refl _⟩
  rcases Expr.mem_nodes.mp member with rfl | ⟨child, isChild, below⟩
  · exact ⟨bounded, row.inRow⟩
  · exact row.placed child isChild node below

/-- A tree that is alone in a row also is so from where it begins. -/
theorem fromStart {tree : Tree} (row : Row whole first last [tree]) :
    Row whole tree.note.start last [tree] :=
  ⟨row.placed, Nat.le_refl _, row.inRow.2⟩

/-- A tree in a row begins and ends with tokens. -/
theorem bounded {tree : Tree} (row : Row whole first last [tree]) : Bounded whole tree.note :=
  (row.placed tree (List.mem_singleton_self tree)).bounded

/-- A row also ends where its last tree does. -/
theorem toEnd {tree : Tree} (row : Row whole first last (trees ++ [tree])) :
    Row whole first tree.note.stop (trees ++ [tree]) ∧ tree.note.stop ≤ last := by
  have inRow := row.inRow
  rw [List.map_append, List.map_singleton] at inRow
  obtain ⟨toEnd, behind⟩ := inRow.toEnd
  rw [← List.map_singleton, ← List.map_append] at toEnd
  exact ⟨⟨row.placed, toEnd⟩, behind⟩

end Row

end Parser

end Cel
