import Cel.Proofs.Expr.Notes
import Cel.Proofs.Grammar.Parentheses

/-! # Tokens that have moved

Tokens and what is read from them can be moved to other places. Here it is said what it means that a reader
takes tokens again after they have moved, that the tokens of a node are an expression by themselves, and that
some tokens hold those of every node of a tree.
-/

namespace Cel.Parser

/-! ### Moving -/

/-- A way to move spans that takes what reaches from one to another along with both. -/
structure Move where
  span : Span → Span
  through : ∀ first last : Span, span (first.through last) = (span first).through (span last)

/-- Things that stand somewhere and contain trees. -/
class Movable (α : Type) where
  moved : Move → α → α
  trees : α → List Tree

open Movable (moved trees)

instance : Movable Span := ⟨fun move span => move.span span, fun _ => []⟩

instance : Movable String := ⟨fun _ text => text, fun _ => []⟩

instance {α : Type} : Movable (Located α) :=
  ⟨fun move located => ⟨located.item, move.span located.span⟩, fun _ => []⟩

instance : Movable Tree := ⟨fun move tree => tree.mapNotes move.span, fun tree => [tree]⟩

instance {α β : Type} [Movable α] [Movable β] : Movable (α × β) :=
  ⟨fun move pair => (moved move pair.1, moved move pair.2), fun pair => trees pair.1 ++ trees pair.2⟩

instance {α : Type} [Movable α] : Movable (List α) :=
  ⟨fun move items => items.map (moved move), fun items => items.flatMap trees⟩

section Moving

variable (move : Move)

theorem moved_cons (token : Located Token) (rest : Tokens) :
    moved move (token :: rest) = ⟨token.item, move.span token.span⟩ :: moved move rest := rfl

@[simp] theorem items_moved (tokens : Tokens) : items (moved move tokens) = items tokens := List.map_map

theorem length_moved (tokens : Tokens) : (moved move tokens).length = tokens.length := List.length_map _

@[simp] theorem note_moved (tree : Tree) : (moved move tree).note = move.span tree.note :=
  Expr.note_mapNotes move.span tree

/-! The parts of a node move with it. -/

variable {move} {span : Span}

theorem moved_rootIdent (name : String) :
    moved move (.rootIdent span name : Tree) = .rootIdent (move.span span) name := rfl

theorem moved_list (values : List Tree) :
    moved move (.list span values : Tree) = .list (move.span span) (moved move values) :=
  congrArg (Expr.list _) (Expr.mapNotesOfAll_eq_map _ values)

theorem moved_map (values : List (Tree × Tree)) :
    moved move (.map span values : Tree) = .map (move.span span) (moved move values) :=
  congrArg (Expr.map _) (Expr.mapNotesOfEntries_eq_map _ values)

theorem moved_member (operand : Tree) (field : String) :
    moved move (.member span operand field : Tree) = .member (move.span span) (moved move operand) field := rfl

theorem moved_index (operand position : Tree) :
    moved move (.index span operand position : Tree) =
      .index (move.span span) (moved move operand) (moved move position) := rfl

theorem moved_unary (op : UnaryOp) (operand : Tree) :
    moved move (.unary span op operand : Tree) = .unary (move.span span) op (moved move operand) := rfl

theorem moved_binary (op : BinaryOp) (left right : Tree) :
    moved move (.binary span op left right : Tree) =
      .binary (move.span span) op (moved move left) (moved move right) := rfl

theorem moved_ternary (condition yes no : Tree) :
    moved move (.ternary span condition yes no : Tree) =
      .ternary (move.span span) (moved move condition) (moved move yes) (moved move no) := rfl

theorem moved_call (callee : Tree) (values : List Tree) :
    moved move (.call span callee values : Tree) =
      .call (move.span span) (moved move callee) (moved move values) :=
  congrArg (Expr.call _ _) (Expr.mapNotesOfAll_eq_map _ values)

theorem moved_struct (typeName : Tree) (values : List (String × Tree)) :
    moved move (.struct span typeName values : Tree) =
      .struct (move.span span) (moved move typeName) (moved move values) :=
  congrArg (Expr.struct _ _) (Expr.mapNotesOfFields_eq_map _ values)

/-- Moving a node leaves its height as it is. -/
theorem complete_moved {limit stop : Nat} {node : Tree} (fits : node.height ≤ limit) (rest : Tokens) :
    complete ⟨limit, stop⟩ (moved move node) rest = .ok (moved move node, rest) :=
  complete_eq_ok_iff.mpr ⟨by rw [← Expr.height_mapNotes move.span node] at fits; exact fits, rfl, rfl⟩

end Moving

/-! ### Tokens that are read again -/

section Again

variable {α β : Type} [Movable α] [Movable β]

/-- Whether a reader, wherever the input ends, takes some tokens again if they have moved and only a part of
what followed them is left. -/
def Again (reader : Nat → Reader β) (consumed : Tokens) (value : β) (rest : Tokens) : Prop :=
  ∀ (stop : Nat) (move : Move) (kept : Tokens), kept <+: rest →
    reader stop (moved move (consumed ++ kept)) = .ok (moved move value, moved move kept)

/-- What is left of the tokens behind others, with the others before it. -/
theorem prefix_behind {kept rest : Tokens} (isKept : kept <+: rest) (before : Tokens) :
    before ++ kept <+: before ++ rest :=
  (List.prefix_append_right_inj before).mpr isKept

theorem head?_of_kept {kept tokens : Tokens} (isKept : kept <+: tokens) {token : Token}
    (first : (items kept).head? = some token) : (items tokens).head? = some token := by
  obtain ⟨more, rfl⟩ := isKept
  rw [items_append, List.head?_append, first]
  rfl

/-- The same symbol stands at the start as long as anything is left. -/
theorem startsWith_moved {move : Move} {kept tokens : Tokens} (isKept : kept <+: tokens)
    (some : kept ≠ []) (sign : Symbol) : startsWith sign (moved move kept) = startsWith sign tokens := by
  obtain ⟨first, others, rfl⟩ := List.exists_cons_of_ne_nil some
  obtain ⟨more, rfl⟩ := isKept
  rfl

theorem ne_nil_of_startsWith {sign : Symbol} {tokens : Tokens} (starts : startsWith sign tokens = true) :
    tokens ≠ [] := by
  rintro rfl
  cases starts

end Again

/-! ### Nodes that stand alone -/

/-- Whether some tokens are read as a node by themselves, wherever they stand. -/
structure Alone (limit : Nat) (tokens : Tokens) (node : Tree) : Prop where
  grouped : Grouped tokens node.note
  read : ∀ stop move, expr ⟨limit, stop⟩ limit (moved move tokens) = .ok (moved move node, [])

/-- Whether some tokens belong to a tree, and every node of it has its own among them. -/
structure Yields (limit : Nat) (tokens : Tokens) (tree : Tree) : Prop where
  opens : Opens tokens tree.note.start
  closes : Closes tokens tree.note.stop
  balanced : Balanced (items tokens)
  nodes : ∀ node ∈ tree.nodes, ∃ before phrase behind,
    tokens = before ++ (phrase ++ behind) ∧ Alone limit phrase node

/-- Whether some of the tokens belong to a tree. -/
def Inside (limit : Nat) (tokens : Tokens) (tree : Tree) : Prop :=
  ∃ before part behind, tokens = before ++ (part ++ behind) ∧ Yields limit part tree

/-- Whether some tokens are balanced and some of them belong to each tree of a thing. -/
def Contains {β : Type} [Movable β] (limit : Nat) (tokens : Tokens) (value : β) : Prop :=
  Balanced (items tokens) ∧ ∀ tree ∈ trees value, Inside limit tokens tree

/-- Whether a thing is taken from tokens that are as they should be for it, and is taken again elsewhere. -/
def TakenAgain {β : Type} [Movable β] (proper : Tokens → β → Prop) (reader : Nat → Reader β)
    (tokens : Tokens) (value : β) (rest : Tokens) : Prop :=
  ∃ consumed, tokens = consumed ++ rest ∧ proper consumed value ∧ Again reader consumed value rest

/-- Whether a reader takes all that it reads from tokens that are as they should be, and again elsewhere. -/
def Local {β : Type} [Movable β] (proper : Tokens → β → Prop) (reader : Nat → Reader β) : Prop :=
  ∀ ⦃stop tokens value rest⦄, reader stop tokens = .ok (value, rest) →
    TakenAgain proper reader tokens value rest

/-- Whether all that a reader reads to the end of the input is an expression. -/
def Whole (limit : Nat) (reader : Nat → Reader Tree) : Prop :=
  ∀ stop tokens node, reader stop tokens = .ok (node, []) →
    expr ⟨limit, stop⟩ limit tokens = .ok (node, [])

section Nodes

variable {limit : Nat} {tokens : Tokens} {tree : Tree}

theorem Yields.inside (yields : Yields limit tokens tree) : Inside limit tokens tree :=
  ⟨[], tokens, [], (List.append_nil tokens).symm, yields⟩

theorem Inside.append (inside : Inside limit tokens tree) (before behind : Tokens) :
    Inside limit (before ++ (tokens ++ behind)) tree := by
  obtain ⟨front, part, back, rfl, yields⟩ := inside
  exact ⟨before ++ front, part, back ++ behind, by simp only [List.append_assoc], yields⟩

theorem Inside.behind (inside : Inside limit tokens tree) (before : Tokens) :
    Inside limit (before ++ tokens) tree := by
  have isInside := inside.append before []
  rwa [List.append_nil] at isInside

theorem Inside.before (inside : Inside limit tokens tree) (behind : Tokens) :
    Inside limit (tokens ++ behind) tree := inside.append [] behind

theorem Contains.item {values : List Tree} (contains : Contains limit tokens values) :
    ∀ child ∈ values, Inside limit tokens child :=
  fun child isChild => contains.2 child (List.mem_flatMap_of_mem isChild List.mem_cons_self)

theorem Yields.contains (yields : Yields limit tokens tree) : Contains limit tokens tree :=
  ⟨yields.balanced, List.forall_mem_singleton.mpr yields.inside⟩

theorem Local.contains {reader : Nat → Reader Tree} (isLocal : Local (Yields limit) reader) :
    Local (Contains limit) reader := by
  intro stop tokens value rest read
  obtain ⟨consumed, same, yields, again⟩ := isLocal read
  exact ⟨consumed, same, yields.contains, again⟩

theorem Again.whole {reader : Nat → Reader Tree} {rest : Tokens} (again : Again reader tokens tree rest)
    (whole : Whole limit reader) (stop : Nat) (move : Move) :
    expr ⟨limit, stop⟩ limit (moved move tokens) = .ok (moved move tree, []) := by
  have read := again stop move [] List.nil_prefix
  rw [List.append_nil] at read
  exact whole _ _ _ read

/-- A node that stands alone comes after the nodes below it. -/
theorem Alone.yields (alone : Alone limit tokens tree) (balanced : Balanced (items tokens))
    (below : ∀ child ∈ tree.children, Inside limit tokens child) : Yields limit tokens tree := by
  refine ⟨alone.grouped.opens, alone.grouped.closes, balanced, fun node member => ?_⟩
  rcases Expr.mem_nodes.mp member with rfl | ⟨child, isChild, isBelow⟩
  · exact ⟨[], tokens, [], (List.append_nil tokens).symm, alone⟩
  · obtain ⟨before, part, behind, rfl, yields⟩ := below child isChild
    obtain ⟨front, phrase, back, rfl, isAlone⟩ := yields.nodes node isBelow
    exact ⟨before ++ front, phrase, back ++ behind, by simp only [List.append_assoc], isAlone⟩

theorem balanced_concat (balanced : Balanced (items tokens)) {closing : Located Token}
    (other : isParenthesis closing.item = false) : Balanced (items (tokens ++ [closing])) := by
  rw [items_append]
  exact balanced.append (.single other)

/-- A node of two parts, from the start of the first to the end of the second. -/
theorem yields_append {front back : Tokens} (opens : Opens front tree.note.start)
    (closes : Closes back tree.note.stop) (first : Balanced (items front)) (second : Balanced (items back))
    (read : ∀ stop move, expr ⟨limit, stop⟩ limit (moved move (front ++ back)) = .ok (moved move tree, []))
    (below : ∀ child ∈ tree.children, Inside limit (front ++ back) child) :
    Yields limit (front ++ back) tree :=
  Alone.yields ⟨grouped_append opens closes first second, read⟩
    (by rw [items_append]; exact first.append second) below

/-- A node with a single token. -/
theorem yields_single {token : Located Token} (isNote : tree.note = token.span)
    (other : isParenthesis token.item = false)
    (read : ∀ stop move, expr ⟨limit, stop⟩ limit (moved move [token]) = .ok (moved move tree, []))
    (leaf : tree.children = []) : Yields limit [token] tree := by
  refine Alone.yields ⟨by rw [isNote]; exact grouped_single token, read⟩ (.single other) ?_
  rw [leaf]
  exact fun _ member => absurd member List.not_mem_nil

/-- A node in brackets, with others between them. -/
theorem yields_bracketed {opening closing : Located Token}
    (isNote : tree.note = opening.span.through closing.span)
    (otherLeft : isParenthesis opening.item = false) (otherRight : isParenthesis closing.item = false)
    (balanced : Balanced (items tokens))
    (read : ∀ stop move,
      expr ⟨limit, stop⟩ limit (moved move (opening :: (tokens ++ [closing]))) = .ok (moved move tree, []))
    (below : ∀ child ∈ tree.children, Inside limit tokens child) :
    Yields limit (opening :: (tokens ++ [closing])) tree := by
  have opens : Opens [opening] tree.note.start := by
    rw [isNote]
    exact (startsAt_cons opening []).opens
  have closes : Closes (tokens ++ [closing]) tree.note.stop := by
    rw [isNote]
    exact (stopsAt_concat tokens closing).closes
  exact yields_append opens closes (.single otherLeft) (balanced_concat balanced otherRight) read
    fun child isChild => (below child isChild).append [opening] [closing]

/-- Parentheses belong to the tree between them. -/
theorem Yields.parenthesized (yields : Yields limit tokens tree) (left right : Span) :
    Yields limit (⟨.symbol .leftParen, left⟩ :: (tokens ++ [⟨.symbol .rightParen, right⟩])) tree where
  opens := yields.opens.parenthesized left _
  closes := (yields.closes.parenthesized right).append [⟨.symbol .leftParen, left⟩]
  balanced := by
    rw [items_cons, items_append]
    exact yields.balanced.parenthesized
  nodes node member := by
    obtain ⟨before, phrase, behind, rfl, alone⟩ := yields.nodes node member
    exact ⟨⟨.symbol .leftParen, left⟩ :: before, phrase, behind ++ [⟨.symbol .rightParen, right⟩],
      by simp only [List.append_assoc, List.cons_append], alone⟩

end Nodes

end Cel.Parser
