import Cel.Proofs.Counting
import Cel.Proofs.Grammar.Parse
import Cel.Proofs.Layout.Readers
import Cel.Proofs.Limit
import Cel.Proofs.Token.Places

/-! # The layout of trees

The nodes of a tree that has been read are numbered in postorder. Each of them stands in the source
from the start of a token to the end of a token, within the node above it and behind the nodes before
it.
-/

namespace Cel

namespace Parser

variable {limit : Nat} {tokens : Tokens}

/-- Every node of a complete expression is in its place. -/
theorem placed_of_tree (inOrder : InOrder tokens 0 tokens) {found : Tree}
    (read : tree limit tokens = .ok found) : Placed tokens found := by
  have gives := (expr_lays (s := ⟨limit, stopOf tokens⟩) limit).1 inOrder
  unfold tree at read
  split at read
  · cases read
  · obtain ⟨⟨result, rest⟩, exprRead, read⟩ := bind_eq_ok_iff.mp read
    rw [exprRead] at gives
    obtain ⟨last, -, row⟩ := gives
    dsimp only at read
    split at read
    · cases read
      exact row.placed found (List.mem_singleton_self found)
    · cases read

end Parser

namespace Expr

/-- Whether the nodes of a tree have the numbers from 1 on, the nodes below a node before it and those
of an earlier tree before those of a later one. -/
structure InPostorder (e : Expr Mark) : Prop where
  ids : e.nodes.map (·.note.id) = List.range' 1 e.nodes.length
  root : e.note.id = e.nodes.length
  below : ∀ node ∈ e.nodes, ∀ child ∈ node.children, ∀ inner ∈ child.nodes,
    inner.note.id < node.note.id
  leftToRight : ∀ node ∈ e.nodes, node.children.Pairwise fun earlier later =>
    ∀ first ∈ earlier.nodes, ∀ second ∈ later.nodes, first.note.id < second.note.id

/-- Whether a node stands from the start of a token to the end of a token, and the nodes directly below
it stand within it, one after the other. -/
structure LiesOn (tokens : Parser.Tokens) (node : Expr Mark) : Prop where
  starts : ∃ token ∈ tokens, token.span.start = node.note.span.start
  stops : ∃ token ∈ tokens, token.span.stop = node.note.span.stop
  proper : node.note.span.start ≤ node.note.span.stop
  contains : ∀ child ∈ node.children, child.note.span.Within node.note.span
  apart : node.children.Pairwise fun earlier later => earlier.note.span.stop ≤ later.note.span.start

theorem inPostorder_number (e : Expr Span) : (e.number 1).InPostorder := by
  have ids : (e.number 1).nodes.map (·.note.id) = List.range' 1 (e.number 1).nodes.length := by
    rw [ids_number, length_nodes, size_number]
  have increasing : (e.number 1).nodes.Pairwise fun first second => first.note.id < second.note.id := by
    refine List.Pairwise.of_map (·.note.id) (fun _ _ less => less) ?_
    rw [ids]
    exact List.pairwise_lt_range' 1
  -- The part of the order that concerns the trees below a node and the node itself.
  have order {node : Expr Mark} (member : node ∈ (e.number 1).nodes) :
      (node.children.flatMap nodes ++ [node]).Pairwise
        fun first second => first.note.id < second.note.id := by
    have sublist := increasing.sublist (nodes_sublist member)
    rwa [nodes_eq, nodesOfAll_eq] at sublist
  refine ⟨ids, ?_, ?_, ?_⟩
  · rw [id_number, length_nodes, size_number, size_eq, Nat.add_comm]
  · intro node member child isChild inner isInner
    obtain ⟨-, -, before⟩ := List.pairwise_append.mp (order member)
    exact before inner (List.mem_flatMap_of_mem isChild isInner) node (List.mem_singleton_self node)
  · intro node member
    obtain ⟨children, -, -⟩ := List.pairwise_append.mp (order member)
    exact (List.pairwise_flatMap.mp children).2

/-- Numbering leaves the nodes of a tree in their places. -/
theorem liesOn_of_placed {tokens : Parser.Tokens} {e : Expr Span} (placed : Parser.Placed tokens e)
    {first : Nat} : ∀ node ∈ (e.number first).nodes, node.LiesOn tokens := by
  intro node member
  obtain ⟨bare, isBare, start, rfl⟩ := exists_of_mem_nodes_number member
  obtain ⟨bounded, row⟩ := placed bare isBare
  have spans : ((bare.number start).children.map (·.note.span)) = bare.children.map note := by
    rw [children_number, spans_numberAll]
  rw [← spans] at row
  have pairwise := row.pairwise
  rw [List.pairwise_map] at pairwise
  refine ⟨?_, ?_, ?_, ?_, pairwise⟩
  · rw [span_number]
    exact bounded.starts
  · rw [span_number]
    exact bounded.stops
  · rw [span_number]
    exact row.le
  · intro child isChild
    rw [span_number]
    exact (row.within (List.mem_map_of_mem isChild)).2

end Expr

namespace Program

variable {limit : Nat} {source : String} {e : Expr Mark}

/-- The tree of a source that is read is a tree of its tokens, all nodes of which are in their places. -/
theorem exists_placed_of_parse (parsed : parse limit source = .ok e) :
    ∃ tokens found, Lexer.tokens source = .ok tokens ∧ Parser.parse limit tokens = .ok e ∧
      Parser.Placed tokens found ∧ e = found.number 1 := by
  obtain ⟨tokens, lexed, read⟩ := parse_eq_ok_iff.mp parsed
  obtain ⟨found, treeRead, rfl⟩ := Parser.parse_eq_ok_iff.mp read
  have placed := Parser.placed_of_tree (Lexer.inOrder_of_tokens lexed) treeRead
  exact ⟨tokens, found, lexed, read, placed, rfl⟩

/-- The nodes of a source that is read lie on its tokens, and they are numbered in postorder by the
counter of the machine that reads it. -/
theorem layout_of_parse (parsed : parse limit source = .ok e) :
    ∃ tokens, Lexer.tokens source = .ok tokens ∧ Parser.Counting.parse limit tokens = .ok e ∧
      e.InPostorder ∧ ∀ node ∈ e.nodes, node.LiesOn tokens := by
  obtain ⟨tokens, found, lexed, read, placed, rfl⟩ := exists_placed_of_parse parsed
  rw [← Parser.Counting.parse_eq] at read
  exact ⟨tokens, lexed, read, Expr.inPostorder_number found, Expr.liesOn_of_placed placed⟩

/-- Parentheses, a sign, a call, a map and a choice. -/
theorem layout_of_parse_choice : ∃ e tokens,
    parse 9 "-(a) < f(b, [1])[0] ? x.y : \x7b'k': 2u\x7d" = .ok e ∧
    Lexer.tokens "-(a) < f(b, [1])[0] ? x.y : \x7b'k': 2u\x7d" = .ok tokens ∧
    Parser.Counting.parse 9 tokens = .ok e ∧ e.InPostorder ∧ ∀ node ∈ e.nodes, node.LiesOn tokens := by
  have accepted : (parse 9 "-(a) < f(b, [1])[0] ? x.y : \x7b'k': 2u\x7d").toOption.any
      (fun _ => true) = true := by decide +kernel
  obtain ⟨e, parsed, -⟩ := exists_ok_of_any accepted
  obtain ⟨tokens, lexed, counted, inPostorder, liesOn⟩ := layout_of_parse parsed
  exact ⟨e, tokens, parsed, lexed, counted, inPostorder, liesOn⟩

end Program

end Cel
