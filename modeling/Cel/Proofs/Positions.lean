import Cel.Engines.Standard
import Cel.Proofs.Check.Faults
import Cel.Proofs.Check.Parts
import Cel.Proofs.Layout
import Cel.Proofs.Origin

/-! # Positions of errors

An error before evaluation stands at a part of the source. An error of an evaluation stands at a node of
the checked term, and goes up unchanged through nodes that all enclose the place where it stands.
-/

namespace Cel

/-! ### Parts of the source -/

section Parts

variable {source : String} {tokens : Parser.Tokens}

theorem Span.isIn_point {span : Span} (isIn : span.IsIn source) : (Span.point span.stop).IsIn source :=
  Span.isIn_iff.mpr ⟨Nat.le_refl _, isIn.stops, isIn.stops⟩

/-- What begins and ends with tokens is a part of the source if the tokens are. -/
theorem Parser.Bounded.isIn {span : Span} (bounded : Parser.Bounded tokens span)
    (proper : span.start ≤ span.stop) (tokensIn : ∀ token ∈ tokens, token.span.IsIn source) :
    span.IsIn source := by
  obtain ⟨first, isFirst, starts⟩ := bounded.starts
  obtain ⟨last, isLast, stops⟩ := bounded.stops
  refine Span.isIn_iff.mpr ⟨proper, ?_, ?_⟩
  · rw [← starts]
    exact (tokensIn first isFirst).starts
  · rw [← stops]
    exact (tokensIn last isLast).stops

theorem Parser.Usable.isIn {limit : Nat} {span : Span}
    (usable : Parser.Usable ⟨limit, Parser.stopOf tokens⟩ tokens span)
    (tokensIn : ∀ token ∈ tokens, token.span.IsIn source) : span.IsIn source := by
  rcases usable with rfl | ⟨bounded, proper⟩
  · unfold Parser.stopOf
    split
    · next last isLast => exact Span.isIn_point (tokensIn last (List.mem_of_getLast? isLast))
    · exact Span.isIn_zero source
  · exact bounded.isIn proper tokensIn

theorem Expr.LiesOn.isIn {node : Expr Mark} (liesOn : node.LiesOn tokens)
    (tokensIn : ∀ token ∈ tokens, token.span.IsIn source) : node.note.span.IsIn source :=
  Parser.Bounded.isIn ⟨liesOn.starts, liesOn.stops⟩ liesOn.proper tokensIn

/-- All nodes of a tree stand within its span. -/
theorem Expr.within_of_mem_nodes {e : Expr Mark} (liesOn : ∀ node ∈ e.nodes, node.LiesOn tokens) :
    ∀ node ∈ e.nodes, node.note.span.Within e.note.span := by
  induction e using Expr.childrenInduction with
  | node e ih =>
    intro node member
    rcases Expr.mem_nodes.mp member with rfl | ⟨child, isChild, below⟩
    · exact ⟨Nat.le_refl _, Nat.le_refl _⟩
    · have belowChild : ∀ node ∈ child.nodes, node.LiesOn tokens := fun node isBelow =>
        liesOn node (Expr.mem_nodes.mpr (.inr ⟨child, isChild, isBelow⟩))
      have inChild := ih child isChild belowChild node below
      exact inChild.trans ((liesOn e e.self_mem_nodes).contains child isChild)

end Parts

/-- In a term whose expression lies on tokens, every node encloses the nodes below it. -/
theorem Check.Checks.nested [Engines] {macros : Bool} {scope : List String} {e : Expr Mark} {term : Term}
    {tokens : Parser.Tokens} (checked : Check.Checks macros scope e term)
    (liesOn : ∀ node ∈ e.nodes, node.LiesOn tokens) : term.Nested := by
  intro node inside child isChild
  obtain ⟨outer, isOuter, scope', outerChecked⟩ := checked.node_madeIn inside
  obtain ⟨inner, isInner, scope'', innerChecked⟩ := outerChecked.children_madeIn child isChild
  have outerLies : ∀ node ∈ outer.nodes, node.LiesOn tokens := fun node member =>
    liesOn node ((Expr.nodes_sublist isOuter).subset member)
  rw [outerChecked.span_eq, innerChecked.span_eq]
  exact Expr.within_of_mem_nodes outerLies inner isInner

namespace Program

variable {source : String}

end Program

end Cel
