import Cel.Proofs.Internal
import Cel.Proofs.Layout.Row
import Cel.Proofs.Term.Induction

/-! # Where evaluation errors come from

A node that fails either fails itself, and the error has its span or the span of one of its keys, or
one of the terms below it has failed with the very same error. So every error can be followed from the
root down to the node that it came from, and is the same all the way.
-/

namespace Cel

/-- Whether the spans of all nodes of a term lie within those of the nodes above them. -/
def Term.Nested (term : Term) : Prop :=
  ∀ node, term.Contains node → ∀ child ∈ node.children, child.span.Within node.span

theorem Term.Nested.node {term node : Term} (nested : term.Nested) (inside : term.Contains node) :
    node.Nested :=
  fun part isPart => nested part (inside.trans isPart)

namespace Eval

open EvalError (locate)

variable [Engines] {activation : Activation} {locals : List Value} {term : Term} {error : EvalError}

/-- Whether the failure of a term under some bound values can be followed down to where it comes from:
all terms on the way fail with the same error, and the last one is where the error stands. A map may
fail at one of its keys. -/
inductive Traced (activation : Activation) (error : EvalError) : List Value → Term → Prop where
  | own {locals : List Value} {term : Term} (failed : eval activation locals term = .error error)
    (same : error.span = term.span) : Traced activation error locals term
  | key {locals : List Value} {span : Span} {entries : List (Term × Term)} {entry : Term × Term}
    (failed : eval activation locals (.map span entries) = .error error) (isEntry : entry ∈ entries)
    (same : error.span = entry.1.span) : Traced activation error locals (.map span entries)
  | passed {locals frame : List Value} {term child : Term}
    (failed : eval activation locals term = .error error) (isChild : child ∈ term.children)
    (inside : Traced activation error (frame ++ locals) child) : Traced activation error locals term

/-- In a nested term, an error stands at a node of the term and within its span. -/
theorem Traced.stands (traced : Traced activation error locals term) (nested : term.Nested) :
    ∃ node, term.Contains node ∧ node.span = error.span ∧ error.span.Within term.span := by
  induction traced with
  | @own locals term failed same =>
    rw [same]
    exact ⟨term, .self, rfl, Nat.le_refl _, Nat.le_refl _⟩
  | @key locals span entries entry failed isEntry same =>
    have isKey : entry.1 ∈ (Term.map span entries).children :=
      List.mem_flatMap_of_mem isEntry List.mem_cons_self
    rw [same]
    exact ⟨entry.1, .child .self isKey, rfl, nested _ .self _ isKey⟩
  | @passed locals frame term child failed isChild inside ih =>
    have isBelow : term.Contains child := .child .self isChild
    obtain ⟨node, isNode, same, within⟩ := ih (nested.node isBelow)
    exact ⟨node, isBelow.trans isNode, same, within.trans (nested _ .self _ isChild)⟩

end Eval

end Cel
