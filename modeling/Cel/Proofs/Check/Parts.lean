import Cel.Proofs.Check.Rules
import Cel.Proofs.Expr.Numbering
import Cel.Proofs.Term.Induction

/-! # Where terms come from

Whatever stands below a checked term has been made by checking a node below the expression that the
term has been made of: an operand, an argument, or the receiver of a method.
-/

namespace Cel.Check

/-- The second one of two lists of the same length has nothing that does not stand opposite to
something. -/
theorem exists_mem_zip {α β : Type} {items : List α} {others : List β} {other : β}
    (same : items.length = others.length) (member : other ∈ others) :
    ∃ item, (item, other) ∈ items.zip others := by
  rw [← List.map_snd_zip (Nat.le_of_eq same.symm)] at member
  obtain ⟨⟨item, _⟩, isPair, rfl⟩ := List.mem_map.mp member
  exact ⟨item, isPair⟩

theorem children_binary (span : Span) (op : BinaryOp) (left right : Term) :
    (binary span op left right).children = [left, right] := by
  unfold binary
  split <;> rfl

/-- The operands of a call are its arguments and the receiver of a method call. -/
theorem mem_of_mem_operands {callee operand : Expr Mark} {args operands : List (Expr Mark)}
    {name : String} {method : Bool} (applies : invocation callee args = (name, method, operands))
    (member : operand ∈ operands) :
    operand ∈ args ∨ ∃ mark field, callee = .member mark operand field := by
  unfold invocation at applies
  split at applies
  · cases applies
    exact .inl member
  · cases applies
    rcases List.mem_cons.mp member with rfl | isArg
    · exact .inr ⟨_, _, rfl⟩
    · exact .inl isArg
  · cases applies
    exact .inl member

variable [Engines] {macros : Bool} {scope : List String} {e : Expr Mark} {term : Term}

/-- Whether a term has been made of a node of an expression. -/
def MadeIn (macros : Bool) (e : Expr Mark) (term : Term) : Prop :=
  ∃ inner ∈ e.nodes, ∃ scope, Checks macros scope inner term

theorem MadeIn.child {child : Expr Mark} (isChild : child ∈ e.children)
    (made : MadeIn macros child term) : MadeIn macros e term := by
  obtain ⟨inner, isInner, checked⟩ := made
  exact ⟨inner, Expr.mem_nodes.mpr (.inr ⟨child, isChild, isInner⟩), checked⟩

theorem Checks.madeIn (checked : Checks macros scope e term) : MadeIn macros e term :=
  ⟨e, e.self_mem_nodes, scope, checked⟩

theorem MadeIn.ofMember {mark : Mark} {field : String} (made : MadeIn macros e term) :
    MadeIn macros (.member mark e field) term :=
  made.child (List.mem_singleton_self e)

/-- Below a call that is resolved stand arguments of it. -/
theorem Resolves.mem_of_mem_children {mark : Mark} {name : String} {args : List Term} {child : Term}
    (resolved : Resolves mark name args term) (member : child ∈ term.children) : child ∈ args := by
  cases resolved with
  | unknown | call => exact member
  | «matches» found literal compiled =>
    rw [literal, List.mem_singleton.mp member]
    exact List.mem_cons_self
  | search found operands computed =>
    rw [operands]
    exact member

/-- Whatever stands below a term has been made of a node below the expression of the term. -/
theorem Checks.children_madeIn (checked : Checks macros scope e term) :
    ∀ child ∈ term.children, MadeIn macros e child := by
  cases checked with
  | constant | bound | free | root => exact nofun
  | list same each =>
    intro child member
    obtain ⟨item, isPair⟩ := exists_mem_zip same member
    exact (each isPair).madeIn.child (List.of_mem_zip isPair).1
  | map same keys values =>
    intro child member
    obtain ⟨pair, isPair, isPart⟩ := List.mem_flatMap.mp member
    obtain ⟨entry, isZipped⟩ := exists_mem_zip same isPair
    have isEntry := (List.of_mem_zip isZipped).1
    rcases List.mem_cons.mp isPart with rfl | isValue
    · exact (keys isZipped).madeIn.child (List.mem_flatMap_of_mem isEntry (.head _))
    · rw [List.mem_singleton.mp isValue]
      exact (values isZipped).madeIn.child (List.mem_flatMap_of_mem isEntry (.tail _ (.head _)))
  | struct named distinct same sameName each =>
    intro child member
    obtain ⟨pair, isPair, rfl⟩ := List.mem_map.mp member
    obtain ⟨field, isZipped⟩ := exists_mem_zip same isPair
    have isField := (List.of_mem_zip isZipped).1
    exact (each isZipped).madeIn.child (List.mem_cons_of_mem _ (List.mem_map_of_mem isField))
  | unary checked | select checked =>
    exact List.forall_mem_singleton.mpr (checked.madeIn.child List.mem_cons_self)
  | binary leftChecked rightChecked =>
    rw [children_binary]
    exact Term.forall_mem_pair (leftChecked.madeIn.child (.head _))
      (rightChecked.madeIn.child (.tail _ (.head _)))
  | conditional conditionChecked yesChecked noChecked =>
    refine List.forall_mem_cons.mpr ⟨conditionChecked.madeIn.child List.mem_cons_self, ?_⟩
    exact Term.forall_mem_pair (yesChecked.madeIn.child (.tail _ (.head _)))
      (noChecked.madeIn.child (.tail _ (.tail _ (.head _))))
  | index operandChecked positionChecked =>
    exact Term.forall_mem_pair (operandChecked.madeIn.child (.head _))
      (positionChecked.madeIn.child (.tail _ (.head _)))
  | has enabled isMacro checked =>
    have isArg {mark : Mark} {callee arg : Expr Mark} : arg ∈ (Expr.call mark callee [arg]).children :=
      List.mem_cons_of_mem _ List.mem_cons_self
    exact List.forall_mem_singleton.mpr (checked.madeIn.ofMember.child isArg)
  | call applies ordinary same each resolved =>
    intro child member
    obtain ⟨operand, isPair⟩ := exists_mem_zip same (resolved.mem_of_mem_children member)
    have made := (each isPair).madeIn
    rcases mem_of_mem_operands applies (List.of_mem_zip isPair).1 with isArg | ⟨mark, name, rfl⟩
    · exact made.child (List.mem_cons_of_mem _ isArg)
    · exact made.ofMember.child List.mem_cons_self
  | quantified enabled isMacro rangeChecked bodyChecked
  | filter enabled isMacro rangeChecked bodyChecked
  | collect enabled isMacro rangeChecked bodyChecked =>
    exact Term.forall_mem_pair (rangeChecked.madeIn.ofMember.child (.head _))
      (bodyChecked.madeIn.child (.tail _ (.tail _ (.head _))))
  | quantifiedPair enabled isMacro distinct rangeChecked bodyChecked =>
    exact Term.forall_mem_pair (rangeChecked.madeIn.ofMember.child (.head _))
      (bodyChecked.madeIn.child (.tail _ (.tail _ (.tail _ (.head _)))))
  | collectIf enabled isMacro rangeChecked testChecked bodyChecked =>
    refine List.forall_mem_cons.mpr ⟨rangeChecked.madeIn.ofMember.child (.head _), ?_⟩
    exact Term.forall_mem_pair (testChecked.madeIn.child (.tail _ (.tail _ (.head _))))
      (bodyChecked.madeIn.child (.tail _ (.tail _ (.tail _ (.head _)))))

/-- Every node of a term has been made of a node of the expression of the term. -/
theorem Checks.node_madeIn (checked : Checks macros scope e term) {node : Term}
    (inside : term.Contains node) : MadeIn macros e node := by
  induction inside with
  | self => exact checked.madeIn
  | child _ isChild ih =>
    obtain ⟨inner, isInner, scope, innerChecked⟩ := ih
    obtain ⟨below, isBelow, made⟩ := innerChecked.children_madeIn _ isChild
    exact ⟨below, (Expr.nodes_sublist isInner).subset isBelow, made⟩

end Cel.Check
