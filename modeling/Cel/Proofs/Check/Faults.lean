import Cel.Proofs.Check.Rules
import Cel.Proofs.Expr.Numbering
import Cel.Proofs.Failures

/-! # Where faults are found

Checking reports every fault at a node of the expression: at the node that is checked, at one directly
below it whose form is wrong, or wherever the check of a part has reported it.
-/

namespace Cel.Check

/-- Whether a fault is reported at a node of an expression. -/
def StandsIn (e : Expr Mark) (error : CompileError) : Prop :=
  ∃ node ∈ e.nodes, node.note.span = error.span

variable {macros : Bool} {scope : List String} {e : Expr Mark} {error : CompileError}

theorem StandsIn.here (same : error.span = e.note.span) : StandsIn e error :=
  ⟨e, e.self_mem_nodes, same.symm⟩

theorem StandsIn.below {child : Expr Mark} (isChild : child ∈ e.children)
    (stands : StandsIn child error) : StandsIn e error := by
  obtain ⟨node, isNode, same⟩ := stands
  exact ⟨node, Expr.mem_nodes.mpr (.inr ⟨child, isChild, isNode⟩), same⟩

/-- A fault at a node directly below. -/
theorem StandsIn.child {child : Expr Mark} (isChild : child ∈ e.children)
    (same : error.span = child.note.span) : StandsIn e error :=
  (StandsIn.here same).below isChild

/-! ### Names -/

section Names

variable {allowed : CompileError → Prop}

theorem loopVariable_failsOnly {mark : Mark} {loop : Macro} {arg : Expr Mark}
    (atArgument : ∀ cause, allowed ⟨cause, arg.note.span, mark.id⟩) :
    FailsOnly allowed (loopVariable mark loop arg) := by
  unfold loopVariable
  split
  · exact .ok
  · exact FailsOnly.error_iff.mpr (atArgument _)

theorem loopVariables_failsOnly {mark : Mark} {loop : Macro} {index value : Expr Mark}
    (atIndex : ∀ cause, allowed ⟨cause, index.note.span, mark.id⟩)
    (atValue : ∀ cause, allowed ⟨cause, value.note.span, mark.id⟩) :
    FailsOnly allowed (loopVariables mark loop index value) := by
  unfold loopVariables
  refine (loopVariable_failsOnly atIndex).bind fun _ _ => ?_
  refine (loopVariable_failsOnly atValue).bind fun _ _ => ?_
  split
  · exact FailsOnly.error_iff.mpr (atValue _)
  · exact .ok

end Names

variable [Engines]

/-! ### Calls -/

theorem search_failsOnly {allowed : CompileError → Prop} {mark : Mark} {target pattern : Term}
    (atPattern : ∀ cause, allowed ⟨cause, pattern.span, mark.id⟩) :
    FailsOnly allowed (search mark target pattern) := by
  unfold search
  split
  · split
    · exact .ok
    · exact FailsOnly.error_iff.mpr (atPattern _)
  · exact .ok

/-- A call that is resolved fails at the call, or at a pattern that is one of its arguments. -/
theorem resolve_failsOnly {allowed : CompileError → Prop} {mark : Mark} {name : String}
    {method : Bool} {args : List Term} (atCall : ∀ cause, allowed ⟨cause, mark.span, mark.id⟩)
    (atArgument : ∀ arg ∈ args, ∀ cause, allowed ⟨cause, arg.span, mark.id⟩) :
    FailsOnly allowed (resolve mark name method args) := by
  unfold resolve
  split
  · exact .ok
  · split
    · exact FailsOnly.error_iff.mpr (atCall _)
    · split
      · exact FailsOnly.error_iff.mpr (atCall _)
      · split
        · exact FailsOnly.error_iff.mpr (atCall _)
        · split
          · refine search_failsOnly (atArgument _ ?_)
            exact List.mem_cons_of_mem _ List.mem_cons_self
          · exact .ok

/-! ### Parts -/

section Parts

variable {allowed : CompileError → Prop}

theorem checkAll_failsOnly {items : List (Expr Mark)}
    (each : ∀ item ∈ items, FailsOnly allowed (check macros scope item)) :
    FailsOnly allowed (checkAll macros scope items) := by
  induction items with
  | nil => exact .ok
  | cons item rest ih =>
    obtain ⟨head, tail⟩ := List.forall_mem_cons.mp each
    exact head.bind fun _ _ => (ih tail).map _

/-- Checking the operand of a member fails as checking the member does. -/
theorem operand_failsOnly {mark : Mark} {operand : Expr Mark} {field : String}
    (member : FailsOnly allowed (check macros scope (.member mark operand field))) :
    FailsOnly allowed (check macros scope operand) := by
  intro error failed
  refine member error ?_
  rw [check, failed]
  rfl

end Parts

/-- Terms have the spans of the expressions that they come from. -/
theorem spans_of_forall₂ {items : List (Expr Mark)} {terms : List Term}
    (checked : List.Forall₂ (Checks macros scope) items terms) :
    terms.map Term.span = items.map (·.note.span) := by
  induction checked with
  | nil => rfl
  | cons first _ ih => rw [List.map_cons, List.map_cons, first.span_eq, ih]

/-- A call that is resolved fails at the call or at an argument. -/
theorem call_failsOnly {mark : Mark} {name : String} {method : Bool} {args : List (Expr Mark)}
    {terms : List Term} (checked : List.Forall₂ (Checks macros scope) args terms)
    (atCall : ∀ cause, StandsIn e ⟨cause, mark.span, mark.id⟩)
    (atArgument : ∀ arg ∈ args, ∀ cause, StandsIn e ⟨cause, arg.note.span, mark.id⟩) :
    FailsOnly (StandsIn e) (resolve mark name method terms) := by
  refine resolve_failsOnly atCall fun term member cause => ?_
  have isSpan : term.span ∈ args.map (·.note.span) := by
    rw [← spans_of_forall₂ checked]
    exact List.mem_map_of_mem member
  obtain ⟨arg, isArg, same⟩ := List.mem_map.mp isSpan
  rw [← same]
  exact atArgument arg isArg cause

/-! ### Expressions -/

/-- Whether checking the parts of an expression reports faults at its nodes only. -/
def PartsStand (macros : Bool) (e : Expr Mark) : Prop :=
  ∀ child ∈ e.children, ∀ scope, FailsOnly (StandsIn e) (check macros scope child)

section Calls

variable {mark calleeMark : Mark} {callee receiver arg : Expr Mark} {name : String}
  {args : List (Expr Mark)}

omit [Engines] in
theorem arg_mem_children (member : arg ∈ args) : arg ∈ (Expr.call mark callee args).children :=
  List.mem_cons_of_mem _ member

omit [Engines] in
theorem StandsIn.argument (member : arg ∈ args) (id : Nat) (cause : CompileError.Cause) :
    StandsIn (.call mark callee args) ⟨cause, arg.note.span, id⟩ :=
  .child (arg_mem_children member) rfl

theorem PartsStand.arguments (parts : PartsStand macros (.call mark callee args))
    (scope : List String) :
    FailsOnly (StandsIn (.call mark callee args)) (checkAll macros scope args) :=
  checkAll_failsOnly fun _ member => parts _ (arg_mem_children member) scope

/-- A call that has its name and its arguments only. -/
theorem PartsStand.function (parts : PartsStand macros (.call mark callee args)) (method : Bool) :
    FailsOnly (StandsIn (.call mark callee args))
      (checkAll macros scope args >>= resolve mark name method) := by
  refine (parts.arguments scope).bind fun terms checked => ?_
  refine call_failsOnly (checks_of_checkAll checked) (fun _ => .here rfl) ?_
  exact fun arg member => .argument member _

/-- A call by name is that of a function, unless it asks for a field. -/
theorem PartsStand.namedCall
    (parts : PartsStand macros (.call mark (.ident calleeMark name) args)) :
    FailsOnly (StandsIn (.call mark (.ident calleeMark name) args))
      (check macros scope (.call mark (.ident calleeMark name) args)) := by
  unfold check
  split
  · split
    · exact (operand_failsOnly (parts _ (arg_mem_children List.mem_cons_self) scope)).map _
    · exact FailsOnly.error_iff.mpr (.argument List.mem_cons_self _ _)
    · exact FailsOnly.error_iff.mpr (.here rfl)
  · exact parts.function _

/-- A method is a call with the receiver before its arguments, unless it is a loop over the
receiver. -/
theorem PartsStand.methodCall
    (parts : PartsStand macros (.call mark (.member calleeMark receiver name) args)) :
    FailsOnly (StandsIn (.call mark (.member calleeMark receiver name) args))
      (check macros scope (.call mark (.member calleeMark receiver name) args)) := by
  have isPart {arg : Expr Mark} (member : arg ∈ args) :
      arg ∈ (Expr.call mark (.member calleeMark receiver name) args).children :=
    arg_mem_children member
  -- The receiver is checked without the member around it.
  have receiverOnly := operand_failsOnly (parts _ List.mem_cons_self scope)
  have atReceiver (cause : CompileError.Cause) :
      StandsIn (.call mark (.member calleeMark receiver name) args)
        ⟨cause, receiver.note.span, mark.id⟩ :=
    (StandsIn.child (List.mem_singleton_self receiver) rfl).below List.mem_cons_self
  -- A loop that binds one name and has nothing but a body.
  have simple {loop : Macro} {value body : Expr Mark} (isValue : value ∈ args)
      (isBody : body ∈ args) (make : String → Term → Term → Term) :
      FailsOnly (StandsIn (.call mark (.member calleeMark receiver name) args)) (do
        let value ← loopVariable mark loop value
        let range ← check macros scope receiver
        let body ← check macros (value :: scope) body
        return make value range body) := by
    refine (loopVariable_failsOnly (.argument isValue _)).bind fun _ _ => ?_
    refine receiverOnly.bind fun _ _ => ?_
    exact (parts _ (isPart isBody) _).map _
  unfold check
  split
  · split
    · exact simple (by simp) (by simp) _
    · refine (loopVariables_failsOnly (.argument (by simp) _) (.argument (by simp) _)).bind
        fun _ _ => ?_
      refine receiverOnly.bind fun _ _ => ?_
      exact (parts _ (isPart (by simp)) _).map _
    · exact simple (by simp) (by simp) _
    · exact simple (by simp) (by simp) _
    · refine (loopVariable_failsOnly (.argument (by simp) _)).bind fun _ _ => ?_
      refine receiverOnly.bind fun _ _ => ?_
      refine (parts _ (isPart (by simp)) _).bind fun _ _ => ?_
      exact (parts _ (isPart (by simp)) _).map _
    · exact FailsOnly.error_iff.mpr (.here rfl)
  · refine receiverOnly.bind fun term receiverChecked => ?_
    refine (parts.arguments scope).bind fun terms checked => ?_
    have each := List.Forall₂.cons (checks_of_check receiverChecked) (checks_of_checkAll checked)
    refine call_failsOnly each (fun _ => .here rfl) (List.forall_mem_cons.mpr ⟨atReceiver, ?_⟩)
    exact fun arg member => .argument member _

end Calls

end Cel.Check
