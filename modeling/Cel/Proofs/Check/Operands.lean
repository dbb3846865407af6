import Cel.Proofs.Check.Parts
import Cel.Proofs.NodeSlices

/-! # Operands

Checking goes from an expression to its operands, and from these to theirs. The names of functions and of
struct types are read off and not checked. Where a call is no macro, its operands are checked under the same
loops as the call, and their terms stand below its term.
-/

namespace Cel

namespace Check

/-- The expressions that are checked when an expression is, in this order. The names that a loop binds are
counted among them. -/
def operands : Expr Mark → List (Expr Mark)
  | .call _ callee args => (invocation callee args).2.2
  | .struct _ _ fields => fields.map (·.2)
  | e => e.children

/-- The macro that has the name and the call style of a call, whether or not macros are on. -/
def macroOf? : Expr Mark → Option Macro
  | .call _ callee args => Macro.named? (invocation callee args).1 (invocation callee args).2.1
  | _ => none

/-- Whether checking comes from an expression to a node of it. -/
inductive Reaches : Expr Mark → Expr Mark → Prop where
  | self {e : Expr Mark} : Reaches e e
  | operand {e operand node : Expr Mark} (isOperand : operand ∈ operands e)
    (reaches : Reaches operand node) : Reaches e node

variable {macros : Bool} {scope : List String} {e node operand : Expr Mark} {term : Term}

/-! ### Expressions and their operands -/

theorem exists_child_of_mem_operands (member : operand ∈ operands e) :
    ∃ child ∈ e.children, operand ∈ child.nodes := by
  cases e with
  | call mark callee args =>
    rcases mem_of_mem_operands rfl member with isArg | ⟨memberMark, field, rfl⟩
    · exact ⟨operand, List.mem_cons_of_mem _ isArg, operand.self_mem_nodes⟩
    · have isBelow : operand ∈ (Expr.member memberMark operand field).nodes :=
        Expr.mem_nodes.mpr (.inr ⟨operand, .head _, operand.self_mem_nodes⟩)
      exact ⟨_, List.mem_cons_self, isBelow⟩
  | struct mark typeName fields =>
    exact ⟨operand, List.mem_cons_of_mem _ member, operand.self_mem_nodes⟩
  | _ => exact ⟨operand, member, operand.self_mem_nodes⟩

/-- What holds of an expression if it holds of its operands holds of every expression. -/
@[elab_as_elim]
theorem operandsInduction {motive : Expr Mark → Prop}
    (node : ∀ e, (∀ operand ∈ operands e, motive operand) → motive e) (e : Expr Mark) : motive e := by
  suffices every : ∀ inner ∈ e.nodes, motive inner from every e e.self_mem_nodes
  induction e using Expr.childrenInduction with
  | node e ih =>
    intro inner member
    rcases Expr.mem_nodes.mp member with rfl | ⟨child, isChild, isBelow⟩
    · refine node inner fun operand isOperand => ?_
      obtain ⟨child, isChild, isBelow⟩ := exists_child_of_mem_operands isOperand
      exact ih child isChild operand isBelow
    · exact ih child isChild inner isBelow

theorem Reaches.mem_nodes (reaches : Reaches e node) : node ∈ e.nodes := by
  induction reaches with
  | self => exact Expr.self_mem_nodes _
  | operand isOperand _ ih =>
    obtain ⟨child, isChild, isBelow⟩ := exists_child_of_mem_operands isOperand
    exact Expr.mem_nodes.mpr (.inr ⟨child, isChild, (Expr.nodes_sublist isBelow).subset ih⟩)

/-! ### Terms of operands -/

/-- Whatever is in the first one of two related lists is related to something in the second one. -/
theorem exists_related_of_mem {α β : Type} {related : α → β → Prop} {items : List α}
    {others : List β} (each : List.Forall₂ related items others) {item : α} (member : item ∈ items) :
    ∃ other ∈ others, related item other := by
  induction each with
  | nil => cases member
  | cons first _ ih =>
    rcases List.mem_cons.mp member with rfl | later
    · exact ⟨_, List.mem_cons_self, first⟩
    · obtain ⟨other, isOther, isRelated⟩ := ih later
      exact ⟨other, List.mem_cons_of_mem _ isOther, isRelated⟩

variable [Engines]

/-- Whether some expressions are checked to the terms that stand opposite to them. -/
abbrev EachChecked (macros : Bool) (scope : List String) (items : List (Expr Mark)) (terms : List Term) :
    Prop :=
  List.Forall₂ (fun item term => check macros scope item = .ok term) items terms

theorem eachChecked_of_checkAll {items : List (Expr Mark)} {terms : List Term}
    (accepted : checkAll macros scope items = .ok terms) :
    EachChecked macros scope items terms := by
  induction items generalizing terms with
  | nil =>
    cases accepted
    exact .nil
  | cons item rest ih =>
    simp only [checkAll, bind_eq_ok_iff] at accepted
    obtain ⟨first, firstChecked, others, othersChecked, made⟩ := accepted
    cases made
    exact .cons firstChecked (ih othersChecked)

theorem eachChecked_of_checkEntries {entries : List (Expr Mark × Expr Mark)} {terms : List (Term × Term)}
    (accepted : checkEntries macros scope entries = .ok terms) :
    EachChecked macros scope (entries.flatMap fun (key, value) => [key, value])
      (terms.flatMap fun (key, value) => [key, value]) := by
  induction entries generalizing terms with
  | nil =>
    cases accepted
    exact .nil
  | cons entry rest ih =>
    simp only [checkEntries, bind_eq_ok_iff] at accepted
    obtain ⟨key, keyChecked, value, valueChecked, others, othersChecked, made⟩ := accepted
    cases made
    exact .cons keyChecked (.cons valueChecked (ih othersChecked))

theorem eachChecked_of_checkFields {seen : List String} {fields : List (String × Expr Mark)}
    {terms : List (String × Term)} (accepted : checkFields macros scope seen fields = .ok terms) :
    EachChecked macros scope (fields.map (·.2)) (terms.map (·.2)) := by
  induction fields generalizing seen terms with
  | nil =>
    cases accepted
    exact .nil
  | cons field rest ih =>
    simp only [checkFields] at accepted
    split at accepted
    · cases accepted
    · simp only [bind_eq_ok_iff] at accepted
      obtain ⟨first, firstChecked, others, othersChecked, made⟩ := accepted
      cases made
      exact .cons firstChecked (ih othersChecked)

/-- A call that is no macro is resolved from the terms of its operands. -/
theorem check_call {mark : Mark} {callee : Expr Mark} {args : List (Expr Mark)}
    (plain : macros = true → macroOf? (.call mark callee args) = none) :
    check macros scope (.call mark callee args) =
      checkAll macros scope (operands (.call mark callee args)) >>=
        resolve mark (invocation callee args).1 (invocation callee args).2.1 := by
  have notMacro : (if macros then
      Macro.named? (invocation callee args).1 (invocation callee args).2.1 else none) = none := by
    split
    · next enabled => exact plain enabled
    · rfl
  cases callee with
  | ident calleeMark stored =>
    simp only [invocation] at notMacro
    simp only [check, notMacro, operands, invocation]
  | member calleeMark receiver stored =>
    simp only [invocation] at notMacro
    simp only [check, notMacro, operands, invocation, checkAll]
    cases check macros scope receiver with
    | error error => rfl
    | ok first => cases checkAll macros scope args <;> rfl
  | _ => simp only [check, operands, invocation]

/-- An argument stands below the call that it is an argument of, unless it is a literal pattern. -/
theorem Resolves.mem_children_or_constant {mark : Mark} {name : String} {args : List Term}
    (resolved : Resolves mark name args term) {arg : Term} (member : arg ∈ args) :
    arg ∈ term.children ∨ ∃ span value, arg = .constant span value := by
  cases resolved with
  | unknown | call => exact .inl member
  | @«matches» target span source pattern found literal compiled =>
    subst literal
    rcases List.mem_cons.mp member with rfl | isPattern
    · exact .inl List.mem_cons_self
    · exact .inr ⟨span, .string source, List.mem_singleton.mp isPattern⟩
  | search found operands computed =>
    subst operands
    exact .inl member

/-- Where an expression is no call, the terms below its own are those of its operands. -/
theorem eachChecked_children (notCall : ∀ mark callee args, e ≠ .call mark callee args)
    (accepted : check macros scope e = .ok term) :
    EachChecked macros scope (operands e) term.children := by
  cases e with
  | constant | rootIdent =>
    cases accepted
    exact .nil
  | ident mark name =>
    simp only [check] at accepted
    split at accepted
    · cases accepted
      exact .nil
    · cases accepted
      exact .nil
  | list mark items =>
    obtain ⟨terms, checked, made⟩ := bind_eq_ok_iff.mp accepted
    cases made
    exact eachChecked_of_checkAll checked
  | map mark entries =>
    obtain ⟨terms, checked, made⟩ := bind_eq_ok_iff.mp accepted
    cases made
    exact eachChecked_of_checkEntries checked
  | struct mark typeName fields =>
    simp only [check, bind_eq_ok_iff] at accepted
    obtain ⟨name, named, terms, checked, made⟩ := accepted
    cases made
    exact eachChecked_of_checkFields checked
  | unary mark op operand | member mark operand field =>
    obtain ⟨operandTerm, checked, made⟩ := bind_eq_ok_iff.mp accepted
    cases made
    exact .cons checked .nil
  | binary mark op left right =>
    simp only [check, bind_eq_ok_iff] at accepted
    obtain ⟨leftTerm, leftChecked, rightTerm, rightChecked, made⟩ := accepted
    cases made
    rw [children_binary]
    exact .cons leftChecked (.cons rightChecked .nil)
  | index mark operand position =>
    simp only [check, bind_eq_ok_iff] at accepted
    obtain ⟨operandTerm, operandChecked, positionTerm, positionChecked, made⟩ := accepted
    cases made
    exact .cons operandChecked (.cons positionChecked .nil)
  | ternary mark condition yes no =>
    simp only [check, bind_eq_ok_iff] at accepted
    obtain ⟨conditionTerm, conditionChecked, yesTerm, yesChecked, noTerm, noChecked, made⟩ := accepted
    cases made
    exact .cons conditionChecked (.cons yesChecked (.cons noChecked .nil))
  | call mark callee args => exact absurd rfl (notCall mark callee args)

/-- The terms of the operands of an expression that is no macro stand below its term, but for literal
patterns, and nothing else does. -/
theorem terms_of_accepted (plain : macros = true → macroOf? e = none)
    (accepted : check macros scope e = .ok term) :
    ∃ terms, EachChecked macros scope (operands e) terms ∧
      (∀ child ∈ term.children, child ∈ terms) ∧
      ∀ operandTerm ∈ terms, operandTerm ∈ term.children ∨
        ∃ span value, operandTerm = .constant span value := by
  cases e with
  | call mark callee args =>
    rw [check_call plain] at accepted
    obtain ⟨terms, checked, resolved⟩ := bind_eq_ok_iff.mp accepted
    have resolves := resolves_of_resolve resolved
    exact ⟨terms, eachChecked_of_checkAll checked, fun _ => resolves.mem_of_mem_children,
      fun _ => resolves.mem_children_or_constant⟩
  | _ => exact ⟨term.children, eachChecked_children nofun accepted, fun _ => id, fun _ => .inl⟩

/-! ### Operands of what is accepted -/

/-- Whether an expression is accepted under some loops. -/
def Accepted (macros : Bool) (e : Expr Mark) : Prop := ∃ scope term, check macros scope e = .ok term

theorem accepted_ident (mark : Mark) (name : String) : Accepted macros (.ident mark name) := by
  refine ⟨[], .free mark.span name, ?_⟩
  rw [check]
  rfl

theorem accepted_member {mark : Mark} {field : String}
    (accepted : check macros scope operand = .ok term) :
    Accepted macros (.member mark operand field) := by
  refine ⟨scope, .select mark.span term field, ?_⟩
  rw [check, accepted]
  rfl

/-- The receiver and the arguments of a loop are accepted, the names that it binds as any others are. -/
theorem accepted_operands_of_method {mark calleeMark : Mark} {receiver : Expr Mark} {name : String}
    {args : List (Expr Mark)} {loop : Macro} (enabled : macros = true)
    (isMacro : Macro.named? name true = some loop)
    (accepted : check macros scope (.call mark (.member calleeMark receiver name) args) = .ok term) :
    ∀ operand ∈ receiver :: args, Accepted macros operand := by
  -- A loop that binds one name and has nothing but a body.
  have simple {loop : Macro} {value body : Expr Mark} {make : String → Term → Term → Term}
      (accepted : (do
        let value ← loopVariable mark loop value
        let range ← check macros scope receiver
        let body ← check macros (value :: scope) body
        return make value range body) = .ok term) :
      ∀ operand ∈ [receiver, value, body], Accepted macros operand := by
    simp only [bind_eq_ok_iff] at accepted
    obtain ⟨value, isName, range, rangeChecked, body, bodyChecked, -⟩ := accepted
    obtain ⟨valueMark, rfl⟩ := loopVariable_eq_ok isName
    simp only [List.forall_mem_cons]
    exact ⟨⟨_, _, rangeChecked⟩, accepted_ident _ _, ⟨_, _, bodyChecked⟩, List.forall_mem_nil _⟩
  subst enabled
  simp only [check, if_true, isMacro] at accepted
  split at accepted
  · exact simple accepted
  · simp only [bind_eq_ok_iff] at accepted
    obtain ⟨binder, areNames, range, rangeChecked, test, testChecked, -⟩ := accepted
    obtain ⟨indexMark, valueMark, index, value, rfl, rfl, -, -⟩ := loopVariables_eq_ok areNames
    simp only [List.forall_mem_cons]
    exact ⟨⟨_, _, rangeChecked⟩, accepted_ident _ _, accepted_ident _ _, ⟨_, _, testChecked⟩,
      List.forall_mem_nil _⟩
  · exact simple accepted
  · exact simple accepted
  · simp only [bind_eq_ok_iff] at accepted
    obtain ⟨value, isName, range, rangeChecked, test, testChecked, body, bodyChecked, -⟩ := accepted
    obtain ⟨valueMark, rfl⟩ := loopVariable_eq_ok isName
    simp only [List.forall_mem_cons]
    exact ⟨⟨_, _, rangeChecked⟩, accepted_ident _ _, ⟨_, _, testChecked⟩, ⟨_, _, bodyChecked⟩,
      List.forall_mem_nil _⟩
  · cases accepted

/-- What `has` asks for is a member, which is accepted as its operand is. -/
theorem accepted_operands_of_name {mark calleeMark : Mark} {name : String} {args : List (Expr Mark)}
    {loop : Macro} (enabled : macros = true) (isMacro : Macro.named? name false = some loop)
    (accepted : check macros scope (.call mark (.ident calleeMark name) args) = .ok term) :
    ∀ operand ∈ args, Accepted macros operand := by
  subst enabled
  simp only [check, if_true, isMacro] at accepted
  split at accepted
  · obtain ⟨operandTerm, checked, -⟩ := bind_eq_ok_iff.mp accepted
    exact List.forall_mem_singleton.mpr (accepted_member checked)
  · cases accepted
  · cases accepted

/-- An accepted expression has accepted operands only. -/
theorem Accepted.of_mem_operands (accepted : Accepted macros e) (isOperand : operand ∈ operands e) :
    Accepted macros operand := by
  obtain ⟨scope, term, accepted⟩ := accepted
  by_cases plain : macros = true → macroOf? e = none
  · obtain ⟨terms, checked, -, -⟩ := terms_of_accepted plain accepted
    obtain ⟨operandTerm, -, operandChecked⟩ := exists_related_of_mem checked isOperand
    exact ⟨scope, operandTerm, operandChecked⟩
  · obtain ⟨enabled, isMacro⟩ := Classical.not_imp.mp plain
    obtain ⟨loop, isMacro⟩ := Option.ne_none_iff_exists'.mp isMacro
    cases e with
    | call mark callee args =>
      cases callee with
      | ident calleeMark name => exact accepted_operands_of_name enabled isMacro accepted _ isOperand
      | member calleeMark receiver name =>
        exact accepted_operands_of_method enabled isMacro accepted _ isOperand
      | _ => cases isMacro
    | _ => cases isMacro

theorem Accepted.of_reaches (accepted : Accepted macros e) (reaches : Reaches e node) :
    Accepted macros node := by
  induction reaches with
  | self => exact accepted
  | operand isOperand _ ih => exact ih (accepted.of_mem_operands isOperand)

/-! ### Calls in a source -/

section Calls

variable {mark : Mark} {callee : Expr Mark} {args : List (Expr Mark)}

omit [Engines] in
theorem call_notMem_of_qualifiedName {typeName : Expr Mark} {name : String}
    (named : typeName.qualifiedName? = some name) : .call mark callee args ∉ typeName.nodes := by
  induction typeName using Expr.childrenInduction generalizing name with
  | node typeName ih =>
    intro member
    cases typeName with
    | ident | rootIdent => cases List.mem_singleton.mp member
    | member memberMark operand field =>
      rw [Expr.qualifiedName?] at named
      obtain ⟨front, frontNamed, -⟩ := Option.map_eq_some_iff.mp named
      rcases Expr.mem_nodes.mp member with isMember | ⟨child, isChild, isBelow⟩
      · cases isMember
      · cases List.mem_singleton.mp isChild
        exact ih operand isChild frontNamed isBelow
    | _ => cases named

omit [Engines] in
theorem mem_operands_of_mem_args {arg : Expr Mark} (member : arg ∈ args) :
    arg ∈ operands (.call mark callee args) := by
  cases callee with
  | member => exact List.mem_cons_of_mem _ member
  | _ => exact member

/-- A call below an accepted expression is in an operand if only names are called: other than that there are
the receiver of a method, which is an operand, and the name of a struct type. -/
theorem Accepted.exists_operand (accepted : Accepted macros e)
    (named : ∀ mark callee args, .call mark callee args ∈ e.nodes → callee.isCallee = true)
    {child : Expr Mark} (isChild : child ∈ e.children) (isBelow : .call mark callee args ∈ child.nodes) :
    ∃ operand ∈ operands e, .call mark callee args ∈ operand.nodes := by
  cases e with
  | call outerMark outer others =>
    rcases List.mem_cons.mp isChild with rfl | isArg
    · have isCallee := named _ _ _ (Expr.self_mem_nodes _)
      cases child with
      | ident => cases List.mem_singleton.mp isBelow
      | member memberMark receiver field =>
        rcases Expr.mem_nodes.mp isBelow with isMember | ⟨inner, isInner, isInside⟩
        · cases isMember
        · cases List.mem_singleton.mp isInner
          exact ⟨receiver, List.mem_cons_self, isInside⟩
      | _ => cases isCallee
    · exact ⟨child, mem_operands_of_mem_args isArg, isBelow⟩
  | struct structMark typeName fields =>
    rcases List.mem_cons.mp isChild with rfl | isField
    · obtain ⟨scope, term, accepted⟩ := accepted
      obtain ⟨name, isName, -⟩ := bind_eq_ok_iff.mp accepted
      unfold structName at isName
      split at isName
      · next found => exact absurd isBelow (call_notMem_of_qualifiedName found)
      · cases isName
    · exact ⟨child, isField, isBelow⟩
  | _ => exact ⟨child, isChild, isBelow⟩

theorem Accepted.reaches_call (accepted : Accepted macros e)
    (named : ∀ mark callee args, .call mark callee args ∈ e.nodes → callee.isCallee = true)
    (member : .call mark callee args ∈ e.nodes) : Reaches e (.call mark callee args) := by
  induction e using operandsInduction with
  | node e ih =>
    rcases Expr.mem_nodes.mp member with rfl | ⟨child, isChild, isBelow⟩
    · exact .self
    · obtain ⟨operand, isOperand, isInside⟩ := accepted.exists_operand named isChild isBelow
      have isNode : operand ∈ e.nodes := (Reaches.operand isOperand .self).mem_nodes
      refine .operand isOperand (ih operand isOperand (accepted.of_mem_operands isOperand) ?_ isInside)
      exact fun _ _ _ isCall => named _ _ _ ((Expr.nodes_sublist isNode).subset isCall)

end Calls

end Check

namespace Grammar

theorem Derives.callable {category : Category} {tokens : List Token} {callee : Expr Unit}
    {args : List (Expr Unit)} (derived : Derives category tokens (.call () callee args)) :
    Callable callee := by
  generalize isCall : Expr.call () callee args = tree at derived
  induction derived with
  | operation whole ih | tighter whole ih | primary whole ih | atom whole ih | parenthesized whole ih =>
    exact ih isCall
  | call derived named =>
    cases isCall
    exact named
  | _ => cases isCall

end Grammar

namespace Program

variable {limit : Nat} {source : String} {e callee : Expr Mark} {mark : Mark} {args : List (Expr Mark)}

/-- The parser takes nothing as a call but the call of a name. -/
theorem isCallee_of_parse (parsed : parse limit source = .ok e)
    (member : .call mark callee args ∈ e.nodes) : callee.isCallee = true := by
  obtain ⟨bare, first, before, phrase, after, isCall, -, -, alone⟩ := exists_alone parsed member
  obtain ⟨consumed, -, derived⟩ := (Parser.expr_sound limit).1 (alone.read 0 ⟨id, fun _ _ => rfl⟩)
  have sameShape : (Expr.mapNotes id bare).shape = (Expr.call mark callee args).shape := by
    rw [isCall, Expr.shape_number, Expr.shape_mapNotes]
  have isDerived : Grammar.Derives .expression consumed (Expr.call mark callee args).shape :=
    sameShape ▸ derived
  exact Parser.callable_shape_iff.mp (Grammar.Derives.callable isDerived)

/-- Checking reaches every call of a source, unless it finds a fault. -/
theorem reaches_call [Engines] (parsed : parse limit source = .ok e) {macros : Bool} {term : Term}
    (accepted : e.check macros = .ok term) (member : .call mark callee args ∈ e.nodes) :
    Check.Reaches e (.call mark callee args) :=
  Check.Accepted.reaches_call ⟨[], term, accepted⟩ (fun _ _ _ => isCallee_of_parse parsed) member

end Program

end Cel
