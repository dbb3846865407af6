import Cel.Engines.Standard
import Cel.Proofs.Check.Operands

/-! # Checking without macros

Macros can be switched off. What would be the call of one is then the call of a function that does not exist:
no macro shares its name with a function. Such a call is accepted with its arguments, whatever these are, and
it fails as soon as it is evaluated. No names are bound without macros, and nothing but their calls changes.
-/

namespace Cel

namespace Macro

theorem name_of_named? {name : String} {method : Bool} {loop : Macro}
    (found : named? name method = some loop) : loop.name = name := by
  have fits := List.find?_some found
  exact beq_iff_eq.mp (Bool.and_eq_true_iff.mp fits).1

/-- No macro has the name of a function. -/
theorem builtin_named?_name (loop : Macro) : Builtin.named? loop.name = none := by
  cases loop with
  | quantifier kind => cases kind <;> rfl
  | _ => rfl

end Macro

namespace Term

/-- Whether a term can be made without macros: it neither tests for a field, nor is it a loop, nor a name that
a loop binds. -/
def isPlain : Term → Bool
  | bound .. | has .. | quantified .. | filter .. | collect .. | collectIf .. => false
  | _ => true

end Term

namespace Check

theorem plain_off (e : Expr Mark) : false = true → macroOf? e = none :=
  fun off => absurd off Bool.false_ne_true

section Checking

variable [Engines] {scope : List String} {e call : Expr Mark} {term : Term} {loop : Macro}

/-! ### Calls of macros -/

/-- Without macros, the call of one becomes the call of a function that does not exist. -/
theorem check_macro_call (isMacro : macroOf? call = some loop) : check false scope call =
    (checkAll false scope (operands call)).map (.unknownCall call.note.span loop.name) := by
  cases call with
  | call mark callee args =>
    have isName := Macro.name_of_named? isMacro
    have notFunction := loop.builtin_named?_name
    rw [isName] at notFunction
    rw [check_call (plain_off _), isName]
    unfold resolve
    simp only [notFunction]
    cases checkAll false scope (operands (.call mark callee args)) <;> rfl
  | _ => cases isMacro

/-! ### Terms -/

/-- Without macros, the terms of all nodes that checking comes to stand in the term, but for literal
patterns. -/
theorem exists_of_reaches {node : Expr Mark} (accepted : check false scope e = .ok term)
    (reaches : Reaches e node) : ∃ inner, check false scope node = .ok inner ∧
      (term.Contains inner ∨ ∃ span value, inner = .constant span value) := by
  induction reaches generalizing term with
  | self => exact ⟨term, accepted, .inl .self⟩
  | operand isOperand _ ih =>
    obtain ⟨terms, checked, -, stand⟩ := terms_of_accepted (plain_off _) accepted
    obtain ⟨operandTerm, isTerm, operandChecked⟩ := exists_related_of_mem checked isOperand
    obtain ⟨inner, innerChecked, inside | isConstant⟩ := ih operandChecked
    · refine ⟨inner, innerChecked, ?_⟩
      rcases stand operandTerm isTerm with isChild | ⟨span, value, rfl⟩
      · exact .inl ((Term.Contains.child .self isChild).trans inside)
      · rcases inside.eq_or_below with rfl | ⟨child, isChild, -⟩
        · exact .inr ⟨span, value, rfl⟩
        · cases isChild
    · exact ⟨inner, innerChecked, .inr isConstant⟩

theorem contains_of_macro_call (accepted : check false scope e = .ok term) (reaches : Reaches e call)
    (isMacro : macroOf? call = some loop) : ∃ args, checkAll false scope (operands call) = .ok args ∧
      term.Contains (.unknownCall call.note.span loop.name args) := by
  obtain ⟨inner, checked, place⟩ := exists_of_reaches accepted reaches
  rw [check_macro_call isMacro] at checked
  obtain ⟨args, argsChecked, rfl⟩ := map_eq_ok_iff.mp checked
  rcases place with inside | ⟨span, value, isConstant⟩
  · exact ⟨args, argsChecked, inside⟩
  · cases isConstant

theorem Checks.isPlain (checked : Checks false [] e term) : term.isPlain = true := by
  cases checked with
  | binary =>
    unfold Check.binary
    split <;> rfl
  | call applies ordinary same each resolved => cases resolved <;> rfl
  | bound found => cases found
  | has enabled | quantified enabled | quantifiedPair enabled | filter enabled | collect enabled
  | collectIf enabled => cases enabled
  | _ => rfl

/-- Without macros, no node of a term tests for a field, loops or is a name that a loop binds. -/
theorem isPlain_of_contains (accepted : check false [] e = .ok term) {node : Term}
    (inside : term.Contains node) : node.isPlain = true := by
  induction e using operandsInduction generalizing term with
  | node e ih =>
    rcases inside.eq_or_below with rfl | ⟨child, isChild, below⟩
    · exact (checks_of_check accepted).isPlain
    · obtain ⟨terms, checked, areTerms, -⟩ := terms_of_accepted (plain_off _) accepted
      obtain ⟨operand, isOperand, operandChecked⟩ :=
        exists_related_of_mem checked.flip (areTerms child isChild)
      exact ih operand isOperand operandChecked below

/-! ### Expressions without calls of macros -/

theorem checkAll_congr {items : List (Expr Mark)}
    (each : ∀ item ∈ items, check true scope item = check false scope item) :
    checkAll true scope items = checkAll false scope items := by
  induction items with
  | nil => rfl
  | cons item rest ih =>
    obtain ⟨head, tail⟩ := List.forall_mem_cons.mp each
    simp only [checkAll, head, ih tail]

theorem checkEntries_congr {entries : List (Expr Mark × Expr Mark)}
    (each : ∀ entry ∈ entries, check true scope entry.1 = check false scope entry.1 ∧
      check true scope entry.2 = check false scope entry.2) :
    checkEntries true scope entries = checkEntries false scope entries := by
  induction entries with
  | nil => rfl
  | cons entry rest ih =>
    obtain ⟨⟨key, value⟩, tail⟩ := List.forall_mem_cons.mp each
    simp only [checkEntries, key, value, ih tail]

theorem checkFields_congr {seen : List String} {fields : List (String × Expr Mark)}
    (each : ∀ field ∈ fields, check true scope field.2 = check false scope field.2) :
    checkFields true scope seen fields = checkFields false scope seen fields := by
  induction fields generalizing seen with
  | nil => rfl
  | cons field rest ih =>
    obtain ⟨head, tail⟩ := List.forall_mem_cons.mp each
    simp only [checkFields, head, ih tail]

/-- Where checking comes to no call of a macro, it comes to the same with and without macros. -/
theorem check_eq_of_no_macro_call (ordinary : ∀ call, Reaches e call → macroOf? call = none) :
    check true scope e = check false scope e := by
  induction e using operandsInduction generalizing scope with
  | node e ih =>
    have each {operand : Expr Mark} (isOperand : operand ∈ operands e) :
        check true scope operand = check false scope operand :=
      ih operand isOperand fun call reaches => ordinary call (.operand isOperand reaches)
    cases e with
    | constant | ident | rootIdent => simp only [check]
    | list mark items =>
      have itemsEq := checkAll_congr fun item (member : item ∈ items) => each member
      simp only [check, itemsEq]
    | map mark entries =>
      have entriesEq := checkEntries_congr fun entry (member : entry ∈ entries) =>
        ⟨each (List.mem_flatMap_of_mem member (.head _)),
          each (List.mem_flatMap_of_mem member (.tail _ (.head _)))⟩
      simp only [check, entriesEq]
    | struct mark typeName fields =>
      have fieldsEq := @checkFields_congr _ scope [] fields fun _ member =>
        each (List.mem_map_of_mem member)
      simp only [check, fieldsEq]
    | unary mark op operand | member mark operand field => simp only [check, each (.head _)]
    | binary mark op left right | index mark left right =>
      simp only [check, each (.head _), each (.tail _ (.head _))]
    | ternary mark condition yes no =>
      simp only [check, each (.head _), each (.tail _ (.head _)),
        each (.tail _ (.tail _ (.head _)))]
    | call mark callee args =>
      rw [check_call fun _ => ordinary _ .self, check_call (plain_off _),
        checkAll_congr fun _ => each]

/-! ### The whole of it -/

/-- Without macros a checked term has none of the nodes that macros are expanded to. Each call of a macro that
checking comes to has become the call of a function that does not exist, and evaluating that fails whatever
its arguments are. An expression without such calls is checked as with macros. In a source, checking comes to
all calls. -/
theorem check_without_macros (e : Expr Mark) :
    (∀ loop, macroOf? e = some loop → ∀ scope, check false scope e =
      (checkAll false scope (operands e)).map (.unknownCall e.note.span loop.name)) ∧
    (∀ term, e.check false = .ok term →
      (∀ node, term.Contains node → node.isPlain = true) ∧
      ∀ call loop, Reaches e call → macroOf? call = some loop →
        ∃ args, checkAll false [] (operands call) = .ok args ∧
          term.Contains (.unknownCall call.note.span loop.name args)) ∧
    (∀ span name args activation locals, Eval.eval activation locals (.unknownCall span name args) =
      .error ⟨.unknownFunction name, span⟩) ∧
    ((∀ call, Reaches e call → macroOf? call = none) →
      ∀ scope, check true scope e = check false scope e) ∧
    ∀ limit source term, Program.parse limit source = .ok e → e.check false = .ok term →
      ∀ call ∈ e.nodes, ∀ loop, macroOf? call = some loop → Reaches e call := by
  refine ⟨?_, fun term accepted => ⟨?_, ?_⟩, ?_, ?_, ?_⟩
  · exact fun loop isMacro scope => check_macro_call isMacro
  · exact fun node inside => isPlain_of_contains accepted inside
  · exact fun call loop reaches isMacro => contains_of_macro_call accepted reaches isMacro
  · intro span name args activation locals
    rw [Eval.eval]
  · exact fun ordinary scope => check_eq_of_no_macro_call ordinary
  · intro limit source term parsed accepted call member loop isMacro
    cases call with
    | call mark callee args => exact Program.reaches_call parsed accepted member
    | _ => cases isMacro

end Checking

/-- Without macros, `all` is a function that does not exist, here in an operand that is never evaluated. -/
theorem check_without_macros_of_all :
    let source := "true || [1].all(x, x == 1 / 0)"
    ∃ e term args span, Program.parse 250 source = .ok e ∧ e.check false = .ok term ∧
      (∀ node, term.Contains node → node.isPlain = true) ∧
      term.Contains (.unknownCall span "all" args) ∧ ∀ activation,
        Eval.eval activation [] (.unknownCall span "all" args) =
          .error ⟨.unknownFunction "all", span⟩ := by
  intro source
  have computed : (Program.parse 250 source).toOption.any (fun e => (e.check false).toOption.any fun _ =>
      e.nodes.any fun node => macroOf? node == some (.quantifier .all)) = true := by
    decide +kernel
  obtain ⟨e, parsed, checks⟩ := exists_ok_of_any computed
  obtain ⟨term, accepted, hasCall⟩ := exists_ok_of_any checks
  obtain ⟨call, isNode, isAll⟩ := List.any_eq_true.mp hasCall
  obtain ⟨-, inTerm, fails, -, reached⟩ := check_without_macros e
  obtain ⟨plain, stands⟩ := inTerm term accepted
  have reaches := reached 250 source term parsed accepted call isNode _ (eq_of_beq isAll)
  obtain ⟨args, -, inside⟩ := stands call _ reaches (eq_of_beq isAll)
  exact ⟨e, term, args, call.note.span, parsed, accepted, plain, inside,
    fun activation => fails _ _ _ _ _⟩

end Check

end Cel
