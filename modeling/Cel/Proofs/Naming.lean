import Cel.Context
import Cel.Engines.Standard
import Cel.Program
import Cel.Proofs.Naming.Reference
import Cel.Proofs.Naming.Uses

/-! # Names and depths

A checked term refers to loop variables by their depths, and its evaluation keeps the bound values in a
list. Both stay in step with the names of an environment: the list holds the values of the
environment, and the scope of the checker its names. So a checked term has the same outcome as the
expression it comes from.
-/

namespace Cel

namespace Naming

open Check (Checks Resolves invocation IsOrdinary)
open EvalError (locate)

variable {activation : Activation} {env : Environment}

/-! ### Identifiers -/

/-- The value that an environment holds for a name stands at the depth at which the name is found. -/
theorem lookup_of_idxOf? {name : String} {depth : Nat}
    (found : (env.map (·.1)).idxOf? name = some depth) :
    ∃ value, env.lookup name = some value ∧ (env.map (·.2))[depth]? = some value := by
  induction env generalizing depth with
  | nil => simp at found
  | cons binding rest ih =>
    obtain ⟨stored, value⟩ := binding
    rw [List.map_cons, List.idxOf?_cons] at found
    split at found
    · next isHere =>
      cases found
      have same : name = stored := (beq_iff_eq.mp isHere).symm
      exact ⟨value, by simp [same], rfl⟩
    · next notHere =>
      obtain ⟨depth, foundLater, rfl⟩ := Option.map_eq_some_iff.mp found
      obtain ⟨value, gives, stands⟩ := ih foundLater
      have differs : (name == stored) = false := by
        rw [beq_eq_false_iff_ne]
        rintro rfl
        exact notHere (beq_self_eq_true name)
      refine ⟨value, ?_, stands⟩
      rw [List.lookup_cons, differs]
      exact gives

theorem lookup_of_notMem {name : String} (notBound : name ∉ env.map (·.1)) :
    env.lookup name = none := by
  rw [List.lookup_eq_none_iff]
  intro binding member
  rw [bne_iff_ne]
  rintro rfl
  exact notBound (List.mem_map_of_mem member)

/-! ### Loops -/

/-- The frames of a loop hold the values of its bindings, all of which are for `names`. -/
structure InStep (names : List String) (frames? : Value → Option (List (List Value)))
    (bindings? : Value → Option (List Environment)) : Prop where
  frames_eq : ∀ range, frames? range = (bindings? range).map (·.map (·.map (·.2)))
  names_eq : ∀ {range all}, bindings? range = some all →
    ∀ bindings ∈ all, bindings.map (·.1) = names

theorem inStep_bindings? (value : String) :
    InStep [value] (Binder.frames? ⟨none, value⟩) (bindings? value) := by
  constructor
  · intro range
    simp [Binder.frames?, bindings?, Function.comp_def]
  · intro range all found bindings member
    obtain ⟨elements, -, rfl⟩ := Option.map_eq_some_iff.mp found
    obtain ⟨element, -, rfl⟩ := List.mem_map.mp member
    rfl

theorem inStep_pairBindings? (index value : String) :
    InStep [value, index] (Binder.frames? ⟨some index, value⟩) (pairBindings? index value) := by
  constructor
  · intro range
    cases range with
    | list | map =>
      simp [Binder.frames?, pairBindings?, Function.comp_def, List.mapIdx_eq_zipIdx_map]
    | _ => rfl
  · intro range all found bindings member
    cases range with
    | list items =>
      cases found
      obtain ⟨position, inRange, rfl⟩ := List.mem_mapIdx.mp member
      rfl
    | map entries =>
      cases found
      obtain ⟨entry, -, rfl⟩ := List.mem_map.mp member
      rfl
    | _ => cases found

theorem search_map {α β : Type} {f : α → β} {test : β → Outcome} {test' : α → Outcome}
    {elements : List α} (same : ∀ element ∈ elements, test (f element) = test' element)
    (decisive : Bool) (span : Span) (pending : Loop.Pending) :
    Loop.search decisive span test pending (elements.map f) =
      Loop.search decisive span test' pending elements := by
  induction elements generalizing pending with
  | nil => rfl
  | cons element rest ih =>
    obtain ⟨head, tail⟩ := List.forall_mem_cons.mp same
    simp only [List.map_cons, Loop.search, head, ih tail]

theorem count_map {α β : Type} {f : α → β} {holds : β → Except Loop.Stop Bool}
    {holds' : α → Except Loop.Stop Bool} {elements : List α}
    (same : ∀ element ∈ elements, holds (f element) = holds' element) :
    Loop.count holds (elements.map f) = Loop.count holds' elements := by
  induction elements with
  | nil => rfl
  | cons element rest ih =>
    obtain ⟨head, tail⟩ := List.forall_mem_cons.mp same
    simp only [List.map_cons, Loop.count, head, ih tail]

theorem quantify_map {α β : Type} {f : α → β} {test : β → Outcome} {test' : α → Outcome}
    {elements : List α} (same : ∀ element ∈ elements, test (f element) = test' element)
    (kind : Quantifier) (span : Span) :
    Eval.quantify kind span test (elements.map f) = Eval.quantify kind span test' elements := by
  cases kind with
  | all | «exists» => exact search_map same _ span _
  | existsOne =>
    have counts : Loop.count (fun frame => Loop.truth span (test frame)) (elements.map f) =
        Loop.count (fun frame => Loop.truth span (test' frame)) elements :=
      count_map fun element member => congrArg (Loop.truth span) (same element member)
    simp only [Eval.quantify, counts]

variable [Engines]

/-- A quantifier has the same outcome over bindings as over the frames of their values. -/
theorem quantified_eq {names : List String} {frames? : Value → Option (List (List Value))}
    {bindings? : Value → Option (List Environment)} {predicate : Expr Mark} {test : Term}
    (inStep : InStep names frames? bindings?)
    (body : ∀ inner : Environment, inner.map (·.1) = names ++ env.map (·.1) →
      Eval.eval activation (inner.map (·.2)) test = eval activation inner predicate)
    (kind : Quantifier) (span : Span) (range : Value) :
    Loop.overRange span range frames? (Eval.quantify kind span fun frame =>
        Eval.eval activation (frame ++ env.map (·.2)) test) =
      Loop.overRange span range bindings? (Eval.quantify kind span fun bindings =>
        eval activation (bindings ++ env) predicate) := by
  unfold Loop.overRange
  split
  · rfl
  · rw [inStep.frames_eq]
    cases found : bindings? range with
    | none => rfl
    | some all =>
      refine quantify_map (fun bindings member => ?_) kind span
      have named := inStep.names_eq found bindings member
      rw [← List.map_append]
      exact body (bindings ++ env) (by rw [List.map_append, named])

/-! ### Lists of terms -/

theorem evalAll_eq {locals : List Value} {items : List (Expr Mark)} {terms : List Term}
    (same : List.Forall₂ (fun item term =>
      Eval.eval activation locals term = eval activation env item) items terms) :
    Eval.evalAll activation locals terms = evalAll activation env items := by
  induction same with
  | nil => rfl
  | cons head tail ih => simp only [Eval.evalAll, evalAll, head, ih]

theorem evalEntries_eq {locals : List Value} {entries : List (Expr Mark × Expr Mark)}
    {terms : List (Term × Term)} (same : List.Forall₂ (fun entry pair =>
      pair.1.span = entry.1.note.span ∧
        Eval.eval activation locals pair.1 = eval activation env entry.1 ∧
        Eval.eval activation locals pair.2 = eval activation env entry.2) entries terms) :
    Eval.evalEntries activation locals terms = evalEntries activation env entries := by
  induction same with
  | nil => rfl
  | cons head tail ih =>
    obtain ⟨span, key, value⟩ := head
    simp only [Eval.evalEntries, evalEntries, span, key, value, ih]

theorem evalFields_eq {locals : List Value} {fields : List (String × Expr Mark)}
    {terms : List (String × Term)} (same : List.Forall₂ (fun field pair => field.1 = pair.1 ∧
      Eval.eval activation locals pair.2 = eval activation env field.2) fields terms) :
    Eval.evalFields activation locals terms = evalFields activation env fields := by
  induction same with
  | nil => rfl
  | cons head tail ih =>
    obtain ⟨name, value⟩ := head
    simp only [Eval.evalFields, evalFields, name, value, ih]

/-! ### Operators and calls -/

theorem eval_binary (locals : List Value) (span : Span) (op : BinaryOp) (left right : Term) :
    Eval.eval activation locals (Check.binary span op left right) =
      binary op span (Eval.eval activation locals left) (Eval.eval activation locals right) := by
  cases op with
  | and => exact Eval.eval_and activation locals span left right
  | or => exact Eval.eval_or activation locals span left right
  | _ => simp only [Check.binary, binary, Eval.eval]

theorem ifKnown_testPattern (value : Value) {source : String} {pattern : Regex}
    (compiled : Engines.compile source = .ok pattern) :
    Value.ifKnown [value] (value.testPattern pattern) =
      Value.ifKnown [value, .string source] (value.matches (.string source)) := by
  have unknowns : Value.unknowns? [value, .string source] = Value.unknowns? [value] := by
    cases value <;> rfl
  simp only [Value.ifKnown, unknowns, Value.matches, compiled]

/-- Searching for a compiled pattern is searching for its source. -/
theorem eval_matches (locals : List Value) (span patternSpan : Span) (target : Term)
    {source : String} {pattern : Regex} (compiled : Engines.compile source = .ok pattern) :
    Eval.eval activation locals (.matches span target source pattern) =
      Eval.eval activation locals
        (.search span target (.constant patternSpan (.string source))) := by
  simp only [Eval.eval]
  cases Eval.eval activation locals target with
  | error error => rfl
  | ok value => exact congrArg (locate span) (ifKnown_testPattern value compiled)

theorem applied_of_ne {function : Builtin} (notSearch : function ≠ .matches) (values : List Value) :
    applied function values = function.call values := by
  unfold applied
  split
  · exact absurd rfl notSearch
  · rfl

/-- A search is the call of `matches` that it has been made of. -/
theorem eval_search {name : String} (found : Builtin.named? name = some .matches) (span : Span)
    (locals : List Value) (target pattern : Term) :
    Eval.eval activation locals (.search span target pattern) =
      applyNamed span name (Eval.evalAll activation locals [target, pattern]) := by
  simp only [applyNamed, found, Eval.eval, Eval.evalAll]
  cases Eval.eval activation locals target with
  | error error => rfl
  | ok value => cases Eval.eval activation locals pattern <;> rfl

theorem eval_of_resolves {mark : Mark} {name : String} {args : List Term} {term : Term}
    (resolved : Resolves mark name args term) (locals : List Value) :
    Eval.eval activation locals term =
      applyNamed mark.span name (Eval.evalAll activation locals args) := by
  cases resolved with
  | unknown notFound => simp only [Eval.eval, applyNamed, notFound]
  | call found notSearch admitted =>
    simp only [Eval.eval, applyNamed, found, applied_of_ne notSearch]
  | @«matches» target span source pattern found literal compiled =>
    subst literal
    rw [eval_matches locals mark.span span _ compiled]
    exact eval_search found _ locals target _
  | search found operands computed =>
    subst operands
    exact eval_search found _ locals _ _

/-- A call that is no macro applies a function to the values of its operands. -/
theorem eval_call {mark : Mark} {callee : Expr Mark} {args operands : List (Expr Mark)}
    {name : String} {method : Bool} (applies : invocation callee args = (name, method, operands))
    (ordinary : IsOrdinary true name method) :
    eval activation env (.call mark callee args) =
      applyNamed mark.span name (evalAll activation env operands) := by
  cases callee with
  | ident | member =>
    cases applies
    unfold eval
    simp only [ordinary rfl, evalAll]
  | _ =>
    cases applies
    simp only [eval]

omit [Engines] in
theorem structName_eq {typeName : Expr Mark} {name : String}
    (named : Check.structName typeName = .ok name) : structName typeName = name := by
  unfold Check.structName at named
  split at named
  · next written found =>
    cases named
    simp only [structName, found, Option.getD_some]
  · cases named

/-! ### Expressions -/

/-- A body that has the outcome of its expression in every environment for the inner scope has it for
each element that a loop binds. -/
theorem eval_element_eq {scope : List String} {value : String} {body : Expr Mark} {term : Term}
    (names : env.map (·.1) = scope)
    (same : ∀ {inner : Environment}, inner.map (·.1) = value :: scope →
      Eval.eval activation (inner.map (·.2)) term = eval activation inner body)
    (element : Value) :
    Eval.eval activation (element :: env.map (·.2)) term =
      eval activation ((value, element) :: env) body :=
  @same ((value, element) :: env) (by rw [List.map_cons, names])

/-- A checked term over the values of an environment has the outcome of the expression in the
environment. Each loop extends both alike, so the values stay in step with the scope. -/
theorem eval_of_checks {scope : List String} {e : Expr Mark} {term : Term}
    (checked : Checks true scope e term) (names : env.map (·.1) = scope) :
    Eval.eval activation (env.map (·.2)) term = eval activation env e := by
  induction checked generalizing env with
  | constant | root => simp only [Eval.eval, eval]
  | bound found =>
    subst names
    obtain ⟨value, isBound, stands⟩ := lookup_of_idxOf? found
    simp only [Eval.eval, eval, readName, isBound, stands]
  | free notBound =>
    subst names
    simp only [Eval.eval, eval, readName, lookup_of_notMem notBound]
  | list same each ih =>
    have evaluated := evalAll_eq <| List.forall₂_iff_zip.mpr ⟨same, fun member => ih member names⟩
    simp only [Eval.eval, eval, evaluated]
  | map same keys values keysIh valuesIh =>
    have evaluated := evalEntries_eq <| List.forall₂_iff_zip.mpr ⟨same, fun member =>
      ⟨(keys member).span_eq, keysIh member names, valuesIh member names⟩⟩
    simp only [Eval.eval, eval, evaluated]
  | struct named distinct same sameName each ih =>
    have evaluated := evalFields_eq <| List.forall₂_iff_zip.mpr ⟨same, fun member =>
      ⟨sameName member, ih member names⟩⟩
    simp only [Eval.eval, eval, evaluated, structName_eq named]
  | unary checked ih | select checked ih => simp only [Eval.eval, eval, ih names]
  | has enabled isMacro checked ih =>
    conv_rhs => unfold eval
    simp only [Eval.eval, isMacro, ih names]
  | binary leftChecked rightChecked leftIh rightIh =>
    rw [eval_binary, leftIh names, rightIh names, eval]
  | conditional conditionChecked yesChecked noChecked conditionIh yesIh noIh =>
    simp only [Eval.eval, conditionIh names, yesIh names, noIh names]
    rfl
  | index operandChecked positionChecked operandIh positionIh =>
    simp only [Eval.eval, eval, operandIh names, positionIh names]
  | call applies ordinary same each resolved ih =>
    have evaluated := evalAll_eq <| List.forall₂_iff_zip.mpr ⟨same, fun member => ih member names⟩
    rw [eval_of_resolves resolved, eval_call applies ordinary, evaluated]
  -- The scope of a body is that of the bindings around it, so the induction hypothesis applies in the
  -- environment of each element.
  | quantified enabled isMacro rangeChecked testChecked rangeIh testIh =>
    subst names
    have loops := quantified_eq (inStep_bindings? _) fun inner bound => testIh bound
    conv_rhs => unfold eval
    simp only [Eval.eval, isMacro, rangeIh rfl, loops]
  | quantifiedPair enabled isMacro distinct rangeChecked testChecked rangeIh testIh =>
    subst names
    have loops := quantified_eq (inStep_pairBindings? _ _) fun inner bound => testIh bound
    conv_rhs => unfold eval
    simp only [Eval.eval, isMacro, rangeIh rfl, loops]
  | filter enabled isMacro rangeChecked testChecked rangeIh testIh =>
    have tests := eval_element_eq names testIh
    conv_rhs => unfold eval
    simp only [Eval.eval, isMacro, rangeIh names, tests]
  | collect enabled isMacro rangeChecked bodyChecked rangeIh bodyIh =>
    have bodies := eval_element_eq names bodyIh
    conv_rhs => unfold eval
    simp only [Eval.eval, isMacro, rangeIh names, bodies]
  | collectIf enabled isMacro rangeChecked testChecked bodyChecked rangeIh testIh bodyIh =>
    have tests := eval_element_eq names testIh
    have bodies := eval_element_eq names bodyIh
    conv_rhs => unfold eval
    simp only [Eval.eval, isMacro, rangeIh names, tests, bodies]

end Naming

/-- Resolving names keeps the meaning: a checked term has the outcome of the expression by names under
every activation, and a use of a name is a free variable exactly if no loop binds it. -/
theorem Expr.eval_and_uses_of_check [Engines] {e : Expr Mark} {term : Term}
    (accepted : e.check true = .ok term) :
    (∀ activation, term.eval activation = Naming.eval activation [] e) ∧
      Naming.usesOfTerm term = Naming.uses [] e := by
  have checked := Check.checks_of_check accepted
  exact ⟨fun activation => Naming.eval_of_checks checked List.map_nil, Naming.usesOfTerm_of_checks checked⟩

/-- The inner loop over values shadows the name of the outer one, and the leading point leads out of
both. -/
theorem Expr.eval_and_uses_of_check_shadowed :
    let source := "[10, 20].exists(i, x, [x].map(x, x + i) == [21] && .x == 7)"
    let activation := (Context.empty.insert "x" (.int 7)).activation
    ∃ e term, Program.parse 250 source = .ok e ∧ e.check true = .ok term ∧
      Naming.eval activation [] e = .ok (.bool true) ∧
      (Naming.usesOfTerm term).map (fun use => (use.name, use.isBound)) =
        [("x", true), ("x", true), ("i", true), ("x", false)] := by
  intro source activation
  have computed : (Program.parse 250 source).toOption.any (fun e => (e.check true).toOption.any
      fun term => (term.eval activation).isBool true &&
        (Naming.usesOfTerm term).map (fun use => (use.name, use.isBound)) ==
          [("x", true), ("x", true), ("i", true), ("x", false)]) = true := by
    decide +kernel
  obtain ⟨e, parsed, checks⟩ := exists_ok_of_any computed
  obtain ⟨term, accepted, decided⟩ := exists_ok_of_any checks
  obtain ⟨holds, uses⟩ := Bool.and_eq_true_iff.mp decided
  have outcome : term.eval activation = .ok (.bool true) := Outcome.isBool_iff.mp holds
  rw [(eval_and_uses_of_check accepted).1 activation] at outcome
  exact ⟨e, term, parsed, accepted, outcome, beq_iff_eq.mp uses⟩

end Cel
