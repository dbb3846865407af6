import Mathlib.Data.List.Forall2
import Cel.Check
import Cel.Proofs.Except

/-! # The rules of checking

`Checks macros scope e term` holds when checking accepts the expression `e` under loops that bind
`scope` and makes `term` of it. There is one rule for each way in which checking can succeed, and
`checks_of_check` reads off which of them was taken. Proofs about checked terms go by induction on the
rules and need not look at the checker or at the errors it reports.
-/

namespace Cel.Check

variable [Engines]

/-- The term that a call of `name` becomes. The receiver of a method call is the first of `args`. -/
inductive Resolves (mark : Mark) (name : String) (args : List Term) : Term → Prop where
  | unknown (notFound : Builtin.named? name = none) :
    Resolves mark name args (.unknownCall mark.span name args)
  | call {function : Builtin} (found : Builtin.named? name = some function)
    (notSearch : function ≠ .matches)
    (admitted : function.signature.arity.admits args.length = true) :
    Resolves mark name args (.call mark.span function args)
  | «matches» {target : Term} {span : Span} {source : String} {pattern : Regex}
    (found : Builtin.named? name = some .matches)
    (literal : args = [target, .constant span (.string source)])
    (compiled : Engines.compile source = .ok pattern) :
    Resolves mark name args (.matches mark.span target source pattern)
  | search {target pattern : Term} (found : Builtin.named? name = some .matches)
    (operands : args = [target, pattern])
    (computed : ∀ span source, pattern ≠ .constant span (.string source)) :
    Resolves mark name args (.search mark.span target pattern)

theorem resolves_of_search {mark : Mark} {name : String} {target pattern term : Term}
    (found : Builtin.named? name = some .matches) (made : search mark target pattern = .ok term) :
    Resolves mark name [target, pattern] term := by
  unfold search at made
  split at made
  · split at made
    · next compiled =>
      cases made
      exact .matches found rfl compiled
    · cases made
  · next computed =>
    cases made
    exact .search found rfl computed

theorem resolves_of_resolve {mark : Mark} {name : String} {method : Bool} {args : List Term}
    {term : Term} (resolved : resolve mark name method args = .ok term) :
    Resolves mark name args term := by
  unfold resolve at resolved
  split at resolved
  · next notFound =>
    cases resolved
    exact .unknown notFound
  · next function found =>
    split at resolved
    · cases resolved
    split at resolved
    · cases resolved
    split at resolved
    · cases resolved
    · next notRefused =>
      have admitted : function.signature.arity.admits args.length = true := by simpa using notRefused
      split at resolved
      · exact resolves_of_search found resolved
      · next notTwo =>
        cases resolved
        refine .call found ?_ admitted
        -- A search has two operands, so it takes the other way.
        rintro rfl
        obtain ⟨target, pattern, rfl⟩ := List.length_eq_two.mp (of_decide_eq_true admitted)
        exact notTwo target pattern rfl rfl

/-- What an ordinary call applies, whether it is a method call, and its operands in the order in which
they are evaluated. -/
def invocation (callee : Expr Mark) (args : List (Expr Mark)) : String × Bool × List (Expr Mark) :=
  match callee with
  | .ident _ name => (name, false, args)
  | .member _ receiver name => (name, true, receiver :: args)
  | _ => ("", false, args)

/-- Whether a name called in a given way is no macro. -/
def IsOrdinary (macros : Bool) (name : String) (method : Bool) : Prop :=
  macros = true → Macro.named? name method = none

/-- The rules by which checking makes a term of an expression. Each body of a loop is checked under the
names that the loop binds, the innermost first. -/
inductive Checks (macros : Bool) : List String → Expr Mark → Term → Prop where
  | constant {scope : List String} {mark : Mark} {value : Constant} :
    Checks macros scope (.constant mark value) (.constant mark.span value)
  | bound {scope : List String} {mark : Mark} {name : String} {depth : Nat}
    (found : scope.idxOf? name = some depth) :
    Checks macros scope (.ident mark name) (.bound mark.span name depth)
  | free {scope : List String} {mark : Mark} {name : String} (notBound : name ∉ scope) :
    Checks macros scope (.ident mark name) (.free mark.span name)
  | root {scope : List String} {mark : Mark} {name : String} :
    Checks macros scope (.rootIdent mark name) (.free mark.span name)
  | list {scope : List String} {mark : Mark} {items : List (Expr Mark)} {terms : List Term}
    (same : items.length = terms.length)
    (each : ∀ {item term}, (item, term) ∈ items.zip terms → Checks macros scope item term) :
    Checks macros scope (.list mark items) (.list mark.span terms)
  | map {scope : List String} {mark : Mark} {entries : List (Expr Mark × Expr Mark)}
    {terms : List (Term × Term)} (same : entries.length = terms.length)
    (keys : ∀ {entry pair}, (entry, pair) ∈ entries.zip terms →
      Checks macros scope entry.1 pair.1)
    (values : ∀ {entry pair}, (entry, pair) ∈ entries.zip terms →
      Checks macros scope entry.2 pair.2) :
    Checks macros scope (.map mark entries) (.map mark.span terms)
  | struct {scope : List String} {mark : Mark} {typeName : Expr Mark} {name : String}
    {fields : List (String × Expr Mark)} {terms : List (String × Term)}
    (named : structName typeName = .ok name) (distinct : (fields.map (·.1)).Nodup)
    (same : fields.length = terms.length)
    (sameName : ∀ {field pair}, (field, pair) ∈ fields.zip terms → field.1 = pair.1)
    (each : ∀ {field pair}, (field, pair) ∈ fields.zip terms → Checks macros scope field.2 pair.2) :
    Checks macros scope (.struct mark typeName fields) (.struct mark.span name terms)
  | unary {scope : List String} {mark : Mark} {op : UnaryOp} {operand : Expr Mark} {term : Term}
    (checked : Checks macros scope operand term) :
    Checks macros scope (.unary mark op operand) (.unary mark.span op term)
  | binary {scope : List String} {mark : Mark} {op : BinaryOp} {left right : Expr Mark}
    {leftTerm rightTerm : Term} (leftChecked : Checks macros scope left leftTerm)
    (rightChecked : Checks macros scope right rightTerm) :
    Checks macros scope (.binary mark op left right) (binary mark.span op leftTerm rightTerm)
  | conditional {scope : List String} {mark : Mark} {condition yes no : Expr Mark}
    {conditionTerm yesTerm noTerm : Term}
    (conditionChecked : Checks macros scope condition conditionTerm)
    (yesChecked : Checks macros scope yes yesTerm) (noChecked : Checks macros scope no noTerm) :
    Checks macros scope (.ternary mark condition yes no)
      (.conditional mark.span conditionTerm yesTerm noTerm)
  | select {scope : List String} {mark : Mark} {operand : Expr Mark} {field : String} {term : Term}
    (checked : Checks macros scope operand term) :
    Checks macros scope (.member mark operand field) (.select mark.span term field)
  | index {scope : List String} {mark : Mark} {operand position : Expr Mark}
    {operandTerm positionTerm : Term} (operandChecked : Checks macros scope operand operandTerm)
    (positionChecked : Checks macros scope position positionTerm) :
    Checks macros scope (.index mark operand position)
      (.index mark.span operandTerm positionTerm)
  | has {scope : List String} {mark calleeMark argMark : Mark} {name field : String}
    {operand : Expr Mark} {term : Term} (enabled : macros = true)
    (isMacro : Macro.named? name false = some .has) (checked : Checks macros scope operand term) :
    Checks macros scope (.call mark (.ident calleeMark name) [.member argMark operand field])
      (.has mark.span term field)
  | call {scope : List String} {mark : Mark} {callee : Expr Mark} {args operands : List (Expr Mark)}
    {name : String} {method : Bool} {terms : List Term} {term : Term}
    (applies : invocation callee args = (name, method, operands))
    (ordinary : IsOrdinary macros name method) (same : operands.length = terms.length)
    (each : ∀ {operand term}, (operand, term) ∈ operands.zip terms →
      Checks macros scope operand term)
    (resolved : Resolves mark name terms term) :
    Checks macros scope (.call mark callee args) term
  | quantified {scope : List String} {mark calleeMark valueMark : Mark} {name value : String}
    {kind : Quantifier} {receiver predicate : Expr Mark} {range test : Term}
    (enabled : macros = true) (isMacro : Macro.named? name true = some (.quantifier kind))
    (rangeChecked : Checks macros scope receiver range)
    (testChecked : Checks macros (value :: scope) predicate test) :
    Checks macros scope
      (.call mark (.member calleeMark receiver name) [.ident valueMark value, predicate])
      (.quantified mark.span kind ⟨none, value⟩ range test)
  | quantifiedPair {scope : List String} {mark calleeMark indexMark valueMark : Mark}
    {name index value : String} {kind : Quantifier} {receiver predicate : Expr Mark}
    {range test : Term} (enabled : macros = true)
    (isMacro : Macro.named? name true = some (.quantifier kind)) (distinct : index ≠ value)
    (rangeChecked : Checks macros scope receiver range)
    (testChecked : Checks macros (value :: index :: scope) predicate test) :
    Checks macros scope
      (.call mark (.member calleeMark receiver name)
        [.ident indexMark index, .ident valueMark value, predicate])
      (.quantified mark.span kind ⟨some index, value⟩ range test)
  | filter {scope : List String} {mark calleeMark valueMark : Mark} {name value : String}
    {receiver predicate : Expr Mark} {range test : Term} (enabled : macros = true)
    (isMacro : Macro.named? name true = some .filter)
    (rangeChecked : Checks macros scope receiver range)
    (testChecked : Checks macros (value :: scope) predicate test) :
    Checks macros scope
      (.call mark (.member calleeMark receiver name) [.ident valueMark value, predicate])
      (.filter mark.span value range test)
  | collect {scope : List String} {mark calleeMark valueMark : Mark} {name value : String}
    {receiver body : Expr Mark} {range bodyTerm : Term} (enabled : macros = true)
    (isMacro : Macro.named? name true = some .map)
    (rangeChecked : Checks macros scope receiver range)
    (bodyChecked : Checks macros (value :: scope) body bodyTerm) :
    Checks macros scope
      (.call mark (.member calleeMark receiver name) [.ident valueMark value, body])
      (.collect mark.span value range bodyTerm)
  | collectIf {scope : List String} {mark calleeMark valueMark : Mark} {name value : String}
    {receiver predicate body : Expr Mark} {range test bodyTerm : Term} (enabled : macros = true)
    (isMacro : Macro.named? name true = some .map)
    (rangeChecked : Checks macros scope receiver range)
    (testChecked : Checks macros (value :: scope) predicate test)
    (bodyChecked : Checks macros (value :: scope) body bodyTerm) :
    Checks macros scope
      (.call mark (.member calleeMark receiver name) [.ident valueMark value, predicate, body])
      (.collectIf mark.span value range test bodyTerm)

omit [Engines] in
theorem loopVariable_eq_ok {mark : Mark} {loop : Macro} {arg : Expr Mark} {name : String}
    (accepted : loopVariable mark loop arg = .ok name) : ∃ argMark, arg = .ident argMark name := by
  cases arg with
  | ident argMark stored =>
    cases accepted
    exact ⟨argMark, rfl⟩
  | _ => cases accepted

omit [Engines] in
theorem loopVariables_eq_ok {mark : Mark} {loop : Macro} {first second : Expr Mark}
    {binder : Binder} (accepted : loopVariables mark loop first second = .ok binder) :
    ∃ firstMark secondMark index value, first = .ident firstMark index ∧
      second = .ident secondMark value ∧ index ≠ value ∧ binder = ⟨some index, value⟩ := by
  simp only [loopVariables, bind_eq_ok_iff] at accepted
  obtain ⟨index, isIndex, value, isValue, accepted⟩ := accepted
  obtain ⟨firstMark, rfl⟩ := loopVariable_eq_ok isIndex
  obtain ⟨secondMark, rfl⟩ := loopVariable_eq_ok isValue
  split at accepted
  · cases accepted
  · next distinct =>
    cases accepted
    exact ⟨firstMark, secondMark, index, value, rfl, rfl, distinct, rfl⟩

/-- No field of an accepted struct is repeated, nor is it one of those seen before. -/
theorem distinct_of_checkFields {macros : Bool} {scope seen : List String}
    {fields : List (String × Expr Mark)} {terms : List (String × Term)}
    (accepted : checkFields macros scope seen fields = .ok terms) :
    (fields.map (·.1)).Nodup ∧ ∀ field ∈ fields, field.1 ∉ seen := by
  induction fields generalizing seen terms with
  | nil => exact ⟨.nil, fun _ member => absurd member List.not_mem_nil⟩
  | cons field rest ih =>
    simp only [checkFields] at accepted
    split at accepted
    · cases accepted
    · next fresh =>
      obtain ⟨value, -, accepted⟩ := bind_eq_ok_iff.mp accepted
      obtain ⟨others, othersChecked, -⟩ := bind_eq_ok_iff.mp accepted
      obtain ⟨distinct, notSeen⟩ := ih othersChecked
      have notRepeated : field.1 ∉ rest.map (·.1) := by
        intro member
        obtain ⟨other, isLater, same⟩ := List.mem_map.mp member
        exact notSeen other isLater (same ▸ List.mem_cons_self)
      refine ⟨List.nodup_cons.mpr ⟨notRepeated, distinct⟩, List.forall_mem_cons.mpr ⟨fresh, ?_⟩⟩
      exact fun other member isSeen => notSeen other member (List.mem_cons_of_mem _ isSeen)

omit [Engines] in
theorem enabled_of_eq_some {macros : Bool} {name : String} {method : Bool} {loop : Macro}
    (found : (if macros then Macro.named? name method else none) = some loop) :
    macros = true ∧ Macro.named? name method = some loop := by
  cases macros with
  | true => exact ⟨rfl, found⟩
  | false => cases found

omit [Engines] in
theorem isOrdinary_of_eq_none {macros : Bool} {name : String} {method : Bool}
    (notFound : (if macros then Macro.named? name method else none) = none) :
    IsOrdinary macros name method := by
  rintro rfl
  exact notFound

mutual

theorem checks_of_check {macros : Bool} {scope : List String} {e : Expr Mark} {term : Term}
    (accepted : check macros scope e = .ok term) : Checks macros scope e term := by
  match e with
  | .constant mark value =>
    cases accepted
    exact .constant
  | .ident mark name =>
    simp only [check] at accepted
    split at accepted
    · next found =>
      cases accepted
      exact .bound found
    · next notFound =>
      cases accepted
      exact .free (List.idxOf?_eq_none_iff.mp notFound)
  | .rootIdent mark name =>
    cases accepted
    exact .root
  | .list mark items =>
    obtain ⟨terms, checked, made⟩ := bind_eq_ok_iff.mp accepted
    cases made
    obtain ⟨same, each⟩ := List.forall₂_iff_zip.mp (checks_of_checkAll checked)
    exact .list same each
  | .map mark entries =>
    obtain ⟨terms, checked, made⟩ := bind_eq_ok_iff.mp accepted
    cases made
    obtain ⟨same, each⟩ := List.forall₂_iff_zip.mp (checks_of_checkEntries checked)
    exact .map same (fun member => (each member).1) (fun member => (each member).2)
  | .struct mark typeName fields =>
    simp only [check, bind_eq_ok_iff] at accepted
    obtain ⟨name, named, terms, checked, made⟩ := accepted
    cases made
    obtain ⟨same, each⟩ := List.forall₂_iff_zip.mp (checks_of_checkFields checked)
    have distinct := (distinct_of_checkFields checked).1
    exact .struct named distinct same (fun member => (each member).1) (fun member => (each member).2)
  | .unary mark op operand =>
    obtain ⟨operandTerm, checked, made⟩ := bind_eq_ok_iff.mp accepted
    cases made
    exact .unary (checks_of_check checked)
  | .binary mark op left right =>
    simp only [check, bind_eq_ok_iff] at accepted
    obtain ⟨leftTerm, leftChecked, rightTerm, rightChecked, made⟩ := accepted
    cases made
    exact .binary (checks_of_check leftChecked) (checks_of_check rightChecked)
  | .ternary mark condition yes no =>
    simp only [check, bind_eq_ok_iff] at accepted
    obtain ⟨conditionTerm, conditionOk, yesTerm, yesOk, noTerm, noOk, made⟩ := accepted
    cases made
    exact .conditional (checks_of_check conditionOk) (checks_of_check yesOk) (checks_of_check noOk)
  | .member mark operand field =>
    obtain ⟨operandTerm, checked, made⟩ := bind_eq_ok_iff.mp accepted
    cases made
    exact .select (checks_of_check checked)
  | .index mark operand position =>
    simp only [check, bind_eq_ok_iff] at accepted
    obtain ⟨operandTerm, operandChecked, positionTerm, positionChecked, made⟩ := accepted
    cases made
    exact .index (checks_of_check operandChecked) (checks_of_check positionChecked)
  | .call mark callee args =>
    -- The shape of the callee says how the call is made, and with its name whether it is a macro.
    cases callee with
    | ident calleeMark name =>
      simp only [check] at accepted
      split at accepted
      · next loop found =>
        obtain ⟨enabled, isMacro⟩ := enabled_of_eq_some found
        split at accepted
        · obtain ⟨operandTerm, checked, made⟩ := bind_eq_ok_iff.mp accepted
          cases made
          exact .has enabled isMacro (checks_of_check checked)
        · cases accepted
        · cases accepted
      · next notFound =>
        obtain ⟨terms, checked, resolved⟩ := bind_eq_ok_iff.mp accepted
        obtain ⟨same, each⟩ := List.forall₂_iff_zip.mp (checks_of_checkAll checked)
        exact .call rfl (isOrdinary_of_eq_none notFound) same each (resolves_of_resolve resolved)
    | member calleeMark receiver name =>
      simp only [check] at accepted
      split at accepted
      · next loop found =>
        obtain ⟨enabled, isMacro⟩ := enabled_of_eq_some found
        split at accepted
        · simp only [bind_eq_ok_iff] at accepted
          obtain ⟨value, isName, range, rangeChecked, test, testChecked, made⟩ := accepted
          obtain ⟨valueMark, rfl⟩ := loopVariable_eq_ok isName
          cases made
          exact .quantified enabled isMacro (checks_of_check rangeChecked) (checks_of_check testChecked)
        · simp only [bind_eq_ok_iff] at accepted
          obtain ⟨binder, areNames, range, rangeChecked, test, testChecked, made⟩ := accepted
          obtain ⟨indexMark, valueMark, index, value, rfl, rfl, distinct, rfl⟩ :=
            loopVariables_eq_ok areNames
          cases made
          exact .quantifiedPair enabled isMacro distinct (checks_of_check rangeChecked)
            (checks_of_check testChecked)
        · simp only [bind_eq_ok_iff] at accepted
          obtain ⟨value, isName, range, rangeChecked, test, testChecked, made⟩ := accepted
          obtain ⟨valueMark, rfl⟩ := loopVariable_eq_ok isName
          cases made
          exact .filter enabled isMacro (checks_of_check rangeChecked) (checks_of_check testChecked)
        · simp only [bind_eq_ok_iff] at accepted
          obtain ⟨value, isName, range, rangeChecked, body, bodyChecked, made⟩ := accepted
          obtain ⟨valueMark, rfl⟩ := loopVariable_eq_ok isName
          cases made
          exact .collect enabled isMacro (checks_of_check rangeChecked) (checks_of_check bodyChecked)
        · simp only [bind_eq_ok_iff] at accepted
          obtain ⟨value, isName, range, rangeChecked, test, testChecked, body, bodyChecked, made⟩ :=
            accepted
          obtain ⟨valueMark, rfl⟩ := loopVariable_eq_ok isName
          cases made
          exact .collectIf enabled isMacro (checks_of_check rangeChecked)
            (checks_of_check testChecked) (checks_of_check bodyChecked)
        · cases accepted
      · next notFound =>
        simp only [bind_eq_ok_iff] at accepted
        obtain ⟨range, rangeChecked, terms, checked, resolved⟩ := accepted
        have each := List.Forall₂.cons (checks_of_check rangeChecked) (checks_of_checkAll checked)
        obtain ⟨same, each⟩ := List.forall₂_iff_zip.mp each
        exact .call rfl (isOrdinary_of_eq_none notFound) same each (resolves_of_resolve resolved)
    | _ =>
      simp only [check, bind_eq_ok_iff] at accepted
      obtain ⟨terms, checked, resolved⟩ := accepted
      obtain ⟨same, each⟩ := List.forall₂_iff_zip.mp (checks_of_checkAll checked)
      exact .call rfl (fun _ => by decide) same each (resolves_of_resolve resolved)
termination_by sizeOf e
decreasing_by
  all_goals
    subst_vars
    simp only [Expr.list.sizeOf_spec, Expr.map.sizeOf_spec, Expr.struct.sizeOf_spec,
      Expr.unary.sizeOf_spec, Expr.binary.sizeOf_spec, Expr.ternary.sizeOf_spec,
      Expr.member.sizeOf_spec, Expr.index.sizeOf_spec, Expr.call.sizeOf_spec, List.cons.sizeOf_spec]
    omega

theorem checks_of_checkAll {macros : Bool} {scope : List String} {items : List (Expr Mark)}
    {terms : List Term} (accepted : checkAll macros scope items = .ok terms) :
    List.Forall₂ (Checks macros scope) items terms := by
  match items with
  | [] =>
    cases accepted
    exact .nil
  | item :: rest =>
    simp only [checkAll, bind_eq_ok_iff] at accepted
    obtain ⟨first, firstChecked, others, othersChecked, made⟩ := accepted
    cases made
    exact .cons (checks_of_check firstChecked) (checks_of_checkAll othersChecked)
termination_by sizeOf items
decreasing_by
  all_goals
    simp only [List.cons.sizeOf_spec]
    omega

theorem checks_of_checkEntries {macros : Bool} {scope : List String}
    {entries : List (Expr Mark × Expr Mark)} {terms : List (Term × Term)}
    (accepted : checkEntries macros scope entries = .ok terms) :
    List.Forall₂ (fun entry pair => Checks macros scope entry.1 pair.1 ∧
      Checks macros scope entry.2 pair.2) entries terms := by
  match entries with
  | [] =>
    cases accepted
    exact .nil
  | (key, value) :: rest =>
    simp only [checkEntries, bind_eq_ok_iff] at accepted
    obtain ⟨keyTerm, keyChecked, valueTerm, valueChecked, others, othersChecked, made⟩ := accepted
    cases made
    exact .cons ⟨checks_of_check keyChecked, checks_of_check valueChecked⟩
      (checks_of_checkEntries othersChecked)
termination_by sizeOf entries
decreasing_by
  all_goals
    simp only [List.cons.sizeOf_spec, Prod.mk.sizeOf_spec]
    omega

theorem checks_of_checkFields {macros : Bool} {scope seen : List String}
    {fields : List (String × Expr Mark)} {terms : List (String × Term)}
    (accepted : checkFields macros scope seen fields = .ok terms) :
    List.Forall₂ (fun field pair => field.1 = pair.1 ∧ Checks macros scope field.2 pair.2)
      fields terms := by
  match fields with
  | [] =>
    cases accepted
    exact .nil
  | (field, value) :: rest =>
    simp only [checkFields] at accepted
    split at accepted
    · cases accepted
    · simp only [bind_eq_ok_iff] at accepted
      obtain ⟨valueTerm, valueChecked, others, othersChecked, made⟩ := accepted
      cases made
      exact .cons ⟨rfl, checks_of_check valueChecked⟩ (checks_of_checkFields othersChecked)
termination_by sizeOf fields
decreasing_by
  all_goals
    simp only [List.cons.sizeOf_spec, Prod.mk.sizeOf_spec]
    omega

end

/-- A term has the span of the expression it comes from. -/
theorem Checks.span_eq {macros : Bool} {scope : List String} {e : Expr Mark} {term : Term}
    (checked : Checks macros scope e term) : term.span = e.note.span := by
  cases checked with
  | binary =>
    unfold Check.binary
    split <;> rfl
  | call applies ordinary same each resolved => cases resolved <;> rfl
  | _ => rfl

end Cel.Check
