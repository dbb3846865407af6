import Cel.Proofs.Check.Rules

/-! # Well-formed terms

What checking promises about a term beyond its type: every bound name stands at a depth that the
loops around it reach, no operator that is evaluated strictly is `&&` or `||`, and every function gets
as many arguments as its declaration admits, none of them being `matches`.
-/

namespace Cel.Term

/-- Whether a term under loops with `bindings` bindings can be evaluated without surprises. -/
inductive WellFormed : Nat → Term → Prop where
  | constant {bindings : Nat} {span : Span} {value : Constant} :
    WellFormed bindings (.constant span value)
  | free {bindings : Nat} {span : Span} {name : String} : WellFormed bindings (.free span name)
  | bound {bindings : Nat} {span : Span} {name : String} {depth : Nat}
    (reached : depth < bindings) : WellFormed bindings (.bound span name depth)
  | select {bindings : Nat} {span : Span} {operand : Term} {field : String}
    (operandFormed : WellFormed bindings operand) :
    WellFormed bindings (.select span operand field)
  | has {bindings : Nat} {span : Span} {operand : Term} {field : String}
    (operandFormed : WellFormed bindings operand) : WellFormed bindings (.has span operand field)
  | index {bindings : Nat} {span : Span} {operand position : Term}
    (operandFormed : WellFormed bindings operand) (positionFormed : WellFormed bindings position) :
    WellFormed bindings (.index span operand position)
  | list {bindings : Nat} {span : Span} {items : List Term}
    (each : ∀ item ∈ items, WellFormed bindings item) : WellFormed bindings (.list span items)
  | map {bindings : Nat} {span : Span} {entries : List (Term × Term)}
    (keys : ∀ entry ∈ entries, WellFormed bindings entry.1)
    (values : ∀ entry ∈ entries, WellFormed bindings entry.2) :
    WellFormed bindings (.map span entries)
  | struct {bindings : Nat} {span : Span} {typeName : String} {fields : List (String × Term)}
    (each : ∀ field ∈ fields, WellFormed bindings field.2) :
    WellFormed bindings (.struct span typeName fields)
  | unary {bindings : Nat} {span : Span} {op : UnaryOp} {operand : Term}
    (operandFormed : WellFormed bindings operand) : WellFormed bindings (.unary span op operand)
  | strict {bindings : Nat} {span : Span} {op : BinaryOp} {left right : Term} (notAnd : op ≠ .and)
    (notOr : op ≠ .or) (leftFormed : WellFormed bindings left)
    (rightFormed : WellFormed bindings right) : WellFormed bindings (.strict span op left right)
  | and {bindings : Nat} {span : Span} {left right : Term} (leftFormed : WellFormed bindings left)
    (rightFormed : WellFormed bindings right) : WellFormed bindings (.and span left right)
  | or {bindings : Nat} {span : Span} {left right : Term} (leftFormed : WellFormed bindings left)
    (rightFormed : WellFormed bindings right) : WellFormed bindings (.or span left right)
  | conditional {bindings : Nat} {span : Span} {condition yes no : Term}
    (conditionFormed : WellFormed bindings condition) (yesFormed : WellFormed bindings yes)
    (noFormed : WellFormed bindings no) :
    WellFormed bindings (.conditional span condition yes no)
  | call {bindings : Nat} {span : Span} {function : Builtin} {args : List Term}
    (notSearch : function ≠ .matches)
    (admitted : function.signature.arity.admits args.length = true)
    (each : ∀ arg ∈ args, WellFormed bindings arg) :
    WellFormed bindings (.call span function args)
  | unknownCall {bindings : Nat} {span : Span} {name : String} {args : List Term}
    (each : ∀ arg ∈ args, WellFormed bindings arg) :
    WellFormed bindings (.unknownCall span name args)
  | «matches» {bindings : Nat} {span : Span} {target : Term} {source : String} {pattern : Regex}
    (targetFormed : WellFormed bindings target) :
    WellFormed bindings (.matches span target source pattern)
  | search {bindings : Nat} {span : Span} {target pattern : Term}
    (targetFormed : WellFormed bindings target) (patternFormed : WellFormed bindings pattern) :
    WellFormed bindings (.search span target pattern)
  | quantified {bindings : Nat} {span : Span} {kind : Quantifier} {binder : Binder}
    {range predicate : Term} (rangeFormed : WellFormed bindings range)
    (predicateFormed : WellFormed (bindings + binder.names.length) predicate) :
    WellFormed bindings (.quantified span kind binder range predicate)
  | filter {bindings : Nat} {span : Span} {name : String} {range predicate : Term}
    (rangeFormed : WellFormed bindings range)
    (predicateFormed : WellFormed (bindings + 1) predicate) :
    WellFormed bindings (.filter span name range predicate)
  | collect {bindings : Nat} {span : Span} {name : String} {range body : Term}
    (rangeFormed : WellFormed bindings range) (bodyFormed : WellFormed (bindings + 1) body) :
    WellFormed bindings (.collect span name range body)
  | collectIf {bindings : Nat} {span : Span} {name : String} {range predicate body : Term}
    (rangeFormed : WellFormed bindings range)
    (predicateFormed : WellFormed (bindings + 1) predicate)
    (bodyFormed : WellFormed (bindings + 1) body) :
    WellFormed bindings (.collectIf span name range predicate body)

end Cel.Term

namespace Cel.Check

open Term (WellFormed)

variable {macros : Bool} {scope : List String}

theorem wellFormed_binary {bindings : Nat} {left right : Term} (span : Span) (op : BinaryOp)
    (leftFormed : WellFormed bindings left) (rightFormed : WellFormed bindings right) :
    WellFormed bindings (binary span op left right) := by
  cases op with
  | and => exact .and leftFormed rightFormed
  | or => exact .or leftFormed rightFormed
  | _ => exact .strict nofun nofun leftFormed rightFormed

theorem Resolves.wellFormed [Engines] {mark : Mark} {name : String} {args : List Term} {term : Term}
    {bindings : Nat} (resolved : Resolves mark name args term)
    (each : ∀ arg ∈ args, WellFormed bindings arg) : WellFormed bindings term := by
  cases resolved with
  | unknown => exact .unknownCall each
  | call found notSearch admitted => exact .call notSearch admitted each
  | «matches» found literal compiled =>
    subst literal
    exact .matches (each _ List.mem_cons_self)
  | search found operands computed =>
    subst operands
    obtain ⟨targetFormed, patternFormed⟩ := List.forall_mem_cons.mp each
    exact .search targetFormed (List.forall_mem_singleton.mp patternFormed)

/-- What holds for each pair of an expression and its term holds for each of the terms. -/
theorem forall_terms_of_zip {α β : Type} {property : β → Prop} {items : List α} {terms : List β}
    (same : items.length = terms.length)
    (each : ∀ {item term}, (item, term) ∈ items.zip terms → property term) :
    ∀ term ∈ terms, property term := by
  intro term member
  rw [← List.map_snd_zip (Nat.le_of_eq same.symm)] at member
  obtain ⟨pair, isPair, rfl⟩ := List.mem_map.mp member
  exact each isPair

/-- Checking makes well-formed terms: the scope has a name for each binding. -/
theorem Checks.wellFormed [Engines] {e : Expr Mark} {term : Term} (checked : Checks macros scope e term) :
    WellFormed scope.length term := by
  induction checked with
  | constant => exact .constant
  | bound found =>
    obtain ⟨reached, -⟩ := List.idxOf?_eq_some_iff.mp found
    exact .bound reached
  | free | root => exact .free
  | list same each ih => exact .list (forall_terms_of_zip same ih)
  | map same keys values keysIh valuesIh =>
    exact .map (forall_terms_of_zip same keysIh) (forall_terms_of_zip same valuesIh)
  | struct named distinct same sameName each ih => exact .struct (forall_terms_of_zip same ih)
  | unary checked ih => exact .unary ih
  | binary leftChecked rightChecked leftIh rightIh => exact wellFormed_binary _ _ leftIh rightIh
  | conditional conditionChecked yesChecked noChecked conditionIh yesIh noIh =>
    exact .conditional conditionIh yesIh noIh
  | select checked ih => exact .select ih
  | index operandChecked positionChecked operandIh positionIh => exact .index operandIh positionIh
  | has enabled isMacro checked ih => exact .has ih
  | call applies ordinary same each resolved ih =>
    exact resolved.wellFormed (forall_terms_of_zip same ih)
  | quantified enabled isMacro rangeChecked testChecked rangeIh testIh
  | quantifiedPair enabled isMacro distinct rangeChecked testChecked rangeIh testIh =>
    exact .quantified rangeIh testIh
  | filter enabled isMacro rangeChecked testChecked rangeIh testIh => exact .filter rangeIh testIh
  | collect enabled isMacro rangeChecked bodyChecked rangeIh bodyIh =>
    exact .collect rangeIh bodyIh
  | collectIf enabled isMacro rangeChecked testChecked bodyChecked rangeIh testIh bodyIh =>
    exact .collectIf rangeIh testIh bodyIh

end Cel.Check
