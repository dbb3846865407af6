import Cel.Context
import Cel.Engines.Standard
import Cel.Program
import Cel.Proofs.Internal.Values
import Cel.Proofs.Results
import Cel.Proofs.WellFormed

/-! # No internal failures

The evaluator has failures for terms that checking never makes: a bound name without a value, a logical
operator that is evaluated strictly, a function without an argument it reads, and `matches` among the
ordinary functions. None of them arises in a well-formed term under as many values as it has bindings
around it, and so none of them arises in a program. The same induction says which values a failure can
mention: values without parts, and those that a term has evaluated to.
-/

namespace Cel

/-- Whether a failure is one that an expression may have, and not an internal one. -/
def EvalError.NotInternal (error : EvalError) : Prop := error.kind ≠ .internal

/-- A loop binds as many values for each element as its binder has names. -/
theorem Binder.length_of_frames? {binder : Binder} {range : Value} {frames : List (List Value)}
    (found : binder.frames? range = some frames) :
    ∀ frame ∈ frames, frame.length = binder.names.length := by
  intro frame member
  obtain ⟨index, value⟩ := binder
  cases index with
  | none =>
    obtain ⟨elements, -, rfl⟩ := Option.map_eq_some_iff.mp found
    obtain ⟨element, -, rfl⟩ := List.mem_map.mp member
    rfl
  | some name =>
    cases range with
    | list items =>
      cases found
      obtain ⟨position, inRange, rfl⟩ := List.mem_mapIdx.mp member
      rfl
    | map entries =>
      cases found
      obtain ⟨entry, -, rfl⟩ := List.mem_map.mp member
      rfl
    | _ => cases found

/-- Which values go round in evaluation under an activation: where only `bound` values are bound, terms
evaluate to `given` values, and loops over those bind only `bound` ones. -/
structure Eval.Circulates [Engines] (activation : Activation) (given bound : Value → Prop) : Prop where
  gives : ∀ {locals : List Value}, (∀ value ∈ locals, bound value) → ∀ term,
    GivesOnly given (eval activation locals term)
  elements : ∀ {range : Value} {elements : List Value}, given range →
    range.elements? = some elements → ∀ element ∈ elements, bound element
  frames : ∀ {range : Value} {binder : Binder} {frames : List (List Value)}, given range →
    binder.frames? range = some frames → ∀ frame ∈ frames, ∀ value ∈ frame, bound value

/-- Every value may go round. -/
theorem Eval.Circulates.all [Engines] (activation : Activation) :
    Circulates activation (fun _ => True) fun _ => True where
  gives _ _ _ _ := trivial
  elements _ _ _ _ := trivial
  frames _ _ _ _ _ _ := trivial

/-- Whether a failure is not internal, and the values that it mentions have no parts, or else have a
property. -/
abbrev EvalError.Mentions (property : Value → Prop) (error : EvalError) : Prop :=
  error.cause.Mentions property

namespace Eval

open EvalError (Cause Mentions NotInternal)
open EvalError.Cause (Ordinary)
open Term (WellFormed)

variable {activation : Activation} {locals : List Value} {span : Span} {property : Value → Prop}

theorem locate_mentions {result : Except Cause Value} (failsOnly : FailsOnly Ordinary result) :
    FailsOnly (Mentions property) (EvalError.locate span result) :=
  locate_failsOnly (failsOnly.mono fun _ => Cause.Ordinary.mentions)

theorem notBool_mentions (span : Span) (type : String) :
    Mentions property ⟨.notBool type, span⟩ :=
  ⟨nofun, nofun⟩

theorem noOverload_mentions (span : Span) (operation : Operation) (types : List String) :
    Mentions property ⟨.noOverload operation types, span⟩ :=
  ⟨nofun, nofun⟩

theorem unknownFunction_mentions (span : Span) (name : String) :
    Mentions property ⟨.unknownFunction name, span⟩ :=
  ⟨nofun, nofun⟩

theorem readVariable_mentions (name : String) :
    FailsOnly (Mentions property) (readVariable activation span name) := by
  unfold readVariable
  split
  · exact FailsOnly.ok
  · split
    · exact FailsOnly.ok
    · exact FailsOnly.error_iff.mpr ⟨nofun, nofun⟩

/-- A key that is repeated is a value without parts. -/
theorem mapOf_mentions (evaluated : List (Span × Value × Value)) :
    FailsOnly (Mentions property) (mapOf evaluated) := by
  refine mapOf_failsOnly (fun entry _ => ⟨nofun, nofun⟩) fun entry _ isKey => ⟨nofun, ?_⟩
  obtain ⟨key, found⟩ := Option.isSome_iff_exists.mp isKey
  refine List.forall_mem_singleton.mpr (.inl ?_)
  rw [Value.eq_ofKey_of_key? found]
  exact Value.atomic_ofKey key

variable [Engines]

theorem evalAll_failsOnly {allowed : EvalError → Prop} {items : List Term}
    (each : ∀ item ∈ items, FailsOnly allowed (eval activation locals item)) :
    FailsOnly allowed (evalAll activation locals items) := by
  induction items with
  | nil => exact FailsOnly.ok
  | cons item rest ih =>
    obtain ⟨head, tail⟩ := List.forall_mem_cons.mp each
    exact head.bind fun _ _ => (ih tail).map _

theorem evalFields_failsOnly {allowed : EvalError → Prop} {fields : List (String × Term)}
    (each : ∀ field ∈ fields, FailsOnly allowed (eval activation locals field.2)) :
    FailsOnly allowed (evalFields activation locals fields) := by
  induction fields with
  | nil => exact FailsOnly.ok
  | cons field rest ih =>
    obtain ⟨head, tail⟩ := List.forall_mem_cons.mp each
    exact head.bind fun _ _ => (ih tail).map _

theorem evalEntries_failsOnly {allowed : EvalError → Prop} {entries : List (Term × Term)}
    (keys : ∀ entry ∈ entries, FailsOnly allowed (eval activation locals entry.1))
    (values : ∀ entry ∈ entries, FailsOnly allowed (eval activation locals entry.2)) :
    FailsOnly allowed (evalEntries activation locals entries) := by
  induction entries with
  | nil => exact FailsOnly.ok
  | cons entry rest ih =>
    obtain ⟨key, otherKeys⟩ := List.forall_mem_cons.mp keys
    obtain ⟨value, otherValues⟩ := List.forall_mem_cons.mp values
    exact key.bind fun _ _ => value.bind fun _ _ => (ih otherKeys otherValues).map _

theorem length_evalAll {items : List Term} {values : List Value}
    (evaluated : evalAll activation locals items = .ok values) : values.length = items.length := by
  induction items generalizing values with
  | nil =>
    cases evaluated
    rfl
  | cons item rest ih =>
    obtain ⟨value, -, evaluated⟩ := bind_eq_ok_iff.mp evaluated
    obtain ⟨others, othersEvaluated, made⟩ := bind_eq_ok_iff.mp evaluated
    cases made
    rw [List.length_cons, ih othersEvaluated, List.length_cons]

/-- A failure of a well-formed term is not internal, and mentions only values without parts and known
values that a term has evaluated to. -/
theorem eval_failsOnly {given bound : Value → Prop} (circulates : Circulates activation given bound)
    {bindings : Nat} {term : Term} (formed : WellFormed bindings term)
    (enough : locals.length = bindings) (inner : ∀ value ∈ locals, bound value) :
    FailsOnly (Mentions fun value => value.Known ∧ given value) (eval activation locals term) := by
  induction formed generalizing locals with
  | constant => exact FailsOnly.ok
  | free => exact readVariable_mentions _
  | bound reached =>
    -- There are as many values as bindings, so the depth is a position among the values.
    simp only [eval]
    rw [List.getElem?_eq_getElem (enough ▸ reached)]
    exact FailsOnly.ok
  | select operandFormed ih =>
    exact (ih enough inner).bind fun value _ => locate_mentions (Value.select_failsOnly _ value)
  | has operandFormed ih =>
    exact (ih enough inner).bind fun value _ => locate_mentions (Value.has_failsOnly _ value)
  | @index bindings span operand position operandFormed positionFormed operandIh positionIh =>
    refine (operandIh enough inner).bind fun container _ => ?_
    refine (positionIh enough inner).bind fun index evaluated => ?_
    have isGiven : given index := circulates.gives inner position index evaluated
    refine locate_failsOnly ((Value.index_failsOnly container index).mono fun cause mentions => ?_)
    refine mentions.mono ?_
    rintro value ⟨known, rfl⟩
    exact ⟨known, isGiven⟩
  | list each ih => exact (evalAll_failsOnly fun item member => ih item member enough inner).map _
  | map keys values keysIh valuesIh =>
    have evaluated := evalEntries_failsOnly (fun entry member => keysIh entry member enough inner)
      (fun entry member => valuesIh entry member enough inner)
    exact evaluated.bind fun values _ => mapOf_mentions values
  | struct each ih =>
    exact (evalFields_failsOnly fun field member => ih field member enough inner).map _
  | unary operandFormed ih =>
    exact (ih enough inner).bind fun value _ => locate_mentions (Value.unary_failsOnly _ value)
  | strict notAnd notOr leftFormed rightFormed leftIh rightIh =>
    exact (leftIh enough inner).bind fun left _ => (rightIh enough inner).bind fun right _ =>
      locate_mentions (Value.strict_failsOnly notAnd notOr left right)
  | and leftFormed rightFormed leftIh rightIh =>
    rw [eval_and]
    exact Connective.combine_failsOnly .and (noOverload_mentions _ _) (leftIh enough inner)
      (rightIh enough inner)
  | or leftFormed rightFormed leftIh rightIh =>
    rw [eval_or]
    exact Connective.combine_failsOnly .or (noOverload_mentions _ _) (leftIh enough inner)
      (rightIh enough inner)
  | conditional conditionFormed yesFormed noFormed conditionIh yesIh noIh =>
    refine (conditionIh enough inner).bind fun value _ => ?_
    split
    · exact yesIh enough inner
    · exact noIh enough inner
    · exact FailsOnly.ok
    · exact FailsOnly.error_iff.mpr (noOverload_mentions _ _ _)
  | call notSearch admitted each ih =>
    have evaluated := evalAll_failsOnly fun arg member => ih arg member enough inner
    refine evaluated.bind fun values given => ?_
    rw [← length_evalAll given] at admitted
    exact locate_mentions (Value.ifKnown_failsOnly fun _ => Builtin.call_failsOnly notSearch admitted)
  | unknownCall => exact FailsOnly.error_iff.mpr (unknownFunction_mentions _ _)
  | «matches» targetFormed ih =>
    refine (ih enough inner).bind fun value _ => locate_mentions ?_
    exact Value.ifKnown_failsOnly fun _ => Value.testPattern_failsOnly value _
  | search targetFormed patternFormed targetIh patternIh =>
    refine (targetIh enough inner).bind fun target _ => (patternIh enough inner).bind fun pattern _ => ?_
    exact locate_mentions (Value.ifKnown_failsOnly fun _ => Value.matches_failsOnly target pattern)
  | @quantified bindings span kind binder range predicate rangeFormed predicateFormed rangeIh testIh =>
    refine (rangeIh enough inner).bind fun rangeValue evaluated => ?_
    have isGiven : given rangeValue := circulates.gives inner range rangeValue evaluated
    refine Loop.overRange_failsOnly (noOverload_mentions span .loop) fun frames found => ?_
    refine quantify_failsOnly kind (notBool_mentions span) fun frame member => testIh ?_ ?_
    · rw [List.length_append, Binder.length_of_frames? found frame member, enough, Nat.add_comm]
    · exact List.forall_mem_append.mpr ⟨circulates.frames isGiven found frame member, inner⟩
  | @filter bindings span name range predicate rangeFormed predicateFormed rangeIh testIh =>
    refine (rangeIh enough inner).bind fun rangeValue evaluated => ?_
    have isGiven : given rangeValue := circulates.gives inner range rangeValue evaluated
    refine Loop.overRange_failsOnly (noOverload_mentions span .loop) fun elements found => ?_
    refine Loop.finish_failsOnly (FailsOnly.map (Loop.gather_failsOnly fun element member => ?_) _)
    have isBound : bound element := circulates.elements isGiven found element member
    have test := testIh (congrArg (· + 1) enough) (List.forall_mem_cons.mpr ⟨isBound, inner⟩)
    exact Loop.keep_failsOnly (Loop.truth_failsOnly (notBool_mentions span) test)
  | @collect bindings span name range body rangeFormed bodyFormed rangeIh bodyIh =>
    refine (rangeIh enough inner).bind fun rangeValue evaluated => ?_
    have isGiven : given rangeValue := circulates.gives inner range rangeValue evaluated
    refine Loop.overRange_failsOnly (noOverload_mentions span .loop) fun elements found => ?_
    refine Loop.finish_failsOnly (FailsOnly.map (Loop.gather_failsOnly fun element member => ?_) _)
    have isBound : bound element := circulates.elements isGiven found element member
    have made := bodyIh (congrArg (· + 1) enough) (List.forall_mem_cons.mpr ⟨isBound, inner⟩)
    exact (Loop.valueOf_failsOnly made).map some
  | @collectIf bindings span name range predicate body rangeFormed predicateFormed bodyFormed rangeIh
      testIh bodyIh =>
    refine (rangeIh enough inner).bind fun rangeValue evaluated => ?_
    have isGiven : given rangeValue := circulates.gives inner range rangeValue evaluated
    refine Loop.overRange_failsOnly (noOverload_mentions span .loop) fun elements found => ?_
    refine Loop.finish_failsOnly (FailsOnly.map (Loop.gather_failsOnly fun element member => ?_) _)
    have isBound : bound element := circulates.elements isGiven found element member
    have inner := List.forall_mem_cons.mpr ⟨isBound, inner⟩
    have test := testIh (congrArg (· + 1) enough) inner
    refine (Loop.truth_failsOnly (notBool_mentions span) test).bind fun held _ => ?_
    cases held with
    | true =>
      have made := bodyIh (congrArg (· + 1) enough) inner
      exact (Loop.valueOf_failsOnly made).map some
    | false => exact FailsOnly.ok

/-- A well-formed term never fails for an internal reason. -/
theorem eval_notInternal {bindings : Nat} {term : Term} (formed : WellFormed bindings term)
    (enough : locals.length = bindings) : FailsOnly NotInternal (eval activation locals term) := by
  have failsOnly := eval_failsOnly (.all activation) formed enough fun _ _ => trivial
  exact failsOnly.mono fun error mentions => mentions.1

end Eval

/-- The term of a program is well-formed, so that it calls `matches` nowhere, and the program never fails for
an internal reason. -/
theorem Program.execute_not_internal [Engines] {settings : Settings} {source : String}
    {program : Program} (compiled : compile settings source = .ok program) :
    Term.WellFormed 0 program.term ∧ ∀ activation error,
      program.execute activation = .error error → error.kind ≠ .internal := by
  obtain ⟨expr, -, checked⟩ := bind_eq_ok_iff.mp compiled
  split at checked
  · cases checked
  · next term accepted =>
    cases checked
    have formed := (Check.checks_of_check accepted).wellFormed
    exact ⟨formed, fun activation error failed => Eval.eval_notInternal formed rfl error failed⟩

/-- A division by zero in the body of a loop is no internal failure. -/
theorem Program.execute_not_internal_division :
    ∃ program error, compile .standard "[0].map(x, 1 / x)" = .ok program ∧
      program.execute .empty = .error error ∧ error.kind ≠ .internal := by
  have computed : (compile .standard "[0].map(x, 1 / x)").toOption.any
      (fun program => !(program.execute .empty).isOk) = true := by decide +kernel
  obtain ⟨program, compiled, fails⟩ := exists_ok_of_any computed
  cases failed : program.execute .empty with
  | ok value => simp [failed, Except.isOk, Except.toBool] at fails
  | error error =>
    exact ⟨program, error, compiled, failed, (execute_not_internal compiled).2 _ error failed⟩

end Cel
