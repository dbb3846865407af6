import Cel.Eval
import Cel.Proofs.Except
import Cel.Proofs.Term.Induction

/-! # Spans in terms

The spans in a term only say where a failure comes from. When they are changed, the spans of failures
change in the same way and nothing else does. So terms that differ in their spans alone have the same
values, and fail for the same reasons.
-/

namespace Cel

variable {α β : Type}

namespace Term

mutual

/-- The term with all its spans changed by `f`. -/
def mapSpan (f : Span → Span) : Term → Term
  | constant span value => constant (f span) value
  | free span name => free (f span) name
  | bound span name depth => bound (f span) name depth
  | select span operand field => select (f span) (operand.mapSpan f) field
  | has span operand field => has (f span) (operand.mapSpan f) field
  | index span operand position => index (f span) (operand.mapSpan f) (position.mapSpan f)
  | list span items => list (f span) (mapSpanOfAll f items)
  | map span entries => map (f span) (mapSpanOfEntries f entries)
  | struct span typeName fields => struct (f span) typeName (mapSpanOfFields f fields)
  | unary span op operand => unary (f span) op (operand.mapSpan f)
  | strict span op left right => strict (f span) op (left.mapSpan f) (right.mapSpan f)
  | and span left right => and (f span) (left.mapSpan f) (right.mapSpan f)
  | or span left right => or (f span) (left.mapSpan f) (right.mapSpan f)
  | conditional span condition yes no =>
    conditional (f span) (condition.mapSpan f) (yes.mapSpan f) (no.mapSpan f)
  | call span function args => call (f span) function (mapSpanOfAll f args)
  | unknownCall span name args => unknownCall (f span) name (mapSpanOfAll f args)
  | .matches span target source pattern => .matches (f span) (target.mapSpan f) source pattern
  | search span target pattern => search (f span) (target.mapSpan f) (pattern.mapSpan f)
  | quantified span kind binder range predicate =>
    quantified (f span) kind binder (range.mapSpan f) (predicate.mapSpan f)
  | filter span name range predicate =>
    filter (f span) name (range.mapSpan f) (predicate.mapSpan f)
  | collect span name range body => collect (f span) name (range.mapSpan f) (body.mapSpan f)
  | collectIf span name range predicate body =>
    collectIf (f span) name (range.mapSpan f) (predicate.mapSpan f) (body.mapSpan f)

def mapSpanOfAll (f : Span → Span) : List Term → List Term
  | [] => []
  | term :: rest => term.mapSpan f :: mapSpanOfAll f rest

def mapSpanOfEntries (f : Span → Span) : List (Term × Term) → List (Term × Term)
  | [] => []
  | (key, value) :: rest => (key.mapSpan f, value.mapSpan f) :: mapSpanOfEntries f rest

def mapSpanOfFields (f : Span → Span) : List (String × Term) → List (String × Term)
  | [] => []
  | (field, term) :: rest => (field, term.mapSpan f) :: mapSpanOfFields f rest

end

theorem span_mapSpan (f : Span → Span) (term : Term) : (term.mapSpan f).span = f term.span := by
  cases term <;> simp only [mapSpan, span]

theorem length_mapSpanOfAll (f : Span → Span) (items : List Term) :
    (mapSpanOfAll f items).length = items.length := by
  induction items with
  | nil => rfl
  | cons item rest ih => rw [mapSpanOfAll, List.length_cons, ih, List.length_cons]

/-- The term without regard to its spans. -/
def unplaced (term : Term) : Term := term.mapSpan fun _ => .point 0

end Term

/-- The failure with its span changed by `f`. -/
def EvalError.mapSpan (f : Span → Span) (error : EvalError) : EvalError := ⟨error.cause, f error.span⟩

/-- The reason to stop, with the span of a failure changed by `f`. -/
def Loop.Stop.mapSpan (f : Span → Span) : Loop.Stop → Loop.Stop
  | .error failure => .error (failure.mapSpan f)
  | .unknown names => .unknown names

/-- What is pending, with the span of the failure changed by `f`. -/
def Loop.Pending.mapSpan (f : Span → Span) (pending : Pending) : Pending :=
  { pending with error := pending.error.map (·.mapSpan f) }

variable {f : Span → Span} {span : Span}

/-! ### Operations -/

theorem EvalError.mapError_locate (result : Except Cause α) :
    (locate span result).mapError (mapSpan f) = locate (f span) result := by
  cases result <;> rfl

theorem Outcome.isBool_mapError (expected : Bool) (outcome : Outcome) :
    isBool expected (outcome.mapError (.mapSpan f)) = outcome.isBool expected := by
  cases outcome <;> rfl

theorem Connective.mapError_combine (op : Connective) (left right : Outcome) :
    (op.combine span left right).mapError (.mapSpan f) =
      op.combine (f span) (left.mapError (.mapSpan f)) (right.mapError (.mapSpan f)) := by
  simp only [combine, Outcome.isBool_mapError]
  split
  · rfl
  · cases left with
    | error error =>
      cases right with
      | error other => rfl
      | ok value => cases value <;> rfl
    | ok value =>
      cases right with
      | error error => cases value <;> rfl
      | ok other => cases value <;> cases other <;> rfl

namespace Loop

theorem mapError_overRange {range : Value} {elements? : Value → Option (List α)}
    {loop loop' : List α → Outcome}
    (loops : ∀ elements, (loop elements).mapError (.mapSpan f) = loop' elements) :
    (overRange span range elements? loop).mapError (.mapSpan f) =
      overRange (f span) range elements? loop' := by
  unfold overRange
  split
  · rfl
  · split
    · exact loops _
    · rfl

theorem Pending.mapError_conclude (pending : Pending) (otherwise : Bool) :
    (pending.conclude otherwise).mapError (.mapSpan f) = (pending.mapSpan f).conclude otherwise := by
  obtain ⟨unknown, error⟩ := pending
  cases unknown <;> cases error <;> rfl

theorem Pending.mapSpan_withError (pending : Pending) (error : EvalError) :
    (pending.withError error).mapSpan f = (pending.mapSpan f).withError (error.mapSpan f) := by
  obtain ⟨unknown, failure⟩ := pending
  cases failure <;> rfl

theorem mapError_search {decisive : Bool} {test test' : α → Outcome}
    (tests : ∀ element, (test element).mapError (.mapSpan f) = test' element) (pending : Pending)
    (elements : List α) :
    (search decisive span test pending elements).mapError (.mapSpan f) =
      search decisive (f span) test' (pending.mapSpan f) elements := by
  induction elements generalizing pending with
  | nil => exact pending.mapError_conclude _
  | cons element rest ih =>
    have failing (error : EvalError) :
        (search decisive span test (pending.withError error) rest).mapError (.mapSpan f) =
          search decisive (f span) test' ((pending.mapSpan f).withError (error.mapSpan f)) rest := by
      rw [ih, pending.mapSpan_withError]
    unfold search
    rw [← tests element]
    cases test element with
    | error error => exact failing error
    | ok value =>
      cases value with
      | bool b =>
        change (if b = decisive then .ok (.bool decisive)
            else search decisive span test pending rest).mapError (.mapSpan f) =
          if b = decisive then .ok (.bool decisive)
          else search decisive (f span) test' (pending.mapSpan f) rest
        by_cases decided : b = decisive
        · rw [if_pos decided, if_pos decided]
          rfl
        · rw [if_neg decided, if_neg decided]
          exact ih pending
      | unknown names => exact ih _
      | _ => exact failing _

theorem mapError_truth (outcome : Outcome) :
    (truth span outcome).mapError (.mapSpan f) = truth (f span) (outcome.mapError (.mapSpan f)) := by
  cases outcome with
  | error error => rfl
  | ok value => cases value <;> rfl

theorem mapError_valueOf (outcome : Outcome) :
    (valueOf outcome).mapError (.mapSpan f) = valueOf (outcome.mapError (.mapSpan f)) := by
  cases outcome <;> rfl

theorem mapError_finish (result : Except Stop Value) :
    (finish result).mapError (.mapSpan f) = finish (result.mapError (.mapSpan f)) := by
  cases result with
  | ok value => rfl
  | error stop => cases stop <;> rfl

theorem mapError_count {holds holds' : α → Except Stop Bool}
    (tests : ∀ element, (holds element).mapError (.mapSpan f) = holds' element) (elements : List α) :
    (count holds elements).mapError (.mapSpan f) = count holds' elements := by
  induction elements with
  | nil => rfl
  | cons element rest ih =>
    simp only [count, mapError_bind, tests, ih]
    rfl

theorem mapError_gather {step step' : α → Except Stop (Option β)}
    (steps : ∀ element, (step element).mapError (.mapSpan f) = step' element) (elements : List α) :
    (gather step elements).mapError (.mapSpan f) = gather step' elements := by
  induction elements with
  | nil => rfl
  | cons element rest ih =>
    simp only [gather, mapError_bind, steps, ih]
    rfl

end Loop

namespace Eval

theorem mapError_entriesOf (stored : List (MapKey × Value)) (evaluated : List (Span × Value × Value)) :
    (entriesOf stored evaluated).mapError (.mapSpan f) =
      entriesOf stored (evaluated.map (Prod.map f id)) := by
  induction evaluated generalizing stored with
  | nil => rfl
  | cons entry rest ih =>
    obtain ⟨span, key, value⟩ := entry
    simp only [entriesOf, List.map_cons, Prod.map, id]
    split
    · rfl
    · split
      · rfl
      · exact ih _

theorem mapError_mapOf (evaluated : List (Span × Value × Value)) :
    (mapOf evaluated).mapError (.mapSpan f) = mapOf (evaluated.map (Prod.map f id)) := by
  have same : keysAndValues (evaluated.map (Prod.map f id)) = keysAndValues evaluated :=
    List.flatMap_map ..
  unfold mapOf
  rw [same]
  split
  · rfl
  · rw [mapError_bind, mapError_entriesOf]
    rfl

theorem mapError_quantify {kind : Quantifier} {test test' : α → Outcome}
    (tests : ∀ frame, (test frame).mapError (.mapSpan f) = test' frame) (frames : List α) :
    (quantify kind span test frames).mapError (.mapSpan f) = quantify kind (f span) test' frames := by
  cases kind with
  | all | «exists» => exact Loop.mapError_search tests _ frames
  | existsOne =>
    have truths (frame : α) : (Loop.truth span (test frame)).mapError (.mapSpan f) =
        Loop.truth (f span) (test' frame) := by rw [Loop.mapError_truth, tests]
    simp only [quantify, Loop.mapError_finish, mapError_bind, Loop.mapError_count truths]
    rfl

variable [Engines] {activation : Activation} {locals : List Value}

theorem evalAll_mapSpan {items : List Term} (each : ∀ item ∈ items,
      eval activation locals (item.mapSpan f) = (eval activation locals item).mapError (.mapSpan f)) :
    evalAll activation locals (Term.mapSpanOfAll f items) =
      (evalAll activation locals items).mapError (.mapSpan f) := by
  induction items with
  | nil => rfl
  | cons item rest ih =>
    obtain ⟨head, tail⟩ := List.forall_mem_cons.mp each
    simp only [Term.mapSpanOfAll, evalAll, mapError_bind, head, ih tail]
    rfl

theorem evalEntries_mapSpan {entries : List (Term × Term)} (each : ∀ entry ∈ entries,
      eval activation locals (entry.1.mapSpan f) =
        (eval activation locals entry.1).mapError (.mapSpan f) ∧
      eval activation locals (entry.2.mapSpan f) =
        (eval activation locals entry.2).mapError (.mapSpan f)) :
    evalEntries activation locals (Term.mapSpanOfEntries f entries) =
      ((evalEntries activation locals entries).mapError (.mapSpan f)).map
        (List.map (Prod.map f id)) := by
  induction entries with
  | nil => rfl
  | cons entry rest ih =>
    obtain ⟨⟨key, value⟩, tail⟩ := List.forall_mem_cons.mp each
    simp only [Term.mapSpanOfEntries, evalEntries, Term.span_mapSpan]
    refine bind_eq_of_mapError key fun evaluatedKey => ?_
    refine bind_eq_of_mapError value fun evaluated => ?_
    exact bind_eq_of_corresponds (ih tail) fun others => rfl

theorem evalFields_mapSpan {fields : List (String × Term)} (each : ∀ field ∈ fields,
      eval activation locals (field.2.mapSpan f) =
        (eval activation locals field.2).mapError (.mapSpan f)) :
    evalFields activation locals (Term.mapSpanOfFields f fields) =
      (evalFields activation locals fields).mapError (.mapSpan f) := by
  induction fields with
  | nil => rfl
  | cons field rest ih =>
    obtain ⟨head, tail⟩ := List.forall_mem_cons.mp each
    simp only [Term.mapSpanOfFields, evalFields, mapError_bind, head, ih tail]
    rfl

/-- When the spans of a term are changed, the span of its failure changes with them, and nothing else
changes. By induction on the term; loops bind the same values in both runs. -/
theorem eval_mapSpan (term : Term) (locals : List Value) :
    eval activation locals (term.mapSpan f) = (eval activation locals term).mapError (.mapSpan f) := by
  induction term using Term.induction generalizing locals with
  | constant | unknownCall =>
    simp only [Term.mapSpan, eval]
    rfl
  | free span name =>
    simp only [Term.mapSpan, eval, readVariable]
    split
    · rfl
    · split <;> rfl
  | bound span name depth =>
    simp only [Term.mapSpan, eval]
    split <;> rfl
  | select span operand field ih | has span operand field ih | unary span op operand ih
  | «matches» span target source pattern ih =>
    simp only [Term.mapSpan, eval, ih, mapError_bind, EvalError.mapError_locate]
  | index span first second firstIh secondIh | strict span op first second firstIh secondIh
  | search span first second firstIh secondIh =>
    simp only [Term.mapSpan, eval, firstIh, secondIh, mapError_bind, EvalError.mapError_locate]
  | list span items ih =>
    simp only [Term.mapSpan, eval, mapError_bind,
      evalAll_mapSpan fun item member => ih item member locals]
    rfl
  | map span entries ih =>
    simp only [Term.mapSpan, eval, mapError_bind, mapError_mapOf,
      evalEntries_mapSpan fun entry member => ⟨(ih entry member).1 locals, (ih entry member).2 locals⟩]
    cases evalEntries activation locals entries <;> rfl
  | struct span typeName fields ih =>
    simp only [Term.mapSpan, eval, mapError_bind,
      evalFields_mapSpan fun field member => ih field member locals]
    rfl
  | call span function args ih =>
    simp only [Term.mapSpan, eval, mapError_bind, EvalError.mapError_locate,
      evalAll_mapSpan fun arg member => ih arg member locals]
  | and span left right leftIh rightIh =>
    simp only [Term.mapSpan, eval_and, leftIh, rightIh, Connective.mapError_combine]
  | or span left right leftIh rightIh =>
    simp only [Term.mapSpan, eval_or, leftIh, rightIh, Connective.mapError_combine]
  | conditional span condition yes no conditionIh yesIh noIh =>
    simp only [Term.mapSpan, eval, conditionIh, mapError_bind]
    refine congrArg _ (funext fun value => ?_)
    cases value with
    | bool b =>
      cases b with
      | false => exact noIh locals
      | true => exact yesIh locals
    | _ => rfl
  | quantified span kind binder range predicate rangeIh predicateIh =>
    simp only [Term.mapSpan, eval, rangeIh, mapError_bind]
    refine congrArg _ (funext fun value => Eq.symm <| Loop.mapError_overRange fun frames => ?_)
    exact mapError_quantify (fun frame => (predicateIh _).symm) frames
  | filter span name range predicate rangeIh predicateIh =>
    simp only [Term.mapSpan, eval, rangeIh, mapError_bind]
    refine congrArg _ (funext fun value => Eq.symm <| Loop.mapError_overRange fun elements => ?_)
    rw [Loop.mapError_finish, mapError_bind, Loop.mapError_gather]
    · rfl
    · intro element
      rw [Loop.keep, mapError_bind, Loop.mapError_truth, ← predicateIh]
      rfl
  | collect span name range body rangeIh bodyIh =>
    simp only [Term.mapSpan, eval, rangeIh, mapError_bind]
    refine congrArg _ (funext fun value => Eq.symm <| Loop.mapError_overRange fun elements => ?_)
    rw [Loop.mapError_finish, mapError_bind, Loop.mapError_gather]
    · rfl
    · intro element
      rw [mapError_bind, Loop.mapError_valueOf, ← bodyIh]
      rfl
  | collectIf span name range predicate body rangeIh predicateIh bodyIh =>
    simp only [Term.mapSpan, eval, rangeIh, mapError_bind]
    refine congrArg _ (funext fun value => Eq.symm <| Loop.mapError_overRange fun elements => ?_)
    rw [Loop.mapError_finish, mapError_bind, Loop.mapError_gather]
    · rfl
    · intro element
      rw [mapError_bind, Loop.mapError_truth, ← predicateIh]
      refine congrArg _ (funext fun held => ?_)
      cases held with
      | false => rfl
      | true =>
        simp only [mapError_bind, if_true, Loop.mapError_valueOf, ← bodyIh]
        rfl

/-- A term has the values that it has without regard to spans, and fails for the same reasons. -/
theorem mapError_cause_eval_unplaced (term : Term) :
    (eval activation locals term.unplaced).mapError (·.cause) =
      (eval activation locals term).mapError (·.cause) := by
  rw [Term.unplaced, eval_mapSpan]
  cases eval activation locals term <;> rfl

/-- Where spans are left out, the reasons of failures are all that is left of them. -/
theorem eval_unplaced (term : Term) :
    eval activation locals term.unplaced =
      ((eval activation locals term).mapError (·.cause)).mapError (⟨·, .point 0⟩) := by
  rw [Term.unplaced, eval_mapSpan]
  cases eval activation locals term <;> rfl

/-- Without regard to spans, terms come to the same if they have the same value or fail for the same
reason. -/
theorem eval_unplaced_eq_iff {term term' : Term} :
    eval activation locals term.unplaced = eval activation locals term'.unplaced ↔
      (eval activation locals term).mapError (·.cause) =
        (eval activation locals term').mapError (·.cause) := by
  constructor
  · intro same
    rw [← mapError_cause_eval_unplaced term, same, mapError_cause_eval_unplaced]
  · intro same
    rw [eval_unplaced, eval_unplaced, same]

/-- What evaluating a term gives, without regard to the place of a failure. -/
def result (activation : Activation) (locals : List Value) (term : Term) : Except EvalError.Cause Value :=
  (eval activation locals term).mapError (·.cause)

theorem result_unplaced (term : Term) :
    result activation locals term.unplaced = result activation locals term :=
  mapError_cause_eval_unplaced term

end Eval

end Cel
