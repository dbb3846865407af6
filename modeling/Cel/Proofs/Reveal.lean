import Cel.Context
import Cel.Engines.Standard
import Cel.Program
import Cel.Proofs.Reveal.Loops
import Cel.Proofs.Term.Induction

/-! # Revealing withheld variables

A variable that is declared unknown stands for any value, or for none. What a program says while
some variables are withheld holds however they are revealed: a known value is the value of the
program, and a failure is a failure of the program.
-/

namespace Cel

/-- Whether an activation holds the same as another one for all variables that this does not
withhold. What is withheld may get any value, get none, or stay withheld. -/
def Activation.Reveals (revealed withheld : Activation) : Prop :=
  ∀ name, withheld.isUnknown name = false →
    revealed.isUnknown name = false ∧ revealed.value? name = withheld.value? name

namespace Eval

open Outcome (Persists)
open EvalError (locate)

variable {withheld revealed : Activation} {locals : List Value}

theorem readVariable_persists (reveals : revealed.Reveals withheld) (span : Span) (name : String) :
    (readVariable withheld span name).Persists (readVariable revealed span name) := by
  cases unknown : withheld.isUnknown name with
  | true =>
    simp only [readVariable, unknown, if_true]
    exact Persists.of_unknown _ _
  | false =>
    obtain ⟨stays, same⟩ := reveals name unknown
    simp only [readVariable, unknown, stays, same]
    exact Persists.refl _

/-- A map literal is unknown if one of its keys or values is. -/
theorem mapOf_of_unknown {evaluated : List (Span × Value × Value)}
    (lost : ¬∀ entry ∈ evaluated, entry.2.1.Known ∧ entry.2.2.Known) :
    ∃ names, mapOf evaluated = .ok (.unknown names) := by
  have unknown : ¬∀ value ∈ keysAndValues evaluated, value.Known := by
    intro known
    refine lost fun entry member => ⟨known _ ?_, known _ ?_⟩
    · exact List.mem_flatMap.mpr ⟨entry, member, by simp⟩
    · exact List.mem_flatMap.mpr ⟨entry, member, by simp⟩
  obtain ⟨names, found⟩ := Value.exists_unknowns?_eq_some unknown
  exact ⟨names, by simp only [mapOf, found]⟩

/-- A struct literal is unknown if one of its fields is. -/
theorem structOf_of_unknown (typeName : String) {fields : List (String × Value)}
    (lost : ¬∀ field ∈ fields, field.2.Known) :
    ∃ names, structOf typeName fields = .unknown names := by
  have unknown : ¬∀ value ∈ fields.map (·.2), value.Known := by
    simpa only [List.forall_mem_map] using lost
  obtain ⟨names, found⟩ := Value.exists_unknowns?_eq_some unknown
  exact ⟨names, by simp only [structOf, found]⟩

theorem locate_ifKnown_of_unknown (span : Span) {operands : List Value}
    {result : Except EvalError.Cause Value} (lost : ¬∀ value ∈ operands, value.Known) :
    ∃ names, locate span (Value.ifKnown operands result) = .ok (.unknown names) := by
  obtain ⟨names, gives⟩ := Value.ifKnown_of_unknown lost result
  exact ⟨names, by rw [gives]; rfl⟩

theorem quantify_persists {α : Type} (kind : Quantifier) (span : Span) {test test' : α → Outcome}
    (tests : ∀ frame, (test frame).Persists (test' frame)) (frames : List α) :
    (quantify kind span test frames).Persists (quantify kind span test' frames) := by
  cases kind with
  | all | «exists» => exact Loop.search_persists tests (fun none => ⟨none, rfl⟩) frames
  | existsOne =>
    have counts := Loop.count_persists (fun frame => Loop.truth_persists span (tests frame)) frames
    refine Loop.finish_persists (counts.bind (fun count _ => ?_) fun _ lost => absurd trivial lost)
    exact Cel.Persists.ok _

variable [Engines]

theorem evalAll_persists {items : List Term}
    (persists : ∀ item ∈ items,
      (eval withheld locals item).Persists (eval revealed locals item)) :
    Cel.Persists (fun _ => False) (fun values => ∀ value ∈ values, value.Known)
      (evalAll withheld locals items) (evalAll revealed locals items) := by
  induction items with
  | nil => exact Cel.Persists.ok []
  | cons item rest ih =>
    obtain ⟨head, tail⟩ := List.forall_mem_cons.mp persists
    exact head.map₂ (ih tail) List.cons fun _ _ => List.forall_mem_cons.mp

theorem evalFields_persists {fields : List (String × Term)}
    (persists : ∀ field ∈ fields,
      (eval withheld locals field.2).Persists (eval revealed locals field.2)) :
    Cel.Persists (fun _ => False) (fun values => ∀ value ∈ values, value.2.Known)
      (evalFields withheld locals fields) (evalFields revealed locals fields) := by
  induction fields with
  | nil => exact Cel.Persists.ok []
  | cons field rest ih =>
    obtain ⟨head, tail⟩ := List.forall_mem_cons.mp persists
    exact head.map₂ (ih tail) (fun value values => (field.1, value) :: values)
      fun _ _ => List.forall_mem_cons.mp

theorem evalEntries_persists {entries : List (Term × Term)}
    (persists : ∀ entry ∈ entries,
      (eval withheld locals entry.1).Persists (eval revealed locals entry.1) ∧
        (eval withheld locals entry.2).Persists (eval revealed locals entry.2)) :
    Cel.Persists (fun _ => False) (fun values => ∀ value ∈ values, value.2.1.Known ∧ value.2.2.Known)
      (evalEntries withheld locals entries) (evalEntries revealed locals entries) := by
  induction entries with
  | nil => exact Cel.Persists.ok []
  | cons entry rest ih =>
    obtain ⟨⟨key, value⟩, tail⟩ := List.forall_mem_cons.mp persists
    let join (key : Value) (others : Value × List (Span × Value × Value)) :=
      (entry.1.span, key, others.1) :: others.2
    have parts (key : Value) (others : Value × List (Span × Value × Value))
        (known : ∀ entry ∈ join key others, entry.2.1.Known ∧ entry.2.2.Known) :
        key.Known ∧ others.1.Known ∧ ∀ entry ∈ others.2, entry.2.1.Known ∧ entry.2.2.Known := by
      obtain ⟨⟨keyKnown, valueKnown⟩, othersKnown⟩ := List.forall_mem_cons.mp known
      exact ⟨keyKnown, valueKnown, othersKnown⟩
    simpa only [evalEntries, join, bind_assoc, pure_bind] using
      key.map₂ (value.pair (ih tail)) join parts

/-- The outcome of a term persists under all loops. The loops bind the same values in both runs,
since a loop whose range is withheld never gets to its elements. -/
theorem eval_persists (reveals : revealed.Reveals withheld) (term : Term) (locals : List Value) :
    (eval withheld locals term).Persists (eval revealed locals term) := by
  induction term using Term.induction generalizing locals with
  | constant | bound | unknownCall =>
    simp only [eval]
    exact Persists.refl _
  | free span name => exact readVariable_persists reveals span name
  | select span operand field ih | has span operand field ih =>
    simp only [eval]
    refine Persists.apply (ih locals) fun value lost => ?_
    obtain ⟨names, rfl⟩ := Value.not_known_iff.mp lost
    exact ⟨names, rfl⟩
  | unary span op operand ih =>
    simp only [eval]
    refine Persists.apply (ih locals) fun value lost => ?_
    obtain ⟨names, rfl⟩ := Value.not_known_iff.mp lost
    exact ⟨names, by simp only [Value.unary, locate]⟩
  | «matches» span target source pattern ih =>
    simp only [eval]
    refine Persists.apply (ih locals) fun value lost => ?_
    exact locate_ifKnown_of_unknown span (by simpa using lost)
  | index span operand position operandIh positionIh =>
    simp only [eval]
    refine Persists.apply₂ (operandIh locals) (positionIh locals) fun container position lost => ?_
    exact locate_ifKnown_of_unknown span (by simpa using lost)
  | strict span _ left right leftIh rightIh | search span left right leftIh rightIh =>
    simp only [eval]
    refine Persists.apply₂ (leftIh locals) (rightIh locals) fun a b lost => ?_
    exact locate_ifKnown_of_unknown span (by simpa using lost)
  | list span items ih =>
    simp only [eval]
    refine Persists.apply (evalAll_persists fun item member => ih item member locals)
      fun values lost => ?_
    obtain ⟨names, gives⟩ := Value.listOf_of_unknown lost
    exact ⟨names, congrArg Except.ok gives⟩
  | map span entries ih =>
    simp only [eval]
    have evaluated := evalEntries_persists fun entry member =>
      ⟨(ih entry member).1 locals, (ih entry member).2 locals⟩
    exact Persists.apply evaluated fun values lost => mapOf_of_unknown lost
  | struct span typeName fields ih =>
    simp only [eval]
    refine Persists.apply (evalFields_persists fun field member => ih field member locals)
      fun values lost => ?_
    obtain ⟨names, gives⟩ := structOf_of_unknown typeName lost
    exact ⟨names, congrArg Except.ok gives⟩
  | call span function args ih =>
    simp only [eval]
    refine Persists.apply (evalAll_persists fun arg member => ih arg member locals)
      fun values lost => locate_ifKnown_of_unknown span lost
  | and span left right leftIh rightIh =>
    simp only [eval_and]
    exact Connective.combine_persists span (leftIh locals) (rightIh locals)
  | or span left right leftIh rightIh =>
    simp only [eval_or]
    exact Connective.combine_persists span (leftIh locals) (rightIh locals)
  | conditional span condition yes no conditionIh yesIh noIh =>
    simp only [eval]
    refine (conditionIh locals).bind (fun value _ => ?_) fun value lost => ?_
    · cases value with
      | bool b =>
        cases b with
        | true => exact yesIh locals
        | false => exact noIh locals
      | unknown names => exact Persists.refl _
      | _ => exact Persists.refl _
    · obtain ⟨names, rfl⟩ := Value.not_known_iff.mp lost
      exact ⟨⟨.unknown names, rfl, Value.not_known_unknown⟩, fun _ _ _ => not_false⟩
  | quantified span kind binder range predicate rangeIh predicateIh =>
    simp only [eval]
    exact Loop.overRange_persists span (rangeIh locals) binder.frames? fun frames =>
      quantify_persists kind span (fun frame => predicateIh (frame ++ locals)) frames
  | filter span name range predicate rangeIh predicateIh =>
    simp only [eval]
    refine Loop.overRange_persists span (rangeIh locals) Value.elements? fun elements => ?_
    have holds (element : Value) := Loop.truth_persists span (predicateIh (element :: locals))
    have kept := Loop.gather_persists (Loop.keep_persists holds) elements
    refine Loop.finish_persists (kept.bind (fun _ _ => Cel.Persists.ok _) fun _ lost => ?_)
    exact absurd (fun _ _ => trivial) lost
  | collect span name range body rangeIh bodyIh =>
    simp only [eval]
    refine Loop.overRange_persists span (rangeIh locals) Value.elements? fun elements => ?_
    refine Loop.listOf_persists (Loop.gather_persists (fun element => ?_) elements)
    exact Loop.some_persists (Loop.valueOf_persists (bodyIh (element :: locals)))
  | collectIf span name range predicate body rangeIh predicateIh bodyIh =>
    simp only [eval]
    refine Loop.overRange_persists span (rangeIh locals) Value.elements? fun elements => ?_
    refine Loop.listOf_persists (Loop.gather_persists (fun element => ?_) elements)
    have holds := Loop.truth_persists span (predicateIh (element :: locals))
    refine holds.bind (fun held _ => ?_) fun _ lost => absurd trivial lost
    cases held with
    | true => exact Loop.some_persists (Loop.valueOf_persists (bodyIh (element :: locals)))
    | false => exact Cel.Persists.ok none

end Eval

/-- What a program says while variables are withheld stays true when they are revealed: a known value
is still the value, and a failure is still a failure. -/
theorem Program.execute_of_reveals [Engines] {program : Program} {withheld revealed : Activation}
    (reveals : revealed.Reveals withheld) :
    (∀ value, program.execute withheld = .ok value → value.Known →
      program.execute revealed = .ok value) ∧
    (∀ error, program.execute withheld = .error error →
      ∃ other, program.execute revealed = .error other) := by
  have persists := Eval.eval_persists reveals program.term []
  refine ⟨fun value said known => ?_, fun error failed => persists.failed ⟨error, failed⟩⟩
  change Eval.eval withheld [] program.term = .ok value at said
  rw [said] at persists
  exact persists.1 known

/-- The second element decides this search, so it does not matter that the test of the first one is
withheld at first and fails later. -/
theorem Program.execute_of_reveals_exists :
    let withheld := (Context.empty.declareUnknown "u").activation
    let revealed := (Context.empty.insert "u" (.string "no")).activation
    ∃ program, compile .standard "[1, 2].exists(x, x == 2 || u)" = .ok program ∧
      revealed.Reveals withheld ∧ program.execute revealed = .ok (.bool true) := by
  intro withheld revealed
  have computed : (compile .standard "[1, 2].exists(x, x == 2 || u)").toOption.any
      (fun program => (program.execute withheld).isBool true) = true := by decide +kernel
  obtain ⟨program, compiled, decided⟩ := exists_ok_of_any computed
  have reveals : revealed.Reveals withheld := by
    intro name notWithheld
    have other : name ≠ "u" := by
      rintro rfl
      exact absurd notWithheld (by decide)
    refine ⟨by simp [revealed, Context.activation, Context.empty, Context.insert], ?_⟩
    simpa [revealed, withheld, Context.activation, Context.empty, Context.insert,
      Context.declareUnknown, Context.get?, Entries.insert, Entries.find?] using other
  have said : program.execute withheld = .ok (.bool true) := Outcome.isBool_iff.mp decided
  exact ⟨program, compiled, reveals, (execute_of_reveals reveals).1 _ said rfl⟩

end Cel
