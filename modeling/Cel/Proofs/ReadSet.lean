import Cel.Context
import Cel.Engines.Standard
import Cel.Program
import Cel.Proofs.Term.Induction

/-! # The variables that a program reads

Evaluation looks at an activation only through the variables that a term lists as its references. So
two activations that agree on those cannot be told apart by the program, whatever they hold for all
other names: the outcomes are the same, with the same failures at the same places.
-/

namespace Cel

namespace Activation

/-- Whether two activations give the same value to each of some names, and withhold the same ones. -/
def AgreeOn (names : Names) (first second : Activation) : Prop :=
  ∀ name ∈ names,
    first.value? name = second.value? name ∧ first.isUnknown name = second.isUnknown name

variable {first second : Activation}

@[simp] theorem agreeOn_empty : AgreeOn .empty first second :=
  fun _ member => absurd member (by simp)

@[simp] theorem agreeOn_singleton {name : String} :
    AgreeOn (.singleton name) first second ↔
      first.value? name = second.value? name ∧ first.isUnknown name = second.isUnknown name := by
  simp [AgreeOn]

@[simp] theorem agreeOn_union {names others : Names} :
    AgreeOn (names.union others) first second ↔
      AgreeOn names first second ∧ AgreeOn others first second := by
  simp only [AgreeOn, Names.mem_union]
  constructor
  · exact fun agree => ⟨fun name member => agree name (.inl member),
      fun name member => agree name (.inr member)⟩
  · rintro ⟨left, right⟩ name (member | member)
    · exact left name member
    · exact right name member

end Activation

namespace Term

open Activation (AgreeOn agreeOn_union agreeOn_empty)

variable {first second : Activation}

theorem agreeOn_referencesOfAll {items : List Term} :
    AgreeOn (referencesOfAll items) first second ↔
      ∀ item ∈ items, AgreeOn item.references first second := by
  induction items with
  | nil => simp [referencesOfAll]
  | cons item rest ih => simp [referencesOfAll, ih]

theorem agreeOn_referencesOfEntries {entries : List (Term × Term)} :
    AgreeOn (referencesOfEntries entries) first second ↔
      ∀ entry ∈ entries,
        AgreeOn entry.1.references first second ∧ AgreeOn entry.2.references first second := by
  induction entries with
  | nil => simp [referencesOfEntries]
  | cons entry rest ih =>
    obtain ⟨key, value⟩ := entry
    simp [referencesOfEntries, ih, and_assoc]

theorem agreeOn_referencesOfFields {fields : List (String × Term)} :
    AgreeOn (referencesOfFields fields) first second ↔
      ∀ field ∈ fields, AgreeOn field.2.references first second := by
  induction fields with
  | nil => simp [referencesOfFields]
  | cons field rest ih =>
    obtain ⟨name, value⟩ := field
    simp [referencesOfFields, ih]

end Term

namespace Eval

open Activation (AgreeOn agreeOn_union agreeOn_singleton)

variable {first second : Activation} {locals : List Value}

theorem readVariable_congr {name : String} (agree : AgreeOn (.singleton name) first second)
    (span : Span) : readVariable first span name = readVariable second span name := by
  obtain ⟨sameValue, sameUnknown⟩ := agreeOn_singleton.mp agree
  simp only [readVariable, sameValue, sameUnknown]

variable [Engines]

theorem evalAll_congr {items : List Term}
    (same : ∀ item ∈ items, eval first locals item = eval second locals item) :
    evalAll first locals items = evalAll second locals items := by
  induction items with
  | nil => rfl
  | cons item rest ih =>
    obtain ⟨head, tail⟩ := List.forall_mem_cons.mp same
    simp only [evalAll, head, ih tail]

theorem evalEntries_congr {entries : List (Term × Term)}
    (same : ∀ entry ∈ entries, eval first locals entry.1 = eval second locals entry.1 ∧
      eval first locals entry.2 = eval second locals entry.2) :
    evalEntries first locals entries = evalEntries second locals entries := by
  induction entries with
  | nil => rfl
  | cons entry rest ih =>
    obtain ⟨⟨key, value⟩, tail⟩ := List.forall_mem_cons.mp same
    simp only [evalEntries, key, value, ih tail]

theorem evalFields_congr {fields : List (String × Term)}
    (same : ∀ field ∈ fields, eval first locals field.2 = eval second locals field.2) :
    evalFields first locals fields = evalFields second locals fields := by
  induction fields with
  | nil => rfl
  | cons field rest ih =>
    obtain ⟨head, tail⟩ := List.forall_mem_cons.mp same
    simp only [evalFields, head, ih tail]

/-- Activations that agree on the references of a term give it the same outcome under all loops. -/
theorem eval_congr {term : Term} (agree : AgreeOn term.references first second)
    (locals : List Value) : eval first locals term = eval second locals term := by
  induction term using Term.induction generalizing locals with
  | constant | bound | unknownCall => simp only [eval]
  | free span name => exact readVariable_congr agree span
  | select span operand field ih | has span operand field ih =>
    simp only [eval, ih agree]
  | unary span op operand ih => simp only [eval, ih agree]
  | «matches» span target source pattern ih => simp only [eval, ih agree]
  | search span target pattern targetIh patternIh =>
    obtain ⟨target, pattern⟩ := agreeOn_union.mp agree
    simp only [eval, targetIh target, patternIh pattern]
  | index span operand position operandIh positionIh =>
    obtain ⟨operand, position⟩ := agreeOn_union.mp agree
    simp only [eval, operandIh operand, positionIh position]
  | list span items ih =>
    have each := Term.agreeOn_referencesOfAll.mp agree
    simp only [eval, evalAll_congr fun item member => ih item member (each item member) locals]
  | map span entries ih =>
    have each := Term.agreeOn_referencesOfEntries.mp agree
    have same := evalEntries_congr fun entry member =>
      ⟨(ih entry member).1 (each entry member).1 locals,
        (ih entry member).2 (each entry member).2 locals⟩
    simp only [eval, same]
  | struct span typeName fields ih =>
    have each := Term.agreeOn_referencesOfFields.mp agree
    simp only [eval, evalFields_congr fun field member => ih field member (each field member) locals]
  | call span function args ih =>
    have each := Term.agreeOn_referencesOfAll.mp agree
    simp only [eval, evalAll_congr fun arg member => ih arg member (each arg member) locals]
  | strict span op left right leftIh rightIh =>
    obtain ⟨left, right⟩ := agreeOn_union.mp agree
    simp only [eval, leftIh left, rightIh right]
  | and span left right leftIh rightIh | or span left right leftIh rightIh =>
    obtain ⟨left, right⟩ := agreeOn_union.mp agree
    simp only [eval, leftIh left, rightIh right]
  | conditional span condition yes no conditionIh yesIh noIh =>
    obtain ⟨condition, branches⟩ := agreeOn_union.mp agree
    obtain ⟨yes, no⟩ := agreeOn_union.mp branches
    simp only [eval, conditionIh condition, yesIh yes, noIh no]
  | quantified span kind binder range predicate rangeIh predicateIh =>
    obtain ⟨range, predicate⟩ := agreeOn_union.mp agree
    simp only [eval, rangeIh range, predicateIh predicate]
  | filter span name range predicate rangeIh predicateIh =>
    obtain ⟨range, predicate⟩ := agreeOn_union.mp agree
    simp only [eval, rangeIh range, predicateIh predicate]
  | collect span name range body rangeIh bodyIh =>
    obtain ⟨range, body⟩ := agreeOn_union.mp agree
    simp only [eval, rangeIh range, bodyIh body]
  | collectIf span name range predicate body rangeIh predicateIh bodyIh =>
    obtain ⟨range, parts⟩ := agreeOn_union.mp agree
    obtain ⟨predicate, body⟩ := agreeOn_union.mp parts
    simp only [eval, rangeIh range, predicateIh predicate, bodyIh body]

end Eval

namespace Program

open Activation (AgreeOn)

/-- The references of a program are all that it reads. -/
theorem execute_eq_of_agreeOn_references [Engines] {program : Program} {first second : Activation}
    (agree : AgreeOn program.references first second) :
    program.execute first = program.execute second :=
  Eval.eval_congr agree []

/-- The name of a loop variable may be withheld from the program: only `limit` is read. -/
theorem execute_eq_of_loopVariable_withheld :
    let first := (Context.empty.insert "limit" (.int 1)).activation
    let second := ((Context.empty.insert "limit" (.int 1)).declareUnknown "i").activation
    ∃ program, compile .standard "[1, 2].exists(i, i > limit)" = .ok program ∧
      AgreeOn program.references first second ∧ program.execute first = program.execute second := by
  intro first second
  have computed : (compile .standard "[1, 2].exists(i, i > limit)").toOption.any
      (·.references == .singleton "limit") = true := by decide +kernel
  obtain ⟨program, compiled, reads⟩ := exists_ok_of_any computed
  have agree : AgreeOn program.references first second := by
    rw [beq_iff_eq.mp reads]
    exact Activation.agreeOn_singleton.mpr ⟨rfl, by decide +kernel⟩
  exact ⟨program, compiled, agree, execute_eq_of_agreeOn_references agree⟩

end Program

end Cel
