import Cel.Context
import Cel.Engines.Standard
import Cel.Proofs.Internal
import Cel.Proofs.ReadSet
import Cel.Proofs.Results.Eval

/-! # Unknown results

A program that depends on a withheld variable evaluates to one unknown value, never to a list, map or
struct with an unknown value inside, and it names only variables that are withheld and that it reads.
Failures do not mention unknown values either.

That only withheld names are listed holds because evaluation keeps any property of names that unions
keep. That they are also read holds because withholding all other names as well changes nothing.
-/

namespace Cel

/-- Whether no unknown value stands anywhere in the values that an activation binds. -/
def Activation.UnknownFree (activation : Activation) : Prop :=
  ∀ name value, activation.value? name = some value → value.UnknownFree

/-- The activation that withholds, of the names that it withholds, only those of a set. -/
def Activation.withholdOnly (names : Names) (activation : Activation) : Activation :=
  { activation with isUnknown := fun name => activation.isUnknown name && decide (name ∈ names) }

theorem Activation.agreeOn_withholdOnly (names : Names) (activation : Activation) :
    AgreeOn names activation (activation.withholdOnly names) := by
  intro name member
  simp [withholdOnly, member]

/-- Whether there are names, and each of them is withheld by an activation and is among those that a
program reads. -/
structure Names.Justified (activation : Activation) (references names : Names) : Prop where
  nonempty : ∃ name, name ∈ names
  withheld : ∀ name ∈ names, activation.isUnknown name = true
  read : ∀ name ∈ names, name ∈ references

namespace Names.Justified

variable {activation : Activation} {references : Names}

theorem singleton {name : String} (withheld : activation.isUnknown name = true)
    (read : name ∈ references) : Justified activation references (.singleton name) where
  nonempty := ⟨name, by simp⟩
  withheld := by simpa using withheld
  read := by simpa using read

theorem union {a b : Names} (first : Justified activation references a)
    (second : Justified activation references b) : Justified activation references (a.union b) where
  nonempty := by
    obtain ⟨name, member⟩ := first.nonempty
    exact ⟨name, Names.mem_union.mpr (.inl member)⟩
  withheld name member := (Names.mem_union.mp member).elim (first.withheld name) (second.withheld name)
  read name member := (Names.mem_union.mp member).elim (first.read name) (second.read name)

end Names.Justified

/-- Whether an outcome is an unknown value for good reasons, or no unknown value stands anywhere in it.
A failure consists of the values that it mentions. -/
def Outcome.Honest (activation : Activation) (references : Names) : Outcome → Prop
  | .ok (.unknown names) => Names.Justified activation references names
  | .ok value => value.UnknownFree
  | .error error => ∀ value ∈ error.cause.values, value.UnknownFree

namespace Kept

variable {p : Value → Prop} {q : Names → Prop}

/-- What has elements is known. -/
theorem everywhere_of_elements? {range : Value} {elements : List Value} (keeps : range.Keeps p q)
    (found : range.elements? = some elements) : Value.Everywhere p range := by
  cases range with
  | list | map => exact keeps
  | _ => cases found

/-- What a loop can go over is known. -/
theorem everywhere_of_frames? {binder : Binder} {range : Value} {frames : List (List Value)}
    (keeps : range.Keeps p q) (found : binder.frames? range = some frames) :
    Value.Everywhere p range := by
  obtain ⟨index, name⟩ := binder
  cases index with
  | none =>
    obtain ⟨elements, isElements, -⟩ := Option.map_eq_some_iff.mp found
    exact everywhere_of_elements? keeps isElements
  | some _ =>
    cases range with
    | list | map => exact keeps
    | _ => cases found

/-- Kept properties are those of the values that go round in evaluation. -/
theorem circulates [Engines] (kept : Kept p q) {activation : Activation} (keeps : activation.Keeps p q) :
    Eval.Circulates activation (Value.Keeps p q) (Value.Everywhere p) where
  gives inner _ := kept.eval_givesOnly keeps inner
  elements given found := kept.elements? (everywhere_of_elements? given found) found
  frames given found := kept.frames? (everywhere_of_frames? given found) found

/-- Evaluation puts no unknown value into another one, and an unknown value is for good reasons if the
withheld variables are. -/
theorem known_justified (activation : Activation) (references : Names) :
    Kept Value.Known (Names.Justified activation references) where
  ofSound known _ := known
  known := id
  union := Names.Justified.union

end Kept

theorem Activation.keeps_withholdOnly {activation : Activation} (unknownFree : activation.UnknownFree)
    (references : Names) :
    (activation.withholdOnly references).Keeps Value.Known
      (Names.Justified activation references) where
  bound := unknownFree
  withheld name withheld := by
    obtain ⟨isUnknown, read⟩ := Bool.and_eq_true_iff.mp withheld
    exact .singleton isUnknown (of_decide_eq_true read)

/-- A well-formed term evaluates honestly. -/
theorem Term.honest_eval [Engines] {term : Term} (formed : WellFormed 0 term) {activation : Activation}
    (unknownFree : activation.UnknownFree) :
    Outcome.Honest activation term.references (term.eval activation) := by
  have same : term.eval activation = term.eval (activation.withholdOnly term.references) :=
    Eval.eval_congr (Activation.agreeOn_withholdOnly term.references activation) []
  have kept := Kept.known_justified activation term.references
  have keeps := activation.keeps_withholdOnly unknownFree term.references
  rw [same]
  cases evaluated : term.eval (activation.withholdOnly term.references) with
  | ok value =>
    have given := kept.eval_givesOnly keeps (List.forall_mem_nil _) value evaluated
    cases value with
    | unknown names => exact given
    | _ => exact given
  | error error =>
    have mentions := Eval.eval_failsOnly (kept.circulates keeps) formed rfl (List.forall_mem_nil _)
      error evaluated
    intro value member
    rcases mentions.2 value member with atomic | ⟨known, given⟩
    · exact .of_parts_eq_nil atomic.known atomic.flat
    · exact (Value.keeps_iff_of_known known).mp given

namespace Program

/-- Unknown results stand alone and name only variables that are withheld and read. -/
theorem execute_honest [Engines] {settings : Settings} {source : String} {program : Program}
    (compiled : compile settings source = .ok program) {activation : Activation}
    (unknownFree : activation.UnknownFree) :
    Outcome.Honest activation program.references (program.execute activation) := by
  obtain ⟨expr, -, checked⟩ := bind_eq_ok_iff.mp compiled
  split at checked
  · cases checked
  · next term accepted =>
    cases checked
    exact Term.honest_eval (Check.checks_of_check accepted).wellFormed unknownFree

/-- Of the two variables that are withheld the program reads one, inside the items of a list. -/
theorem execute_honest_items :
    let context : Context := ⟨[("limits", .list [.int 1, .int 2])], .ofList ["x", "y"]⟩
    ∃ program, compile .standard "limits.map(i, [i, x])" = .ok program ∧
      context.activation.UnknownFree ∧
      Outcome.Honest context.activation program.references (program.execute context.activation) ∧
      program.execute context.activation = .ok (.unknown (.singleton "x")) := by
  intro context
  have computed : (compile .standard "limits.map(i, [i, x])").toOption.any (fun program =>
      (program.execute context.activation).toOption.any fun value =>
        Value.unknowns? [value] == some (.singleton "x")) = true := by decide +kernel
  obtain ⟨program, compiled, evaluates⟩ := exists_ok_of_any computed
  obtain ⟨value, executed, isUnknown⟩ := exists_ok_of_any evaluates
  have unknownFree : context.activation.UnknownFree := by
    intro name value found
    obtain ⟨stored, member⟩ := Entries.mem_of_find? found
    cases List.mem_singleton.mp member
    have flat (n : Int64) : (Value.int n).UnknownFree := .of_parts_eq_nil rfl rfl
    exact .intro rfl (List.forall_mem_cons.mpr ⟨flat 1, List.forall_mem_singleton.mpr (flat 2)⟩)
  refine ⟨program, compiled, unknownFree, execute_honest compiled unknownFree, ?_⟩
  have isUnknown := beq_iff_eq.mp isUnknown
  cases value with
  | unknown names =>
    simp only [Value.unknowns?, Option.getD_none, Names.union_empty, Option.some.injEq] at isUnknown
    rw [executed, isUnknown]
  | _ => cases isUnknown

end Program

end Cel
