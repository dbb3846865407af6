import Cel.Engines.Standard
import Cel.Proofs.Check.Shape
import Cel.Proofs.Entries
import Cel.Proofs.Unknowns

/-! # Tests for fields

The test `has(e.f)` tells what selecting `e.f` will do, and on a map the membership `"f" in e` and the index
`e["f"]` go by the same entry. The four look for the field in ways of their own, and fail for reasons of
their own where there are no fields. A test that succeeds makes the selection behind it safe, wherever the
two stand in a source and whatever loops are around them.
-/

namespace Cel

open EvalError (Cause)

/-! ### Values -/

namespace Value

variable {field : String} {entries : List (MapKey × Value)}

theorem select_map : select field (map entries) =
    (Entries.find? (.string field) entries).elim (.error (.keyNotFound (string field))) .ok := by
  rw [select]
  cases Entries.find? (.string field) entries <;> rfl

theorem select_struct {name : String} {fields : List (String × Value)} :
    select field (struct name fields) =
      (Entries.find? field fields).elim (.error (.fieldNotFound field)) .ok := by
  rw [select]
  cases Entries.find? field fields <;> rfl

/-- A string finds its own key and no other one. -/
theorem lookup?_string : (string field).lookup? entries = Entries.find? (.string field) entries := by
  simp only [lookup?, candidates, key?, Option.toList_some, List.findSome?_cons, List.findSome?_nil]
  cases Entries.find? (.string field) entries <;> rfl

theorem strict_in_map :
    strict .in (string field) (map entries) = has field (map entries) := by
  have isString : (string field).Known := rfl
  have isMap : (map entries).Known := rfl
  rw [strict, ifKnown_pair isString isMap]
  simp only [isIn, lookup?_string, has]

theorem index_map : index (map entries) (string field) = select field (map entries) := by
  have isString : (string field).Known := rfl
  have isMap : (map entries).Known := rfl
  rw [index, ifKnown_pair isMap isString]
  simp only [lookup?_string, select]

end Value

/-! ### Results -/

/-- Whether the result of a test for a field tells that of selecting it, where `operand` is the result of
what the field belongs to. -/
structure Foretells (operand test selection : Except Cause Value) : Prop where
  present : test = .ok (.bool true) ↔ ∃ value, selection = .ok value ∧ value.Known
  absent : test = .ok (.bool false) ↔ (∃ value, operand = .ok value) ∧
    ∃ cause, selection = .error cause ∧ (cause.kind = .keyNotFound ∨ cause.kind = .fieldNotFound)
  unknown : ∀ names, test = .ok (.unknown names) ↔ selection = .ok (.unknown names)
  failing : (∃ cause, test = .error cause) ↔ (∃ cause, operand = .error cause) ∨
    ∃ cause, selection = .error cause ∧ cause.kind = .noMatchingOverload

/-- Whether a test for a field, the membership of its name and the index of its name come to the same, and
the index gives what selecting the field gives. -/
structure SameEntry (test membership position selection : Except Cause Value) : Prop where
  test : ∃ present, test = .ok (.bool present) ∧ membership = .ok (.bool present) ∧
    (present = true ↔ ∃ value, position = .ok value)
  position : position = selection

section Fields

variable {field : String} {value : Value}

/-- A field is there with a known value, or it is missing. -/
theorem foretells_of_find? {found : Option Value} {missing : Cause}
    (isMissing : missing.kind = .keyNotFound ∨ missing.kind = .fieldNotFound)
    (known : ∀ value, found = some value → value.Known) :
    Foretells (.ok value) (.ok (.bool found.isSome)) (found.elim (.error missing) .ok) := by
  cases found with
  | none =>
    have notOverload : missing.kind ≠ .noMatchingOverload := by
      rcases isMissing with isMissing | isMissing <;> simp [isMissing]
    exact ⟨by simp, by simpa using isMissing, by simp, by simpa using notOverload⟩
  | some value =>
    have isKnown := known value rfl
    have notUnknown (names : Names) : value ≠ .unknown names := by
      rintro rfl
      exact Value.not_known_unknown isKnown
    exact ⟨by simpa using isKnown, by simp, by simpa using notUnknown, by simp⟩

/-- The test for a field of a value tells what selecting it does, unless there are unknown values inside. -/
theorem foretells_of_keeps (given : value.Keeps Value.Known fun _ => True) :
    Foretells (.ok value) (value.has field) (value.select field) := by
  have partKnown {κ : Type} [Ord κ] {key : κ} {entries : List (κ × Value)} (known : value.Known)
      (parts : value.parts = entries.map (·.2)) (found : Value)
      (isFound : Entries.find? key entries = some found) : found.Known := by
    obtain ⟨stored, member⟩ := Entries.mem_of_find? isFound
    have everywhere := (Value.keeps_iff_of_known known).mp given
    exact (everywhere.inside found (parts ▸ List.mem_map_of_mem member)).here
  cases value with
  | map entries =>
    rw [Value.select_map]
    exact foretells_of_find? (.inl rfl) (partKnown rfl rfl)
  | struct name fields =>
    rw [Value.select_struct]
    exact foretells_of_find? (.inr rfl) (partKnown rfl rfl)
  | unknown names => exact ⟨by simp [Value.has, Value.select], by simp [Value.has, Value.select],
      fun _ => Iff.rfl, by simp [Value.has, Value.select]⟩
  | _ =>
    simp only [Value.has, Value.select, Value.mismatch]
    exact ⟨by simp, by simp [Cause.kind], by simp, by simp [Cause.kind]⟩

theorem foretells_of_givesOnly {operand : Except Cause Value}
    (given : GivesOnly (Value.Keeps Value.Known fun _ => True) operand) :
    Foretells operand (operand >>= Value.has field) (operand >>= Value.select field) := by
  cases operand with
  | error cause =>
    simp only [bind, Except.bind]
    exact ⟨by simp, by simp, by simp, by simp⟩
  | ok value => exact foretells_of_keeps (given value rfl)

theorem sameEntry_map (entries : List (MapKey × Value)) :
    SameEntry (Value.has field (.map entries)) (Value.strict .in (.string field) (.map entries))
      (Value.index (.map entries) (.string field)) (Value.select field (.map entries)) where
  test := by
    rw [Value.strict_in_map, Value.index_map]
    simp only [Value.has, Value.select]
    cases Entries.find? (.string field) entries <;> simp
  position := Value.index_map

end Fields

/-! ### Terms -/

namespace Eval

open EvalError (locate)

variable [Engines] {activation : Activation} {locals : List Value} {span constantSpan : Span}
  {field : String}

omit [Engines] in
theorem mapError_cause_locate {α : Type} (located : Except Cause α) :
    (locate span located).mapError (·.cause) = located := by
  cases located <;> rfl

section Operand

variable (operand : Term)

theorem result_has : result activation locals (.has span operand field) =
    result activation locals operand >>= Value.has field := by
  simp only [result, eval, mapError_bind, mapError_cause_locate]

theorem result_select : result activation locals (.select span operand field) =
    result activation locals operand >>= Value.select field := by
  simp only [result, eval, mapError_bind, mapError_cause_locate]

theorem result_in : result activation locals
      (.strict span .in (.constant constantSpan (.string field)) operand) =
    result activation locals operand >>= Value.strict .in (.string field) := by
  simp only [result, eval, mapError_bind, mapError_cause_locate]
  rfl

theorem result_index : result activation locals
      (.index span operand (.constant constantSpan (.string field))) =
    result activation locals operand >>= fun value => value.index (.string field) := by
  simp only [result, eval, mapError_bind, mapError_cause_locate]
  rfl

end Operand

/-- Evaluation puts no unknown value into another one. -/
theorem result_givesOnly (unknownFree : activation.UnknownFree)
    (inner : ∀ value ∈ locals, value.UnknownFree) (term : Term) :
    GivesOnly (Value.Keeps Value.Known fun _ => True) (result activation locals term) := by
  have kept : Kept Value.Known fun _ => True := ⟨fun known _ => known, id, fun _ _ => trivial⟩
  have keeps : activation.Keeps Value.Known fun _ => True := ⟨unknownFree, fun _ _ => trivial⟩
  intro value given
  exact kept.eval_givesOnly keeps inner value (mapError_eq_ok_iff.mp given)

end Eval

/-! ### Expressions -/

namespace Check

section Forms

variable [Engines] (scope : List String) (e : Expr Unit) (field : String)

theorem check_has : check true scope
      (Expr.unplaced (.call () (.ident () "has") [.member () e field])) =
    (check true scope e.unplaced).map fun operand => .has Mark.nowhere.span operand field := by
  have isMacro : Macro.named? "has" false = some .has := rfl
  simp only [Expr.unplaced, Expr.unplacedAll, check, if_true, isMacro]
  cases check true scope e.unplaced <;> rfl

theorem check_member : check true scope (Expr.unplaced (.member () e field)) =
    (check true scope e.unplaced).map fun operand => .select Mark.nowhere.span operand field := by
  simp only [Expr.unplaced, check]
  cases check true scope e.unplaced <;> rfl

theorem check_in : check true scope
      (Expr.unplaced (.binary () .in (.constant () (.string field)) e)) =
    (check true scope e.unplaced).map fun operand =>
      .strict Mark.nowhere.span .in (.constant Mark.nowhere.span (.string field)) operand := by
  simp only [Expr.unplaced, check]
  cases check true scope e.unplaced <;> rfl

theorem check_index : check true scope
      (Expr.unplaced (.index () e (.constant () (.string field)))) =
    (check true scope e.unplaced).map fun operand =>
      .index Mark.nowhere.span operand (.constant Mark.nowhere.span (.string field)) := by
  simp only [Expr.unplaced, check]
  cases check true scope e.unplaced <;> rfl

end Forms

/-- The result of an expression that is checked to one step behind its operand. -/
theorem result_of_make [Engines] {form operand : Expr Mark} {make : Term → Term} {term operandTerm : Term}
    (made : check true scope form.shape.unplaced =
      (check true scope operand.shape.unplaced).map make)
    (accepted : check true scope form = .ok term)
    (operandAccepted : check true scope operand = .ok operandTerm)
    {activation : Activation} {locals : List Value} {step : Value → Except Cause Value}
    (steps : ∀ operandTerm, Eval.result activation locals (make operandTerm) =
      Eval.result activation locals operandTerm >>= step) :
    Eval.result activation locals term = Eval.result activation locals operandTerm >>= step := by
  rw [← Eval.result_unplaced term, eq_make_of_accepted made accepted operandAccepted, steps,
    Eval.result_unplaced]

/-- What `has(e.f)` gives is decided by `e.f`, and by `"f" in e` and `e["f"]` where `e` is a map. All four
are checked when `e` is. The expressions may stand anywhere in a source, each with an `e` of its own. -/
theorem has_foretells_select [Engines] {e : Expr Unit} {field : String}
    (operand test selection membership position : Expr Mark) (isOperand : operand.shape = e)
    (isTest : test.shape = .call () (.ident () "has") [.member () e field])
    (isSelection : selection.shape = .member () e field)
    (isMembership : membership.shape = .binary () .in (.constant () (.string field)) e)
    (isPosition : position.shape = .index () e (.constant () (.string field)))
    (scope : List String) :
    (∀ form ∈ [test, selection, membership, position],
      (∃ term, check true scope form = .ok term) ↔ ∃ term, check true scope operand = .ok term) ∧
    ∀ operandTerm testTerm selectionTerm membershipTerm positionTerm,
      check true scope operand = .ok operandTerm → check true scope test = .ok testTerm →
      check true scope selection = .ok selectionTerm →
      check true scope membership = .ok membershipTerm →
      check true scope position = .ok positionTerm →
      ∀ activation locals, activation.UnknownFree → (∀ value ∈ locals, value.UnknownFree) →
        Foretells (Eval.result activation locals operandTerm)
            (Eval.result activation locals testTerm)
            (Eval.result activation locals selectionTerm) ∧
          ∀ entries, Eval.result activation locals operandTerm = .ok (.map entries) →
            SameEntry (Eval.result activation locals testTerm)
              (Eval.result activation locals membershipTerm)
              (Eval.result activation locals positionTerm)
              (Eval.result activation locals selectionTerm) := by
  subst isOperand
  have testMade := check_has scope operand.shape field
  have selectionMade := check_member scope operand.shape field
  have membershipMade := check_in scope operand.shape field
  have positionMade := check_index scope operand.shape field
  rw [← isTest] at testMade
  rw [← isSelection] at selectionMade
  rw [← isMembership] at membershipMade
  rw [← isPosition] at positionMade
  constructor
  · simp only [List.forall_mem_cons]
    exact ⟨accepted_iff_of_make testMade, accepted_iff_of_make selectionMade,
      accepted_iff_of_make membershipMade, accepted_iff_of_make positionMade, nofun⟩
  · intro operandTerm testTerm selectionTerm membershipTerm positionTerm operandChecked testChecked
      selectionChecked membershipChecked positionChecked activation locals unknownFree inner
    rw [result_of_make testMade testChecked operandChecked Eval.result_has,
      result_of_make selectionMade selectionChecked operandChecked Eval.result_select,
      result_of_make membershipMade membershipChecked operandChecked Eval.result_in,
      result_of_make positionMade positionChecked operandChecked Eval.result_index]
    refine ⟨foretells_of_givesOnly (Eval.result_givesOnly unknownFree inner operandTerm), ?_⟩
    intro entries isMap
    rw [isMap]
    exact sameEntry_map entries

/-- The variable `a` is a map with the key `"b"`, and so `a.b` and `a["b"]` have the same value. -/
theorem has_foretells_select_of_entry :
    let mark (id : Nat) : Mark := ⟨id, .point id⟩
    let a (id : Nat) : Expr Mark := .ident (mark id) "a"
    let b (id : Nat) : Expr Mark := .constant (mark id) (.string "b")
    let test : Expr Mark := .call (mark 4) (.ident (mark 1) "has") [.member (mark 3) (a 2) "b"]
    let selection : Expr Mark := .member (mark 6) (a 5) "b"
    let membership : Expr Mark := .binary (mark 9) .in (b 7) (a 8)
    let position : Expr Mark := .index (mark 12) (a 10) (b 11)
    let activation := Context.activation ⟨[("a", .map [(.string "b", .int 1)])], .empty⟩
    ∃ testTerm selectionTerm membershipTerm positionTerm, check true [] test = .ok testTerm ∧
      check true [] selection = .ok selectionTerm ∧ check true [] membership = .ok membershipTerm ∧
      check true [] position = .ok positionTerm ∧ activation.UnknownFree ∧
      Eval.result activation [] testTerm = .ok (.bool true) ∧
      (∃ value, Eval.result activation [] selectionTerm = .ok value ∧ value.Known) ∧
      (∃ present, Eval.result activation [] membershipTerm = .ok (.bool present)) ∧
      Eval.result activation [] positionTerm = Eval.result activation [] selectionTerm := by
  intro mark a b test selection membership position activation
  have unknownFree : activation.UnknownFree := by
    intro name value found
    obtain ⟨stored, member⟩ := Entries.mem_of_find? found
    cases List.mem_singleton.mp member
    exact .intro rfl (List.forall_mem_singleton.mpr (.of_parts_eq_nil rfl rfl))
  obtain ⟨-, results⟩ :=
    has_foretells_select (a 0) test selection membership position rfl rfl rfl rfl rfl []
  obtain ⟨foretells, same⟩ :=
    results _ _ _ _ _ rfl rfl rfl rfl rfl activation [] unknownFree (List.forall_mem_nil _)
  have isPresent : Eval.result activation []
      (.has (mark 4).span (.free (mark 2).span "a") "b") = .ok (.bool true) := by rfl
  obtain ⟨present, -, isMember, -⟩ := (same _ rfl).test
  exact ⟨_, _, _, _, rfl, rfl, rfl, rfl, unknownFree, isPresent, foretells.present.mp isPresent,
    ⟨present, isMember⟩, (same _ rfl).position⟩

end Check

end Cel
