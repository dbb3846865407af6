import Cel.Check
import Cel.Eval
import Cel.Proofs.Except
import Cel.Proofs.Expr.Shape
import Cel.Proofs.MapLiteral
import Cel.Proofs.Value.Sound

/-! # Trees that denote values

A tree denotes a value if every expression with that tree passes checking and evaluates to the value,
whatever loops stand around it and whatever the activation holds. Literals do, and so do signs before
them, lists, and maps whose keys are all different and stand in ascending order.
-/

namespace Cel

/-- Whether every expression with a tree evaluates to a value, without regard to variables. -/
def Denotes [Engines] (tree : Expr Unit) (value : Value) : Prop :=
  ∀ expr : Expr Mark, expr.shape = tree → ∀ macros scope,
    ∃ term, Check.check macros scope expr = .ok term ∧
      ∀ activation locals, Eval.eval activation locals term = .ok value

namespace Denotes

variable [Engines]

theorem constant (value : Constant) : Denotes (.constant () value) (.ofConstant value) := by
  intro expr same macros scope
  cases expr with
  | constant mark found =>
    cases same
    exact ⟨.constant mark.span value, by rw [Check.check], fun _ _ => by rw [Eval.eval]⟩
  | _ => cases same

/-- A minus sign before a number. -/
theorem negated {tree : Expr Unit} {word result : Int64} (denotes : Denotes tree (.int word))
    (negates : result.toInt = -word.toInt) : Denotes (.unary () .neg tree) (.int result) := by
  intro expr same macros scope
  cases expr with
  | unary mark op operand =>
    cases same
    obtain ⟨term, checked, evaluates⟩ := denotes operand rfl macros scope
    refine ⟨.unary mark.span .neg term, ?_, fun activation locals => ?_⟩
    · rw [Check.check]
      exact bind_eq_of_eq_ok checked
    · have narrowed : Number.int64? (-word.toInt) = some result :=
        Number.int64?_eq_some_iff.mpr negates
      rw [Eval.eval]
      refine (bind_eq_of_eq_ok (evaluates activation locals)).trans ?_
      simp only [Value.unary, Value.signed, narrowed, EvalError.locate]
  | _ => cases same

section Items

variable {α : Type} {tree : α → Expr Unit} {value : α → Value}

theorem allItems {items : List α} (each : ∀ item ∈ items, Denotes (tree item) (value item))
    {exprs : List (Expr Mark)} (same : exprs.map Expr.shape = items.map tree) (macros : Bool)
    (scope : List String) : ∃ terms, Check.checkAll macros scope exprs = .ok terms ∧
      ∀ activation locals, Eval.evalAll activation locals terms = .ok (items.map value) := by
  induction items generalizing exprs with
  | nil =>
    cases List.map_eq_nil_iff.mp same
    exact ⟨[], by rw [Check.checkAll], fun _ _ => by rw [Eval.evalAll]; rfl⟩
  | cons item rest ih =>
    obtain ⟨expr, others, rfl, sameFirst, sameRest⟩ := List.map_eq_cons_iff.mp same
    obtain ⟨head, tail⟩ := List.forall_mem_cons.mp each
    obtain ⟨term, checked, evaluates⟩ := head expr sameFirst macros scope
    obtain ⟨terms, checkedRest, evaluatesRest⟩ := ih tail sameRest
    refine ⟨term :: terms, ?_, fun activation locals => ?_⟩
    · rw [Check.checkAll]
      exact (bind_eq_of_eq_ok checked).trans (bind_eq_of_eq_ok checkedRest)
    · rw [Eval.evalAll]
      exact (bind_eq_of_eq_ok (evaluates activation locals)).trans
        (bind_eq_of_eq_ok (evaluatesRest activation locals))

/-- A list of trees that denote known values. -/
theorem list {items : List α} (each : ∀ item ∈ items, Denotes (tree item) (value item))
    (known : ∀ item ∈ items, (value item).Known) :
    Denotes (.list () (items.map tree)) (.list (items.map value)) := by
  intro expr same macros scope
  cases expr with
  | list mark exprs =>
    simp only [Expr.shape, Expr.list.injEq, true_and, Expr.shapeOfAll_eq_map] at same
    obtain ⟨terms, checked, evaluates⟩ := allItems each same macros scope
    refine ⟨.list mark.span terms, ?_, fun activation locals => ?_⟩
    · rw [Check.check]
      exact bind_eq_of_eq_ok checked
    · have allKnown : Value.unknowns? (items.map value) = none :=
        Value.unknowns?_eq_none_iff.mpr (List.forall_mem_map.mpr known)
      rw [Eval.eval]
      refine (bind_eq_of_eq_ok (evaluates activation locals)).trans ?_
      simp only [Value.listOf, allKnown]
      rfl
  | _ => cases same

end Items

section Entries

open Value (DistinctKeys ofKey)

variable {keyTree tree : MapKey × Value → Expr Unit} {entries : List (MapKey × Value)}

theorem allEntries (keys : ∀ entry ∈ entries, Denotes (keyTree entry) (ofKey entry.1))
    (values : ∀ entry ∈ entries, Denotes (tree entry) entry.2)
    {exprs : List (Expr Mark × Expr Mark)}
    (same : exprs.map Expr.shapeOfEntry = entries.map fun entry => (keyTree entry, tree entry))
    (macros : Bool) (scope : List String) :
    ∃ terms, Check.checkEntries macros scope exprs = .ok terms ∧ ∀ activation locals,
      List.Forall₂ (fun term pair => Eval.eval activation locals term.1 = .ok pair.1 ∧
        Eval.eval activation locals term.2 = .ok pair.2) terms (entries.map Value.ofEntry) := by
  induction entries generalizing exprs with
  | nil =>
    cases List.map_eq_nil_iff.mp same
    exact ⟨[], by rw [Check.checkEntries], fun _ _ => .nil⟩
  | cons entry rest ih =>
    obtain ⟨⟨key, value⟩, others, rfl, sameFirst, sameRest⟩ := List.map_eq_cons_iff.mp same
    obtain ⟨sameKey, sameValue⟩ := Prod.mk.inj sameFirst
    obtain ⟨headKey, tailKeys⟩ := List.forall_mem_cons.mp keys
    obtain ⟨headValue, tailValues⟩ := List.forall_mem_cons.mp values
    obtain ⟨keyTerm, keyChecked, keyEvaluates⟩ := headKey key sameKey macros scope
    obtain ⟨valueTerm, valueChecked, valueEvaluates⟩ := headValue value sameValue macros scope
    obtain ⟨terms, checked, evaluates⟩ := ih tailKeys tailValues sameRest
    refine ⟨(keyTerm, valueTerm) :: terms, ?_, fun activation locals => ?_⟩
    · rw [Check.checkEntries]
      refine (bind_eq_of_eq_ok keyChecked).trans ?_
      exact (bind_eq_of_eq_ok valueChecked).trans (bind_eq_of_eq_ok checked)
    · exact .cons ⟨keyEvaluates activation locals, valueEvaluates activation locals⟩
        (evaluates activation locals)

/-- A map of trees that denote its keys and known values. -/
theorem map (keys : ∀ entry ∈ entries, Denotes (keyTree entry) (ofKey entry.1))
    (values : ∀ entry ∈ entries, Denotes (tree entry) entry.2)
    (known : ∀ entry ∈ entries, entry.2.Known) (ascending : Entries.Ascending entries)
    (distinct : DistinctKeys entries) :
    Denotes (.map () (entries.map fun entry => (keyTree entry, tree entry))) (.map entries) := by
  intro expr same macros scope
  cases expr with
  | map mark exprs =>
    simp only [Expr.shape, Expr.map.injEq, true_and, Expr.shapeOfEntries_eq_map] at same
    obtain ⟨terms, checked, evaluates⟩ := allEntries keys values same macros scope
    refine ⟨.map mark.span terms, ?_, fun activation locals => ?_⟩
    · rw [Check.check]
      exact bind_eq_of_eq_ok checked
    · have allKnown : ∀ pair ∈ entries.map Value.ofEntry, pair.1.Known ∧ pair.2.Known :=
        List.forall_mem_map.mpr fun entry member =>
          ⟨(Value.atomic_ofKey entry.1).known, known entry member⟩
      exact (Eval.eval_map_eq_ok_iff (evaluates activation locals) allKnown).mpr
        ⟨entries, entries, rfl, rfl, distinct, ascending, .refl entries⟩
  | _ => cases same

end Entries

end Denotes

end Cel
