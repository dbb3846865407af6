import Mathlib.Algebra.GroupWithZero.Nat
import Cel.Engines.Standard
import Cel.Proofs.Check.Shape
import Cel.Proofs.Reveal.Persists

/-! # Counting and filtering

The quantifier `exists_one` counts the elements that satisfy a test, and a filter keeps them. Both stop at
the first element whose test fails, is not known or is no boolean. So whether exactly one element
satisfies the test can be asked of either: it is the same as whether the list that is kept has the size 1.
-/

namespace Cel

/-! ### Loops -/

namespace Loop

variable {α β : Type}

theorem count_map (holds : β → Except Stop Bool) (f : α → β) (elements : List α) :
    count holds (elements.map f) = count (fun element => holds (f element)) elements := by
  induction elements with
  | nil => rfl
  | cons element rest ih => rw [List.map_cons, count, count, ih]

/-- Counting elements gives the number of those that are kept, or stops for the same reason. -/
theorem count_eq_length_gather (holds : α → Except Stop Bool) (elements : List α) :
    count holds elements = (gather (keep holds) elements).map List.length := by
  induction elements with
  | nil => rfl
  | cons element rest ih =>
    rw [count, gather, keep, ih]
    cases holds element with
    | error stop => rfl
    | ok held =>
      cases gather (keep holds) rest with
      | error stop => rfl
      | ok kept => cases held <;> rfl

theorem overRange_of_known {span : Span} {range : Value} {elements? : Value → Option (List α)}
    {loop : List α → Outcome} (known : range.Known) :
    overRange span range elements? loop =
      match elements? range with
      | some elements => loop elements
      | none => .error ⟨.noOverload .loop [range.typeName], span⟩ := by
  cases range with
  | unknown names => cases known
  | _ => rfl

end Loop

/-- A single name is bound to the elements, one after the other. -/
theorem Binder.frames?_single (name : String) (range : Value) :
    frames? ⟨none, name⟩ range = range.elements?.map (·.map ([·])) := rfl

/-! ### Values -/

namespace Value

variable {names : Names} {items : List Value}

theorem ifKnown_unknown (result : Except EvalError.Cause Value) :
    ifKnown [unknown names] result = .ok (unknown names) := by
  simp only [ifKnown, unknowns?, Option.getD_none, Names.union_empty]

theorem strict_eq_unknown (n : Int64) : strict .eq (unknown names) (int n) = .ok (unknown names) := by
  simp only [strict, ifKnown, unknowns?, Option.getD_none, Names.union_empty]

theorem strict_eq_int (n m : Int64) : strict .eq (int n) (int m) = .ok (bool (n == m)) := by
  have same : (Ord.compare n m == .eq) = (n == m) := by
    rw [Bool.eq_iff_iff, beq_iff_eq, beq_iff_eq, Std.compare_eq_iff_eq]
  simp only [strict, ifKnown, unknowns?, equal, compareNumbers]
  rw [← same]
  cases Ord.compare n m <;> rfl

theorem size_list : size (list items) = signed .size items.length := rfl

/-- The number of items, where it is a signed integer, is the size of a list. -/
theorem exists_size_list (fits : items.length < 2 ^ 63) :
    ∃ n : Int64, n.toInt = items.length ∧ size (list items) = .ok (int n) := by
  have value : (Int64.ofInt items.length).toInt = items.length :=
    Int64.toInt_ofInt_of_le (by omega) (by omega)
  refine ⟨_, value, ?_⟩
  rw [size_list, signed, Number.int64?_eq_some_iff.mpr value]

theorem size_list_of_le (long : 2 ^ 63 ≤ items.length) :
    size (list items) = .error (.overflow .size) := by
  have outside : Number.int64? items.length = none := by
    rw [Number.int64?_eq_none_iff]
    omega
  rw [size_list, signed, outside]

end Value

/-! ### Terms -/

namespace Eval

open EvalError (locate)
open Loop (Stop finish gather)

variable {activation : Activation} {locals : List Value} {span sizeSpan oneSpan : Span} {x : String}
  {range test : Term}

/-- Whether a value has the size 1. -/
def sizeIsOne (span sizeSpan : Span) (value : Value) : Outcome := do
  let size ← locate sizeSpan (Value.ifKnown [value] value.size)
  locate span (Value.strict .eq size (.int 1))

theorem eval_size_eq_one [Engines] (operand : Term) :
    eval activation locals
        (.strict span .eq (.call sizeSpan .size [operand]) (.constant oneSpan (.int 1))) =
      eval activation locals operand >>= sizeIsOne span sizeSpan := by
  simp only [eval, evalAll]
  cases eval activation locals operand <;> rfl

theorem sizeIsOne_unknown (names : Names) :
    sizeIsOne span sizeSpan (.unknown names) = .ok (.unknown names) := by
  rw [sizeIsOne, Value.ifKnown_unknown]
  change locate span (Value.strict .eq (.unknown names) (.int 1)) = _
  rw [Value.strict_eq_unknown]
  rfl

theorem sizeIsOne_list_of_lt {items : List Value} (fits : items.length < 2 ^ 63) :
    sizeIsOne span sizeSpan (.list items) = .ok (.bool (items.length == 1)) := by
  obtain ⟨n, length, size⟩ := Value.exists_size_list fits
  have same : (n == 1) = (items.length == 1) := by
    rw [Bool.eq_iff_iff, beq_iff_eq, beq_iff_eq, ← Int64.toInt_inj, length]
    exact Int.natCast_inj (n := 1)
  change (locate sizeSpan (Value.size (.list items)) >>= _) = _
  rw [size]
  change locate span (Value.strict .eq (.int n) (.int 1)) = _
  rw [Value.strict_eq_int, same]
  rfl

theorem sizeIsOne_list_of_le {items : List Value} (long : 2 ^ 63 ≤ items.length) :
    sizeIsOne span sizeSpan (.list items) = .error ⟨.overflow .size, sizeSpan⟩ := by
  change (locate sizeSpan (Value.size (.list items)) >>= _) = _
  rw [Value.size_list_of_le long]
  rfl

/-- The number of what is kept is 1 if its size is, which a list that is too long does not have. -/
theorem finish_count_eq_iff (kept : Except Stop (List Value)) :
    finish (do return .bool ((← kept.map List.length) == 1)) =
        (finish (do return .list (← kept)) >>= sizeIsOne span sizeSpan) ↔
      ∀ items, finish (do return .list (← kept)) = .ok (.list items) → items.length < 2 ^ 63 := by
  cases kept with
  | error stop =>
    cases stop with
    | error error => exact iff_of_true rfl nofun
    | unknown names =>
      have unknown : sizeIsOne span sizeSpan (.unknown names) = _ := sizeIsOne_unknown names
      exact iff_of_true unknown.symm nofun
  | ok items =>
    have counted : finish (do return .bool ((← (Except.ok items).map List.length) == 1)) =
        .ok (.bool (items.length == 1)) := rfl
    have listed : finish (do return .list (← Except.ok items)) = .ok (.list items) := rfl
    rw [counted, listed, bind_eq_of_eq_ok rfl]
    rcases Nat.lt_or_ge items.length (2 ^ 63) with fits | long
    · refine iff_of_true (sizeIsOne_list_of_lt fits).symm ?_
      rintro _ ⟨⟩
      exact fits
    · rw [sizeIsOne_list_of_le long]
      exact iff_of_false nofun fun fits => Nat.not_lt.mpr long (fits items rfl)

/-- Counting the elements that satisfy a test comes to asking whether the list of them has the size 1. The
size of a list is a signed integer, and only a list that is too long for this makes a difference. -/
theorem eval_existsOne_eq_iff [Engines] :
    eval activation locals (.quantified span .existsOne ⟨none, x⟩ range test) =
        eval activation locals (.strict sizeSpan .eq
          (.call sizeSpan .size [.filter span x range test]) (.constant oneSpan (.int 1))) ↔
      ∀ items, eval activation locals (.filter span x range test) = .ok (.list items) →
        items.length < 2 ^ 63 := by
  rw [eval_size_eq_one, eval, eval]
  cases eval activation locals range with
  | error error =>
    refine iff_of_true rfl ?_
    rintro items ⟨⟩
  | ok container =>
    let holds (element : Value) : Except Stop Bool :=
      Loop.truth span (eval activation (element :: locals) test)
    have counted (elements : List Value) :
        quantify .existsOne span (fun frame => eval activation (frame ++ locals) test)
            (elements.map ([·])) =
          finish (do return .bool ((← (gather (Loop.keep holds) elements).map List.length) == 1)) := by
      rw [quantify, Loop.count_map, Loop.count_eq_length_gather]
      rfl
    rw [bind_eq_of_eq_ok rfl, bind_eq_of_eq_ok rfl]
    by_cases known : container.Known
    · rw [Loop.overRange_of_known known, Loop.overRange_of_known known, Binder.frames?_single]
      cases container.elements? with
      | none =>
        refine iff_of_true rfl ?_
        rintro items ⟨⟩
      | some elements =>
        simp only [Option.map_some, counted]
        exact finish_count_eq_iff _
    · obtain ⟨names, rfl⟩ := Value.not_known_iff.mp known
      have unknown : sizeIsOne sizeSpan sizeSpan (.unknown names) = _ := sizeIsOne_unknown names
      refine iff_of_true unknown.symm ?_
      rintro items ⟨⟩

end Eval

/-! ### Expressions -/

namespace Check

section Forms

variable [Engines] {scope : List String} {x : String} {range test : Expr Unit} {term : Term}

/-- Whether the range and the test of a loop over `x` are checked to two terms. -/
def Checked (scope : List String) (x : String) (range test : Expr Unit) (parts : Term × Term) : Prop :=
  check true scope range.unplaced = .ok parts.1 ∧ check true (x :: scope) test.unplaced = .ok parts.2

theorem check_existsOne_eq_ok_iff :
    check true scope (Expr.unplaced
        (.call () (.member () range "exists_one") [.ident () x, test])) = .ok term ↔
      ∃ parts, Checked scope x range test parts ∧
        .quantified Mark.nowhere.span .existsOne ⟨none, x⟩ parts.1 parts.2 = term := by
  have isMacro : Macro.named? "exists_one" true = some (.quantifier .existsOne) := rfl
  simp only [Expr.unplaced, Expr.unplacedAll, check, if_true, isMacro, loopVariable, bind_eq_ok_iff,
    Except.ok.injEq, exists_eq_left', pure, Except.pure, Checked, Prod.exists]
  constructor
  · rintro ⟨rangeTerm, ranges, testTerm, tests, made⟩
    exact ⟨rangeTerm, testTerm, ⟨ranges, tests⟩, made⟩
  · rintro ⟨rangeTerm, testTerm, ⟨ranges, tests⟩, made⟩
    exact ⟨rangeTerm, ranges, testTerm, tests, made⟩

theorem check_size_filter_eq_ok_iff :
    check true scope (Expr.unplaced
        (.binary () .eq (.call () (.member () (.call () (.member () range "filter")
          [.ident () x, test]) "size") []) (.constant () (.int 1)))) = .ok term ↔
      ∃ parts, Checked scope x range test parts ∧
        .strict Mark.nowhere.span .eq (.call Mark.nowhere.span .size
          [.filter Mark.nowhere.span x parts.1 parts.2]) (.constant Mark.nowhere.span (.int 1)) =
            term := by
  have isFilter : Macro.named? "filter" true = some .filter := rfl
  have isFunction : Macro.named? "size" true = none := rfl
  have resolved (argument : Term) : resolve .nowhere "size" true [argument] =
      .ok (.call Mark.nowhere.span .size [argument]) := rfl
  simp only [Expr.unplaced, Expr.unplacedAll, check, checkAll, if_true, isFilter, isFunction, resolved,
    loopVariable, bind_eq_ok_iff, Except.ok.injEq, exists_eq_left', pure, Except.pure, binary, Checked,
    Prod.exists]
  constructor
  · rintro ⟨_, ⟨_, ⟨rangeTerm, ranges, testTerm, tests, rfl⟩, rfl⟩, made⟩
    exact ⟨rangeTerm, testTerm, ⟨ranges, tests⟩, made⟩
  · rintro ⟨rangeTerm, testTerm, ⟨ranges, tests⟩, made⟩
    exact ⟨_, ⟨_, ⟨rangeTerm, ranges, testTerm, tests, rfl⟩, rfl⟩, made⟩

/-- Whether exactly one element satisfies a test is whether the list of those that do has the size 1. Both
forms give the same boolean, are unknown for the same names, or fail for the same reason, which has the kind
and the message of the failure. They differ only for a list of `2 ^ 63` elements or more, which no memory
holds, since its size is no signed integer. -/
theorem exists_one_agrees_with_filter_size (counting sizing : Expr Mark)
    (isCounting : counting.shape = .call () (.member () range "exists_one") [.ident () x, test])
    (isSizing : sizing.shape = .binary () .eq
      (.call () (.member () (.call () (.member () range "filter") [.ident () x, test]) "size") [])
      (.constant () (.int 1)))
    (scope : List String) :
    ((∃ term, check true scope counting = .ok term) ↔ ∃ term, check true scope sizing = .ok term) ∧
      ∀ term term', check true scope counting = .ok term → check true scope sizing = .ok term' →
        ∃ rangeTerm testTerm, Checked scope x range test (rangeTerm, testTerm) ∧
          ∀ activation locals,
            (Eval.eval activation locals term).mapError (·.cause) =
                (Eval.eval activation locals term').mapError (·.cause) ↔
              ∀ items, Eval.eval activation locals
                  (.filter Mark.nowhere.span x rangeTerm testTerm) = .ok (.list items) →
                items.length < 2 ^ 63 := by
  have counts (alike : Term) := @check_existsOne_eq_ok_iff _ scope x range test alike
  have sizes (alike : Term) := @check_size_filter_eq_ok_iff _ scope x range test alike
  simp only [← isCounting] at counts
  simp only [← isSizing] at sizes
  obtain ⟨sameSuccess, sameParts⟩ := check_of_same_parts counts sizes
  refine ⟨sameSuccess, fun term term' checked checked' => ?_⟩
  obtain ⟨⟨rangeTerm, testTerm⟩, isChecked, made, made'⟩ := sameParts term term' checked checked'
  refine ⟨rangeTerm, testTerm, isChecked, fun activation locals => ?_⟩
  rw [← Eval.eval_unplaced_eq_iff, made, made', Eval.eval_existsOne_eq_iff]

end Forms

/-- Of `1` and `0`, both forms find the first to divide `1` evenly, and fail to divide by the second. -/
theorem exists_one_agrees_with_filter_size_of_division :
    let mark (id : Nat) : Mark := ⟨id, .point id⟩
    let number (id : Nat) (n : Int64) : Expr Mark := .constant (mark id) (.int n)
    let range (id : Nat) : Expr Mark := .list (mark id) [number id 1, number id 0]
    let x (id : Nat) : Expr Mark := .ident (mark id) "x"
    let test (id : Nat) : Expr Mark :=
      .binary (mark id) .eq (.binary (mark id) .div (number id 1) (x id)) (number id 1)
    let counting : Expr Mark :=
      .call (mark 0) (.member (mark 0) (range 0) "exists_one") [x 0, test 0]
    let sizing : Expr Mark := .binary (mark 1) .eq (.call (mark 1) (.member (mark 1)
      (.call (mark 1) (.member (mark 1) (range 1) "filter") [x 1, test 1]) "size") []) (number 1 1)
    ∃ term term', check true [] counting = .ok term ∧ check true [] sizing = .ok term' ∧
      (Eval.eval .empty [] term).mapError (·.cause) = .error .divisionByZero ∧
      (Eval.eval .empty [] term').mapError (·.cause) = .error .divisionByZero := by
  intro mark number range x test counting sizing
  obtain ⟨sameSuccess, sameOutcomes⟩ := exists_one_agrees_with_filter_size counting sizing rfl rfl []
  obtain ⟨term', checked'⟩ := sameSuccess.mp ⟨_, rfl⟩
  obtain ⟨rangeTerm, testTerm, ⟨ranges, tests⟩, same⟩ := sameOutcomes _ term' rfl checked'
  cases ranges
  cases tests
  have fails := (same .empty []).mpr nofun
  exact ⟨_, term', rfl, checked', rfl, fails.symm⟩

end Check

end Cel
