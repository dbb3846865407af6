import Cel.Proofs.Chain

/-! # The laws of the connectives

Up to which of several failures is reported, `&&` and `||` are commutative and associative, and a
negation turns each into the other, whatever their operands are or do. The laws hold of the verdicts
of the operands, which are added up, and negation keeps verdicts: what decides `&&` decides `||` once
it is negated.
-/

namespace Cel

namespace Connective

/-- The connective that another one becomes under a negation. -/
def dual : Connective → Connective
  | and => or
  | or => and

/-- The outcome of a negation whose operand has the given outcome. -/
def negated (span : Span) (operand : Outcome) : Outcome := do
  EvalError.locate span ((← operand).unary .not)

theorem eval_not [Engines] (activation : Activation) (locals : List Value) (span : Span) (operand : Term) :
    Eval.eval activation locals (.unary span .not operand) =
      negated span (Eval.eval activation locals operand) := by
  rw [Eval.eval]
  rfl

/-- A negation gives a boolean or an unknown value, or it fails. -/
theorem settled_negated (op : Connective) (span : Span) (operand : Outcome) :
    op.Settled (negated span operand) := by
  cases operand with
  | error error => exact op.settled_error error
  | ok value =>
    cases value with
    | bool b => exact op.settled_bool (!b)
    | unknown names => exact op.settled_unknown names
    | _ => exact op.settled_error _

/-- To the dual connective, a negated operand amounts to what the operand amounts to. -/
theorem verdict_negated (op : Connective) (span : Span) (operand : Outcome) :
    op.dual.verdict (negated span operand) = op.verdict operand := by
  cases operand with
  | error error => rfl
  | ok value =>
    cases value with
    | bool b => cases op <;> cases b <;> rfl
    | _ => rfl

/-- Whether an outcome is a failure, a boolean or an unknown value. -/
def IsTruth (outcome : Outcome) : Prop :=
  (∃ error, outcome = .error error) ∨ (∃ b, outcome = .ok (.bool b)) ∨
    ∃ names, outcome = .ok (.unknown names)

theorem isTruth_combine (op : Connective) (span : Span) (left right : Outcome) :
    IsTruth (op.combine span left right) := by
  unfold combine
  split
  · exact .inr (.inl ⟨_, rfl⟩)
  · split
    · exact .inr (.inr ⟨_, rfl⟩)
    · exact .inr (.inr ⟨_, rfl⟩)
    · exact .inr (.inr ⟨_, rfl⟩)
    · exact .inl ⟨_, rfl⟩
    · exact .inl ⟨_, rfl⟩
    · exact .inr (.inl ⟨_, rfl⟩)
    · exact .inl ⟨_, rfl⟩

theorem combine_comm (op : Connective) (span span' : Span) (a b : Outcome) :
    (op.combine span a b).SameResult (op.combine span' b a) := by
  apply (op.settled_combine span a b).sameResult (op.settled_combine span' b a)
  rw [verdict_combine, verdict_combine, add_comm]

theorem combine_assoc (op : Connective) (span inner span' inner' : Span) (a b c : Outcome) :
    (op.combine span (op.combine inner a b) c).SameResult
      (op.combine span' a (op.combine inner' b c)) := by
  apply (op.settled_combine span _ c).sameResult (op.settled_combine span' a _)
  calc op.verdict (op.combine span (op.combine inner a b) c)
    _ = op.verdict a + op.verdict b + op.verdict c := by rw [verdict_combine, verdict_combine]
    _ = op.verdict a + (op.verdict b + op.verdict c) := add_assoc _ _ _
    _ = op.verdict (op.combine span' a (op.combine inner' b c)) := by
      rw [verdict_combine, verdict_combine]

theorem negated_combine (op : Connective) (span inner span' left right : Span) (a b : Outcome) :
    (negated span (op.combine inner a b)).SameResult
      (op.dual.combine span' (negated left a) (negated right b)) := by
  apply (op.dual.settled_negated span _).sameResult (op.dual.settled_combine span' _ _)
  calc op.dual.verdict (negated span (op.combine inner a b))
    _ = op.verdict a + op.verdict b := by rw [verdict_negated, verdict_combine]
    _ = op.dual.verdict (op.dual.combine span' (negated left a) (negated right b)) := by
      rw [verdict_combine, verdict_negated, verdict_negated]

end Connective

namespace Eval

/-- Each of the two connectives gives a boolean or an unknown value unless it fails, and is commutative,
associative and dual to the other one: the two sides of each law give the same value, or both fail. -/
theorem connective_laws [Engines] (op : Connective) (activation : Activation) (locals : List Value)
    (a b c : Term) :
    let outcome := eval activation locals
    (∀ span, Connective.IsTruth (outcome (op.term span a b))) ∧
    (∀ span span', (outcome (op.term span a b)).SameResult (outcome (op.term span' b a))) ∧
    (∀ span inner span' inner', (outcome (op.term span (op.term inner a b) c)).SameResult
      (outcome (op.term span' a (op.term inner' b c)))) ∧
    ∀ span inner span' left right, (outcome (.unary span .not (op.term inner a b))).SameResult
      (outcome (op.dual.term span' (.unary left .not a) (.unary right .not b))) := by
  intro outcome
  refine ⟨?_, ?_, ?_, ?_⟩
  · intro span
    simp only [outcome, Connective.eval_term]
    exact op.isTruth_combine span _ _
  · intro span span'
    simp only [outcome, Connective.eval_term]
    exact op.combine_comm span span' _ _
  · intro span inner span' inner'
    simp only [outcome, Connective.eval_term]
    exact op.combine_assoc span inner span' inner' _ _ _
  · intro span inner span' left right
    simp only [outcome, Connective.eval_term, Connective.eval_not]
    exact op.negated_combine span inner span' left right _ _

end Eval

end Cel
