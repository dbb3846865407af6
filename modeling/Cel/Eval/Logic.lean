import Cel.Eval.Error

/-! # Logical connectives

A conjunction is decided by one false operand and a disjunction by one true operand, whatever the
other operand is or does. Where neither operand decides, an unknown operand makes the result unknown,
before a failing operand makes it fail, before an operand that is no boolean does.
-/

namespace Cel

/-- What evaluating a term gives. -/
abbrev Outcome := Except EvalError Value

namespace Outcome

/-- Whether an outcome is the given boolean. -/
def isBool (expected : Bool) : Outcome → Bool
  | .ok (.bool b) => b == expected
  | _ => false

theorem isBool_iff {expected : Bool} {outcome : Outcome} :
    outcome.isBool expected = true ↔ outcome = .ok (.bool expected) := by
  unfold isBool
  split
  · simp
  · next notBool => exact ⟨nofun, fun same => absurd same (notBool expected)⟩

end Outcome

inductive Connective where
  | and | or
deriving DecidableEq, Repr

namespace Connective

/-- The boolean that decides the result on its own. -/
def decisive : Connective → Bool
  | and => false
  | or => true

def operation : Connective → Operation
  | and => .and
  | or => .or

/-- The result of a connective whose operands have the given outcomes. -/
def combine (op : Connective) (span : Span) (left right : Outcome) : Outcome :=
  if left.isBool op.decisive || right.isBool op.decisive then .ok (.bool op.decisive)
  else match left, right with
    | .ok (.unknown a), .ok (.unknown b) => .ok (.unknown (a.union b))
    | .ok (.unknown a), _ => .ok (.unknown a)
    | _, .ok (.unknown b) => .ok (.unknown b)
    | .error error, _ => .error error
    | _, .error error => .error error
    | .ok (.bool _), .ok (.bool _) => .ok (.bool !op.decisive)
    | .ok a, .ok b => .error ⟨.noOverload op.operation [a.typeName, b.typeName], span⟩

end Connective

end Cel
