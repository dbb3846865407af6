import Cel.Eval
import Cel.Proofs.Except

/-! # Operations on evaluated operands

Once its operands have been evaluated, an operation gives what it computes from their values. If an operand
fails, the operation fails in the same way, and an operand behind one that fails does not count.
-/

namespace Cel.Eval

open EvalError (locate)

variable [Engines] {activation : Activation} {locals : List Value} {term left right : Term} {span : Span}

theorem eval_call_of_arg {value : Value} (evaluated : eval activation locals term = .ok value)
    (span : Span) (function : Builtin) : eval activation locals (.call span function [term]) =
      locate span (Value.ifKnown [value] (function.call [value])) := by
  simp only [eval, evalAll, evaluated]
  rfl

theorem eval_unary_of_operand {op : UnaryOp} {value : Value}
    (evaluated : eval activation locals term = .ok value) :
    eval activation locals (.unary span op term) = locate span (value.unary op) := by
  rw [eval]
  exact bind_eq_of_eq_ok evaluated

theorem eval_unary_of_failure {op : UnaryOp} {error : EvalError}
    (fails : eval activation locals term = .error error) :
    eval activation locals (.unary span op term) = .error error := by
  rw [eval, fails]
  rfl

theorem eval_strict_of_operands {op : BinaryOp} {a b : Value}
    (evaluated : eval activation locals left = .ok a) (evaluated' : eval activation locals right = .ok b) :
    eval activation locals (.strict span op left right) = locate span (Value.strict op a b) := by
  rw [eval]
  exact (bind_eq_of_eq_ok evaluated).trans (bind_eq_of_eq_ok evaluated')

theorem eval_strict_of_left_failure {op : BinaryOp} {error : EvalError}
    (fails : eval activation locals left = .error error) :
    eval activation locals (.strict span op left right) = .error error := by
  rw [eval, fails]
  rfl

theorem eval_strict_of_right_failure {op : BinaryOp} {a : Value} {error : EvalError}
    (evaluated : eval activation locals left = .ok a)
    (fails : eval activation locals right = .error error) :
    eval activation locals (.strict span op left right) = .error error := by
  rw [eval]
  refine (bind_eq_of_eq_ok evaluated).trans ?_
  rw [fails]
  rfl

end Cel.Eval
