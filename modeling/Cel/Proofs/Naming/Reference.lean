import Cel.Check
import Cel.Eval

/-! # Evaluation by names

The meaning of an expression as it is written, with macros, by an environment that binds names to
values. It knows nothing of depths, of scopes or of a checked term: a loop evaluates its range in the
environment around it and its body in that environment with one or two further bindings, and an
identifier means what its innermost binding says. Only expressions that checking accepts have a
meaning; what the definition gives for others is of no interest.
-/

namespace Cel.Naming

open EvalError (Cause locate)

/-- The bindings of the enclosing loops, the innermost first. -/
abbrev Environment := List (String × Value)

/-- The value of an identifier: what the innermost loop binds to it, and otherwise the variable of
that name. -/
def readName (activation : Activation) (env : Environment) (span : Span) (name : String) : Outcome :=
  match env.lookup name with
  | some value => .ok value
  | none => Eval.readVariable activation span name

/-- What a loop over a value and its index or key binds for each element: the index or key first, and
inside it the value. -/
def pairBindings? (index value : String) : Value → Option (List Environment)
  | .list items =>
    some (items.mapIdx fun position item =>
      [(value, item), (index, .int (Int64.ofNat position))])
  | .map entries =>
    some (entries.map fun (key, stored) => [(value, stored), (index, .ofKey key)])
  | _ => none

/-- What a loop over values binds for each element. -/
def bindings? (value : String) (range : Value) : Option (List Environment) :=
  range.elements?.map fun elements => elements.map fun element => [(value, element)]

/-- The outcome of a binary operator whose operands have the given outcomes. -/
def binary (op : BinaryOp) (span : Span) (left right : Outcome) : Outcome :=
  match op with
  | .and => Connective.and.combine span left right
  | .or => Connective.or.combine span left right
  | op => do
    let left ← left
    let right ← right
    locate span (Value.strict op left right)

variable [Engines]

/-- What a function makes of known values. The one that searches for a pattern compiles it first. -/
def applied (function : Builtin) (values : List Value) : Except Cause Value :=
  match function, values with
  | .matches, [target, pattern] => target.matches pattern
  | function, values => function.call values

/-- The outcome of a call of the function `name`, which fails before its arguments are evaluated if
there is no such function. -/
def applyNamed (span : Span) (name : String) (args : Except EvalError (List Value)) : Outcome :=
  match Builtin.named? name with
  | none => .error ⟨.unknownFunction name, span⟩
  | some function => do
    let values ← args
    locate span (Value.ifKnown values (applied function values))

/-- The name of a struct type. -/
def structName (typeName : Expr Mark) : String :=
  String.ofList ((typeName.qualifiedName?.getD "").toList.dropWhile (· == '.'))

mutual

/-- The outcome of an expression in an environment. -/
def eval (activation : Activation) (env : Environment) : Expr Mark → Outcome
  | .constant _ value => .ok (.ofConstant value)
  | .ident mark name => readName activation env mark.span name
  | .rootIdent mark name => Eval.readVariable activation mark.span name
  | .list _ items => do return Value.listOf (← evalAll activation env items)
  | .map _ entries => do Eval.mapOf (← evalEntries activation env entries)
  | .struct _ typeName fields => do
    return Eval.structOf (structName typeName) (← evalFields activation env fields)
  | .unary mark op operand => do
    let value ← eval activation env operand
    locate mark.span (value.unary op)
  | .binary mark op left right =>
    binary op mark.span (eval activation env left) (eval activation env right)
  | .ternary mark condition yes no => do
    match ← eval activation env condition with
    | .bool true => eval activation env yes
    | .bool false => eval activation env no
    | .unknown names => .ok (.unknown names)
    | other => .error ⟨.noOverload .conditional [other.typeName], mark.span⟩
  | .member mark operand field => do
    let value ← eval activation env operand
    locate mark.span (value.select field)
  | .index mark operand position => do
    let container ← eval activation env operand
    let position ← eval activation env position
    locate mark.span (container.index position)
  | .call mark (.ident _ name) args =>
    match Macro.named? name false, args with
    | some .has, [.member _ operand field] => do
      let value ← eval activation env operand
      locate mark.span (value.has field)
    | _, args => applyNamed mark.span name (evalAll activation env args)
  | .call mark (.member _ receiver name) args =>
    match Macro.named? name true, args with
    | some (.quantifier kind), [.ident _ value, predicate] => do
      let range ← eval activation env receiver
      Loop.overRange mark.span range (bindings? value) <|
        Eval.quantify kind mark.span fun bindings => eval activation (bindings ++ env) predicate
    | some (.quantifier kind), [.ident _ index, .ident _ value, predicate] => do
      let range ← eval activation env receiver
      Loop.overRange mark.span range (pairBindings? index value) <|
        Eval.quantify kind mark.span fun bindings => eval activation (bindings ++ env) predicate
    | some .filter, [.ident _ value, predicate] => do
      let range ← eval activation env receiver
      Loop.overRange mark.span range Value.elements? fun elements =>
        let holds := fun element =>
          Loop.truth mark.span (eval activation ((value, element) :: env) predicate)
        Loop.finish do return .list (← Loop.gather (Loop.keep holds) elements)
    | some .map, [.ident _ value, body] => do
      let range ← eval activation env receiver
      Loop.overRange mark.span range Value.elements? fun elements =>
        let step := fun element => do
          return some (← Loop.valueOf (eval activation ((value, element) :: env) body))
        Loop.finish do return Value.listOf (← Loop.gather step elements)
    | some .map, [.ident _ value, predicate, body] => do
      let range ← eval activation env receiver
      Loop.overRange mark.span range Value.elements? fun elements =>
        let step := fun element => do
          if ← Loop.truth mark.span (eval activation ((value, element) :: env) predicate) then
            return some (← Loop.valueOf (eval activation ((value, element) :: env) body))
          else return none
        Loop.finish do return Value.listOf (← Loop.gather step elements)
    | _, args => applyNamed mark.span name do
      let receiver ← eval activation env receiver
      let values ← evalAll activation env args
      return receiver :: values
  | .call mark _ args => applyNamed mark.span "" (evalAll activation env args)

def evalAll (activation : Activation) (env : Environment) :
    List (Expr Mark) → Except EvalError (List Value)
  | [] => .ok []
  | e :: rest => do
    let value ← eval activation env e
    let values ← evalAll activation env rest
    return value :: values

def evalEntries (activation : Activation) (env : Environment) :
    List (Expr Mark × Expr Mark) → Except EvalError (List (Span × Value × Value))
  | [] => .ok []
  | (key, value) :: rest => do
    let evaluatedKey ← eval activation env key
    let evaluated ← eval activation env value
    let entries ← evalEntries activation env rest
    return (key.note.span, evaluatedKey, evaluated) :: entries

def evalFields (activation : Activation) (env : Environment) :
    List (String × Expr Mark) → Except EvalError (List (String × Value))
  | [] => .ok []
  | (field, e) :: rest => do
    let value ← eval activation env e
    let fields ← evalFields activation env rest
    return (field, value) :: fields

end

end Cel.Naming
