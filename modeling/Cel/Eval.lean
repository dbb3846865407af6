import Cel.Eval.Access
import Cel.Eval.Functions
import Cel.Eval.Loop

/-! # Evaluation

The value of a term under an activation, which gives values to variables and may withhold some of
them. A strict operation fails if one of its operands fails, and is unknown if one of them is unknown.
Operands are evaluated from left to right, and the first failure counts. Every failure carries the
span of the innermost node that failed.
-/

namespace Cel

/-- Where variables get their values. A variable can be declared unknown whether or not it has a
value. -/
structure Activation where
  value? : String → Option Value
  isUnknown : String → Bool

/-- The activation without variables. -/
def Activation.empty : Activation := ⟨fun _ => none, fun _ => false⟩

/-- A constant as a value. -/
def Value.ofConstant : Constant → Value
  | .null => .null
  | .bool b => .bool b
  | .int n => .int n
  | .uint n => .uint n
  | .double d => .double d
  | .string text => .string text
  | .bytes content => .bytes content

namespace Eval

open EvalError (locate)

/-- The value of a variable. -/
def readVariable (activation : Activation) (span : Span) (name : String) : Outcome :=
  if activation.isUnknown name then .ok (.unknown (.singleton name))
  else match activation.value? name with
    | some value => .ok value
    | none => .error ⟨.unknownVariable name, span⟩

/-- The entries of a map literal, from their evaluated keys and values. Each key stands with its
span. No key may be equal to an earlier one, even if it is of another kind. -/
def entriesOf (entries : List (MapKey × Value)) :
    List (Span × Value × Value) → Except EvalError (List (MapKey × Value))
  | [] => .ok entries
  | (span, key, value) :: rest =>
    match key.key? with
    | none => .error ⟨.keyType key.typeName, span⟩
    | some stored =>
      if (key.lookup? entries).isSome then .error ⟨.repeatedKey key, span⟩
      else entriesOf (Entries.insert stored value entries) rest

/-- The keys and values of a map literal in source order. -/
def keysAndValues (evaluated : List (Span × Value × Value)) : List Value :=
  evaluated.flatMap fun (_, key, value) => [key, value]

/-- A map literal with evaluated keys and values. -/
def mapOf (evaluated : List (Span × Value × Value)) : Outcome :=
  match Value.unknowns? (keysAndValues evaluated) with
  | some names => .ok (.unknown names)
  | none => do return .map (← entriesOf [] evaluated)

/-- A struct literal with evaluated fields. -/
def structOf (typeName : String) (fields : List (String × Value)) : Value :=
  match Value.unknowns? (fields.map (·.2)) with
  | some names => .unknown names
  | none => .ofFields typeName fields

/-- The outcome of a quantifier over frames of bound values. -/
def quantify {α : Type} (kind : Quantifier) (span : Span) (test : α → Outcome) (frames : List α) :
    Outcome :=
  match kind with
  | .all => Loop.search false span test .none frames
  | .exists => Loop.search true span test .none frames
  | .existsOne =>
    Loop.finish do
      let count ← Loop.count (fun frame => Loop.truth span (test frame)) frames
      return .bool (count == 1)

variable [Engines]

mutual

/-- Evaluate a term under loops that bind the values `locals`, the innermost first. -/
def eval (activation : Activation) (locals : List Value) : Term → Outcome
  | .constant _ value => .ok (.ofConstant value)
  | .free span name => readVariable activation span name
  | .bound span name depth =>
    match locals[depth]? with
    | some value => .ok value
    | none => .error ⟨.unboundName name, span⟩
  | .select span operand field => do
    let value ← eval activation locals operand
    locate span (value.select field)
  | .has span operand field => do
    let value ← eval activation locals operand
    locate span (value.has field)
  | .index span operand position => do
    let container ← eval activation locals operand
    let position ← eval activation locals position
    locate span (container.index position)
  | .list _ items => do return Value.listOf (← evalAll activation locals items)
  | .map _ entries => do mapOf (← evalEntries activation locals entries)
  | .struct _ typeName fields => do return structOf typeName (← evalFields activation locals fields)
  | .unary span op operand => do
    let value ← eval activation locals operand
    locate span (value.unary op)
  | .strict span op left right => do
    let left ← eval activation locals left
    let right ← eval activation locals right
    locate span (Value.strict op left right)
  | .and span left right =>
    match eval activation locals left with
    | .ok (.bool false) => .ok (.bool false)
    | left => Connective.and.combine span left (eval activation locals right)
  | .or span left right =>
    match eval activation locals left with
    | .ok (.bool true) => .ok (.bool true)
    | left => Connective.or.combine span left (eval activation locals right)
  | .conditional span condition yes no => do
    match ← eval activation locals condition with
    | .bool true => eval activation locals yes
    | .bool false => eval activation locals no
    | .unknown names => .ok (.unknown names)
    | other => .error ⟨.noOverload .conditional [other.typeName], span⟩
  | .call span function args => do
    let values ← evalAll activation locals args
    locate span (Value.ifKnown values (function.call values))
  | .unknownCall span name _ => .error ⟨.unknownFunction name, span⟩
  | .matches span target _ pattern => do
    let value ← eval activation locals target
    locate span (Value.ifKnown [value] (value.testPattern pattern))
  | .search span target pattern => do
    let target ← eval activation locals target
    let pattern ← eval activation locals pattern
    locate span (Value.ifKnown [target, pattern] (target.matches pattern))
  | .quantified span kind binder range predicate => do
    let range ← eval activation locals range
    Loop.overRange span range binder.frames? (quantify kind span fun frame =>
      eval activation (frame ++ locals) predicate)
  | .filter span _ range predicate => do
    let range ← eval activation locals range
    Loop.overRange span range Value.elements? fun elements =>
      let holds := fun element => Loop.truth span (eval activation (element :: locals) predicate)
      Loop.finish do return .list (← Loop.gather (Loop.keep holds) elements)
  | .collect span _ range body => do
    let range ← eval activation locals range
    Loop.overRange span range Value.elements? fun elements =>
      let step := fun element => do
        return some (← Loop.valueOf (eval activation (element :: locals) body))
      Loop.finish do return Value.listOf (← Loop.gather step elements)
  | .collectIf span _ range predicate body => do
    let range ← eval activation locals range
    Loop.overRange span range Value.elements? fun elements =>
      let step := fun element => do
        if ← Loop.truth span (eval activation (element :: locals) predicate) then
          return some (← Loop.valueOf (eval activation (element :: locals) body))
        else return none
      Loop.finish do return Value.listOf (← Loop.gather step elements)

def evalAll (activation : Activation) (locals : List Value) :
    List Term → Except EvalError (List Value)
  | [] => .ok []
  | term :: rest => do
    let value ← eval activation locals term
    let values ← evalAll activation locals rest
    return value :: values

def evalEntries (activation : Activation) (locals : List Value) :
    List (Term × Term) → Except EvalError (List (Span × Value × Value))
  | [] => .ok []
  | (key, value) :: rest => do
    let evaluatedKey ← eval activation locals key
    let evaluated ← eval activation locals value
    let entries ← evalEntries activation locals rest
    return (key.span, evaluatedKey, evaluated) :: entries

def evalFields (activation : Activation) (locals : List Value) :
    List (String × Term) → Except EvalError (List (String × Value))
  | [] => .ok []
  | (field, term) :: rest => do
    let value ← eval activation locals term
    let fields ← evalFields activation locals rest
    return (field, value) :: fields

end

/-- A conjunction combines the outcomes of its operands, the second of which need not be known when
the first is false. -/
theorem eval_and (activation : Activation) (locals : List Value) (span : Span) (left right : Term) :
    eval activation locals (.and span left right) =
      Connective.and.combine span (eval activation locals left) (eval activation locals right) := by
  simp only [eval]
  split
  · next decided => simp [Connective.combine, decided, Outcome.isBool, Connective.decisive]
  · rfl

/-- A disjunction combines the outcomes of its operands, the second of which need not be known when
the first is true. -/
theorem eval_or (activation : Activation) (locals : List Value) (span : Span) (left right : Term) :
    eval activation locals (.or span left right) =
      Connective.or.combine span (eval activation locals left) (eval activation locals right) := by
  simp only [eval]
  split
  · next decided => simp [Connective.combine, decided, Outcome.isBool, Connective.decisive]
  · rfl

end Eval

/-- The outcome of a checked expression. -/
def Term.eval [Engines] (term : Term) (activation : Activation) : Outcome := Eval.eval activation [] term

end Cel
