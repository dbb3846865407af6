import Cel.Term
import Cel.Time.Rfc3339
import Cel.Time.Zone
import Cel.Value.Text

/-! # Evaluation errors

Why an evaluation can fail, and the words for it. Messages name an operator with an underscore for
each operand, and show values the way they are written.
-/

namespace Cel

/-- Whatever can be applied to values. -/
inductive Operation where
  | unary (op : UnaryOp)
  | strict (op : BinaryOp)
  | and | or | conditional | index | has
  | select (field : String)
  | call (function : Builtin)
  | loop
deriving DecidableEq, Repr

/-- The name of an operation in messages. -/
def Operation.text : Operation → String
  | unary op => op.text ++ "_"
  | strict .in => "@in"
  | strict op => "_" ++ op.text ++ "_"
  | and => "_&&_"
  | or => "_||_"
  | conditional => "_?_:_"
  | index => "_[_]"
  | has => "has"
  | select field => "_." ++ field
  | call function => function.name
  | loop => "comprehension range"

/-- The operations on integers that may outgrow their range. -/
inductive Arithmetic where
  | add | sub | mul | div | mod
deriving DecidableEq, Repr

/-- What has outgrown the range of integers. -/
inductive Overflow where
  | signed (op : Arithmetic)
  | unsigned (op : Arithmetic)
  | negation
  | size
  | durationTotal
deriving DecidableEq, Repr

/-- The noun for an arithmetic operation. -/
def Arithmetic.noun : Arithmetic → String
  | .add => "addition"
  | .sub => "subtraction"
  | .mul => "multiplication"
  | .div => "division"
  | .mod => "modulo"

def Overflow.message : Overflow → String
  | signed op => s!"integer {op.noun} overflow"
  | unsigned op => s!"unsigned {op.noun} overflow"
  | negation => "integer negation overflow"
  | size => "size exceeds int range"
  | durationTotal => "duration total exceeds int range"

namespace EvalError

/-- The kinds of evaluation errors. -/
inductive Kind where
  | divisionByZero | overflow | typeMismatch | unknownIdentifier | unknownFunction
  | indexOutOfBounds | keyNotFound | fieldNotFound | invalidArgument | noMatchingOverload
  | invalidConversion | range
  /-- No checked term can fail in this way. -/
  | internal
deriving DecidableEq, Repr

/-- What has gone wrong. -/
inductive Cause where
  | divisionByZero
  | moduloByZero
  | overflow (what : Overflow)
  | notBool (actual : String)
  | unknownVariable (name : String)
  | unknownFunction (name : String)
  | indexOutOfBounds (index : Value) (length : Nat)
  | keyNotFound (key : Value)
  | fieldNotFound (field : String)
  | keyType (actual : String)
  | repeatedKey (key : Value)
  | pattern (source reason : String)
  | noValues (function : Builtin)
  | unorderedValues (function : Builtin)
  | timestampText (text : String) (fault : Timestamp.Fault)
  | durationText (text : String) (fault : Duration.Fault)
  | zoneText (text : String)
  | contextKind (actual : String)
  | noOverload (operation : Operation) (types : List String)
  | conversion (value : Value) (target : Builtin)
  | timestampRange
  | timestampSeconds (seconds : Int64)
  | noDate
  | durationRange
  | unboundName (name : String)
  | missingArgument (position : Nat)
  | strictLogic (op : BinaryOp)
  | dispatchedSearch
deriving Repr

namespace Cause

def kind : Cause → Kind
  | divisionByZero | moduloByZero => .divisionByZero
  | overflow _ => .overflow
  | notBool _ => .typeMismatch
  | unknownVariable _ => .unknownIdentifier
  | unknownFunction _ => .unknownFunction
  | indexOutOfBounds .. => .indexOutOfBounds
  | keyNotFound _ => .keyNotFound
  | fieldNotFound _ => .fieldNotFound
  | keyType _ | repeatedKey _ | pattern .. | noValues _ | unorderedValues _ | timestampText ..
  | durationText .. | zoneText _ | contextKind _ => .invalidArgument
  | noOverload .. => .noMatchingOverload
  | conversion .. => .invalidConversion
  | timestampRange | timestampSeconds _ | noDate | durationRange => .range
  | unboundName _ | missingArgument _ | strictLogic _ | dispatchedSearch => .internal

def message : Cause → String
  | divisionByZero => "division by zero"
  | moduloByZero => "modulo by zero"
  | overflow what => what.message
  | notBool actual => s!"expected bool, got {actual}"
  | unknownVariable name => s!"undeclared reference to '{name}'"
  | unknownFunction name => s!"unknown function: {name}"
  | indexOutOfBounds index length =>
    s!"index {index.text} out of bounds for list of length {length}"
  | keyNotFound key => s!"no such key: {key.text}"
  | fieldNotFound field => s!"no such field: {field}"
  | keyType actual => s!"unsupported map key type: {actual}"
  | repeatedKey key => s!"duplicate map key: {key.text}"
  | pattern source reason => s!"invalid regular expression '{source}': {reason}"
  | noValues function => s!"{function.name}() requires at least one value"
  | unorderedValues function => s!"{function.name}() is undefined for NaN"
  | timestampText text fault => fault.message text
  | durationText text fault => fault.message text
  | zoneText text => Time.Zone.faultMessage text
  | contextKind actual => s!"context must be a JSON object, got {actual}"
  | noOverload operation types =>
    let applied := String.intercalate ", " types
    s!"no matching overload for '{operation.text}' applied to ({applied})"
  | conversion value target => s!"cannot convert {value.text} to {target.name}"
  | timestampRange => "timestamp out of range: must be between year 0001 and 9999"
  | timestampSeconds seconds => s!"timestamp {seconds.toInt} is outside years 0001 to 9999"
  | noDate => "timestamp out of range"
  | durationRange => "duration out of range"
  | unboundName name => s!"unbound comprehension variable '{name}'"
  | missingArgument position => s!"missing argument {position}"
  | strictLogic op => s!"logical operator '{op.text}' reached strict evaluation"
  | dispatchedSearch => "matches is evaluated by the regex node, not dispatched"

end Cause

end EvalError

/-- A failure of an evaluation, with the span of the innermost node that failed. -/
structure EvalError where
  cause : EvalError.Cause
  span : Span
deriving Repr

namespace EvalError

def kind (error : EvalError) : Kind := error.cause.kind

def message (error : EvalError) : String := error.cause.message

/-- A result whose failure is located at a span. -/
def locate {α : Type} (span : Span) : Except Cause α → Except EvalError α
  | .ok value => .ok value
  | .error cause => .error ⟨cause, span⟩

end EvalError

end Cel
