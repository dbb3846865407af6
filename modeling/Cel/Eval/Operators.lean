import Cel.Eval.Error
import Cel.Value.Compare

/-! # Operators

What the strict operators do with known operands. Integer arithmetic is exact or fails. Where one
operand is a double, the other is converted to a double as well; signed and unsigned integers do not
mix. Timestamps and durations are added and subtracted by their nanoseconds.
-/

namespace Cel.Value

open EvalError (Cause)

/-- No overload of an operation takes operands of these types. -/
def mismatch {α : Type} (operation : Operation) (operands : List Value) : Except Cause α :=
  .error (.noOverload operation (operands.map typeName))

/-- A signed integer, which fails for `what` outside the range. -/
def signed (what : Overflow) (n : Int) : Except Cause Value :=
  match Number.int64? n with
  | some n => .ok (int n)
  | none => .error (.overflow what)

/-- An unsigned integer, which fails for `what` outside the range. -/
def unsigned (what : Overflow) (n : Int) : Except Cause Value :=
  match Number.uint64? n with
  | some n => .ok (uint n)
  | none => .error (.overflow what)

/-- The timestamp of a number of nanoseconds. -/
def timestampOf (total : Int) : Except Cause Value :=
  match Timestamp.ofTotal? total with
  | some t => .ok (timestamp t)
  | none => .error .timestampRange

/-- The duration of a number of nanoseconds. -/
def durationOf (total : Int) : Except Cause Value :=
  match Duration.ofTotal? total with
  | some d => .ok (duration d)
  | none => .error .durationRange

/-- A number as a double. -/
def toDouble? : Value → Option Double
  | int n => some (.ofInt n.toInt)
  | uint n => some (.ofInt n.toNat)
  | double d => some d
  | _ => none

/-- An operation on doubles, where at least one operand is a double. -/
def promoted (op : BinaryOp) (compute : Double → Double → Double) (a b : Value) :
    Except Cause Value :=
  match a, b with
  | double _, _ | _, double _ =>
    match a.toDouble?, b.toDouble? with
    | some x, some y => .ok (double (compute x y))
    | _, _ => mismatch (.strict op) [a, b]
  | _, _ => mismatch (.strict op) [a, b]

def add : Value → Value → Except Cause Value
  | int a, int b => signed (.signed .add) (a.toInt + b.toInt)
  | uint a, uint b => unsigned (.unsigned .add) (a.toNat + b.toNat)
  | string a, string b => .ok (string (a ++ b))
  | bytes a, bytes b => .ok (bytes (a ++ b))
  | list a, list b => .ok (list (a ++ b))
  | timestamp t, duration d | duration d, timestamp t => timestampOf (t.total + d.total)
  | duration a, duration b => durationOf (a.total + b.total)
  | a, b => promoted .add Double.add a b

def sub : Value → Value → Except Cause Value
  | int a, int b => signed (.signed .sub) (a.toInt - b.toInt)
  | uint a, uint b => unsigned (.unsigned .sub) (a.toNat - b.toNat)
  | timestamp a, timestamp b => durationOf (a.total - b.total)
  | timestamp t, duration d => timestampOf (t.total - d.total)
  | duration a, duration b => durationOf (a.total - b.total)
  | a, b => promoted .sub Double.sub a b

def mul : Value → Value → Except Cause Value
  | int a, int b => signed (.signed .mul) (a.toInt * b.toInt)
  | uint a, uint b => unsigned (.unsigned .mul) (a.toNat * b.toNat)
  | a, b => promoted .mul Double.mul a b

/-- Integers are divided toward zero. -/
def div : Value → Value → Except Cause Value
  | int a, int b =>
    if b = 0 then .error .divisionByZero else signed (.signed .div) (a.toInt.tdiv b.toInt)
  | uint a, uint b =>
    if b = 0 then .error .divisionByZero else unsigned (.unsigned .div) (a.toNat / b.toNat : Nat)
  | a, b => promoted .div Double.div a b

/-- The remainder has the sign of the dividend. It is taken only where the quotient exists. -/
def mod : Value → Value → Except Cause Value
  | int a, int b =>
    if b = 0 then .error .moduloByZero
    else match Number.int64? (a.toInt.tdiv b.toInt) with
      | some _ => signed (.signed .mod) (a.toInt.tmod b.toInt)
      | none => .error (.overflow (.signed .mod))
  | uint a, uint b =>
    if b = 0 then .error .moduloByZero else unsigned (.unsigned .mod) (a.toNat % b.toNat : Nat)
  | a, b => mismatch (.strict .mod) [a, b]

/-- Whether the order of two values is one for which a relation holds. NaN stands in no relation. -/
def relate (op : BinaryOp) (holds : Ordering → Bool) (a b : Value) : Except Cause Value :=
  match a.compare b with
  | some order => .ok (bool (holds order))
  | none =>
    if a.isNumeric && b.isNumeric then .ok (bool false)
    else mismatch (.strict op) [a, b]

/-- Whether a value is an item of a list, or finds a value in a map. -/
def isIn (element : Value) : Value → Except Cause Value
  | list items => .ok (bool (items.any (equal · element)))
  | map entries => .ok (bool (element.lookup? entries).isSome)
  | container => mismatch (.strict .in) [element, container]

/-- The result of an operation that needs all its operands to be known. -/
def ifKnown (operands : List Value) (result : Except Cause Value) : Except Cause Value :=
  match unknowns? operands with
  | some names => .ok (unknown names)
  | none => result

/-- A list of values, which is unknown if one of them is. -/
def listOf (items : List Value) : Value :=
  match unknowns? items with
  | some names => unknown names
  | none => list items

/-- Apply a strict operator. -/
def strict (op : BinaryOp) (a b : Value) : Except Cause Value :=
  ifKnown [a, b] <|
    match op with
    | .add => add a b
    | .sub => sub a b
    | .mul => mul a b
    | .div => div a b
    | .mod => mod a b
    | .eq => .ok (bool (a.equal b))
    | .ne => .ok (bool !(a.equal b))
    | .lt => relate .lt Ordering.isLT a b
    | .le => relate .le Ordering.isLE a b
    | .gt => relate .gt Ordering.isGT a b
    | .ge => relate .ge Ordering.isGE a b
    | .in => a.isIn b
    | .and | .or => .error (.strictLogic op)

/-- Apply a unary operator. -/
def unary (op : UnaryOp) (a : Value) : Except Cause Value :=
  match op, a with
  | _, unknown names => .ok (unknown names)
  | .not, bool b => .ok (bool !b)
  | .neg, int n => signed .negation (-n.toInt)
  | .neg, double d => .ok (double d.neg)
  | .neg, duration d => durationOf (-d.total)
  | op, a => mismatch (.unary op) [a]

end Cel.Value
