import Cel.Eval.Operators

/-! # Library functions

What the functions of the standard library do with known arguments. Conversions between numbers drop
the fraction and fail outside the range of the target; conversions from text take the whole text.
Timestamps are taken apart on a clock of universal time, or of a zone given as a second argument.
-/

namespace Cel.Value

open EvalError (Cause)

/-- No overload of a function takes arguments of these types. -/
def refuse (function : Builtin) (args : List Value) : Except Cause Value :=
  mismatch (.call function) args

/-- The argument at a position. -/
def argument (args : List Value) (position : Nat) : Except Cause Value :=
  match args[position]? with
  | some value => .ok value
  | none => .error (.missingArgument position)

/-- A value cannot be converted. -/
def unconvertible (value : Value) (target : Builtin) : Except Cause Value :=
  .error (.conversion value target)

/-- The result of a conversion that may have found none. -/
def converted {α : Type} (value : Value) (target : Builtin) (make : α → Value) :
    Option α → Except Cause Value
  | some found => .ok (make found)
  | none => unconvertible value target

/-! ### Strings and collections -/

/-- The number of characters, bytes, items or entries. -/
def count? : Value → Option Nat
  | string text => some text.length
  | bytes content => some content.length
  | list items => some items.length
  | map entries => some entries.length
  | _ => none

/-- The number of characters, bytes, items or entries, as a signed integer. -/
def size (value : Value) : Except Cause Value :=
  match value.count? with
  | none => refuse .size [value]
  | some count => signed .size count

/-- Whether a text occurs in another one. -/
def occursIn (part : List Char) : List Char → Bool
  | [] => part.isEmpty
  | c :: rest => part.isPrefixOf (c :: rest) || occursIn part rest

/-- A test of two texts. -/
def testText (function : Builtin) (test : List Char → List Char → Bool) (a b : Value) :
    Except Cause Value :=
  match a, b with
  | string a, string b => .ok (bool (test a.toList b.toList))
  | a, b => refuse function [a, b]

/-- Whether a pattern matches anywhere in a text. -/
def testPattern (target : Value) (pattern : Regex) : Except Cause Value :=
  match target with
  | string text => .ok (bool (pattern.isMatch text))
  | other => refuse .matches [other]

/-- Search for a pattern that is given as a value. -/
def «matches» [Engines] (target pattern : Value) : Except Cause Value :=
  match pattern with
  | string source =>
    match Engines.compile source with
    | .ok compiled => testPattern target compiled
    | .error reason => .error (.pattern source reason)
  | pattern => refuse .matches [target, pattern]

/-- The first of some values that no other precedes in the wanted direction, where `best` is the
best one so far. -/
def extremeOf (function : Builtin) (wanted : Ordering) (all : List Value) (best : Value) :
    List Value → Except Cause Value
  | [] => .ok best
  | candidate :: rest =>
    match candidate.compare best with
    | some order =>
      extremeOf function wanted all (if order = wanted then candidate else best) rest
    | none =>
      if candidate.isNumeric && best.isNumeric then .error (.unorderedValues function)
      else refuse function all

/-- The greatest or the least of the arguments, or of the items of a single list. -/
def extreme (function : Builtin) (wanted : Ordering) (args : List Value) : Except Cause Value :=
  let candidates :=
    match args with
    | [list items] => items
    | args => args
  match candidates with
  | [] => .error (.noValues function)
  | first :: rest => extremeOf function wanted candidates first rest

/-! ### Conversions -/

def toInt (value : Value) : Except Cause Value :=
  match value with
  | int n => .ok (int n)
  | uint n => converted value .int int (Number.int64? n.toNat)
  | double d => converted value .int int d.trunc.int64?
  | string text => converted value .int int (Number.readInt64? text.toList)
  | timestamp t => .ok (int t.seconds)
  | other => refuse .int [other]

def toUint (value : Value) : Except Cause Value :=
  match value with
  | uint n => .ok (uint n)
  | int n => converted value .uint uint (Number.uint64? n.toInt)
  | double d => converted value .uint uint d.trunc.uint64?
  | string text => converted value .uint uint (Number.readUInt64? text.toList)
  | other => refuse .uint [other]

def toDouble (value : Value) : Except Cause Value :=
  match value with
  | double d => .ok (double d)
  | int n => .ok (double (.ofInt n.toInt))
  | uint n => .ok (double (.ofInt n.toNat))
  | string text => converted value .double double (Number.readDouble? text.toList)
  | other => refuse .double [other]

def toString (value : Value) : Except Cause Value :=
  match value with
  | string text => .ok (string text)
  | int n => .ok (string s!"{n.toInt}")
  | uint n => .ok (string s!"{n.toNat}")
  | double d => .ok (string d.plainText)
  | bool b => .ok (string (if b then "true" else "false"))
  | bytes content =>
    converted value .string (fun text => string (String.ofList text)) (Text.Utf8.decode? content)
  | timestamp t => .ok (string t.text)
  | duration d => .ok (string d.text)
  | other => refuse .string [other]

def toBool (value : Value) : Except Cause Value :=
  match value with
  | bool b => .ok (bool b)
  | string text =>
    if text ∈ ["true", "TRUE", "True", "t", "1"] then .ok (bool true)
    else if text ∈ ["false", "FALSE", "False", "f", "0"] then .ok (bool false)
    else unconvertible value .bool
  | other => refuse .bool [other]

def toBytes (value : Value) : Except Cause Value :=
  match value with
  | bytes content => .ok (bytes content)
  | string text => .ok (bytes (Text.Utf8.encode text.toList))
  | other => refuse .bytes [other]

/-- A timestamp from its text or from its number of seconds. -/
def toTimestamp (value : Value) : Except Cause Value :=
  match value with
  | timestamp t => .ok (timestamp t)
  | string text =>
    match Timestamp.read text with
    | .ok t => .ok (timestamp t)
    | .error fault => .error (.timestampText text fault)
  | int seconds =>
    let t : Timestamp := ⟨seconds, 0⟩
    if t.isValid then .ok (timestamp t) else .error (.timestampSeconds seconds)
  | other => refuse .timestamp [other]

def toDuration (value : Value) : Except Cause Value :=
  match value with
  | duration d => .ok (duration d)
  | string text =>
    match Duration.read text with
    | .ok d => .ok (duration d)
    | .error fault => .error (.durationText text fault)
  | other => refuse .duration [other]

/-! ### Parts of times -/

section Parts

variable [Engines]

/-- A part of what a clock shows. -/
def partOf (component : Time.Component) : Option Time.Clock → Except Cause Value
  | some clock => .ok (int (Int64.ofInt (clock.component component)))
  | none => .error .noDate

/-- A part of a timestamp in universal time, or in a zone. -/
def timestampPart (function : Builtin) (component : Time.Component) (args : List Value) :
    Except Cause Value := do
  match ← argument args 0, args[1]? with
  | timestamp t, none => partOf component (t.clock? 0)
  | timestamp t, some (string zone) =>
    match Time.Zone.read? zone with
    | some zone => partOf component (t.clockIn? zone)
    | none => .error (.zoneText zone)
  | _, _ => refuse function args

/-- A part of a timestamp, or the number of whole units in a duration. -/
def timePart (function : Builtin) (component : Time.Component) (unit : Int) (args : List Value) :
    Except Cause Value := do
  match ← argument args 0, args.length with
  | duration d, 1 => signed .durationTotal (d.total.tdiv unit)
  | _, _ => timestampPart function component args

end Parts

end Cel.Value

namespace Cel.Builtin

open EvalError (Cause)
open Value (argument)

/-- Call a function on known arguments, whose number is one that its declaration admits. A search for a
pattern is no such call. -/
def call [Engines] (function : Builtin) (args : List Value) : Except Cause Value :=
  match function with
  | .size => do (← argument args 0).size
  | .contains => do
    Value.testText .contains (fun s p => Value.occursIn p s) (← argument args 0) (← argument args 1)
  | .startsWith => do
    Value.testText .startsWith (fun s p => p.isPrefixOf s) (← argument args 0) (← argument args 1)
  | .endsWith => do
    Value.testText .endsWith (fun s p => p.isSuffixOf s) (← argument args 0) (← argument args 1)
  | .matches => .error .dispatchedSearch
  | .max => Value.extreme .max .gt args
  | .min => Value.extreme .min .lt args
  | .int => do (← argument args 0).toInt
  | .uint => do (← argument args 0).toUint
  | .double => do (← argument args 0).toDouble
  | .string => do (← argument args 0).toString
  | .bool => do (← argument args 0).toBool
  | .bytes => do (← argument args 0).toBytes
  | .timestamp => do (← argument args 0).toTimestamp
  | .duration => do (← argument args 0).toDuration
  | .dyn => argument args 0
  | .getFullYear => Value.timestampPart function .fullYear args
  | .getMonth => Value.timestampPart function .month args
  | .getDayOfYear => Value.timestampPart function .dayOfYear args
  | .getDayOfMonth => Value.timestampPart function .dayOfMonth args
  | .getDate => Value.timestampPart function .date args
  | .getDayOfWeek => Value.timestampPart function .dayOfWeek args
  | .getHours => Value.timePart function .hours 3600000000000 args
  | .getMinutes => Value.timePart function .minutes 60000000000 args
  | .getSeconds => Value.timePart function .seconds 1000000000 args
  | .getMilliseconds => Value.timePart function .milliseconds 1000000 args

end Cel.Builtin
