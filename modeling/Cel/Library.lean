import Cel.Arity

/-! # The standard library

The names an expression may call. A function has a call style and an arity, and a method call counts
its receiver as the first argument. A macro is recognised by its name together with the way it is
called, and its arity does not count the receiver.
-/

namespace Cel

/-- The functions of the standard library. -/
inductive Builtin where
  | size | contains | startsWith | endsWith | matches | max | min
  | int | uint | double | string | bool | bytes | timestamp | duration | dyn
  | getFullYear | getMonth | getDayOfYear | getDayOfMonth | getDate | getDayOfWeek
  | getHours | getMinutes | getSeconds | getMilliseconds
deriving DecidableEq, Repr

/-- The ways to call a function: `name(…)`, `receiver.name(…)`, or both. -/
inductive CallStyle where
  | global | method | either
deriving DecidableEq, Repr

namespace CallStyle

def allowsGlobal : CallStyle → Bool
  | global | either => true
  | method => false

def allowsMethod : CallStyle → Bool
  | method | either => true
  | global => false

end CallStyle

/-- How a function is declared. -/
structure Signature where
  name : String
  style : CallStyle
  arity : Arity
deriving DecidableEq, Repr

namespace Builtin

/-- The declaration of each function. -/
def signature : Builtin → Signature
  | .size => ⟨"size", .either, .exactly 1⟩
  | .contains => ⟨"contains", .method, .exactly 2⟩
  | .startsWith => ⟨"startsWith", .method, .exactly 2⟩
  | .endsWith => ⟨"endsWith", .method, .exactly 2⟩
  | .matches => ⟨"matches", .either, .exactly 2⟩
  | .max => ⟨"max", .global, .atLeast 1⟩
  | .min => ⟨"min", .global, .atLeast 1⟩
  | .int => ⟨"int", .global, .exactly 1⟩
  | .uint => ⟨"uint", .global, .exactly 1⟩
  | .double => ⟨"double", .global, .exactly 1⟩
  | .string => ⟨"string", .global, .exactly 1⟩
  | .bool => ⟨"bool", .global, .exactly 1⟩
  | .bytes => ⟨"bytes", .global, .exactly 1⟩
  | .timestamp => ⟨"timestamp", .global, .exactly 1⟩
  | .duration => ⟨"duration", .global, .exactly 1⟩
  | .dyn => ⟨"dyn", .global, .exactly 1⟩
  | .getFullYear => ⟨"getFullYear", .method, .between 1 2⟩
  | .getMonth => ⟨"getMonth", .method, .between 1 2⟩
  | .getDayOfYear => ⟨"getDayOfYear", .method, .between 1 2⟩
  | .getDayOfMonth => ⟨"getDayOfMonth", .method, .between 1 2⟩
  | .getDate => ⟨"getDate", .method, .between 1 2⟩
  | .getDayOfWeek => ⟨"getDayOfWeek", .method, .between 1 2⟩
  | .getHours => ⟨"getHours", .method, .between 1 2⟩
  | .getMinutes => ⟨"getMinutes", .method, .between 1 2⟩
  | .getSeconds => ⟨"getSeconds", .method, .between 1 2⟩
  | .getMilliseconds => ⟨"getMilliseconds", .method, .between 1 2⟩

def name (function : Builtin) : String := function.signature.name

def all : List Builtin :=
  [.size, .contains, .startsWith, .endsWith, .matches, .max, .min,
    .int, .uint, .double, .string, .bool, .bytes, .timestamp, .duration, .dyn,
    .getFullYear, .getMonth, .getDayOfYear, .getDayOfMonth, .getDate, .getDayOfWeek,
    .getHours, .getMinutes, .getSeconds, .getMilliseconds]

/-- The function with a given name. -/
def named? (name : String) : Option Builtin := all.find? (·.name == name)

end Builtin

/-- What a loop tells about its predicate: that all elements satisfy it, that some element does, or
that exactly one does. -/
inductive Quantifier where
  | all | exists | existsOne
deriving DecidableEq, Repr

/-- The macros: a presence test, and the loops over lists and maps. -/
inductive Macro where
  | has
  | quantifier (kind : Quantifier)
  | map
  | filter
deriving DecidableEq, Repr

namespace Macro

def name : Macro → String
  | .has => "has"
  | .quantifier .all => "all"
  | .quantifier .exists => "exists"
  | .quantifier .existsOne => "exists_one"
  | .map => "map"
  | .filter => "filter"

/-- Whether the macro is called on a receiver. -/
def isMethod : Macro → Bool
  | .has => false
  | _ => true

/-- The number of arguments besides the receiver. -/
def arity : Macro → Arity
  | .has => .exactly 1
  | .filter => .exactly 2
  | .quantifier _ | .map => .between 2 3

def every : List Macro :=
  [.has, .quantifier .all, .quantifier .exists, .quantifier .existsOne, .map, .filter]

/-- The macro with a given name and call style. -/
def named? (name : String) (method : Bool) : Option Macro :=
  every.find? fun candidate => candidate.name == name && candidate.isMethod == method

end Macro

end Cel
