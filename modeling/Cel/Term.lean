import Cel.Engines
import Cel.Expr
import Cel.Library
import Cel.Names

/-! # Checked terms

The tree that is evaluated. Macros have become loops and presence tests, calls are resolved to
library functions, literal patterns are compiled, and a name bound by a loop is a number: the count
of bindings between its use and its binder. The operators `&&` and `||`, which do not always need
both operands, are kept apart from the strict ones. Every node keeps its span.
-/

namespace Cel

/-- The names a loop binds for each element: its value, and in the form with two names before that
its index or key. -/
structure Binder where
  index : Option String
  value : String
deriving DecidableEq, Repr

/-- The bound names, the innermost first. -/
def Binder.names (binder : Binder) : List String := binder.value :: binder.index.toList

/-- A checked expression. -/
inductive Term where
  | constant (span : Span) (value : Constant)
  /-- A variable of the activation. -/
  | free (span : Span) (name : String)
  /-- The name bound `depth` bindings further out than the innermost one. -/
  | bound (span : Span) (name : String) (depth : Nat)
  | select (span : Span) (operand : Term) (field : String)
  /-- Whether a field is present. -/
  | has (span : Span) (operand : Term) (field : String)
  | index (span : Span) (operand position : Term)
  | list (span : Span) (items : List Term)
  | map (span : Span) (entries : List (Term × Term))
  | struct (span : Span) (typeName : String) (fields : List (String × Term))
  | unary (span : Span) (op : UnaryOp) (operand : Term)
  /-- An operator that needs both operands: neither `&&` nor `||`. -/
  | strict (span : Span) (op : BinaryOp) (left right : Term)
  | and (span : Span) (left right : Term)
  | or (span : Span) (left right : Term)
  | conditional (span : Span) (condition yes no : Term)
  /-- A call of a library function other than `matches`; the receiver of a method call comes first. -/
  | call (span : Span) (function : Builtin) (args : List Term)
  /-- A call of a function that does not exist, which fails when it is evaluated. -/
  | unknownCall (span : Span) (name : String) (args : List Term)
  /-- A search for a literal pattern, with its source text. -/
  | matches (span : Span) (target : Term) (source : String) (pattern : Regex)
  /-- A search for a pattern that is compiled when its value is known. -/
  | search (span : Span) (target pattern : Term)
  | quantified (span : Span) (quantifier : Quantifier) (binder : Binder) (range predicate : Term)
  /-- The elements that satisfy a predicate. -/
  | filter (span : Span) (name : String) (range predicate : Term)
  /-- The values of `body` over all elements. -/
  | collect (span : Span) (name : String) (range body : Term)
  /-- The values of `body` over the elements that satisfy a predicate. -/
  | collectIf (span : Span) (name : String) (range predicate body : Term)
deriving Repr

namespace Term

/-- The span of the topmost node. -/
def span : Term → Span
  | constant span _ | free span _ | bound span _ _ | select span _ _ | has span _ _
  | index span _ _ | list span _ | map span _ | struct span _ _ | unary span _ _
  | strict span _ _ _ | and span _ _ | or span _ _ | conditional span _ _ _ | call span _ _
  | unknownCall span _ _ | .matches span _ _ _ | search span _ _ | quantified span _ _ _ _
  | filter span _ _ _ | collect span _ _ _ | collectIf span _ _ _ _ => span

/-- The terms directly below the topmost node, in the order in which they are evaluated. -/
def children : Term → List Term
  | constant .. | free .. | bound .. => []
  | select _ operand _ | has _ operand _ | unary _ _ operand => [operand]
  | index _ operand position => [operand, position]
  | list _ items => items
  | map _ entries => entries.flatMap fun (key, value) => [key, value]
  | struct _ _ fields => fields.map (·.2)
  | strict _ _ left right | and _ left right | or _ left right => [left, right]
  | conditional _ condition yes no => [condition, yes, no]
  | call _ _ args | unknownCall _ _ args => args
  | .matches _ target _ _ => [target]
  | search _ target pattern => [target, pattern]
  | quantified _ _ _ range predicate | filter _ _ range predicate => [range, predicate]
  | collect _ _ range body => [range, body]
  | collectIf _ _ range predicate body => [range, predicate, body]

mutual

/-- The variables of the activation that a term reads. -/
def references : Term → Names
  | free _ name => .singleton name
  | constant .. | bound .. => .empty
  | select _ operand _ | has _ operand _ | unary _ _ operand => operand.references
  | index _ operand position => operand.references.union position.references
  | list _ items => referencesOfAll items
  | map _ entries => referencesOfEntries entries
  | struct _ _ fields => referencesOfFields fields
  | strict _ _ left right | and _ left right | or _ left right =>
    left.references.union right.references
  | conditional _ condition yes no =>
    condition.references.union (yes.references.union no.references)
  | call _ _ args | unknownCall _ _ args => referencesOfAll args
  | .matches _ target _ _ => target.references
  | search _ target pattern => target.references.union pattern.references
  | quantified _ _ _ range predicate | filter _ _ range predicate =>
    range.references.union predicate.references
  | collect _ _ range body => range.references.union body.references
  | collectIf _ _ range predicate body =>
    range.references.union (predicate.references.union body.references)

def referencesOfAll : List Term → Names
  | [] => .empty
  | term :: rest => term.references.union (referencesOfAll rest)

def referencesOfEntries : List (Term × Term) → Names
  | [] => .empty
  | (key, value) :: rest =>
    key.references.union (value.references.union (referencesOfEntries rest))

def referencesOfFields : List (String × Term) → Names
  | [] => .empty
  | (_, term) :: rest => term.references.union (referencesOfFields rest)

end

mutual

/-- The number of levels of a tree; a leaf has one. -/
def height : Term → Nat
  | constant .. | free .. | bound .. => 1
  | select _ operand _ | has _ operand _ | unary _ _ operand => operand.height + 1
  | index _ operand position => max operand.height position.height + 1
  | list _ items => heightOfAll items + 1
  | map _ entries => heightOfEntries entries + 1
  | struct _ _ fields => heightOfFields fields + 1
  | strict _ _ left right | and _ left right | or _ left right => max left.height right.height + 1
  | conditional _ condition yes no => max condition.height (max yes.height no.height) + 1
  | call _ _ args | unknownCall _ _ args => heightOfAll args + 1
  | .matches _ target _ _ => target.height + 1
  | search _ target pattern => max target.height pattern.height + 1
  | quantified _ _ _ range predicate | filter _ _ range predicate =>
    max range.height predicate.height + 1
  | collect _ _ range body => max range.height body.height + 1
  | collectIf _ _ range predicate body => max range.height (max predicate.height body.height) + 1

def heightOfAll : List Term → Nat
  | [] => 0
  | term :: rest => max term.height (heightOfAll rest)

def heightOfEntries : List (Term × Term) → Nat
  | [] => 0
  | (key, value) :: rest => max (max key.height value.height) (heightOfEntries rest)

def heightOfFields : List (String × Term) → Nat
  | [] => 0
  | (_, term) :: rest => max term.height (heightOfFields rest)

end

end Term

end Cel
