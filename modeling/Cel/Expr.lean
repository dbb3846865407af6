import Cel.Number.Double
import Cel.Span

/-! # Expressions

The tree of an expression as it is written. Every node carries a note: its span when the tree comes
from the parser, and a number besides its span once the tree is numbered. Macros are ordinary calls
here. Nodes are numbered in the order in which they are complete: children before their parent, and
earlier children first.
-/

namespace Cel

/-- Values that can be written as a single literal. -/
inductive Constant where
  | null
  | bool (value : Bool)
  | int (value : Int64)
  | uint (value : UInt64)
  | double (value : Double)
  | string (value : String)
  | bytes (value : List UInt8)
deriving DecidableEq, Repr

inductive UnaryOp where
  | neg | not
deriving DecidableEq, Repr

inductive BinaryOp where
  | add | sub | mul | div | mod
  | eq | ne | lt | le | gt | ge
  | in
  | and | or
deriving DecidableEq, Repr

def UnaryOp.text : UnaryOp → String
  | .neg => "-"
  | .not => "!"

def BinaryOp.text : BinaryOp → String
  | .add => "+"
  | .sub => "-"
  | .mul => "*"
  | .div => "/"
  | .mod => "%"
  | .eq => "=="
  | .ne => "!="
  | .lt => "<"
  | .le => "<="
  | .gt => ">"
  | .ge => ">="
  | .in => "in"
  | .and => "&&"
  | .or => "||"

/-- An expression whose nodes carry notes of type `α`. -/
inductive Expr (α : Type) where
  | constant (note : α) (value : Constant)
  | ident (note : α) (name : String)
  /-- A name with a leading point, which no macro can bind. -/
  | rootIdent (note : α) (name : String)
  | list (note : α) (items : List (Expr α))
  | map (note : α) (entries : List (Expr α × Expr α))
  | unary (note : α) (op : UnaryOp) (operand : Expr α)
  | binary (note : α) (op : BinaryOp) (left right : Expr α)
  | ternary (note : α) (condition yes no : Expr α)
  | member (note : α) (operand : Expr α) (field : String)
  | index (note : α) (operand position : Expr α)
  | call (note : α) (callee : Expr α) (args : List (Expr α))
  | struct (note : α) (typeName : Expr α) (fields : List (String × Expr α))
deriving Repr

/-- The number and the span of a node. -/
structure Mark where
  id : Nat
  span : Span
deriving DecidableEq, Repr

namespace Expr

variable {α : Type}

/-- The note of the topmost node. -/
def note : Expr α → α
  | constant note _ | ident note _ | rootIdent note _ | list note _ | map note _ | unary note _ _
  | binary note _ _ _ | ternary note _ _ _ | member note _ _ | index note _ _ | call note _ _
  | struct note _ _ => note

/-- The expressions directly below the topmost node, in source order. -/
def children : Expr α → List (Expr α)
  | constant .. | ident .. | rootIdent .. => []
  | list _ items => items
  | map _ entries => entries.flatMap fun (key, value) => [key, value]
  | unary _ _ operand | member _ operand _ => [operand]
  | binary _ _ left right => [left, right]
  | ternary _ condition yes no => [condition, yes, no]
  | index _ operand position => [operand, position]
  | call _ callee args => callee :: args
  | struct _ typeName fields => typeName :: fields.map (·.2)

/-- The dotted name that an expression spells, if it is one; a root name starts with a point. -/
def qualifiedName? : Expr α → Option String
  | ident _ name => some name
  | rootIdent _ name => some ("." ++ name)
  | member _ operand field => operand.qualifiedName?.map (· ++ "." ++ field)
  | _ => none

/-- Whether a struct literal may follow the expression. -/
def isTypeName : Expr α → Bool
  | ident .. | rootIdent .. | member .. => true
  | _ => false

/-- Whether the expression may be called. -/
def isCallee : Expr α → Bool
  | ident .. | member .. => true
  | _ => false

mutual

/-- The number of levels of a tree; a leaf has one. -/
def height : Expr α → Nat
  | constant .. | ident .. | rootIdent .. => 1
  | list _ items => heightOfAll items + 1
  | map _ entries => heightOfEntries entries + 1
  | unary _ _ operand | member _ operand _ => operand.height + 1
  | binary _ _ left right => max left.height right.height + 1
  | ternary _ condition yes no => max condition.height (max yes.height no.height) + 1
  | index _ operand position => max operand.height position.height + 1
  | call _ callee args => max callee.height (heightOfAll args) + 1
  | struct _ typeName fields => max typeName.height (heightOfFields fields) + 1

def heightOfAll : List (Expr α) → Nat
  | [] => 0
  | e :: rest => max e.height (heightOfAll rest)

def heightOfEntries : List (Expr α × Expr α) → Nat
  | [] => 0
  | (key, value) :: rest => max (max key.height value.height) (heightOfEntries rest)

def heightOfFields : List (String × Expr α) → Nat
  | [] => 0
  | (_, e) :: rest => max e.height (heightOfFields rest)

end

mutual

/-- The number of nodes of a tree. -/
def size : Expr α → Nat
  | constant .. | ident .. | rootIdent .. => 1
  | list _ items => sizeOfAll items + 1
  | map _ entries => sizeOfEntries entries + 1
  | unary _ _ operand | member _ operand _ => operand.size + 1
  | binary _ _ left right => left.size + right.size + 1
  | ternary _ condition yes no => condition.size + yes.size + no.size + 1
  | index _ operand position => operand.size + position.size + 1
  | call _ callee args => callee.size + sizeOfAll args + 1
  | struct _ typeName fields => typeName.size + sizeOfFields fields + 1

def sizeOfAll : List (Expr α) → Nat
  | [] => 0
  | e :: rest => e.size + sizeOfAll rest

def sizeOfEntries : List (Expr α × Expr α) → Nat
  | [] => 0
  | (key, value) :: rest => key.size + value.size + sizeOfEntries rest

def sizeOfFields : List (String × Expr α) → Nat
  | [] => 0
  | (_, e) :: rest => e.size + sizeOfFields rest

end

mutual

/-- All nodes of a tree, each after the nodes below it. -/
def nodes : Expr α → List (Expr α)
  | e@(constant ..) | e@(ident ..) | e@(rootIdent ..) => [e]
  | e@(list _ items) => nodesOfAll items ++ [e]
  | e@(map _ entries) => nodesOfEntries entries ++ [e]
  | e@(unary _ _ operand) | e@(member _ operand _) => operand.nodes ++ [e]
  | e@(binary _ _ left right) => left.nodes ++ right.nodes ++ [e]
  | e@(ternary _ condition yes no) => condition.nodes ++ yes.nodes ++ no.nodes ++ [e]
  | e@(index _ operand position) => operand.nodes ++ position.nodes ++ [e]
  | e@(call _ callee args) => callee.nodes ++ nodesOfAll args ++ [e]
  | e@(struct _ typeName fields) => typeName.nodes ++ nodesOfFields fields ++ [e]

def nodesOfAll : List (Expr α) → List (Expr α)
  | [] => []
  | e :: rest => e.nodes ++ nodesOfAll rest

def nodesOfEntries : List (Expr α × Expr α) → List (Expr α)
  | [] => []
  | (key, value) :: rest => key.nodes ++ value.nodes ++ nodesOfEntries rest

def nodesOfFields : List (String × Expr α) → List (Expr α)
  | [] => []
  | (_, e) :: rest => e.nodes ++ nodesOfFields rest

end

mutual

/-- Number the nodes from `first` on, each after the nodes below it. -/
def number (first : Nat) : Expr Span → Expr Mark
  | constant span value => constant ⟨first, span⟩ value
  | ident span name => ident ⟨first, span⟩ name
  | rootIdent span name => rootIdent ⟨first, span⟩ name
  | list span items => list ⟨first + sizeOfAll items, span⟩ (numberAll first items)
  | map span entries => map ⟨first + sizeOfEntries entries, span⟩ (numberEntries first entries)
  | unary span op operand => unary ⟨first + operand.size, span⟩ op (operand.number first)
  | binary span op left right =>
    binary ⟨first + left.size + right.size, span⟩ op (left.number first)
      (right.number (first + left.size))
  | ternary span condition yes no =>
    ternary ⟨first + condition.size + yes.size + no.size, span⟩ (condition.number first)
      (yes.number (first + condition.size)) (no.number (first + condition.size + yes.size))
  | member span operand field => member ⟨first + operand.size, span⟩ (operand.number first) field
  | index span operand position =>
    index ⟨first + operand.size + position.size, span⟩ (operand.number first)
      (position.number (first + operand.size))
  | call span callee args =>
    call ⟨first + callee.size + sizeOfAll args, span⟩ (callee.number first)
      (numberAll (first + callee.size) args)
  | struct span typeName fields =>
    struct ⟨first + typeName.size + sizeOfFields fields, span⟩ (typeName.number first)
      (numberFields (first + typeName.size) fields)

def numberAll (first : Nat) : List (Expr Span) → List (Expr Mark)
  | [] => []
  | e :: rest => e.number first :: numberAll (first + e.size) rest

def numberEntries (first : Nat) : List (Expr Span × Expr Span) → List (Expr Mark × Expr Mark)
  | [] => []
  | (key, value) :: rest =>
    (key.number first, value.number (first + key.size)) ::
      numberEntries (first + key.size + value.size) rest

def numberFields (first : Nat) : List (String × Expr Span) → List (String × Expr Mark)
  | [] => []
  | (field, e) :: rest => (field, e.number first) :: numberFields (first + e.size) rest

end

end Expr

end Cel
