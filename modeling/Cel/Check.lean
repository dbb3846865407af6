import Cel.Term

/-! # Checking

Checking turns an expression as written into a term that can be evaluated: it expands the macros,
binds loop variables, resolves calls and compiles literal patterns. Whatever can be known to be wrong
before evaluation is reported here. Variables that no loop binds are left to the activation, and
calls of unknown functions fail only when they are evaluated.
-/

namespace Cel

namespace CompileError

/-- What is wrong with an expression. -/
inductive Cause where
  | macroArity (loop : Macro) (actual : Nat)
  | loopVariable (loop : Macro)
  | repeatedVariable (loop : Macro) (name : String)
  | hasArgument
  | arity (function : Builtin) (actual : Nat)
  | methodOnly (function : Builtin)
  | globalOnly (function : Builtin)
  | pattern (source reason : String)
  | structType
  | repeatedField (field : String)
deriving DecidableEq, Repr

def Cause.message : Cause → String
  | macroArity loop actual =>
    s!"{loop.name}() macro expects {loop.arity.text} arguments, got {actual}"
  | loopVariable loop =>
    s!"{loop.name}() macro requires a simple identifier as its iteration variable"
  | repeatedVariable loop name => s!"{loop.name}() macro binds '{name}' more than once"
  | hasArgument => "has() macro requires a field selection argument such as has(a.b)"
  | arity function actual =>
    s!"{function.name}() expects {function.signature.arity.text} arguments, got {actual}"
  | methodOnly function => s!"{function.name}() must be called as a method on a value"
  | globalOnly function => s!"{function.name}() cannot be called as a method"
  | pattern source reason => s!"invalid regular expression '{source}': {reason}"
  | structType => "struct literal type must be a qualified name"
  | repeatedField field => s!"field '{field}' is initialized more than once"

end CompileError

/-- A fault found by checking, with the place and the number of the node it concerns. -/
structure CompileError where
  cause : CompileError.Cause
  span : Span
  id : Nat
deriving DecidableEq, Repr

def CompileError.message (error : CompileError) : String := error.cause.message

namespace Check

/-- The term of a binary operator. -/
def binary (span : Span) (op : BinaryOp) (left right : Term) : Term :=
  match op with
  | .and => .and span left right
  | .or => .or span left right
  | op => .strict span op left right

variable [Engines]

/-- A search for a pattern. A literal pattern is compiled on the spot, any other one when it is known. -/
def search (mark : Mark) (target pattern : Term) : Except CompileError Term :=
  match pattern with
  | .constant span (.string source) =>
    match Engines.compile source with
    | .ok compiled => .ok (.matches mark.span target source compiled)
    | .error reason => .error ⟨.pattern source reason, span, mark.id⟩
  | pattern => .ok (.search mark.span target pattern)

/-- A call that is no macro. The receiver of a method call is the first of `args`. -/
def resolve (mark : Mark) (name : String) (method : Bool) (args : List Term) :
    Except CompileError Term :=
  match Builtin.named? name with
  | none => .ok (.unknownCall mark.span name args)
  | some function =>
    if method && !function.signature.style.allowsMethod then
      .error ⟨.globalOnly function, mark.span, mark.id⟩
    else if !method && !function.signature.style.allowsGlobal then
      .error ⟨.methodOnly function, mark.span, mark.id⟩
    else if !function.signature.arity.admits args.length then
      .error ⟨.arity function args.length, mark.span, mark.id⟩
    else match function, args with
      | .matches, [target, pattern] => search mark target pattern
      | function, args => .ok (.call mark.span function args)

/-- The name that a macro argument stands for. -/
def loopVariable (mark : Mark) (loop : Macro) : Expr Mark → Except CompileError String
  | .ident _ name => .ok name
  | other => .error ⟨.loopVariable loop, other.note.span, mark.id⟩

/-- The two names of a loop over indices or keys and values. -/
def loopVariables (mark : Mark) (loop : Macro) (index value : Expr Mark) :
    Except CompileError Binder := do
  let first ← loopVariable mark loop index
  let second ← loopVariable mark loop value
  if first = second then .error ⟨.repeatedVariable loop second, value.note.span, mark.id⟩
  else .ok ⟨some first, second⟩

/-- The dotted name of a struct type, without a leading point. -/
def structName (typeName : Expr Mark) : Except CompileError String :=
  match typeName.qualifiedName? with
  | some name => .ok (String.ofList (name.toList.dropWhile (· == '.')))
  | none => .error ⟨.structType, typeName.note.span, typeName.note.id⟩

mutual

/-- Check an expression under loops that bind the names of `scope`, the innermost first. Without
`macros`, macros are calls of unknown functions. -/
def check (macros : Bool) (scope : List String) : Expr Mark → Except CompileError Term
  | .constant mark value => .ok (.constant mark.span value)
  | .ident mark name =>
    match scope.idxOf? name with
    | some depth => .ok (.bound mark.span name depth)
    | none => .ok (.free mark.span name)
  | .rootIdent mark name => .ok (.free mark.span name)
  | .list mark items => do return .list mark.span (← checkAll macros scope items)
  | .map mark entries => do return .map mark.span (← checkEntries macros scope entries)
  | .struct mark typeName fields => do
    let name ← structName typeName
    return .struct mark.span name (← checkFields macros scope [] fields)
  | .unary mark op operand => do return .unary mark.span op (← check macros scope operand)
  | .binary mark op left right => do
    let left ← check macros scope left
    let right ← check macros scope right
    return binary mark.span op left right
  | .ternary mark condition yes no => do
    let condition ← check macros scope condition
    let yes ← check macros scope yes
    let no ← check macros scope no
    return .conditional mark.span condition yes no
  | .member mark operand field => do return .select mark.span (← check macros scope operand) field
  | .index mark operand position => do
    let operand ← check macros scope operand
    let position ← check macros scope position
    return .index mark.span operand position
  | .call mark (.ident _ name) args =>
    match if macros then Macro.named? name false else none with
    | some loop =>
      match loop, args with
      | .has, [.member _ operand field] => do
        return .has mark.span (← check macros scope operand) field
      | .has, [arg] => .error ⟨.hasArgument, arg.note.span, mark.id⟩
      | loop, args => .error ⟨.macroArity loop args.length, mark.span, mark.id⟩
    | none => do
      let args ← checkAll macros scope args
      resolve mark name false args
  | .call mark (.member _ receiver name) args =>
    match if macros then Macro.named? name true else none with
    | some loop =>
      match loop, args with
      | .quantifier kind, [value, predicate] => do
        let value ← loopVariable mark loop value
        let range ← check macros scope receiver
        let predicate ← check macros (value :: scope) predicate
        return .quantified mark.span kind ⟨none, value⟩ range predicate
      | .quantifier kind, [index, value, predicate] => do
        let binder ← loopVariables mark loop index value
        let range ← check macros scope receiver
        let predicate ← check macros (binder.names ++ scope) predicate
        return .quantified mark.span kind binder range predicate
      | .filter, [value, predicate] => do
        let value ← loopVariable mark loop value
        let range ← check macros scope receiver
        let predicate ← check macros (value :: scope) predicate
        return .filter mark.span value range predicate
      | .map, [value, body] => do
        let value ← loopVariable mark loop value
        let range ← check macros scope receiver
        let body ← check macros (value :: scope) body
        return .collect mark.span value range body
      | .map, [value, predicate, body] => do
        let value ← loopVariable mark loop value
        let range ← check macros scope receiver
        let predicate ← check macros (value :: scope) predicate
        let body ← check macros (value :: scope) body
        return .collectIf mark.span value range predicate body
      | loop, args => .error ⟨.macroArity loop args.length, mark.span, mark.id⟩
    | none => do
      let receiver ← check macros scope receiver
      let args ← checkAll macros scope args
      resolve mark name true (receiver :: args)
  | .call mark _ args => do
    let args ← checkAll macros scope args
    resolve mark "" false args

def checkAll (macros : Bool) (scope : List String) :
    List (Expr Mark) → Except CompileError (List Term)
  | [] => .ok []
  | e :: rest => do
    let term ← check macros scope e
    let terms ← checkAll macros scope rest
    return term :: terms

def checkEntries (macros : Bool) (scope : List String) :
    List (Expr Mark × Expr Mark) → Except CompileError (List (Term × Term))
  | [] => .ok []
  | (key, value) :: rest => do
    let key ← check macros scope key
    let value ← check macros scope value
    let entries ← checkEntries macros scope rest
    return (key, value) :: entries

/-- Check the fields of a struct, none of which may repeat one of `seen`. -/
def checkFields (macros : Bool) (scope seen : List String) :
    List (String × Expr Mark) → Except CompileError (List (String × Term))
  | [] => .ok []
  | (field, value) :: rest =>
    if field ∈ seen then .error ⟨.repeatedField field, value.note.span, value.note.id⟩
    else do
      let value ← check macros scope value
      let fields ← checkFields macros scope (field :: seen) rest
      return (field, value) :: fields

end

end Check

/-- Check a complete expression. -/
def Expr.check [Engines] (macros : Bool) (e : Expr Mark) : Except CompileError Term := Check.check macros [] e

end Cel
