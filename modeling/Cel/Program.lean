import Cel.Check
import Cel.Eval
import Cel.Expr.Parser
import Cel.Token.Lexer

/-! # Programs

A program is a source text that has been read and checked, ready to be evaluated any number of times.
An error arises in one of four stages, three of them before evaluation.
-/

namespace Cel

/-- A property of a result can be computed together with the result. -/
theorem exists_ok_of_any {ε α : Type} {result : Except ε α} {property : α → Bool}
    (computed : result.toOption.any property = true) :
    ∃ value, result = .ok value ∧ property value = true := by
  cases result with
  | error error => cases computed
  | ok value => exact ⟨value, rfl, computed⟩

/-- How sources are compiled. -/
structure Settings where
  /-- The number of levels that a source may be nested. -/
  maxDepth : Nat
  /-- Whether macros are expanded. -/
  macros : Bool
deriving DecidableEq, Repr

/-- The settings that are used if nothing else is said. -/
def Settings.standard : Settings := ⟨250, true⟩

inductive Error where
  | lex (error : LexError)
  | parse (error : ParseError)
  | compile (error : CompileError)
  | eval (error : EvalError)

namespace Error

inductive Stage where
  | lex | parse | compile | eval
deriving DecidableEq, Repr

/-- The stage at which an error arose. -/
def stage : Error → Stage
  | lex _ => .lex
  | parse _ => .parse
  | compile _ => .compile
  | eval _ => .eval

/-- Whether an error arose before evaluation. -/
def isCompileTime (error : Error) : Bool := error.stage != .eval

def message : Error → String
  | lex error => error.message
  | parse error => error.message
  | compile error => error.message
  | eval error => error.message

def span : Error → Span
  | lex error => error.span
  | parse error => error.span
  | compile error => error.span
  | eval error => error.span

/-- An error as it is shown. Errors before evaluation are shown with their place. -/
def text : Error → String
  | lex error => s!"lex error: {error.message} at {error.span.text}"
  | parse error => s!"parse error: {error.message} at {error.span.text}"
  | compile error => s!"compile error: {error.message} at {error.span.text}"
  | eval error => s!"evaluation error: {error.message}"

end Error

structure Program where
  source : String
  term : Term

namespace Program

/-- Read a source as an expression. -/
def parse (maxDepth : Nat) (source : String) : Except Error (Expr Mark) :=
  match Lexer.tokens source with
  | .error error => .error (.lex error)
  | .ok tokens =>
    match Parser.parse maxDepth tokens with
    | .error error => .error (.parse error)
    | .ok expr => .ok expr

/-- Read and check a source. -/
def compile [Engines] (settings : Settings) (source : String) : Except Error Program := do
  let expr ← parse settings.maxDepth source
  match expr.check settings.macros with
  | .error error => .error (.compile error)
  | .ok term => .ok ⟨source, term⟩

/-- The variables that a program reads. -/
def references (program : Program) : Names := program.term.references

/-- Evaluate a program under an activation. -/
def execute [Engines] (program : Program) (activation : Activation) : Outcome :=
  program.term.eval activation

/-- A program as it is shown: its source and the variables it reads. -/
def text (program : Program) : String :=
  "Program \x7b source: " ++ Text.Quoted.write program.source ++ ", references: \x7b" ++
    String.intercalate ", " (program.references.toList.map Text.Quoted.write) ++ "\x7d \x7d"

end Program

/-- Compile and evaluate a source in one go. -/
def evaluate [Engines] (settings : Settings) (source : String) (activation : Activation) :
    Except Error Value := do
  let program ← Program.compile settings source
  match program.execute activation with
  | .error error => .error (.eval error)
  | .ok value => .ok value

end Cel
