import Cel.Expr
import Cel.Token

/-! # Reading expressions from tokens

Recursive descent over a list of tokens. The nesting limit bounds both the recursion of the descent
and the height of every tree: each nested expression and each sign uses up one level, and a node
taller than the limit is refused as soon as it is complete. Reading stops at the first error.

Functions that read a part of an expression take the tokens from its first one on and return the
part with the tokens after it.
-/

namespace Cel

/-- What a name was expected for. -/
inductive NameRole where
  | member | field
deriving DecidableEq, Repr

/-- The reasons why tokens are not an expression. -/
inductive ParseError.Cause where
  | emptyInput
  | unexpectedEnd
  | unexpectedToken (found : Token)
  | trailingToken (found : Token)
  | expectedSymbol (wanted : Symbol) (found : Option Token)
  | expectedName (role : NameRole) (found : Option Token)
  | reservedWord (word : String)
  | notCallable
  | tooDeep (limit : Nat)
deriving DecidableEq, Repr

/-- Why and where reading an expression failed. -/
structure ParseError where
  cause : ParseError.Cause
  span : Span
deriving DecidableEq, Repr

namespace ParseError

/-- The token that was found instead of what was expected. -/
def foundText : Option Token → String
  | some token => s!"'{token.text}'"
  | none => "end of input"

def Cause.message : Cause → String
  | .emptyInput => "empty input"
  | .unexpectedEnd => "unexpected end of input"
  | .unexpectedToken found => s!"unexpected token '{found.text}'"
  | .trailingToken found => s!"unexpected '{found.text}' after expression"
  | .expectedSymbol wanted found => s!"expected '{wanted.text}', found {foundText found}"
  | .expectedName .member found => s!"expected identifier after '.', found {foundText found}"
  | .expectedName .field found => s!"expected field name, found {foundText found}"
  | .reservedWord word => s!"'{word}' is a reserved word and cannot be used as an identifier"
  | .notCallable => "only named functions and methods can be called"
  | .tooDeep limit => s!"expression nesting exceeds maximum depth of {limit}"

def message (e : ParseError) : String := e.cause.message

end ParseError

namespace Parser

/-- What stays fixed while an expression is read: the nesting limit and the offset at which the
last token ends. -/
structure Setting where
  maxDepth : Nat
  stop : Nat
deriving DecidableEq, Repr

abbrev Tokens := List (Located Token)

/-- Reads something from the start of the tokens and returns it with the tokens after it. -/
abbrev Reader (α : Type) := Tokens → Except ParseError (α × Tokens)

abbrev Tree := Expr Span

/-- The offset at which the last token ends. -/
def stopOf (tokens : Tokens) : Nat :=
  match tokens.getLast? with
  | some last => last.span.stop
  | none => 0

/-- The span of the next token, or the end of the input. -/
def here (s : Setting) : Tokens → Span
  | next :: _ => next.span
  | [] => .point s.stop

def nextToken? (tokens : Tokens) : Option Token := tokens.head?.map (·.item)

/-- Whether the next token is the given symbol. -/
def startsWith (sign : Symbol) (tokens : Tokens) : Bool := nextToken? tokens == some (.symbol sign)

/-- Fail because the nesting limit is used up. -/
def tooDeep {α : Type} (s : Setting) : Reader α :=
  fun tokens => .error ⟨.tooDeep s.maxDepth, here s tokens⟩

/-- A complete node, unless it is taller than the nesting limit. -/
def complete (s : Setting) (tree : Tree) : Reader Tree := fun tokens =>
  if s.maxDepth < tree.height then .error ⟨.tooDeep s.maxDepth, tree.note⟩
  else .ok (tree, tokens)

/-- Take the given symbol and return its span. -/
def expect (s : Setting) (sign : Symbol) : Reader Span := fun tokens =>
  match tokens with
  | ⟨.symbol found, span⟩ :: rest =>
    if found = sign then .ok (span, rest)
    else .error ⟨.expectedSymbol sign (some (.symbol found)), span⟩
  | tokens => .error ⟨.expectedSymbol sign (nextToken? tokens), here s tokens⟩

/-- Take a name. -/
def expectName (s : Setting) (role : NameRole) : Reader (Located String) := fun tokens =>
  match tokens with
  | ⟨.ident name, span⟩ :: rest => .ok (⟨name, span⟩, rest)
  | tokens => .error ⟨.expectedName role (nextToken? tokens), here s tokens⟩

/-! ### Sequences -/

/-- Further items, each after a comma. A comma may also stand directly before `close`. -/
def further {β : Type} (close : Symbol) (item : Reader β) : (fuel : Nat) → Reader (List β)
  | 0, tokens => .ok ([], tokens)
  | fuel + 1, tokens =>
    match tokens with
    | ⟨.symbol .comma, _⟩ :: rest =>
      if startsWith close rest then .ok ([], rest)
      else do
        let (first, rest) ← item rest
        let (items, rest) ← further close item fuel rest
        return (first :: items, rest)
    | tokens => .ok ([], tokens)

/-- Items separated by commas up to `close`, with the span of `close`. -/
def sequence {β : Type} (s : Setting) (close : Symbol) (item : Reader β) :
    Reader (List β × Span) := fun tokens =>
  if startsWith close tokens then do
    let (stop, rest) ← expect s close tokens
    return (([], stop), rest)
  else do
    let (first, rest) ← item tokens
    let (items, rest) ← further close item rest.length rest
    let (stop, rest) ← expect s close rest
    return ((first :: items, stop), rest)

/-- A map entry: two expressions around a colon. -/
def entry (s : Setting) (expr : Reader Tree) : Reader (Tree × Tree) := fun tokens => do
  let (key, rest) ← expr tokens
  let (_, rest) ← expect s .colon rest
  let (value, rest) ← expr rest
  return ((key, value), rest)

/-- A struct field: a name and an expression around a colon. -/
def field (s : Setting) (expr : Reader Tree) : Reader (String × Tree) := fun tokens => do
  let (name, rest) ← expectName s .field tokens
  let (_, rest) ← expect s .colon rest
  let (value, rest) ← expr rest
  return ((name.item, value), rest)

/-! ### Atoms and what follows them -/

/-- The constant that a token denotes. -/
def constant? : Token → Option Constant
  | .int value => some (.int value)
  | .uint value => some (.uint value)
  | .double value => some (.double value)
  | .string value => some (.string value)
  | .bytes value => some (.bytes value)
  | .keyword .true => some (.bool true)
  | .keyword .false => some (.bool false)
  | .keyword .null => some .null
  | _ => none

/-- A constant, a name, a parenthesised expression, a list or a map. -/
def atom (s : Setting) (expr : Reader Tree) : Reader Tree := fun tokens =>
  match tokens with
  | [] => .error ⟨.unexpectedEnd, .point s.stop⟩
  | ⟨token, span⟩ :: rest =>
    match constant? token with
    | some value => complete s (.constant span value) rest
    | none =>
      match token with
      | .ident name => complete s (.ident span name) rest
      | .reserved word => .error ⟨.reservedWord word, span⟩
      | .symbol .dot => do
        let (name, rest) ← expectName s .member rest
        complete s (.rootIdent (span.through name.span) name.item) rest
      | .symbol .leftParen => do
        let (tree, rest) ← expr rest
        let (_, rest) ← expect s .rightParen rest
        return (tree, rest)
      | .symbol .leftBracket => do
        let ((items, stop), rest) ← sequence s .rightBracket expr rest
        complete s (.list (span.through stop) items) rest
      | .symbol .leftBrace => do
        let ((entries, stop), rest) ← sequence s .rightBrace (entry s expr) rest
        complete s (.map (span.through stop) entries) rest
      | token => .error ⟨.unexpectedToken token, span⟩

/-- Calls, positions, members and struct fields that follow an expression. -/
def suffixes (s : Setting) (expr : Reader Tree) : (fuel : Nat) → Tree → Reader Tree
  | 0, tree, tokens => .ok (tree, tokens)
  | fuel + 1, tree, tokens =>
    match tokens with
    | ⟨.symbol .leftParen, span⟩ :: rest =>
      if tree.isCallee then do
        let ((args, stop), rest) ← sequence s .rightParen expr rest
        let (tree, rest) ← complete s (.call (tree.note.through stop) tree args) rest
        suffixes s expr fuel tree rest
      else .error ⟨.notCallable, span⟩
    | ⟨.symbol .leftBracket, _⟩ :: rest => do
      let (position, rest) ← expr rest
      let (stop, rest) ← expect s .rightBracket rest
      let (tree, rest) ← complete s (.index (tree.note.through stop) tree position) rest
      suffixes s expr fuel tree rest
    | ⟨.symbol .dot, _⟩ :: rest => do
      let (name, rest) ← expectName s .member rest
      let (tree, rest) ← complete s (.member (tree.note.through name.span) tree name.item) rest
      suffixes s expr fuel tree rest
    | ⟨.symbol .leftBrace, _⟩ :: rest =>
      if tree.isTypeName then do
        let ((fields, stop), rest) ← sequence s .rightBrace (field s expr) rest
        let (tree, rest) ← complete s (.struct (tree.note.through stop) tree fields) rest
        suffixes s expr fuel tree rest
      else .ok (tree, tokens)
    | tokens => .ok (tree, tokens)

/-- An atom with everything that follows it. -/
def primary (s : Setting) (expr : Reader Tree) : Reader Tree := fun tokens => do
  let (tree, rest) ← atom s expr tokens
  suffixes s expr rest.length tree rest

/-! ### Operators -/

def unaryOp? : Token → Option UnaryOp
  | .symbol .minus => some .neg
  | .symbol .not => some .not
  | _ => none

def orOp? : Token → Option BinaryOp
  | .symbol .or => some .or
  | _ => none

def andOp? : Token → Option BinaryOp
  | .symbol .and => some .and
  | _ => none

def relationOp? : Token → Option BinaryOp
  | .symbol .equal => some .eq
  | .symbol .notEqual => some .ne
  | .symbol .less => some .lt
  | .symbol .lessEqual => some .le
  | .symbol .greater => some .gt
  | .symbol .greaterEqual => some .ge
  | .keyword .in => some .in
  | _ => none

def sumOp? : Token → Option BinaryOp
  | .symbol .plus => some .add
  | .symbol .minus => some .sub
  | _ => none

def productOp? : Token → Option BinaryOp
  | .symbol .star => some .mul
  | .symbol .slash => some .div
  | .symbol .percent => some .mod
  | _ => none

/-- A primary expression behind any number of signs, where `signed` reads what follows a sign. -/
def signs (s : Setting) (signed expr : Reader Tree) : Reader Tree := fun tokens =>
  match tokens with
  | [] => primary s expr tokens
  | ⟨token, span⟩ :: rest =>
    match unaryOp? token with
    | some op => do
      let (operand, rest) ← signed rest
      complete s (.unary (span.through operand.note) op operand) rest
    | none => primary s expr tokens

/-- Further operands joined to the left one, each after one of the operators. -/
def joined (s : Setting) (op? : Token → Option BinaryOp) (operand : Reader Tree) :
    (fuel : Nat) → Tree → Reader Tree
  | 0, left, tokens => .ok (left, tokens)
  | fuel + 1, left, tokens =>
    match tokens with
    | [] => .ok (left, [])
    | ⟨token, _⟩ :: rest =>
      match op? token with
      | some op => do
        let (right, rest) ← operand rest
        let (tree, rest) ← complete s (.binary (left.note.through right.note) op left right) rest
        joined s op? operand fuel tree rest
      | none => .ok (left, tokens)

/-- Operands joined by operators of one level, from the left. -/
def chain (s : Setting) (op? : Token → Option BinaryOp) (operand : Reader Tree) : Reader Tree :=
  fun tokens => do
    let (left, rest) ← operand tokens
    joined s op? operand rest.length left rest

/-- The five levels of binary operators, from the loosest to the tightest. -/
def disjunction (s : Setting) (operand : Reader Tree) : Reader Tree :=
  chain s orOp? <| chain s andOp? <| chain s relationOp? <| chain s sumOp? <|
    chain s productOp? operand

/-- A disjunction, or a choice between two expressions after one. -/
def choice (s : Setting) (operand expr : Reader Tree) : Reader Tree := fun tokens => do
  let (condition, rest) ← disjunction s operand tokens
  match rest with
  | ⟨.symbol .question, _⟩ :: rest =>
    let (yes, rest) ← disjunction s operand rest
    let (_, rest) ← expect s .colon rest
    let (no, rest) ← expr rest
    complete s (.ternary (condition.note.through no.note) condition yes no) rest
  | rest => return (condition, rest)

mutual

/-- An expression, with `depth` levels of nesting left. -/
def expr (s : Setting) : (depth : Nat) → Reader Tree
  | 0, tokens => tooDeep s tokens
  | depth + 1, tokens =>
    choice s (fun tokens => operand s depth tokens) (fun tokens => expr s depth tokens) tokens

/-- An operand of a binary operator, with `depth` levels of nesting left. -/
def operand (s : Setting) : (depth : Nat) → Reader Tree
  | 0, tokens => signs s (tooDeep s) (tooDeep s) tokens
  | depth + 1, tokens =>
    signs s (fun tokens => operand s depth tokens)
      (choice s (fun tokens => operand s depth tokens) (fun tokens => expr s depth tokens)) tokens

end

/-- The tree of a complete expression, in which no token is left over. -/
def tree (maxDepth : Nat) (tokens : Tokens) : Except ParseError Tree :=
  if tokens.isEmpty then .error ⟨.emptyInput, .point 0⟩
  else do
    let (found, rest) ← expr ⟨maxDepth, stopOf tokens⟩ maxDepth tokens
    match rest with
    | [] => return found
    | next :: _ => .error ⟨.trailingToken next.item, next.span⟩

/-- The numbered tree of a complete expression. -/
def parse (maxDepth : Nat) (tokens : Tokens) : Except ParseError (Expr Mark) :=
  (tree maxDepth tokens).map (·.number 1)

/-! ### Several expressions in a row -/

/-- A run over tokens from which one expression after the other is read. -/
structure Session where
  setting : Setting
  remaining : Tokens
  /-- The number of nodes of the expressions read so far. -/
  built : Nat

/-- Start at the first of the tokens. -/
def Session.start (maxDepth : Nat) (tokens : Tokens) : Session :=
  ⟨⟨maxDepth, stopOf tokens⟩, tokens, 0⟩

def Session.atEnd (run : Session) : Bool := run.remaining.isEmpty

/-- Read the next expression. Its nodes are numbered on from the ones before. -/
def Session.next (run : Session) : Except ParseError (Expr Mark × Session) := do
  let (found, rest) ← expr run.setting run.setting.maxDepth run.remaining
  return (found.number (run.built + 1), { run with remaining := rest, built := run.built + found.size })

end Parser

end Cel
