import Cel.Expr.Parser
import Cel.Proofs.Expr.Numbering

/-! # Reading expressions with counters

The parser as a machine with a state. Nodes get their numbers when they are complete, from a counter
that all parts of the machine share. The heights of complete nodes are kept in a table by number, in
which the height of a node is found from those directly below it. A second counter keeps the depth of
the descent. It is raised for every nested expression and every sign, and lowered behind it.
-/

namespace Cel.Parser.Counting

/-- What changes while expressions are read: the tokens that are left, the number of the next node, the
depth of the descent and the heights of the complete nodes. -/
structure Run where
  remaining : Tokens
  nextId : Nat
  depth : Nat
  heights : List Nat
deriving DecidableEq, Repr

/-- The state before the first node. -/
def Run.start (tokens : Tokens) : Run := ⟨tokens, 1, 0, []⟩

abbrev Step (α : Type) := Run → Except ParseError (α × Run)

/-- Take tokens without completing a node. -/
def take {α : Type} (reader : Reader α) : Step α := fun run => do
  let (value, rest) ← reader run.remaining
  return (value, { run with remaining := rest })

/-- Complete a node, which gets the next number, unless it is taller than the nesting limit. -/
def node (s : Setting) (span : Span) (make : Mark → Expr Mark) : Step (Expr Mark) := fun run =>
  let made := make ⟨run.nextId, span⟩
  let height := Expr.heightBy run.heights made
  if s.maxDepth < height then .error ⟨.tooDeep s.maxDepth, span⟩
  else .ok (made, { run with nextId := run.nextId + 1, heights := run.heights ++ [height] })

/-- Read something one level further down. -/
def descend {α : Type} (s : Setting) (inner : Step α) : Step α := fun run =>
  if s.maxDepth < run.depth + 1 then .error ⟨.tooDeep s.maxDepth, here s run.remaining⟩
  else do
    let (value, run) ← inner { run with depth := run.depth + 1 }
    return (value, { run with depth := run.depth - 1 })

/-! ### Sequences -/

def further {β : Type} (close : Symbol) (item : Step β) : (fuel : Nat) → Step (List β)
  | 0, run => .ok ([], run)
  | fuel + 1, run =>
    match run.remaining with
    | ⟨.symbol .comma, _⟩ :: rest =>
      if startsWith close rest then .ok ([], { run with remaining := rest })
      else do
        let (first, run) ← item { run with remaining := rest }
        let (items, run) ← further close item fuel run
        return (first :: items, run)
    | _ => .ok ([], run)

def sequence {β : Type} (s : Setting) (close : Symbol) (item : Step β) : Step (List β × Span) :=
  fun run =>
    if startsWith close run.remaining then do
      let (stop, run) ← take (expect s close) run
      return (([], stop), run)
    else do
      let (first, run) ← item run
      let (items, run) ← further close item run.remaining.length run
      let (stop, run) ← take (expect s close) run
      return ((first :: items, stop), run)

def entry (s : Setting) (expr : Step (Expr Mark)) : Step (Expr Mark × Expr Mark) := fun run => do
  let (key, run) ← expr run
  let (_, run) ← take (expect s .colon) run
  let (value, run) ← expr run
  return ((key, value), run)

def field (s : Setting) (expr : Step (Expr Mark)) : Step (String × Expr Mark) := fun run => do
  let (name, run) ← take (expectName s .field) run
  let (_, run) ← take (expect s .colon) run
  let (value, run) ← expr run
  return ((name.item, value), run)

/-! ### Atoms and what follows them -/

def atom (s : Setting) (expr : Step (Expr Mark)) : Step (Expr Mark) := fun run =>
  match run.remaining with
  | [] => .error ⟨.unexpectedEnd, .point s.stop⟩
  | ⟨token, span⟩ :: rest =>
    let behind := { run with remaining := rest }
    match constant? token with
    | some value => node s span (.constant · value) behind
    | none =>
      match token with
      | .ident name => node s span (.ident · name) behind
      | .reserved word => .error ⟨.reservedWord word, span⟩
      | .symbol .dot => do
        let (name, run) ← take (expectName s .member) behind
        node s (span.through name.span) (.rootIdent · name.item) run
      | .symbol .leftParen => do
        let (tree, run) ← expr behind
        let (_, run) ← take (expect s .rightParen) run
        return (tree, run)
      | .symbol .leftBracket => do
        let ((items, stop), run) ← sequence s .rightBracket expr behind
        node s (span.through stop) (.list · items) run
      | .symbol .leftBrace => do
        let ((entries, stop), run) ← sequence s .rightBrace (entry s expr) behind
        node s (span.through stop) (.map · entries) run
      | token => .error ⟨.unexpectedToken token, span⟩

def suffixes (s : Setting) (expr : Step (Expr Mark)) : (fuel : Nat) → Expr Mark → Step (Expr Mark)
  | 0, tree, run => .ok (tree, run)
  | fuel + 1, tree, run =>
    match run.remaining with
    | ⟨.symbol .leftParen, span⟩ :: rest =>
      if tree.isCallee then do
        let ((args, stop), run) ← sequence s .rightParen expr { run with remaining := rest }
        let (tree, run) ← node s (tree.note.span.through stop) (.call · tree args) run
        suffixes s expr fuel tree run
      else .error ⟨.notCallable, span⟩
    | ⟨.symbol .leftBracket, _⟩ :: rest => do
      let (position, run) ← expr { run with remaining := rest }
      let (stop, run) ← take (expect s .rightBracket) run
      let (tree, run) ← node s (tree.note.span.through stop) (.index · tree position) run
      suffixes s expr fuel tree run
    | ⟨.symbol .dot, _⟩ :: rest => do
      let (name, run) ← take (expectName s .member) { run with remaining := rest }
      let (tree, run) ← node s (tree.note.span.through name.span) (.member · tree name.item) run
      suffixes s expr fuel tree run
    | ⟨.symbol .leftBrace, _⟩ :: rest =>
      if tree.isTypeName then do
        let ((fields, stop), run) ←
          sequence s .rightBrace (field s expr) { run with remaining := rest }
        let (tree, run) ← node s (tree.note.span.through stop) (.struct · tree fields) run
        suffixes s expr fuel tree run
      else .ok (tree, run)
    | _ => .ok (tree, run)

def primary (s : Setting) (expr : Step (Expr Mark)) : Step (Expr Mark) := fun run => do
  let (tree, run) ← atom s expr run
  suffixes s expr run.remaining.length tree run

/-! ### Operators -/

def signs (s : Setting) (signed expr : Step (Expr Mark)) : Step (Expr Mark) := fun run =>
  match run.remaining with
  | [] => primary s expr run
  | ⟨token, span⟩ :: rest =>
    match unaryOp? token with
    | some op => do
      let (operand, run) ← signed { run with remaining := rest }
      node s (span.through operand.note.span) (.unary · op operand) run
    | none => primary s expr run

def joined (s : Setting) (op? : Token → Option BinaryOp) (operand : Step (Expr Mark)) :
    (fuel : Nat) → Expr Mark → Step (Expr Mark)
  | 0, left, run => .ok (left, run)
  | fuel + 1, left, run =>
    match run.remaining with
    | [] => .ok (left, run)
    | ⟨token, _⟩ :: rest =>
      match op? token with
      | some op => do
        let (right, run) ← operand { run with remaining := rest }
        let (tree, run) ←
          node s (left.note.span.through right.note.span) (.binary · op left right) run
        joined s op? operand fuel tree run
      | none => .ok (left, run)

def chain (s : Setting) (op? : Token → Option BinaryOp) (operand : Step (Expr Mark)) :
    Step (Expr Mark) := fun run => do
  let (left, run) ← operand run
  joined s op? operand run.remaining.length left run

def disjunction (s : Setting) (operand : Step (Expr Mark)) : Step (Expr Mark) :=
  chain s orOp? <| chain s andOp? <| chain s relationOp? <| chain s sumOp? <|
    chain s productOp? operand

def choice (s : Setting) (operand expr : Step (Expr Mark)) : Step (Expr Mark) := fun run => do
  let (condition, run) ← disjunction s operand run
  match run.remaining with
  | ⟨.symbol .question, _⟩ :: rest =>
    let (yes, run) ← disjunction s operand { run with remaining := rest }
    let (_, run) ← take (expect s .colon) run
    let (no, run) ← expr run
    node s (condition.note.span.through no.note.span) (.ternary · condition yes no) run
  | _ => return (condition, run)

mutual

/-- An expression. As many levels are left as the counter is below the nesting limit, so the counter
ends the descent before the levels do. -/
def expr (s : Setting) : (levels : Nat) → Step (Expr Mark)
  | 0, run => descend s (take (tooDeep s)) run
  | levels + 1, run =>
    descend s (choice s (fun run => operand s levels run) (fun run => expr s levels run)) run

/-- An operand of a binary operator. What follows a sign is an operand one level further down. -/
def operand (s : Setting) : (levels : Nat) → Step (Expr Mark)
  | 0, run => signs s (descend s (take (tooDeep s))) (descend s (take (tooDeep s))) run
  | levels + 1, run =>
    signs s (descend s (fun run => operand s levels run))
      (descend s (choice s (fun run => operand s levels run) (fun run => expr s levels run))) run

end

/-- Read one expression, with the levels that the counter leaves. -/
def next (s : Setting) : Step (Expr Mark) := fun run => expr s (s.maxDepth - run.depth) run

/-- The tree of a complete expression, in which no token is left over. -/
def parse (maxDepth : Nat) (tokens : Tokens) : Except ParseError (Expr Mark) :=
  if tokens.isEmpty then .error ⟨.emptyInput, .point 0⟩
  else do
    let (found, run) ← next ⟨maxDepth, stopOf tokens⟩ (.start tokens)
    match run.remaining with
    | [] => return found
    | next :: _ => .error ⟨.trailingToken next.item, next.span⟩

end Cel.Parser.Counting
