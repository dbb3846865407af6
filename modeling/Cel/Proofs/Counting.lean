import Cel.Proofs.Counting.Machine
import Cel.Proofs.Grammar.Readers

/-! # The counters keep what they stand for

While the trees of one expression are read, the counter is ahead of their first number by their size,
the table holds their heights in the order of their numbers, and the depth is back where it was. So the
machine with counters reads the tree that the readers read, numbered, and gives up where they do.
-/

namespace Cel.Parser.Counting

open Cel.Expr (sizeOfAll nodesOfAll numberAll)

/-- Whether the table holds the heights of the nodes that have got numbers so far. -/
def Run.Even (run : Run) : Prop := run.heights.length + 1 = run.nextId

/-- The state after some trees have been read, when there are some tokens left. -/
def Run.after (run : Run) (trees : List Tree) (rest : Tokens) : Run where
  remaining := rest
  nextId := run.nextId + sizeOfAll trees
  depth := run.depth
  heights := run.heights ++ (nodesOfAll (numberAll run.nextId trees)).map Expr.height

namespace Run

variable {run : Run} {trees others : List Tree} {rest left : Tokens}

@[simp] theorem after_remaining : (run.after trees rest).remaining = rest := rfl

@[simp] theorem after_nextId : (run.after trees rest).nextId = run.nextId + sizeOfAll trees := rfl

@[simp] theorem after_depth : (run.after trees rest).depth = run.depth := rfl

theorem after_nil : run.after [] rest = { run with remaining := rest } := by
  simp [after, sizeOfAll, numberAll, nodesOfAll]

@[simp] theorem after_after :
    (run.after trees rest).after others left = run.after (trees ++ others) left := by
  simp only [after, Expr.sizeOfAll_append, Expr.numberAll_append, Expr.nodesOfAll_eq, List.flatMap_append,
    List.map_append, List.append_assoc, Nat.add_assoc]

theorem Even.after (even : run.Even) : (run.after trees rest).Even := by
  have count : (nodesOfAll (numberAll run.nextId trees)).length = sizeOfAll trees := by
    rw [Expr.length_nodesOfAll fun e _ => Expr.length_nodes e,
      Expr.sizeOfAll_numberAll fun e _ first => Expr.size_number first e]
  unfold Even at even ⊢
  rw [after_nextId, Run.after, List.length_append, List.length_map, count, ← even]
  omega

end Run

/-! ### What is kept -/

section Keeps

variable {β β' γ γ' : Type} {base : Run}

/-- Whether the machine does from a state on what a reader does: it reads the value numbered, ends after
the trees of the value, and fails with the same error. -/
def Keeps (base : Run) (trees : β → List Tree) (number : β → β')
    (machine : Except ParseError (β' × Run)) (result : Except ParseError (β × Tokens)) : Prop :=
  machine = result.map fun read => (number read.1, base.after (trees read.1) read.2)

variable {trees : β → List Tree} {number : β → β'} {trees' : γ → List Tree} {number' : γ → γ'}

theorem Keeps.bind {machine : Except ParseError (β' × Run)}
    {result : Except ParseError (β × Tokens)} {next : β' × Run → Except ParseError (γ' × Run)}
    {next' : β × Tokens → Except ParseError (γ × Tokens)}
    (first : Keeps base trees number machine result)
    (goOn : ∀ value rest, Keeps base trees' number'
      (next (number value, base.after (trees value) rest)) (next' (value, rest))) :
    Keeps base trees' number' (machine >>= next) (result >>= next') := by
  cases result with
  | error error =>
    cases first
    rfl
  | ok read =>
    cases first
    exact goOn read.1 read.2

theorem Keeps.pure {value : γ} {value' : γ'} {before : List Tree} {rest : Tokens}
    (numbered : value' = number' value) (same : before = trees' value) :
    Keeps base trees' number' (.ok (value', base.after before rest)) (.ok (value, rest)) := by
  rw [numbered, same]
  rfl

theorem Keeps.error (error : ParseError) : Keeps base trees number (.error error) (.error error) := rfl

end Keeps

/-- Whether a step does what a reader does, from every state in which the table is even and a number of
levels is left. -/
def Follows {β β' : Type} (s : Setting) (levels : Nat) (trees : β → List Tree)
    (number : Nat → β → β') (step : Step β') (reader : Reader β) : Prop :=
  ∀ (base : Run) (tokens : Tokens), base.Even → base.depth + levels = s.maxDepth →
    Keeps base trees (number base.nextId) (step (base.after [] tokens)) (reader tokens)

section Follows

variable {β β' : Type} {s : Setting} {levels : Nat} {trees : β → List Tree}
  {number : Nat → β → β'} {step : Step β'} {reader : Reader β} {base : Run}

/-- A step that comes after others. -/
theorem Follows.after (follows : Follows s levels trees number step reader) (even : base.Even)
    (level : base.depth + levels = s.maxDepth) (before : List Tree) (rest : Tokens) :
    Keeps base (fun value => before ++ trees value) (number (base.nextId + sizeOfAll before))
      (step (base.after before rest)) (reader rest) := by
  have kept := follows (base.after before rest) rest even.after level
  simpa [Keeps] using kept

/-- Taking tokens leaves the counters as they are. -/
theorem take_keeps (reader : Reader β) (before : List Tree) (rest : Tokens) :
    Keeps base (fun _ => before) id (take reader (base.after before rest)) (reader rest) := by
  unfold take Keeps
  rw [Run.after_remaining]
  cases reader rest <;> rfl

/-- A level further down the depth is one more, and behind it what it was. -/
theorem descend_follows (follows : Follows s levels trees number step reader) :
    Follows s (levels + 1) trees number (descend s step) reader := by
  intro base tokens even level
  have inside : ¬s.maxDepth < base.depth + 1 := by omega
  have deeper : base.depth + 1 + levels = s.maxDepth := by omega
  have kept := follows { base with depth := base.depth + 1 } tokens even deeper
  unfold Keeps at kept
  unfold descend Keeps
  rw [Run.after_depth, if_neg inside]
  show (step ({ base with depth := base.depth + 1 }.after [] tokens) >>= _) = _
  rw [kept]
  cases reader tokens <;> rfl

/-- Where no level is left, the counter ends the descent. -/
theorem descend_follows_tooDeep (step : Step (Expr Mark)) :
    Follows s 0 ([·]) Expr.number (descend s step) (tooDeep s) := by
  intro base tokens even level
  have beyond : s.maxDepth < base.depth + 1 := by omega
  unfold descend
  rw [Run.after_depth, if_pos beyond]
  exact .error _

end Follows

/-- A node that is completed behind the trees below it has its number and its height. -/
theorem node_keeps {s : Setting} {base : Run} (even : base.Even) (tree : Tree)
    {make : Mark → Expr Mark}
    (made : make (tree.number base.nextId).note = tree.number base.nextId) (rest : Tokens) :
    Keeps base ([·]) (Expr.number base.nextId)
      (node s tree.note make (base.after tree.children rest)) (complete s tree rest) := by
  have height : Expr.heightBy (base.after tree.children rest).heights (tree.number base.nextId) =
      tree.height := by
    rw [← Expr.height_number base.nextId tree]
    refine Expr.heightBy_eq fun child member => ?_
    rw [Expr.children_number] at member
    obtain ⟨notBefore, found⟩ := Expr.getElem?_heightsOfAll member
    unfold Run.Even at even
    rw [Run.after, List.getElem?_append_right (by omega), ← found]
    congr 1
    omega
  have mark : (⟨base.nextId + sizeOfAll tree.children, tree.note⟩ : Mark) =
      (tree.number base.nextId).note := by
    rw [← Expr.id_number, ← Expr.span_number base.nextId tree]
  unfold node complete
  simp only [Run.after_nextId, mark, made, height]
  split
  · exact .error _
  · have entered : (base.after [tree] rest).heights =
        (base.after tree.children rest).heights ++ [tree.height] := by
      simp [Run.after, numberAll, nodesOfAll, Expr.nodes_eq (tree.number _), Expr.children_number,
        Expr.height_number]
    rw [← entered]
    unfold Keeps
    simp [Except.map, Run.after, sizeOfAll, Expr.size_eq tree, Nat.add_assoc]

/-! ### Sequences -/

/-- Number what is read as items one after the other. -/
def numberItems {β β' : Type} (trees : β → List Tree) (number : Nat → β → β') :
    Nat → List β → List β'
  | _, [] => []
  | first, item :: rest =>
    number first item :: numberItems trees number (first + sizeOfAll (trees item)) rest

section Sequences

variable {β β' : Type} {s : Setting} {levels : Nat} {trees : β → List Tree}
  {number : Nat → β → β'} {step : Step β'} {reader : Reader β}

theorem further_follows (follows : Follows s levels trees number step reader) (close : Symbol)
    (fuel : Nat) : Follows s levels (·.flatMap trees) (numberItems trees number)
      (further close step fuel) (Parser.further close reader fuel) := by
  induction fuel with
  | zero => exact fun base tokens even level => .pure rfl rfl
  | succ fuel ih =>
    intro base tokens even level
    unfold further Parser.further
    rw [Run.after_remaining]
    rcases tokens with _ | ⟨⟨token, span⟩, rest⟩
    · exact .pure rfl rfl
    · cases token with
      | symbol sign =>
        cases sign with
        | comma =>
          dsimp only
          split
          · exact .pure rfl rfl
          · refine (follows base rest even level).bind fun first rest => ?_
            refine (ih.after even level (trees first) rest).bind fun items rest => ?_
            exact .pure rfl rfl
        | _ => exact .pure rfl rfl
      | _ => exact .pure rfl rfl

theorem sequence_follows (follows : Follows s levels trees number step reader) (close : Symbol) :
    Follows s levels (fun read => read.1.flatMap trees)
      (fun first read => (numberItems trees number first read.1, read.2))
      (sequence s close step) (Parser.sequence s close reader) := by
  intro base tokens even level
  unfold sequence Parser.sequence
  rw [Run.after_remaining]
  split
  · refine (take_keeps _ _ _).bind fun stop rest => ?_
    exact .pure rfl rfl
  · refine (follows base _ even level).bind fun first rest => ?_
    refine ((further_follows follows close _).after even level _ rest).bind fun items rest => ?_
    refine (take_keeps _ _ _).bind fun stop rest => ?_
    exact .pure rfl rfl

end Sequences

/-! ### Items -/

section Items

variable {s : Setting} {levels : Nat} {step : Step (Expr Mark)} {reader : Reader Tree}
  (follows : Follows s levels ([·]) Expr.number step reader)

theorem numberItems_exprs (first : Nat) (items : List Tree) :
    numberItems ([·]) Expr.number first items = numberAll first items := by
  induction items generalizing first with
  | nil => rfl
  | cons e rest ih => rw [numberItems, numberAll, ih]; rfl

theorem numberItems_entries (first : Nat) (entries : List (Tree × Tree)) :
    numberItems (fun entry => [entry.1, entry.2])
      (fun first entry => (entry.1.number first, entry.2.number (first + entry.1.size))) first entries =
      Expr.numberEntries first entries := by
  induction entries generalizing first with
  | nil => rfl
  | cons entry rest ih => rw [numberItems, Expr.numberEntries, ih, Nat.add_assoc]; rfl

theorem numberItems_fields (first : Nat) (fields : List (String × Tree)) :
    numberItems (fun field => [field.2]) (fun first field => (field.1, field.2.number first)) first
      fields = Expr.numberFields first fields := by
  induction fields generalizing first with
  | nil => rfl
  | cons field rest ih => rw [numberItems, Expr.numberFields, ih]; rfl

include follows

theorem exprs_follow (close : Symbol) :
    Follows s levels (fun read => read.1) (fun first read => (numberAll first read.1, read.2))
      (sequence s close step) (Parser.sequence s close reader) := by
  have sequence := sequence_follows follows close
  simp only [numberItems_exprs, List.flatMap_singleton'] at sequence
  exact sequence

theorem entry_follows :
    Follows s levels (fun entry => [entry.1, entry.2])
      (fun first entry => (entry.1.number first, entry.2.number (first + entry.1.size)))
      (entry s step) (Parser.entry s reader) := by
  intro base tokens even level
  refine (follows base tokens even level).bind fun key rest => ?_
  refine (take_keeps _ _ _).bind fun colon rest => ?_
  refine (follows.after even level _ rest).bind fun value rest => ?_
  exact .pure rfl rfl

theorem entries_follow (close : Symbol) :
    Follows s levels (fun read => read.1.flatMap fun (key, value) => [key, value])
      (fun first read => (Expr.numberEntries first read.1, read.2))
      (sequence s close (entry s step)) (Parser.sequence s close (Parser.entry s reader)) := by
  have sequence := sequence_follows (entry_follows follows) close
  simp only [numberItems_entries] at sequence
  exact sequence

theorem field_follows :
    Follows s levels (fun field => [field.2]) (fun first field => (field.1, field.2.number first))
      (field s step) (Parser.field s reader) := by
  intro base tokens even level
  refine (take_keeps _ _ _).bind fun name rest => ?_
  refine (take_keeps _ _ _).bind fun colon rest => ?_
  refine (follows base rest even level).bind fun value rest => ?_
  exact .pure rfl rfl

theorem fields_follow (close : Symbol) :
    Follows s levels (fun read => read.1.map (·.2))
      (fun first read => (Expr.numberFields first read.1, read.2))
      (sequence s close (field s step)) (Parser.sequence s close (Parser.field s reader)) := by
  have sequence := sequence_follows (field_follows follows) close
  simp only [numberItems_fields, ← List.map_eq_flatMap] at sequence
  exact sequence

end Items

/-! ### Atoms and what follows them -/

section Atoms

variable {s : Setting} {levels : Nat} {step : Step (Expr Mark)} {reader : Reader Tree}
  (follows : Follows s levels ([·]) Expr.number step reader)

include follows

theorem atom_follows : Follows s levels ([·]) Expr.number (atom s step) (Parser.atom s reader) := by
  intro base tokens even level
  unfold atom Parser.atom
  rw [Run.after_remaining]
  rcases tokens with _ | ⟨⟨token, span⟩, rest⟩
  · exact .error _
  · dsimp only
    cases constant? token with
    | some value => exact node_keeps even (.constant span value) (by rfl) rest
    | none =>
      cases token with
      | ident name => exact node_keeps even (.ident span name) (by rfl) rest
      | symbol sign =>
        cases sign with
        | dot =>
          refine (take_keeps _ _ _).bind fun name rest => ?_
          exact node_keeps even (.rootIdent (span.through name.span) name.item) (by rfl) rest
        | leftParen =>
          refine (follows base rest even level).bind fun tree rest => ?_
          refine (take_keeps _ _ _).bind fun closing rest => ?_
          exact .pure rfl rfl
        | leftBracket =>
          refine (exprs_follow follows _ base rest even level).bind fun (items, stop) rest => ?_
          exact node_keeps even (.list (span.through stop) items) (by rfl) rest
        | leftBrace =>
          refine (entries_follow follows _ base rest even level).bind fun (entries, stop) rest => ?_
          exact node_keeps even (.map (span.through stop) entries) (by rfl) rest
        | _ => exact .error _
      | _ => exact .error _

theorem suffixes_keep (fuel : Nat) {base : Run} (even : base.Even)
    (level : base.depth + levels = s.maxDepth) (tree : Tree) (tokens : Tokens) :
    Keeps base ([·]) (Expr.number base.nextId)
      (suffixes s step fuel (tree.number base.nextId) (base.after [tree] tokens))
      (Parser.suffixes s reader fuel tree tokens) := by
  induction fuel generalizing tree tokens with
  | zero => exact .pure rfl rfl
  | succ fuel ih =>
    unfold suffixes Parser.suffixes
    rw [Run.after_remaining, Expr.isCallee_number, Expr.isTypeName_number, Expr.span_number]
    rcases tokens with _ | ⟨⟨token, span⟩, rest⟩
    · exact .pure rfl rfl
    · cases token with
      | symbol sign =>
        cases sign with
        | leftParen =>
          dsimp only
          split
          · refine ((exprs_follow follows _).after even level [tree] rest).bind
              fun (args, stop) rest => ?_
            refine (node_keeps even (.call (tree.note.through stop) tree args) (by rfl) rest).bind
              fun node rest => ?_
            exact ih node rest
          · exact .error _
        | leftBracket =>
          refine (follows.after even level [tree] rest).bind fun position rest => ?_
          refine (take_keeps _ _ _).bind fun stop rest => ?_
          refine (node_keeps even (.index (tree.note.through stop) tree position) (by rfl) rest).bind
            fun node rest => ?_
          exact ih node rest
        | dot =>
          refine (take_keeps _ _ _).bind fun name rest => ?_
          refine (node_keeps even (.member (tree.note.through name.span) tree name.item) (by rfl)
            rest).bind fun node rest => ?_
          exact ih node rest
        | leftBrace =>
          dsimp only
          split
          · refine ((fields_follow follows _).after even level [tree] rest).bind
              fun (fields, stop) rest => ?_
            refine (node_keeps even (.struct (tree.note.through stop) tree fields) (by rfl) rest).bind
              fun node rest => ?_
            exact ih node rest
          · exact .pure rfl rfl
        | _ => exact .pure rfl rfl
      | _ => exact .pure rfl rfl

theorem primary_follows :
    Follows s levels ([·]) Expr.number (primary s step) (Parser.primary s reader) := by
  intro base tokens even level
  refine (atom_follows follows base tokens even level).bind fun tree rest => ?_
  exact suffixes_keep follows _ even level tree rest

theorem signs_follow {signed : Step (Expr Mark)} {signed' : Reader Tree}
    (operand : Follows s levels ([·]) Expr.number signed signed') :
    Follows s levels ([·]) Expr.number (signs s signed step) (Parser.signs s signed' reader) := by
  intro base tokens even level
  unfold signs Parser.signs
  rw [Run.after_remaining]
  rcases tokens with _ | ⟨⟨token, span⟩, rest⟩
  · exact primary_follows follows base [] even level
  · dsimp only
    cases unaryOp? token with
    | some op =>
      refine (operand base rest even level).bind fun tree rest => ?_
      rw [Expr.span_number]
      exact node_keeps even (.unary (span.through tree.note) op tree) (by rfl) rest
    | none => exact primary_follows follows base _ even level

end Atoms

/-! ### Operations -/

/-- Operands joined by the operators of a tier and the tighter ones. -/
def tierStep (s : Setting) (operand : Step (Expr Mark)) : Nat → Step (Expr Mark)
  | 0 => operand
  | tier + 1 => chain s (opAt (tier + 1)) (tierStep s operand tier)

section Operations

variable {s : Setting} {levels : Nat} {step : Step (Expr Mark)} {reader : Reader Tree}
  (follows : Follows s levels ([·]) Expr.number step reader)

include follows

theorem joined_keep (op? : Token → Option BinaryOp) (fuel : Nat) {base : Run} (even : base.Even)
    (level : base.depth + levels = s.maxDepth) (left : Tree) (tokens : Tokens) :
    Keeps base ([·]) (Expr.number base.nextId)
      (joined s op? step fuel (left.number base.nextId) (base.after [left] tokens))
      (Parser.joined s op? reader fuel left tokens) := by
  induction fuel generalizing left tokens with
  | zero => exact .pure rfl rfl
  | succ fuel ih =>
    unfold joined Parser.joined
    rw [Run.after_remaining]
    rcases tokens with _ | ⟨⟨token, span⟩, rest⟩
    · exact .pure rfl rfl
    · dsimp only
      cases op? token with
      | some op =>
        refine (follows.after even level [left] rest).bind fun right rest => ?_
        rw [Expr.span_number, Expr.span_number]
        refine (node_keeps even (.binary (left.note.through right.note) op left right) (by rfl)
          rest).bind fun node rest => ?_
        exact ih node rest
      | none => exact .pure rfl rfl

theorem tierStep_follows (tier : Nat) :
    Follows s levels ([·]) Expr.number (tierStep s step tier) (tierReader s reader tier) := by
  induction tier with
  | zero => exact follows
  | succ tier ih =>
    intro base tokens even level
    refine (ih base tokens even level).bind fun left rest => ?_
    exact joined_keep ih _ _ even level left rest

theorem choice_follows {inner : Step (Expr Mark)} {inner' : Reader Tree}
    (innerFollows : Follows s levels ([·]) Expr.number inner inner') :
    Follows s levels ([·]) Expr.number (choice s step inner) (Parser.choice s reader inner') := by
  intro base tokens even level
  have operation : Follows s levels ([·]) Expr.number (disjunction s step)
    (Parser.disjunction s reader) := tierStep_follows follows 5
  refine (operation base tokens even level).bind fun condition rest => ?_
  dsimp only
  rw [Run.after_remaining]
  rcases rest with _ | ⟨⟨token, span⟩, rest⟩
  · exact .pure rfl rfl
  · cases token with
    | symbol sign =>
      cases sign with
      | question =>
        refine (operation.after even level [condition] rest).bind fun yes rest => ?_
        refine (take_keeps _ _ _).bind fun colon rest => ?_
        refine (innerFollows.after even level _ rest).bind fun no rest => ?_
        have behindYes : base.nextId + sizeOfAll ([condition] ++ [yes]) =
            base.nextId + condition.size + yes.size := (Nat.add_assoc _ _ _).symm
        rw [Expr.span_number, Expr.span_number, behindYes]
        exact node_keeps even (.ternary (condition.note.through no.note) condition yes no) (by rfl) rest
      | _ => exact .pure rfl rfl
    | _ => exact .pure rfl rfl

end Operations

/-! ### Complete expressions -/

/-- By induction on the levels that are left, which with the depth make up the nesting limit. -/
theorem expr_follows (s : Setting) (levels : Nat) :
    Follows s levels ([·]) Expr.number (expr s levels) (Parser.expr s levels) ∧
      Follows s levels ([·]) Expr.number (operand s levels) (Parser.operand s levels) := by
  induction levels with
  | zero =>
    have ended : Follows s 0 ([·]) Expr.number (descend s (take (tooDeep s))) (tooDeep s) :=
      descend_follows_tooDeep _
    have exprFollows : Follows s 0 ([·]) Expr.number (expr s 0) (Parser.expr s 0) := by
      intro base tokens even level
      rw [expr, Parser.expr]
      exact ended base tokens even level
    refine ⟨exprFollows, fun base tokens even level => ?_⟩
    rw [operand, Parser.operand]
    exact signs_follow ended ended base tokens even level
  | succ levels ih =>
    obtain ⟨exprIh, operandIh⟩ := ih
    have inner := descend_follows (choice_follows operandIh exprIh)
    have exprFollows : Follows s (levels + 1) ([·]) Expr.number (expr s (levels + 1))
        (Parser.expr s (levels + 1)) := by
      intro base tokens even level
      rw [expr, Parser.expr]
      exact inner base tokens even level
    refine ⟨exprFollows, fun base tokens even level => ?_⟩
    rw [operand, Parser.operand]
    exact signs_follow inner (descend_follows operandIh) base tokens even level

/-- From the start of an expression on, the machine reads the numbered tree, and ends behind it. -/
theorem next_keeps (s : Setting) (run : Run) (even : run.Even) (outside : run.depth = 0) :
    Keeps run ([·]) (Expr.number run.nextId) (next s run)
      (Parser.expr s s.maxDepth run.remaining) := by
  have follows := (expr_follows s s.maxDepth).1 run run.remaining even (by omega)
  rw [Run.after_nil] at follows
  unfold next
  rw [outside]
  exact follows

/-- The machine with counters reads the trees that are read, with the same numbers. -/
theorem parse_eq (maxDepth : Nat) (tokens : Tokens) :
    parse maxDepth tokens = Parser.parse maxDepth tokens := by
  have kept := next_keeps ⟨maxDepth, stopOf tokens⟩ (.start tokens) rfl rfl
  unfold Keeps at kept
  unfold parse Parser.parse tree
  split
  · rfl
  · rw [kept, Run.start]
    cases Parser.expr ⟨maxDepth, stopOf tokens⟩ maxDepth tokens with
    | error error => rfl
    | ok read =>
      obtain ⟨found, rest⟩ := read
      cases rest <;> rfl

end Cel.Parser.Counting
