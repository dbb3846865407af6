import Cel.Engines.Standard
import Cel.Program
import Cel.Proofs.Counting

/-! # Raising the nesting limit

A run of the parser with a higher nesting limit does what the run with the lower one does, step by
step, until that gives up for want of levels. So if the lower limit is enough for a result, whether a
tree or an error of another kind, the higher one gives the same result.
-/

namespace Cel

/-- Whether an error says that the nesting limit is used up. -/
def ParseError.IsTooDeep (error : ParseError) : Prop := ∃ limit, error.cause = .tooDeep limit

namespace Parser

/-! ### Results that are repeated -/

section Repeats

variable {α β : Type}

/-- Whether a result with more levels is the one with fewer levels, unless that is an error for want
of levels. -/
def Repeats (fewer more : Except ParseError α) : Prop :=
  (∃ error, fewer = .error error ∧ error.IsTooDeep) ∨ more = fewer

theorem Repeats.refl (result : Except ParseError α) : Repeats result result := .inr rfl

theorem Repeats.of_isTooDeep {error : ParseError} (isTooDeep : error.IsTooDeep)
    (more : Except ParseError α) : Repeats (.error error) more :=
  .inl ⟨error, rfl, isTooDeep⟩

theorem Repeats.bind {fewer more : Except ParseError α} {next next' : α → Except ParseError β}
    (first : Repeats fewer more) (rest : ∀ value, Repeats (next value) (next' value)) :
    Repeats (fewer >>= next) (more >>= next') := by
  rcases first with ⟨error, rfl, isTooDeep⟩ | rfl
  · exact .of_isTooDeep isTooDeep _
  · cases more with
    | error error => exact .refl _
    | ok value => exact rest value

/-- Whether a reader with more levels repeats what one with fewer levels reads from any tokens. -/
def Extends (reader reader' : Reader α) : Prop :=
  ∀ tokens, Repeats (reader tokens) (reader' tokens)

end Repeats

/-- Whether two settings differ at most in that the second one allows more levels. -/
structure Setting.Raised (s s' : Setting) : Prop where
  maxDepth : s.maxDepth ≤ s'.maxDepth
  stop : s.stop = s'.stop

variable {s s' : Setting} (raised : s.Raised s')

/-! ### Elementary readers -/

theorem tooDeep_extends (reader : Reader Tree) : Extends (tooDeep s) reader :=
  fun _ => .of_isTooDeep ⟨_, rfl⟩ _

section Elementary

include raised

theorem here_raised (tokens : Tokens) : here s tokens = here s' tokens := by
  cases tokens with
  | nil => rw [here, here, raised.stop]
  | cons => rfl

theorem expect_raised (sign : Symbol) : expect s sign = expect s' sign := by
  funext tokens
  simp only [expect, here_raised raised]

theorem expectName_raised (role : NameRole) : expectName s role = expectName s' role := by
  funext tokens
  simp only [expectName, here_raised raised]

/-- A node that is low enough for the lower limit is so for the higher one. -/
theorem complete_extends (node : Tree) : Extends (complete s node) (complete s' node) := by
  intro tokens
  unfold complete
  by_cases tooHigh : s.maxDepth < node.height
  · rw [if_pos tooHigh]
    exact .of_isTooDeep ⟨_, rfl⟩ _
  · have fits : ¬s'.maxDepth < node.height := by
      have := raised.maxDepth
      omega
    rw [if_neg tooHigh, if_neg fits]
    exact .refl _

end Elementary

/-! ### Sequences -/

section Sequences

variable {β : Type} {item item' : Reader β}

theorem further_extends (each : Extends item item') (close : Symbol) (fuel : Nat) :
    Extends (further close item fuel) (further close item' fuel) := by
  induction fuel with
  | zero => exact fun tokens => .refl _
  | succ fuel ih =>
    intro tokens
    unfold further
    split
    · split
      · exact .refl _
      · exact (each _).bind fun _ => (ih _).bind fun _ => .refl _
    · exact .refl _

include raised

theorem sequence_extends (each : Extends item item') (close : Symbol) :
    Extends (sequence s close item) (sequence s' close item') := by
  intro tokens
  unfold sequence
  rw [expect_raised raised]
  split
  · exact .refl _
  · exact (each _).bind fun _ => (further_extends each close _ _).bind fun _ => .refl _

variable {expr expr' : Reader Tree} (inner : Extends expr expr')

include inner

theorem entry_extends : Extends (entry s expr) (entry s' expr') := by
  intro tokens
  unfold entry
  rw [expect_raised raised]
  exact (inner _).bind fun _ => (Repeats.refl _).bind fun _ => (inner _).bind fun _ => .refl _

theorem field_extends : Extends (field s expr) (field s' expr') := by
  intro tokens
  unfold field
  rw [expect_raised raised, expectName_raised raised]
  exact (Repeats.refl _).bind fun _ => (Repeats.refl _).bind fun _ =>
    (inner _).bind fun _ => .refl _

/-! ### Atoms and what follows them -/

theorem atom_extends : Extends (atom s expr) (atom s' expr') := by
  intro tokens
  have completed (node : Tree) (rest : Tokens) :
      Repeats (complete s node rest) (complete s' node rest) := complete_extends raised node rest
  unfold atom
  rw [expect_raised raised, expectName_raised raised, raised.stop]
  split
  · exact .refl _
  · split
    · exact completed _ _
    · split
      · exact completed _ _
      · exact .refl _
      · exact (Repeats.refl _).bind fun _ => completed _ _
      · exact (inner _).bind fun _ => .refl _
      · exact (sequence_extends raised inner _ _).bind fun _ => completed _ _
      · exact (sequence_extends raised (entry_extends raised inner) _ _).bind fun _ => completed _ _
      · exact .refl _

/-- Every round reads one more suffix and completes a node. -/
theorem suffixes_extends (fuel : Nat) (start : Tree) :
    Extends (suffixes s expr fuel start) (suffixes s' expr' fuel start) := by
  induction fuel generalizing start with
  | zero => exact fun tokens => .refl _
  | succ fuel ih =>
    intro tokens
    have goOn (node : Tree) (rest : Tokens) :
        Repeats (complete s node rest >>= fun x => suffixes s expr fuel x.1 x.2)
          (complete s' node rest >>= fun x => suffixes s' expr' fuel x.1 x.2) :=
      (complete_extends raised node rest).bind fun x => ih x.1 x.2
    unfold suffixes
    rw [expect_raised raised, expectName_raised raised]
    split
    · split
      · exact (sequence_extends raised inner _ _).bind fun _ => goOn _ _
      · exact .refl _
    · exact (inner _).bind fun _ => (Repeats.refl _).bind fun _ => goOn _ _
    · exact (Repeats.refl _).bind fun _ => goOn _ _
    · split
      · exact (sequence_extends raised (field_extends raised inner) _ _).bind fun _ => goOn _ _
      · exact .refl _
    · exact .refl _

theorem primary_extends : Extends (primary s expr) (primary s' expr') := fun tokens =>
  (atom_extends raised inner tokens).bind fun x => suffixes_extends raised inner _ x.1 x.2

theorem signs_extends {signed signed' : Reader Tree} (operand : Extends signed signed') :
    Extends (signs s signed expr) (signs s' signed' expr') := by
  intro tokens
  unfold signs
  split
  · exact primary_extends raised inner _
  · split
    · exact (operand _).bind fun _ => complete_extends raised _ _
    · exact primary_extends raised inner _

end Sequences

/-! ### Operations -/

section Operations

variable {operand operand' : Reader Tree} (each : Extends operand operand')

include raised each

theorem joined_extends (op? : Token → Option BinaryOp) (fuel : Nat) (left : Tree) :
    Extends (joined s op? operand fuel left) (joined s' op? operand' fuel left) := by
  induction fuel generalizing left with
  | zero => exact fun tokens => .refl _
  | succ fuel ih =>
    intro tokens
    unfold joined
    split
    · exact .refl _
    · split
      · exact (each _).bind fun _ => (complete_extends raised _ _).bind fun x => ih x.1 x.2
      · exact .refl _

theorem tierReader_extends (tier : Nat) :
    Extends (tierReader s operand tier) (tierReader s' operand' tier) := by
  induction tier with
  | zero => exact each
  | succ tier ih => exact fun tokens => (ih tokens).bind fun x => joined_extends raised ih _ _ x.1 x.2

theorem choice_extends {expr expr' : Reader Tree} (inner : Extends expr expr') :
    Extends (choice s operand expr) (choice s' operand' expr') := by
  intro tokens
  have operation : Extends (disjunction s operand) (disjunction s' operand') :=
    tierReader_extends raised each 5
  unfold choice
  rw [expect_raised raised]
  refine (operation tokens).bind fun (condition, rest) => ?_
  dsimp only
  split
  · exact (operation _).bind fun _ => (Repeats.refl _).bind fun _ => (inner _).bind fun _ =>
      complete_extends raised _ _
  · exact .refl _

end Operations

include raised in
/-- By induction on the levels that the lower limit has left: when there are none, it gives up. -/
theorem expr_extends {depth depth' : Nat} (more : depth ≤ depth') :
    Extends (expr s depth) (expr s' depth') ∧ Extends (operand s depth) (operand s' depth') := by
  induction depth generalizing depth' with
  | zero =>
    have exprExtends : Extends (expr s 0) (expr s' depth') := by
      intro tokens
      rw [expr]
      exact tooDeep_extends _ tokens
    refine ⟨exprExtends, ?_⟩
    rw [operand_eq, operand_eq]
    exact signs_extends raised exprExtends (tooDeep_extends _)
  | succ depth ih =>
    obtain ⟨depth', rfl⟩ : ∃ previous, depth' = previous + 1 := ⟨depth' - 1, by omega⟩
    obtain ⟨exprIh, operandIh⟩ := ih (Nat.le_of_succ_le_succ more)
    have exprExtends : Extends (expr s (depth + 1)) (expr s' (depth' + 1)) := by
      rw [expr_succ, expr_succ]
      exact choice_extends raised operandIh exprIh
    refine ⟨exprExtends, ?_⟩
    rw [operand_eq, operand_eq]
    exact signs_extends raised exprExtends operandIh

/-! ### Complete expressions -/

variable {fewer more : Nat}

theorem tree_repeats (le : fewer ≤ more) (tokens : Tokens) :
    Repeats (tree fewer tokens) (tree more tokens) := by
  have raised : Setting.Raised ⟨fewer, stopOf tokens⟩ ⟨more, stopOf tokens⟩ := ⟨le, rfl⟩
  unfold tree
  split
  · exact .refl _
  · exact ((expr_extends raised le).1 tokens).bind fun _ => .refl _

/-- A limit that is enough for a result gives the result of every higher limit. -/
theorem parse_eq_of_enough (le : fewer ≤ more) {tokens : Tokens}
    (enough : ∀ error, parse fewer tokens = .error error → ¬error.IsTooDeep) :
    parse more tokens = parse fewer tokens := by
  rcases tree_repeats le tokens with ⟨error, failed, isTooDeep⟩ | same
  · refine absurd isTooDeep (enough error ?_)
    rw [parse, failed, Except.map]
  · rw [parse, parse, same]

end Parser

namespace Program

theorem parse_eq_ok_iff {limit : Nat} {source : String} {expr : Expr Mark} :
    parse limit source = .ok expr ↔
      ∃ tokens, Lexer.tokens source = .ok tokens ∧ Parser.parse limit tokens = .ok expr := by
  unfold parse
  split
  · next error failed => simp [failed]
  · next tokens lexed =>
    simp only [lexed, Except.ok.injEq, exists_eq_left']
    split <;> simp [*]

/-- A source that is compiled under a limit is compiled to the same program under every higher
limit. -/
theorem compile_eq_of_le [Engines] {limit limit' : Nat} (le : limit ≤ limit') {macros : Bool} {source : String}
    {program : Program} (compiled : compile ⟨limit, macros⟩ source = .ok program) :
    compile ⟨limit', macros⟩ source = .ok program := by
  obtain ⟨expr, parsed, checked⟩ := bind_eq_ok_iff.mp compiled
  obtain ⟨tokens, lexed, read⟩ := parse_eq_ok_iff.mp parsed
  have same : Parser.parse limit' tokens = Parser.parse limit tokens :=
    Parser.parse_eq_of_enough le fun error failed => nomatch failed.symm.trans read
  have parsed' : parse limit' source = .ok expr :=
    parse_eq_ok_iff.mpr ⟨tokens, lexed, same.trans read⟩
  exact bind_eq_ok_iff.mpr ⟨expr, parsed', checked⟩

/-- Unless the nesting limit is used up, a higher limit gives the same result, whether it is a tree or
an error, and so does the machine that counts levels and looks up heights. So two limits that accept a
source make the same program of it. -/
theorem same_of_limits [Engines] :
    (∀ (limit limit' : Nat) (tokens : Parser.Tokens), limit ≤ limit' →
      (∀ error, Parser.parse limit tokens = .error error → ¬error.IsTooDeep) →
      Parser.parse limit' tokens = Parser.parse limit tokens ∧
        Parser.Counting.parse limit' tokens = Parser.Counting.parse limit tokens) ∧
    ∀ (limit limit' : Nat) (macros : Bool) (source : String) (program program' : Program),
      compile ⟨limit, macros⟩ source = .ok program →
      compile ⟨limit', macros⟩ source = .ok program' → program = program' := by
  refine ⟨fun limit limit' tokens le enough => ?_, ?_⟩
  · have same := Parser.parse_eq_of_enough le enough
    rw [Parser.Counting.parse_eq, Parser.Counting.parse_eq]
    exact ⟨same, same⟩
  · intro limit limit' macros source program program' compiled compiled'
    rcases Nat.le_total limit limit' with le | ge
    · exact Except.ok.inj ((compile_eq_of_le le compiled).symm.trans compiled')
    · exact Except.ok.inj (compiled.symm.trans (compile_eq_of_le ge compiled'))

/-- A list that a limit of four leaves unclosed, and a sum that limits of three and of twenty
accept. -/
theorem same_of_limits_sum :
    (∃ error, Parser.parse 4 [⟨.symbol .leftBracket, ⟨0, 1⟩⟩, ⟨.ident "x", ⟨1, 2⟩⟩] = .error error ∧
      ¬error.IsTooDeep ∧ Parser.parse 9 [⟨.symbol .leftBracket, ⟨0, 1⟩⟩, ⟨.ident "x", ⟨1, 2⟩⟩] =
        .error error) ∧
    ∃ program program', compile ⟨3, true⟩ "-1 + (x)" = .ok program ∧
      compile ⟨20, true⟩ "-1 + (x)" = .ok program' ∧ program = program' := by
  constructor
  · have unclosed : Parser.parse 4 [⟨.symbol .leftBracket, ⟨0, 1⟩⟩, ⟨.ident "x", ⟨1, 2⟩⟩] =
        .error ⟨.expectedSymbol .rightBracket none, ⟨2, 2⟩⟩ := rfl
    have enough : ∀ error, Parser.parse 4 [⟨.symbol .leftBracket, ⟨0, 1⟩⟩, ⟨.ident "x", ⟨1, 2⟩⟩] =
        .error error → ¬error.IsTooDeep := by
      rintro error failed ⟨limit, tooDeep⟩
      cases failed.symm.trans unclosed
      cases tooDeep
    refine ⟨_, unclosed, enough _ unclosed, ?_⟩
    rw [(same_of_limits.1 4 9 _ (by decide) enough).1, unclosed]
  · have accepted : (compile ⟨3, true⟩ "-1 + (x)").toOption.any (fun _ => true) = true := by
      decide +kernel
    have accepted' : (compile ⟨20, true⟩ "-1 + (x)").toOption.any (fun _ => true) = true := by
      decide +kernel
    obtain ⟨program, compiled, -⟩ := exists_ok_of_any accepted
    obtain ⟨program', compiled', -⟩ := exists_ok_of_any accepted'
    exact ⟨program, program', compiled, compiled',
      same_of_limits.2 3 20 true _ program program' compiled compiled'⟩

end Program

end Cel
