import Cel.Engines.Standard
import Cel.Proofs.Check.Operands
import Cel.Proofs.Check.Shape
import Cel.Proofs.Naming

/-! # Searches for patterns

A literal pattern is compiled when a search for it is checked, and any other pattern each time the search is
evaluated. It makes no difference to the outcome where a pattern comes from, in either call style, whatever is
searched and whatever the engine takes as a pattern. But a literal that it refuses is a fault of the source,
even where it would never be evaluated.
-/

namespace Cel

/-- The search for a pattern in a target, as a method of the target or as a function of both. -/
def Expr.search (method : Bool) (target pattern : Expr Unit) : Expr Unit :=
  if method then .call () (.member () target "matches") [pattern]
  else .call () (.ident () "matches") [target, pattern]

namespace Check

/-! ### Checking a search -/

section Forms

variable [Engines] (macros : Bool) (scope : List String) (method : Bool) {source name : String}
  {pattern : Regex}

/-- A search is no macro and has the target and the pattern as its operands in either style. -/
theorem check_search (target pattern : Expr Unit) :
    check macros scope (Expr.search method target pattern).unplaced = (do
      let target ← check macros scope target.unplaced
      let pattern ← check macros scope pattern.unplaced
      search .nowhere target pattern) := by
  have isCall : check macros scope (Expr.search method target pattern).unplaced =
      checkAll macros scope [target.unplaced, pattern.unplaced] >>= resolve .nowhere "matches" method := by
    cases method with
    | true => exact check_call fun _ => rfl
    | false => exact check_call fun _ => rfl
  have isSearch (target pattern : Term) :
      resolve .nowhere "matches" method [target, pattern] = search .nowhere target pattern := by
    cases method <;> rfl
  rw [isCall]
  simp only [checkAll]
  cases check macros scope target.unplaced with
  | error error => rfl
  | ok targetTerm =>
    cases check macros scope pattern.unplaced with
    | error error => rfl
    | ok patternTerm => exact isSearch targetTerm patternTerm

theorem check_search_literal (target : Expr Unit) :
    check macros scope (Expr.search method target (.constant () (.string source))).unplaced =
      check macros scope target.unplaced >>= fun target =>
        search .nowhere target (.constant Mark.nowhere.span (.string source)) := by
  rw [check_search]
  simp only [Expr.unplaced, check]
  rfl

/-- A literal that is a pattern is compiled on the spot. -/
theorem check_search_compiled (compiled : Engines.compile source = .ok pattern) (target : Expr Unit) :
    check macros scope (Expr.search method target (.constant () (.string source))).unplaced =
      (check macros scope target.unplaced).map fun target =>
        .matches Mark.nowhere.span target source pattern := by
  rw [check_search_literal]
  simp only [search, compiled]
  cases check macros scope target.unplaced <;> rfl

theorem check_search_named (notBound : name ∉ scope) (target : Expr Unit) :
    check macros scope (Expr.search method target (.ident () name)).unplaced =
      (check macros scope target.unplaced).map fun target =>
        .search Mark.nowhere.span target (.free Mark.nowhere.span name) := by
  rw [check_search]
  simp only [Expr.unplaced, check, List.idxOf?_eq_none_iff.mpr notBound]
  cases check macros scope target.unplaced <;> rfl

end Forms

end Check

/-! ### Evaluating a search -/

namespace Eval

/-- A search for a compiled pattern has the outcome of the search for a variable that holds its source. -/
theorem result_matches_eq_named [Engines] {activation : Activation} {locals : List Value}
    {source name : String} {pattern : Regex} {span nameSpan : Span} (compiled : Engines.compile source = .ok pattern)
    (known : activation.isUnknown name = false) (holds : activation.value? name = some (.string source))
    (target : Term) :
    result activation locals (.matches span target source pattern) =
      result activation locals (.search span target (.free nameSpan name)) := by
  have isSource : eval activation locals (.free nameSpan name) =
      eval activation locals (.constant nameSpan (.string source)) := by
    simp only [eval, readVariable, known, holds]
    rfl
  rw [result, Naming.eval_matches locals span nameSpan target compiled, result]
  simp only [eval] at isSource ⊢
  rw [isSource]

end Eval

/-! ### Literals and variables -/

namespace Check

section Forms

variable [Engines] {macros method : Bool} {target literal named : Expr Mark} {source reason : String}

/-- A search for a literal that is no pattern is refused, for no other reason if its target is accepted. -/
theorem exists_error_of_no_pattern (refused : Engines.compile source = .error reason)
    (isLiteral : literal.shape = Expr.search method target.shape (.constant () (.string source)))
    (scope : List String) : ∃ error, check macros scope literal = .error error ∧
      ∀ term, check macros scope target = .ok term → error.cause = .pattern source reason := by
  have same : check macros scope literal.shape.unplaced = unplaced (check macros scope literal) :=
    check_unplaced literal scope
  rw [isLiteral, check_search_literal, check_unplaced target] at same
  simp only [search, refused] at same
  cases found : check macros scope literal with
  | ok term =>
    rw [found] at same
    cases isTarget : check macros scope target with
    | error error =>
      rw [isTarget] at same
      cases same
    | ok targetTerm =>
      rw [isTarget] at same
      cases same
  | error error =>
    refine ⟨error, rfl, fun targetTerm accepted => ?_⟩
    rw [found, accepted] at same
    exact (congrArg CompileError.cause (Except.error.inj same)).symm

omit [Engines] in
theorem exists_call_of_search {e : Expr Mark} {target pattern : Expr Unit}
    (isSearch : e.shape = Expr.search method target pattern) :
    ∃ mark callee args, e = .call mark callee args := by
  cases e with
  | call mark callee args => exact ⟨mark, callee, args, rfl⟩
  | _ => cases method <;> cases isSearch

/-- A source with a literal that is no pattern is refused, wherever the search for it stands. -/
theorem compile_error_of_no_pattern (refused : Engines.compile source = .error reason)
    (isLiteral : literal.shape = Expr.search method target.shape (.constant () (.string source)))
    {limit : Nat} {text : String} {e : Expr Mark} (parsed : Program.parse limit text = .ok e)
    (member : literal ∈ e.nodes) :
    ∃ error, Program.compile ⟨limit, macros⟩ text = .error (.compile error) := by
  rw [Program.compile, parsed]
  cases checked : e.check macros with
  | error error =>
    refine ⟨error, ?_⟩
    simp only [bind, Except.bind, checked]
  | ok term =>
    obtain ⟨mark, callee, args, rfl⟩ := exists_call_of_search isLiteral
    have whole : Accepted macros e := ⟨[], term, checked⟩
    obtain ⟨scope, inner, accepted⟩ := whole.of_reaches (Program.reaches_call parsed checked member)
    obtain ⟨error, isError, -⟩ := exists_error_of_no_pattern refused isLiteral scope
    rw [isError] at accepted
    cases accepted

/-- A search for a literal pattern and one for a variable that holds the same string are accepted when their
target is, and come to the same but for spans. Where the string is no pattern, the literal is refused, and any
source with it. -/
theorem search_literal_eq_named (name : String)
    (isLiteral : literal.shape = Expr.search method target.shape (.constant () (.string source)))
    (isNamed : named.shape = Expr.search method target.shape (.ident () name)) :
    (∀ pattern, Engines.compile source = .ok pattern → ∀ scope, name ∉ scope →
      (∀ form ∈ [literal, named],
        (∃ term, check macros scope form = .ok term) ↔ ∃ term, check macros scope target = .ok term) ∧
      ∀ literalTerm namedTerm, check macros scope literal = .ok literalTerm →
        check macros scope named = .ok namedTerm →
        ∀ activation locals, activation.isUnknown name = false →
          activation.value? name = some (.string source) →
          Eval.result activation locals literalTerm = Eval.result activation locals namedTerm) ∧
    ∀ reason, Engines.compile source = .error reason →
      (∀ scope, ∃ error, check macros scope literal = .error error ∧
        ∀ term, check macros scope target = .ok term → error.cause = .pattern source reason) ∧
      ∀ limit text e, Program.parse limit text = .ok e → literal ∈ e.nodes →
        ∃ error, Program.compile ⟨limit, macros⟩ text = .error (.compile error) := by
  constructor
  · intro pattern compiled scope notBound
    have literalMade := check_search_compiled macros scope method compiled target.shape
    have namedMade := check_search_named macros scope method notBound target.shape
    rw [← isLiteral] at literalMade
    rw [← isNamed] at namedMade
    have literalIff := accepted_iff_of_make literalMade
    constructor
    · simp only [List.forall_mem_cons]
      exact ⟨literalIff, accepted_iff_of_make namedMade, nofun⟩
    · intro literalTerm namedTerm literalChecked namedChecked activation locals known holds
      obtain ⟨targetTerm, targetChecked⟩ := literalIff.mp ⟨literalTerm, literalChecked⟩
      rw [← Eval.result_unplaced literalTerm, eq_make_of_accepted literalMade literalChecked targetChecked,
        ← Eval.result_unplaced namedTerm, eq_make_of_accepted namedMade namedChecked targetChecked]
      exact Eval.result_matches_eq_named compiled known holds targetTerm.unplaced
  · intro reason refused
    exact ⟨exists_error_of_no_pattern refused isLiteral, fun limit text e parsed member =>
      compile_error_of_no_pattern refused isLiteral parsed member⟩

end Forms

/-- Whether `s` matches `"a+"` can be asked for the literal or for a variable `p` that holds it. A source with
`s.matches("(")` is refused, although the search stands in an operand that is never evaluated. -/
theorem search_literal_eq_named_of_letters :
    let mark (id : Nat) : Mark := ⟨id, .point id⟩
    let target (id : Nat) : Expr Mark := .ident (mark id) "s"
    let matching (id : Nat) (pattern : Expr Mark) : Expr Mark :=
      .call (mark (id + 2)) (.member (mark (id + 1)) (target id) "matches") [pattern]
    let literal := matching 1 (.constant (mark 4) (.string "a+"))
    let named := matching 5 (.ident (mark 8) "p")
    let activation : Activation :=
      ⟨fun name => if name = "p" then some (.string "a+") else some (.string "baa"), fun _ => false⟩
    (∃ literalTerm namedTerm, check true [] literal = .ok literalTerm ∧
      check true [] named = .ok namedTerm ∧
      Eval.result activation [] literalTerm = .ok (.bool true) ∧
      Eval.result activation [] namedTerm = .ok (.bool true)) ∧
    ∃ error, Program.compile .standard "true || s.matches('(')" = .error (.compile error) := by
  intro mark target matching literal named activation
  constructor
  · have isPattern : (Engines.compile "a+").toOption.any (fun _ => true) = true := by decide +kernel
    obtain ⟨pattern, compiled, -⟩ := exists_ok_of_any isPattern
    obtain ⟨whenPattern, -⟩ :=
      @search_literal_eq_named _ true true (target 0) literal named "a+" "p" rfl rfl
    obtain ⟨accepted, results⟩ := whenPattern pattern compiled [] List.not_mem_nil
    obtain ⟨literalTerm, literalChecked⟩ := (accepted literal (.head _)).mpr ⟨_, rfl⟩
    have isFound : (Eval.eval activation [] (.search (mark 7).span
        (.free (mark 5).span "s") (.free (mark 8).span "p"))).isBool true = true := by
      decide +kernel
    have namedResult : Eval.result activation [] (.search (mark 7).span
        (.free (mark 5).span "s") (.free (mark 8).span "p")) = .ok (.bool true) :=
      mapError_eq_ok_iff.mpr (Outcome.isBool_iff.mp isFound)
    have same := results literalTerm _ literalChecked rfl activation [] rfl rfl
    exact ⟨literalTerm, _, literalChecked, rfl, same.trans namedResult, namedResult⟩
  · have noPattern : (Engines.compile "(").toOption.isNone = true := by decide +kernel
    obtain ⟨reason, refused⟩ := exists_error_of_isNone noPattern
    let tokens : Parser.Tokens := [⟨.keyword .true, ⟨0, 4⟩⟩, ⟨.symbol .or, ⟨5, 7⟩⟩, ⟨.ident "s", ⟨8, 9⟩⟩,
      ⟨.symbol .dot, ⟨9, 10⟩⟩, ⟨.ident "matches", ⟨10, 17⟩⟩, ⟨.symbol .leftParen, ⟨17, 18⟩⟩,
      ⟨.string "(", ⟨18, 21⟩⟩, ⟨.symbol .rightParen, ⟨21, 22⟩⟩]
    have computed : (Lexer.tokens "true || s.matches('(')").toOption.any (· == tokens) = true := by
      decide +kernel
    obtain ⟨found, lexed, isFound⟩ := exists_ok_of_any computed
    cases eq_of_beq isFound
    let call : Expr Mark := .call ⟨5, ⟨8, 22⟩⟩ (.member ⟨3, ⟨8, 17⟩⟩ (.ident ⟨2, ⟨8, 9⟩⟩ "s") "matches")
      [.constant ⟨4, ⟨18, 21⟩⟩ (.string "(")]
    let e : Expr Mark := .binary ⟨6, ⟨0, 22⟩⟩ .or (.constant ⟨1, ⟨0, 4⟩⟩ (.bool true)) call
    have parsed : Program.parse 250 "true || s.matches('(')" = .ok e :=
      Program.parse_eq_ok_iff.mpr ⟨tokens, lexed, rfl⟩
    have isNode : call ∈ e.nodes := Expr.mem_nodes.mpr (.inr ⟨call, .tail _ (.head _), call.self_mem_nodes⟩)
    obtain ⟨-, whenNot⟩ := @search_literal_eq_named _ true true (target 0) call named "(" "p" rfl rfl
    exact (whenNot reason refused).2 250 _ e parsed isNode

end Check

end Cel
