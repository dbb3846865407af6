import Cel.Program
import Cel.Proofs.Counting
import Cel.Proofs.Expr.Notes
import Cel.Proofs.Grammar.Local

/-! # Expressions in a row

When one expression after the other is read from the same tokens, each of them is read as if it were the
first one of the tokens that are left, and only its numbers tell how many nodes were built before it. The
counter of nodes and the table of heights go on from one expression to the next, so this has to be shown of
the machine that has them. Between two expressions its depth is zero, and all that the table holds is below
the numbers to come.
-/

namespace Cel.Parser

open Cel.Expr (sizeOfAll)

/-- The last token of some tokens is the last one of those at their end. -/
theorem stopOf_of_suffix {tokens rest : Tokens} (behind : rest <:+ tokens) (more : rest ≠ []) :
    stopOf rest = stopOf tokens := by
  obtain ⟨taken, rfl⟩ := behind
  rw [stopOf, stopOf, List.getLast?_append, List.getLast?_eq_some_getLast more, Option.some_or]

theorem suffix_of_expr {s : Setting} {tokens rest : Tokens} {found : Tree}
    (read : expr s s.maxDepth tokens = .ok (found, rest)) : rest <:+ tokens := by
  have again : expr ⟨s.maxDepth, s.stop⟩ s.maxDepth tokens = .ok (found, rest) := read
  obtain ⟨consumed, rfl, -⟩ := (expr_local s.maxDepth).1 (Nat.le_refl _) again
  exact List.suffix_append consumed rest

/-- Read a number of expressions, one after the other. -/
def Session.several : (count : Nat) → Session → Except ParseError (List (Expr Mark) × Session)
  | 0, run => .ok ([], run)
  | count + 1, run => do
    let (trees, run) ← run.several count
    let (tree, run) ← run.next
    return (trees ++ [tree], run)

namespace Counting

/-- Read a number of expressions, one after the other. -/
def several (s : Setting) : (count : Nat) → Step (List (Expr Mark))
  | 0, run => .ok ([], run)
  | count + 1, run => do
    let (trees, run) ← several s count run
    let (tree, run) ← next s run
    return (trees ++ [tree], run)

/-- What holds between two expressions, after some trees have been read from the tokens. -/
structure Run.Between (tokens : Tokens) (trees : List (Expr Mark)) (run : Run) : Prop where
  even : run.Even
  outside : run.depth = 0
  counted : run.nextId = sizeOfAll trees + 1
  behind : run.remaining <:+ tokens

theorem between_start (tokens : Tokens) : (Run.start tokens).Between tokens [] :=
  ⟨rfl, rfl, rfl, List.suffix_refl tokens⟩

section Between

variable {s : Setting} {tokens : Tokens} {trees : List (Expr Mark)} {run : Run}
  (between : run.Between tokens trees)

include between

/-- The next expression is read without regard to the numbers and heights that are there already. -/
theorem next_eq_of_between : next s run =
    (Parser.expr s s.maxDepth run.remaining).map fun read =>
      (read.1.number run.nextId, run.after [read.1] read.2) :=
  next_keeps s run between.even between.outside

/-- Reading one more expression leads from one such state to the next. -/
theorem between_next {tree : Expr Mark} {behind : Run} (read : next s run = .ok (tree, behind)) :
    behind.Between tokens (trees ++ [tree]) := by
  rw [next_eq_of_between between] at read
  cases found : Parser.expr s s.maxDepth run.remaining with
  | error error =>
    rw [found] at read
    cases read
  | ok result =>
    rw [found] at read
    cases read
    have counted : run.nextId + sizeOfAll [result.1] =
        sizeOfAll (trees ++ [result.1.number run.nextId]) + 1 := by
      simp only [Expr.sizeOfAll_append, sizeOfAll, Expr.size_number, between.counted]
      omega
    exact ⟨between.even.after, between.outside, counted, (suffix_of_expr found).trans between.behind⟩

/-- A session that has built as many nodes reads the same tree next, and stops at the same token. -/
theorem session_next_eq : (Session.mk s run.remaining (sizeOfAll trees)).next =
    (next s run).map fun read =>
      (read.1, ⟨s, read.2.remaining, sizeOfAll (trees ++ [read.1])⟩) := by
  rw [next_eq_of_between between, Session.next, between.counted]
  cases Parser.expr s s.maxDepth run.remaining with
  | error error => rfl
  | ok result =>
    simp only [Except.map, Expr.sizeOfAll_append, sizeOfAll, Expr.size_number, Run.after_remaining]
    rfl

theorem session_read_eq :
    ((Session.mk s run.remaining (sizeOfAll trees)).next.map
        fun read => (read.1, read.2.remaining)) =
      (next s run).map fun read => (read.1, read.2.remaining) := by
  rw [session_next_eq between]
  cases next s run <;> rfl

end Between

variable {s : Setting} {tokens : Tokens} {trees : List (Expr Mark)} {run : Run} {count : Nat}

/-- By induction on the number of expressions. -/
theorem between_several (read : several s count (.start tokens) = .ok (trees, run)) :
    run.Between tokens trees := by
  induction count generalizing trees run with
  | zero =>
    cases read
    exact between_start tokens
  | succ count ih =>
    obtain ⟨⟨others, before⟩, readOthers, read⟩ := bind_eq_ok_iff.mp read
    obtain ⟨⟨tree, behind⟩, readNext, made⟩ := bind_eq_ok_iff.mp read
    cases made
    exact between_next (ih readOthers) readNext

/-- A session reads the same trees as the machine with counters. -/
theorem session_several (read : several s count (.start tokens) = .ok (trees, run)) :
    (Session.mk s tokens 0).several count = .ok (trees, ⟨s, run.remaining, sizeOfAll trees⟩) := by
  induction count generalizing trees run with
  | zero =>
    cases read
    rfl
  | succ count ih =>
    obtain ⟨⟨others, before⟩, readOthers, read⟩ := bind_eq_ok_iff.mp read
    obtain ⟨⟨tree, behind⟩, readNext, made⟩ := bind_eq_ok_iff.mp read
    cases made
    have sameNext := session_next_eq (s := s) (between_several readOthers)
    rw [readNext] at sameNext
    exact (bind_eq_of_eq_ok (ih readOthers)).trans (bind_eq_of_eq_ok sameNext)

/-- What has been read, with its numbers behind those of some other nodes. -/
def behindNodes (before : Nat) (read : Expr Mark × Tokens) : Expr Mark × Tokens :=
  (read.1.mapNotes (Mark.moved before id), read.2)

/-- What is read when nothing has been read before differs from it in the numbers. -/
theorem next_eq_fresh (maxDepth : Nat) (between : run.Between tokens trees)
    (more : run.remaining ≠ []) :
    ((next ⟨maxDepth, stopOf tokens⟩ run).map fun read => (read.1, read.2.remaining)) =
      ((next ⟨maxDepth, stopOf run.remaining⟩ (.start run.remaining)).map
        fun read => (read.1, read.2.remaining)).map (behindNodes (sizeOfAll trees)) := by
  rw [next_eq_of_between between, next_eq_of_between (between_start run.remaining),
    stopOf_of_suffix between.behind more, between.counted]
  change _ = ((Except.map _ (Parser.expr _ maxDepth run.remaining)).map _).map _
  cases Parser.expr ⟨maxDepth, stopOf tokens⟩ maxDepth run.remaining with
  | error error => rfl
  | ok result =>
    have renumbered : (result.1.number 1).mapNotes (Mark.moved (sizeOfAll trees) id) =
        result.1.number (sizeOfAll trees + 1) := by
      rw [Expr.mapNotes_number, Expr.mapNotes_id, Nat.add_comm]
    simp only [Except.map, behindNodes, Run.start, renumbered, Run.after_remaining]

/-- After any number of expressions the next one is read as if it were the first of the tokens that are left:
the tree and its spans are the same, or the error is, and the same tokens are left. The numbers of its nodes
are greater by the number of the nodes that were built before. Sessions read what the machine with counters
reads, so this holds of them as well. -/
theorem next_after_several {maxDepth : Nat}
    (read : several ⟨maxDepth, stopOf tokens⟩ count (.start tokens) = .ok (trees, run))
    (more : run.remaining ≠ []) :
    run.remaining <:+ tokens ∧ run.nextId = sizeOfAll trees + 1 ∧
      ((next ⟨maxDepth, stopOf tokens⟩ run).map fun read => (read.1, read.2.remaining)) =
        ((next ⟨maxDepth, stopOf run.remaining⟩ (.start run.remaining)).map
          fun read => (read.1, read.2.remaining)).map (behindNodes (sizeOfAll trees)) ∧
      ∃ session, (Session.start maxDepth tokens).several count = .ok (trees, session) ∧
        session.remaining = run.remaining ∧
        (session.next.map fun read => (read.1, read.2.remaining)) =
          ((Session.start maxDepth run.remaining).next.map
            fun read => (read.1, read.2.remaining)).map (behindNodes (sizeOfAll trees)) := by
  have between := between_several read
  have asFresh := next_eq_fresh maxDepth between more
  refine ⟨between.behind, between.counted, asFresh, _, session_several read, rfl, ?_⟩
  rw [session_read_eq between, asFresh, ← session_read_eq (between_start run.remaining)]
  rfl

/-- The third expression of a row, behind six nodes. -/
theorem next_after_several_of_calls :
    ∃ tokens trees run, Lexer.tokens "a + b f(c) g(-d, [e])" = .ok tokens ∧
      several ⟨250, stopOf tokens⟩ 2 (.start tokens) = .ok (trees, run) ∧ run.remaining ≠ [] ∧
      sizeOfAll trees = 6 ∧
      ((next ⟨250, stopOf tokens⟩ run).map fun read => (read.1, read.2.remaining)) =
        ((next ⟨250, stopOf run.remaining⟩ (.start run.remaining)).map
          fun read => (read.1, read.2.remaining)).map (behindNodes 6) := by
  have computed : (Lexer.tokens "a + b f(c) g(-d, [e])").toOption.any (fun tokens =>
      (several ⟨250, stopOf tokens⟩ 2 (.start tokens)).toOption.any fun read =>
        read.2.remaining.length == 9 && sizeOfAll read.1 == 6) = true := by decide +kernel
  obtain ⟨tokens, lexed, computed⟩ := exists_ok_of_any computed
  obtain ⟨⟨trees, run⟩, read, computed⟩ := exists_ok_of_any computed
  obtain ⟨left, size⟩ := Bool.and_eq_true_iff.mp computed
  have more : run.remaining ≠ [] := by
    rintro none
    rw [none] at left
    cases left
  have sizes := eq_of_beq size
  obtain ⟨-, -, asFresh, -⟩ := next_after_several read more
  rw [sizes] at asFresh
  exact ⟨tokens, trees, run, lexed, read, more, sizes, asFresh⟩

end Counting

end Cel.Parser
