import Cel.Proofs.Grammar.Complete
import Cel.Proofs.Grammar.Moved
import Cel.Proofs.Limit

/-! # Readers are local

What a reader takes does not depend on where it stands, on how much follows it or on where the input ends:
the same tokens elsewhere, with some of what followed them, are taken again, and what is read has moved with
them. So the tokens that were read for a node are an expression by themselves, under the same nesting limit,
and the node is its tree.
-/

namespace Cel.Parser

open Movable (moved trees)

/-! ### Sequences -/

section Sequences

variable {limit : Nat} {β : Type} [Movable β] {item : Nat → Reader β} {close : Symbol}

/-- What it means that further items are taken again. They are as long as what closes them is left. -/
def Continues (limit : Nat) (item : Nat → Reader β) (close : Symbol) (tokens : Tokens) (values : List β)
    (rest : Tokens) : Prop :=
  ∃ consumed, tokens = consumed ++ rest ∧ Contains limit consumed values ∧
    ∀ stop move kept fuel, kept <+: rest → startsWith close kept = true →
      (consumed ++ kept).length ≤ fuel → further close (item stop) fuel (moved move (consumed ++ kept)) =
        .ok (moved move values, moved move kept)

theorem continues_nil {tokens : Tokens} (noComma : (items tokens).head? ≠ some (.symbol .comma)) :
    Continues limit item close tokens [] tokens := by
  refine ⟨[], rfl, ⟨.nil, fun _ member => absurd member List.not_mem_nil⟩, ?_⟩
  intro stop move kept fuel isKept _ _
  refine further_eq_nil ?_ fuel
  rw [items_moved]
  exact fun comma => noComma (head?_of_kept isKept comma)

theorem further_local (each : Local (Contains limit) item) {fuel stop : Nat} {tokens rest : Tokens}
    {values : List β} (enough : tokens.length ≤ fuel)
    (read : further close (item stop) fuel tokens = .ok (values, rest)) :
    Continues limit item close tokens values rest := by
  induction fuel generalizing tokens values with
  | zero =>
    cases List.length_eq_zero_iff.mp (Nat.le_zero.mp enough)
    cases read
    exact continues_nil (Option.some_ne_none _).symm
  | succ fuel ih =>
    unfold further at read
    split at read
    · next comma after =>
      have single : Balanced [.symbol .comma] := .single rfl
      split at read
      · next closed =>
        cases read
        refine ⟨[⟨.symbol .comma, comma⟩], rfl,
          ⟨single, fun _ member => absurd member List.not_mem_nil⟩, ?_⟩
        intro stop move kept fuel isKept closed long
        obtain ⟨fuel, rfl⟩ : ∃ less, fuel = less + 1 := ⟨fuel - 1, by simp at long; omega⟩
        have closedAgain : startsWith close (moved move kept) = true := by
          rw [startsWith_eq_true_iff, items_moved]
          exact startsWith_eq_true_iff.mp closed
        exact if_pos closedAgain
      · next notClosed =>
        obtain ⟨⟨value, rest₁⟩, readFirst, read⟩ := bind_eq_ok_iff.mp read
        obtain ⟨⟨others, rest₂⟩, readOthers, read⟩ := bind_eq_ok_iff.mp read
        cases read
        obtain ⟨front, rfl, ⟨frontBalanced, inFront⟩, again⟩ := each readFirst
        have shorter : rest₁.length ≤ fuel := by
          simp only [List.length_cons, List.length_append] at enough
          omega
        obtain ⟨back, rfl, ⟨backBalanced, inBack⟩, backAgain⟩ := ih shorter readOthers
        refine ⟨⟨.symbol .comma, comma⟩ :: (front ++ back), ?_, ⟨?_, ?_⟩, ?_⟩
        · rw [List.cons_append, List.append_assoc]
        · rw [items_cons, items_append]
          exact .cons rfl (frontBalanced.append backBalanced)
        · intro tree member
          rcases List.mem_append.mp member with isFirst | later
          · exact (inFront tree isFirst).append [_] back
          · exact (inBack tree later).behind (⟨.symbol .comma, comma⟩ :: front)
        · intro stop move kept fuel isKept closed long
          rw [List.cons_append, List.append_assoc] at long ⊢
          rw [List.length_cons] at long
          obtain ⟨fuel, rfl⟩ : ∃ less, fuel = less + 1 := ⟨fuel - 1, by omega⟩
          have some : front ++ (back ++ kept) ≠ [] := by
            have isSome := ne_nil_of_startsWith closed
            simp [isSome]
          have isOpen : ¬startsWith close (moved move (front ++ (back ++ kept))) = true := by
            rw [startsWith_moved (prefix_behind (prefix_behind isKept back) front) some]
            exact notClosed
          have first := again stop move (back ++ kept) (prefix_behind isKept back)
          have second := backAgain stop move kept fuel isKept closed (by
            rw [List.length_append] at long
            omega)
          refine (if_neg isOpen).trans ((bind_eq_of_eq_ok first).trans ?_)
          exact bind_eq_of_eq_ok second
    · next noComma =>
      cases read
      refine continues_nil fun comma => ?_
      obtain ⟨others, same⟩ := List.head?_eq_some_iff.mp comma
      obtain ⟨span, after, rfl, -⟩ := exists_of_items_eq_cons same
      exact noComma span after rfl

/-- A sequence is taken again together with what closes it. -/
theorem sequence_local (each : Local (Contains limit) item) {stop : Nat}
    {tokens rest : Tokens} {values : List β} {span : Span}
    (read : sequence ⟨limit, stop⟩ close (item stop) tokens = .ok ((values, span), rest)) :
    ∃ listed, tokens = listed ++ ⟨.symbol close, span⟩ :: rest ∧ Contains limit listed values ∧
      ∀ stop move kept, kept <+: rest →
        sequence ⟨limit, stop⟩ close (item stop)
            (moved move (listed ++ ⟨.symbol close, span⟩ :: kept)) =
          .ok ((moved move values, move.span span), moved move kept) := by
  unfold sequence at read
  split at read
  · obtain ⟨⟨stop, rest₁⟩, closed, read⟩ := bind_eq_ok_iff.mp read
    cases read
    cases expect_eq_ok_iff.mp closed
    refine ⟨[], rfl, ⟨.nil, fun _ member => absurd member List.not_mem_nil⟩, fun stop move kept _ => ?_⟩
    have starts : startsWith close (moved move (⟨.symbol close, span⟩ :: kept)) = true :=
      startsWith_eq_true_iff.mpr rfl
    refine (if_pos starts).trans ?_
    exact bind_eq_of_eq_ok (expect_eq_ok_iff.mpr rfl)
  · next notClosed =>
    obtain ⟨⟨value, rest₁⟩, readFirst, read⟩ := bind_eq_ok_iff.mp read
    obtain ⟨⟨others, rest₂⟩, readOthers, read⟩ := bind_eq_ok_iff.mp read
    obtain ⟨⟨stop, rest₃⟩, closed, read⟩ := bind_eq_ok_iff.mp read
    cases read
    cases expect_eq_ok_iff.mp closed
    obtain ⟨front, rfl, ⟨frontBalanced, inFront⟩, again⟩ := each readFirst
    obtain ⟨back, rfl, ⟨backBalanced, inBack⟩, backAgain⟩ := further_local each (Nat.le_refl _) readOthers
    refine ⟨front ++ back, (List.append_assoc front back _).symm, ⟨?_, ?_⟩, ?_⟩
    · rw [items_append]
      exact frontBalanced.append backBalanced
    · intro tree member
      rcases List.mem_append.mp member with isFirst | later
      · exact (inFront tree isFirst).before back
      · exact (inBack tree later).behind front
    · intro stop move kept isKept
      have isKept : ⟨.symbol close, span⟩ :: kept <+: ⟨.symbol close, span⟩ :: rest :=
        prefix_behind isKept [⟨.symbol close, span⟩]
      have starts : startsWith close (⟨.symbol close, span⟩ :: kept) = true :=
        startsWith_eq_true_iff.mpr rfl
      rw [List.append_assoc]
      have isOpen :
          ¬startsWith close (moved move (front ++ (back ++ ⟨.symbol close, span⟩ :: kept))) = true := by
        rw [startsWith_moved (prefix_behind (prefix_behind isKept back) front) (by simp)]
        exact notClosed
      have first := again stop move _ (prefix_behind isKept back)
      have second := backAgain stop move _ _ isKept starts (Nat.le_of_eq (length_moved move _).symm)
      refine (if_neg isOpen).trans ((bind_eq_of_eq_ok first).trans ?_)
      refine (bind_eq_of_eq_ok second).trans ?_
      exact bind_eq_of_eq_ok (expect_eq_ok_iff.mpr rfl)

variable {expr : Nat → Reader Tree} (inner : Local (Yields limit) expr)

include inner

theorem entry_local : Local (Contains limit) (fun stop => entry ⟨limit, stop⟩ (expr stop)) := by
  intro stop tokens entry rest read
  obtain ⟨⟨key, rest₁⟩, readKey, read⟩ := bind_eq_ok_iff.mp read
  obtain ⟨⟨colon, rest₂⟩, readColon, read⟩ := bind_eq_ok_iff.mp read
  obtain ⟨⟨value, rest₃⟩, readValue, read⟩ := bind_eq_ok_iff.mp read
  cases read
  cases expect_eq_ok_iff.mp readColon
  obtain ⟨keyTokens, rfl, keyYields, keyAgain⟩ := inner readKey
  obtain ⟨valueTokens, rfl, valueYields, valueAgain⟩ := inner readValue
  refine ⟨keyTokens ++ ⟨.symbol .colon, colon⟩ :: valueTokens, ?_, ⟨?_, ?_⟩,
    fun stop move kept isKept => ?_⟩
  · rw [List.append_assoc, List.cons_append]
  · rw [items_append, items_cons]
    exact keyYields.balanced.append (.cons rfl valueYields.balanced)
  · refine List.forall_mem_cons.mpr ⟨keyYields.inside.before _, List.forall_mem_singleton.mpr ?_⟩
    exact (valueYields.inside.behind [_]).behind keyTokens
  · rw [List.append_assoc, List.cons_append]
    have first := keyAgain stop move _
      (prefix_behind (prefix_behind isKept valueTokens) [⟨.symbol .colon, colon⟩])
    have second := valueAgain stop move kept isKept
    refine (bind_eq_of_eq_ok first).trans ((bind_eq_of_eq_ok (expect_eq_ok_iff.mpr rfl)).trans ?_)
    exact bind_eq_of_eq_ok second

theorem field_local : Local (Contains limit) (fun stop => field ⟨limit, stop⟩ (expr stop)) := by
  intro stop tokens field rest read
  obtain ⟨⟨name, rest₁⟩, readName, read⟩ := bind_eq_ok_iff.mp read
  obtain ⟨⟨colon, rest₂⟩, readColon, read⟩ := bind_eq_ok_iff.mp read
  obtain ⟨⟨value, rest₃⟩, readValue, read⟩ := bind_eq_ok_iff.mp read
  cases read
  cases expectName_eq_ok_iff.mp readName
  cases expect_eq_ok_iff.mp readColon
  obtain ⟨valueTokens, rfl, yields, again⟩ := inner readValue
  refine ⟨⟨.ident name.item, name.span⟩ :: ⟨.symbol .colon, colon⟩ :: valueTokens, rfl, ⟨?_, ?_⟩,
    fun stop move kept isKept => ?_⟩
  · exact .cons rfl (.cons rfl yields.balanced)
  · exact List.forall_mem_singleton.mpr (yields.inside.behind [_, _])
  · have named (behind : Tokens) :
        expectName ⟨limit, stop⟩ .field (moved move (⟨.ident name.item, name.span⟩ :: behind)) =
          .ok (⟨name.item, move.span name.span⟩, moved move behind) := rfl
    refine (bind_eq_of_eq_ok (named _)).trans ((bind_eq_of_eq_ok (expect_eq_ok_iff.mpr rfl)).trans ?_)
    exact bind_eq_of_eq_ok (again stop move kept isKept)

end Sequences

/-! ### Atoms -/

section Atoms

variable {limit : Nat} {expr : Nat → Reader Tree}

abbrev atomAt (limit : Nat) (expr : Nat → Reader Tree) (stop : Nat) : Reader Tree :=
  atom ⟨limit, stop⟩ (expr stop)

section Bracketed

variable {stop : Nat} {span close : Span} {after rest : Tokens}

theorem parenthesized_taken (inner : Local (Yields limit) expr) {tree : Tree}
    (read : expr stop after = .ok (tree, ⟨.symbol .rightParen, close⟩ :: rest)) :
    TakenAgain (Yields limit) (atomAt limit expr) (⟨.symbol .leftParen, span⟩ :: after) tree rest := by
  obtain ⟨consumed, rfl, yields, again⟩ := inner read
  refine ⟨_, ?_, yields.parenthesized span close, fun stop move kept isKept => ?_⟩
  · rw [List.cons_append, List.append_assoc, List.singleton_append]
  · rw [List.cons_append, List.append_assoc, List.singleton_append]
    have first := again stop move _ (prefix_behind isKept [⟨.symbol .rightParen, close⟩])
    exact (bind_eq_of_eq_ok first).trans (bind_eq_of_eq_ok (expect_eq_ok_iff.mpr rfl))

theorem list_taken (inner : Local (Yields limit) expr) (whole : Whole limit (atomAt limit expr))
    {values : List Tree}
    (read : sequence ⟨limit, stop⟩ .rightBracket (expr stop) after = .ok ((values, close), rest))
    (fits : Expr.height (.list (span.through close) values) ≤ limit) :
    TakenAgain (Yields limit) (atomAt limit expr) (⟨.symbol .leftBracket, span⟩ :: after)
      (.list (span.through close) values) rest := by
  obtain ⟨listed, rfl, contains, again⟩ := sequence_local inner.contains read
  have again : Again (atomAt limit expr)
      (⟨.symbol .leftBracket, span⟩ :: (listed ++ [⟨.symbol .rightBracket, close⟩]))
      (.list (span.through close) values) rest := by
    intro stop move kept isKept
    have completed := @complete_moved move limit stop _ fits (moved move kept)
    rw [moved_list, move.through] at completed ⊢
    rw [List.cons_append, List.append_assoc]
    exact (bind_eq_of_eq_ok (again stop move kept isKept)).trans completed
  exact ⟨_, by simp, yields_bracketed rfl rfl rfl contains.1 (again.whole whole) contains.item, again⟩

theorem map_taken (inner : Local (Yields limit) expr) (whole : Whole limit (atomAt limit expr))
    {values : List (Tree × Tree)}
    (read : sequence ⟨limit, stop⟩ .rightBrace (entry ⟨limit, stop⟩ (expr stop)) after =
      .ok ((values, close), rest))
    (fits : Expr.height (.map (span.through close) values) ≤ limit) :
    TakenAgain (Yields limit) (atomAt limit expr) (⟨.symbol .leftBrace, span⟩ :: after)
      (.map (span.through close) values) rest := by
  obtain ⟨listed, rfl, contains, again⟩ := sequence_local (entry_local inner) read
  have again : Again (atomAt limit expr)
      (⟨.symbol .leftBrace, span⟩ :: (listed ++ [⟨.symbol .rightBrace, close⟩]))
      (.map (span.through close) values) rest := by
    intro stop move kept isKept
    have completed := @complete_moved move limit stop _ fits (moved move kept)
    rw [moved_map, move.through] at completed ⊢
    rw [List.cons_append, List.append_assoc]
    exact (bind_eq_of_eq_ok (again stop move kept isKept)).trans completed
  exact ⟨_, by simp, yields_bracketed rfl rfl rfl contains.1 (again.whole whole) contains.2, again⟩

end Bracketed

theorem atom_local (inner : Local (Yields limit) expr) (whole : Whole limit (atomAt limit expr)) :
    Local (Yields limit) (atomAt limit expr) := by
  intro stop tokens tree rest read
  unfold atomAt atom at read
  split at read
  · cases read
  · next token span after =>
    split at read
    · next value found =>
      obtain ⟨fits, rfl, rfl⟩ := complete_eq_ok_iff.mp read
      cases constant?_eq_some_iff.mp found
      have again : Again (atomAt limit expr) [⟨value.token, span⟩] (.constant span value) rest := by
        intro stop move kept _
        simp only [List.singleton_append, moved_cons, atomAt, atom, found]
        exact complete_moved fits _
      exact ⟨[⟨value.token, span⟩], rfl,
        yields_single rfl (isParenthesis_constant value) (again.whole whole) rfl, again⟩
    · split at read
      · next name _ =>
        obtain ⟨fits, rfl, rfl⟩ := complete_eq_ok_iff.mp read
        have again : Again (atomAt limit expr) [⟨.ident name, span⟩] (.ident span name) rest :=
          fun stop move kept _ => complete_moved fits _
        exact ⟨[⟨.ident name, span⟩], rfl, yields_single rfl rfl (again.whole whole) rfl, again⟩
      · cases read
      · obtain ⟨⟨name, rest₁⟩, named, read⟩ := bind_eq_ok_iff.mp read
        obtain ⟨fits, rfl, rfl⟩ := complete_eq_ok_iff.mp read
        cases expectName_eq_ok_iff.mp named
        have again : Again (atomAt limit expr)
            (⟨.symbol .dot, span⟩ :: ([] ++ [⟨.ident name.item, name.span⟩]))
            (.rootIdent (span.through name.span) name.item) rest := by
          intro stop move kept _
          have completed := @complete_moved move limit stop _ fits (moved move kept)
          rw [moved_rootIdent, move.through] at completed ⊢
          exact completed
        have nothing : Balanced (items []) := .nil
        exact ⟨_, rfl, yields_bracketed rfl rfl rfl nothing (again.whole whole)
          (fun _ member => absurd member List.not_mem_nil), again⟩
      · obtain ⟨⟨found, rest₁⟩, readInner, read⟩ := bind_eq_ok_iff.mp read
        obtain ⟨⟨close, rest₂⟩, closed, read⟩ := bind_eq_ok_iff.mp read
        cases read
        cases expect_eq_ok_iff.mp closed
        exact parenthesized_taken inner readInner
      · obtain ⟨⟨⟨values, close⟩, rest₁⟩, readAll, read⟩ := bind_eq_ok_iff.mp read
        obtain ⟨fits, rfl, rfl⟩ := complete_eq_ok_iff.mp read
        exact list_taken inner whole readAll fits
      · obtain ⟨⟨⟨values, close⟩, rest₁⟩, readAll, read⟩ := bind_eq_ok_iff.mp read
        obtain ⟨fits, rfl, rfl⟩ := complete_eq_ok_iff.mp read
        exact map_taken inner whole readAll fits
      · cases read

end Atoms

/-! ### Loops -/

section Loops

variable {limit : Nat} {reader : Nat → Reader Tree} {loop : Nat → Nat → Tree → Reader Tree}

/-- Whether a reader that has taken some tokens is in a loop with what it has read, wherever the tokens stand
and whatever is left of those behind them, and has enough fuel for these. -/
def Reached (reader : Nat → Reader Tree) (loop : Nat → Nat → Tree → Reader Tree) (done : Tokens)
    (tree : Tree) (tokens : Tokens) : Prop :=
  ∀ (stop : Nat) (move : Move) (kept : Tokens), kept <+: tokens → ∃ fuel, kept.length ≤ fuel ∧
    reader stop (moved move (done ++ kept)) = loop stop fuel (moved move tree) (moved move kept)

/-- A loop that makes no more rounds. -/
theorem Reached.again {done tokens : Tokens} {tree : Tree} (reached : Reached reader loop done tree tokens)
    (stays : ∀ stop move kept fuel, kept <+: tokens →
      loop stop fuel (moved move tree) (moved move kept) = .ok (moved move tree, moved move kept)) :
    Again reader done tree tokens := by
  intro stop move kept isKept
  obtain ⟨fuel, -, read⟩ := reached stop move kept isKept
  rw [read, stays stop move kept fuel isKept]

/-- Whether tokens behind others are taken for a tree to which the others belong too. -/
def Prolonged (limit : Nat) (reader : Nat → Reader Tree) (done tokens : Tokens) (tree : Tree)
    (rest : Tokens) : Prop :=
  ∃ consumed, tokens = consumed ++ rest ∧ Yields limit (done ++ consumed) tree ∧
    Again reader (done ++ consumed) tree rest

theorem Reached.stopped {done tokens : Tokens} {tree : Tree} (reached : Reached reader loop done tree tokens)
    (yields : Yields limit done tree)
    (stays : ∀ stop move kept fuel, kept <+: tokens →
      loop stop fuel (moved move tree) (moved move kept) = .ok (moved move tree, moved move kept)) :
    Prolonged limit reader done tokens tree tokens := by
  refine ⟨[], rfl, ?_, ?_⟩ <;> rw [List.append_nil]
  · exact yields
  · exact reached.again stays

/-- What is taken by a reader that goes on with a loop. -/
theorem Prolonged.taken {done tokens rest : Tokens} {tree : Tree}
    (prolonged : Prolonged limit reader done tokens tree rest) :
    TakenAgain (Yields limit) reader (done ++ tokens) tree rest := by
  obtain ⟨consumed, rfl, yields, again⟩ := prolonged
  exact ⟨done ++ consumed, (List.append_assoc done consumed rest).symm, yields, again⟩

/-- A round of a loop takes some tokens and makes a node of the tree before them. -/
structure Round (limit : Nat) (loop : Nat → Nat → Tree → Reader Tree) (start : Tree) (added tokens : Tokens)
    (node : Tree) : Prop where
  some : added ≠ []
  again : ∀ stop move kept fuel, kept <+: tokens →
    loop stop (fuel + 1) (moved move start) (moved move (added ++ kept)) =
      loop stop fuel (moved move node) (moved move kept)
  starts : node.note.start = start.note.start
  closes : Closes added node.note.stop
  balanced : Balanced (items added)
  below : ∀ child ∈ node.children, child = start ∨ Inside limit added child

namespace Round

variable {start node : Tree} {done added tokens : Tokens} (round : Round limit loop start added tokens node)

include round

theorem length_le {fuel : Nat} (enough : (added ++ tokens).length ≤ fuel + 1) : tokens.length ≤ fuel := by
  have pos := List.length_pos_iff.mpr round.some
  rw [List.length_append] at enough
  omega

theorem reached (reached : Reached reader loop done start (added ++ tokens)) :
    Reached reader loop (done ++ added) node tokens := by
  intro stop move kept isKept
  obtain ⟨fuel, enough, read⟩ := reached stop move (added ++ kept) (prefix_behind isKept added)
  have pos := List.length_pos_iff.mpr round.some
  rw [List.length_append] at enough
  obtain ⟨fuel, rfl⟩ : ∃ less, fuel = less + 1 := ⟨fuel - 1, by omega⟩
  refine ⟨fuel, by omega, ?_⟩
  rw [List.append_assoc, read, round.again stop move kept fuel isKept]

/-- In a loop that ends where nothing follows, what has been read so far is a node by itself. -/
theorem yields (whole : Whole limit reader) (ends : ∀ stop fuel tree, loop stop fuel tree [] = .ok (tree, []))
    (reached : Reached reader loop (done ++ added) node tokens) (yields : Yields limit done start) :
    Yields limit (done ++ added) node := by
  have read (stop : Nat) (move : Move) :
      expr ⟨limit, stop⟩ limit (moved move (done ++ added)) = .ok (moved move node, []) := by
    obtain ⟨fuel, -, read⟩ := reached stop move [] List.nil_prefix
    rw [List.append_nil] at read
    exact whole _ _ _ (read.trans (ends stop fuel _))
  have opens := yields.opens
  rw [← round.starts] at opens
  refine yields_append opens round.closes yields.balanced round.balanced read fun child isChild => ?_
  rcases round.below child isChild with rfl | inside
  · exact yields.inside.before added
  · exact inside.behind done

/-- One round and then the others. -/
theorem prolonged (whole : Whole limit reader) (ends : ∀ stop fuel tree, loop stop fuel tree [] = .ok (tree, []))
    (reached : Reached reader loop done start (added ++ tokens)) (yields : Yields limit done start)
    {tree : Tree} {rest : Tokens}
    (others : Reached reader loop (done ++ added) node tokens → Yields limit (done ++ added) node →
      Prolonged limit reader (done ++ added) tokens tree rest) :
    Prolonged limit reader done (added ++ tokens) tree rest := by
  have reachedNode := round.reached reached
  obtain ⟨consumed, rfl, isTree, again⟩ := others reachedNode (round.yields whole ends reachedNode yields)
  rw [List.append_assoc] at isTree again
  exact ⟨added ++ consumed, (List.append_assoc added consumed rest).symm, isTree, again⟩

end Round

end Loops

/-! ### What follows an atom -/

section Suffixes

variable {limit : Nat} {expr : Nat → Reader Tree} (inner : Local (Yields limit) expr)

/-- Whether nothing at the start of some tokens belongs to the tree before them. -/
def Stays (tree : Tree) (tokens : List Token) : Prop :=
  ∀ token ∈ tokens.head?, token ≠ .symbol .leftParen ∧ token ≠ .symbol .leftBracket ∧
    token ≠ .symbol .dot ∧ (token = .symbol .leftBrace → tree.isTypeName = false)

theorem suffixes_stays {s : Setting} {expr : Reader Tree} {tree : Tree} {tokens : Tokens}
    (stays : Stays tree (items tokens)) (fuel : Nat) :
    suffixes s expr fuel tree tokens = .ok (tree, tokens) := by
  cases fuel with
  | zero => rfl
  | succ fuel =>
    unfold suffixes
    split
    · exact absurd rfl (stays _ rfl).1
    · exact absurd rfl (stays _ rfl).2.1
    · exact absurd rfl (stays _ rfl).2.2.1
    · rw [if_neg (by rw [(stays _ rfl).2.2.2 rfl]; exact Bool.false_ne_true)]
    · rfl

theorem Stays.moved {move : Move} {tree : Tree} {kept tokens : Tokens} (stays : Stays tree (items tokens))
    (isKept : kept <+: tokens) : Stays (Movable.moved move tree) (items (Movable.moved move kept)) := by
  intro token first
  rw [items_moved] at first
  obtain ⟨notCall, notIndex, notMember, notStruct⟩ := stays token (head?_of_kept isKept first)
  refine ⟨notCall, notIndex, notMember, fun same => ?_⟩
  rw [← notStruct same]
  exact Expr.isTypeName_mapNotes move.span tree

theorem stays_brace {tree : Tree} (notTypeName : ¬tree.isTypeName = true) (rest : List Token) :
    Stays tree (.symbol .leftBrace :: rest) := by
  rintro token ⟨⟩
  exact ⟨by decide, by decide, by decide, fun _ => Bool.eq_false_iff.mpr notTypeName⟩

theorem stays_nil (tree : Tree) : Stays tree [] := fun _ first => absurd first (Option.not_mem_none _)

abbrev primaryAt (limit : Nat) (expr : Nat → Reader Tree) (stop : Nat) : Reader Tree :=
  primary ⟨limit, stop⟩ (expr stop)

abbrev suffixesAt (limit : Nat) (expr : Nat → Reader Tree) (stop : Nat) : Nat → Tree → Reader Tree :=
  suffixes ⟨limit, stop⟩ (expr stop)

/-! Each of the four suffixes is a round. -/

section Rounds

variable {start : Tree} {span close : Span} {stop : Nat} {after rest : Tokens}

theorem round_call (inner : Local (Yields limit) expr) {values : List Tree} (callee : start.isCallee = true)
    (read : sequence ⟨limit, stop⟩ .rightParen (expr stop) after = .ok ((values, close), rest))
    (fits : Expr.height (.call (start.note.through close) start values) ≤ limit) :
    ∃ added, ⟨.symbol .leftParen, span⟩ :: after = added ++ rest ∧
      Round limit (suffixesAt limit expr) start added rest (.call (start.note.through close) start values) := by
  obtain ⟨listed, rfl, contains, again⟩ := sequence_local inner.contains read
  refine ⟨⟨.symbol .leftParen, span⟩ :: (listed ++ [⟨.symbol .rightParen, close⟩]), by simp, ?_⟩
  refine ⟨List.cons_ne_nil _ _, fun stop move kept fuel isKept => ?_, rfl,
    closes_bracketed _ ⟨.symbol .rightParen, close⟩ listed, ?_, ?_⟩
  · have completed := @complete_moved move limit stop _ fits (moved move kept)
    have named : (moved move start).isCallee = true := by
      rw [← callee]
      exact Expr.isCallee_mapNotes move.span start
    rw [moved_call, move.through, ← note_moved] at completed ⊢
    rw [List.cons_append, List.append_assoc]
    exact suffixes_call named (again stop move kept isKept) completed
  · rw [items_cons, items_append]
    exact contains.1.parenthesized
  · refine List.forall_mem_cons.mpr ⟨.inl rfl, fun child isChild => .inr ?_⟩
    exact (contains.item child isChild).append [_] [_]

theorem round_index (inner : Local (Yields limit) expr) {position : Tree}
    (read : expr stop after = .ok (position, ⟨.symbol .rightBracket, close⟩ :: rest))
    (fits : Expr.height (.index (start.note.through close) start position) ≤ limit) :
    ∃ added, ⟨.symbol .leftBracket, span⟩ :: after = added ++ rest ∧
      Round limit (suffixesAt limit expr) start added rest (.index (start.note.through close) start position) := by
  obtain ⟨consumed, rfl, yields, again⟩ := inner read
  refine ⟨⟨.symbol .leftBracket, span⟩ :: (consumed ++ [⟨.symbol .rightBracket, close⟩]), by simp, ?_⟩
  refine ⟨List.cons_ne_nil _ _, fun stop move kept fuel isKept => ?_, rfl,
    closes_bracketed _ ⟨.symbol .rightBracket, close⟩ consumed,
    .cons rfl (balanced_concat yields.balanced rfl), ?_⟩
  · have completed := @complete_moved move limit stop _ fits (moved move kept)
    rw [moved_index, move.through, ← note_moved] at completed ⊢
    rw [List.cons_append, List.append_assoc]
    exact suffixes_index (again stop move _ (prefix_behind isKept [⟨.symbol .rightBracket, close⟩])) completed
  · exact List.forall_mem_cons.mpr ⟨.inl rfl, List.forall_mem_singleton.mpr
      (.inr (yields.inside.append [_] [_]))⟩

theorem round_member {name : String}
    (fits : Expr.height (.member (start.note.through close) start name) ≤ limit) :
    Round limit (suffixesAt limit expr) start [⟨.symbol .dot, span⟩, ⟨.ident name, close⟩] rest
      (.member (start.note.through close) start name) := by
  refine ⟨List.cons_ne_nil _ _, fun stop move kept fuel isKept => ?_, rfl,
    (stopsAt_concat [_] ⟨.ident name, close⟩).closes, .cons rfl (.single rfl),
    List.forall_mem_singleton.mpr (.inl rfl)⟩
  have completed := @complete_moved move limit stop _ fits (moved move kept)
  rw [moved_member, move.through, ← note_moved] at completed ⊢
  exact suffixes_member completed

theorem round_struct (inner : Local (Yields limit) expr) {values : List (String × Tree)}
    (typeName : start.isTypeName = true)
    (read : sequence ⟨limit, stop⟩ .rightBrace (field ⟨limit, stop⟩ (expr stop)) after =
      .ok ((values, close), rest))
    (fits : Expr.height (.struct (start.note.through close) start values) ≤ limit) :
    ∃ added, ⟨.symbol .leftBrace, span⟩ :: after = added ++ rest ∧
      Round limit (suffixesAt limit expr) start added rest
        (.struct (start.note.through close) start values) := by
  obtain ⟨listed, rfl, contains, again⟩ := sequence_local (field_local inner) read
  refine ⟨⟨.symbol .leftBrace, span⟩ :: (listed ++ [⟨.symbol .rightBrace, close⟩]), by simp, ?_⟩
  refine ⟨List.cons_ne_nil _ _, fun stop move kept fuel isKept => ?_, rfl,
    closes_bracketed _ ⟨.symbol .rightBrace, close⟩ listed, .cons rfl (balanced_concat contains.1 rfl), ?_⟩
  · have completed := @complete_moved move limit stop _ fits (moved move kept)
    have named : (moved move start).isTypeName = true := by
      rw [← typeName]
      exact Expr.isTypeName_mapNotes move.span start
    rw [moved_struct, move.through, ← note_moved] at completed ⊢
    rw [List.cons_append, List.append_assoc]
    exact suffixes_struct named (again stop move kept isKept) completed
  · refine List.forall_mem_cons.mpr ⟨.inl rfl, List.forall_mem_map.mpr fun field isField => .inr ?_⟩
    exact (contains.2 field.2 (List.mem_flatMap_of_mem isField List.mem_cons_self)).append [_] [_]

end Rounds

theorem suffixes_local (inner : Local (Yields limit) expr) (whole : Whole limit (primaryAt limit expr))
    {fuel stop : Nat} {start tree : Tree} {done tokens rest : Tokens} (enough : tokens.length ≤ fuel)
    (reached : Reached (primaryAt limit expr) (suffixesAt limit expr) done start tokens)
    (yields : Yields limit done start)
    (read : suffixes ⟨limit, stop⟩ (expr stop) fuel start tokens = .ok (tree, rest)) :
    Prolonged limit (primaryAt limit expr) done tokens tree rest := by
  induction fuel generalizing start tokens done with
  | zero =>
    cases List.length_eq_zero_iff.mp (Nat.le_zero.mp enough)
    cases read
    exact reached.stopped yields fun _ _ _ fuel isKept => suffixes_stays ((stays_nil _).moved isKept) fuel
  | succ fuel ih =>
    have stopped (stays : Stays start (items tokens)) :
        Prolonged limit (primaryAt limit expr) done tokens start tokens :=
      reached.stopped yields fun _ _ _ fuel isKept => suffixes_stays (stays.moved isKept) fuel
    have goOn {node : Tree} {added left : Tokens} (same : tokens = added ++ left)
        (round : Round limit (suffixesAt limit expr) start added left node)
        (others : suffixes ⟨limit, stop⟩ (expr stop) fuel node left = .ok (tree, rest)) :
        Prolonged limit (primaryAt limit expr) done tokens tree rest := by
      subst same
      exact round.prolonged whole (fun _ fuel tree => suffixes_stays (stays_nil tree) fuel) reached yields
        fun reached yields => ih (round.length_le enough) reached yields others
    unfold suffixes at read
    split at read
    · next span after =>
      split at read
      · next callee =>
        obtain ⟨⟨⟨values, close⟩, rest₁⟩, readArgs, completing⟩ := bind_eq_ok_iff.mp read
        obtain ⟨⟨called, rest₂⟩, completed, others⟩ := bind_eq_ok_iff.mp completing
        obtain ⟨fits, rfl, rfl⟩ := complete_eq_ok_iff.mp completed
        obtain ⟨added, same, round⟩ := round_call inner callee readArgs fits
        exact goOn same round others
      · cases read
    · next span after =>
      obtain ⟨⟨position, rest₁⟩, readInner, closing⟩ := bind_eq_ok_iff.mp read
      obtain ⟨⟨close, rest₂⟩, closed, completing⟩ := bind_eq_ok_iff.mp closing
      obtain ⟨⟨indexed, rest₃⟩, completed, others⟩ := bind_eq_ok_iff.mp completing
      obtain ⟨fits, rfl, rfl⟩ := complete_eq_ok_iff.mp completed
      cases expect_eq_ok_iff.mp closed
      obtain ⟨added, same, round⟩ := round_index inner readInner fits
      exact goOn same round others
    · next span after =>
      obtain ⟨⟨name, rest₁⟩, named, completing⟩ := bind_eq_ok_iff.mp read
      obtain ⟨⟨selected, rest₂⟩, completed, others⟩ := bind_eq_ok_iff.mp completing
      obtain ⟨fits, rfl, rfl⟩ := complete_eq_ok_iff.mp completed
      cases expectName_eq_ok_iff.mp named
      exact goOn rfl (round_member fits) others
    · next span after =>
      split at read
      · next typeName =>
        obtain ⟨⟨⟨values, close⟩, rest₁⟩, readFields, completing⟩ := bind_eq_ok_iff.mp read
        obtain ⟨⟨built, rest₂⟩, completed, others⟩ := bind_eq_ok_iff.mp completing
        obtain ⟨fits, rfl, rfl⟩ := complete_eq_ok_iff.mp completed
        obtain ⟨added, same, round⟩ := round_struct inner typeName readFields fits
        exact goOn same round others
      · next notTypeName =>
        cases read
        exact stopped (stays_brace notTypeName _)
    · next notCall notIndex notMember notStruct =>
      cases read
      refine stopped fun token first => ?_
      obtain ⟨others, same⟩ := List.head?_eq_some_iff.mp first
      obtain ⟨span, after, rfl, -⟩ := exists_of_items_eq_cons same
      refine ⟨?_, ?_, ?_, ?_⟩ <;> rintro rfl
      · exact notCall span after rfl
      · exact notIndex span after rfl
      · exact notMember span after rfl
      · exact (notStruct span after rfl).elim

theorem primary_local (inner : Local (Yields limit) expr) (whole : Whole limit (primaryAt limit expr)) :
    Local (Yields limit) (primaryAt limit expr) := by
  intro stop tokens tree rest read
  have wholeAtom : Whole limit (atomAt limit expr) := fun stop tokens node read =>
    whole stop tokens node (bind_eq_of_eq_ok read)
  obtain ⟨⟨start, rest₁⟩, readAtom, others⟩ := bind_eq_ok_iff.mp read
  obtain ⟨done, rfl, yields, again⟩ := atom_local inner wholeAtom readAtom
  have reached : Reached (primaryAt limit expr) (suffixesAt limit expr) done start rest₁ :=
    fun stop move kept isKept =>
      ⟨_, Nat.le_of_eq (length_moved move kept).symm, bind_eq_of_eq_ok (again stop move kept isKept)⟩
  exact (suffixes_local inner whole (Nat.le_refl _) reached yields others).taken

/-! ### Signs -/

/-- No primary expression begins with a sign. -/
theorem signs_of_primary {s : Setting} {signed expr : Reader Tree} {tokens : Tokens} {result : Tree × Tokens}
    (read : primary s expr tokens = .ok result) : signs s signed expr tokens = .ok result := by
  unfold signs
  split
  · exact read
  · next token span rest =>
    split
    · next op sign =>
      cases unaryOp?_eq_some_iff.mp sign
      cases op <;> cases read
    · exact read

abbrev signsAt (limit : Nat) (signed expr : Nat → Reader Tree) (stop : Nat) : Reader Tree :=
  signs ⟨limit, stop⟩ (signed stop) (expr stop)

theorem unary_taken {signed : Nat → Reader Tree} (each : Local (Yields limit) signed)
    (whole : Whole limit (signsAt limit signed expr)) {op : UnaryOp} {operand : Tree} {stop : Nat} {span : Span}
    {after rest : Tokens} (read : signed stop after = .ok (operand, rest))
    (fits : Expr.height (.unary (span.through operand.note) op operand) ≤ limit) :
    TakenAgain (Yields limit) (signsAt limit signed expr) (⟨op.token, span⟩ :: after)
      (.unary (span.through operand.note) op operand) rest := by
  obtain ⟨consumed, rfl, yields, again⟩ := each read
  have again : Again (signsAt limit signed expr) ([⟨op.token, span⟩] ++ consumed)
      (.unary (span.through operand.note) op operand) rest := by
    intro stop move kept isKept
    have completed := @complete_moved move limit stop _ fits (moved move kept)
    have sign : unaryOp? op.token = some op := unaryOp?_eq_some_iff.mpr rfl
    rw [moved_unary, move.through, ← note_moved] at completed ⊢
    rw [List.append_assoc, List.singleton_append, moved_cons]
    simp only [signsAt, signs, sign]
    exact (bind_eq_of_eq_ok (again stop move kept isKept)).trans completed
  have opens : Opens [⟨op.token, span⟩] span.start := (startsAt_cons ⟨op.token, span⟩ []).opens
  exact ⟨_, rfl, yields_append opens yields.closes (.single (isParenthesis_unary op)) yields.balanced
    (again.whole whole) (List.forall_mem_singleton.mpr (yields.inside.behind _)), again⟩

theorem signs_local {signed : Nat → Reader Tree} (inner : Local (Yields limit) expr)
    (each : Local (Yields limit) signed) (whole : Whole limit (signsAt limit signed expr)) :
    Local (Yields limit) (signsAt limit signed expr) := by
  intro stop tokens tree rest read
  have wholePrimary : Whole limit (primaryAt limit expr) := fun stop tokens node read =>
    whole stop tokens node (signs_of_primary read)
  have asPrimary (read : primary ⟨limit, stop⟩ (expr stop) tokens = .ok (tree, rest)) :
      TakenAgain (Yields limit) (signsAt limit signed expr) tokens tree rest := by
    obtain ⟨consumed, same, yields, again⟩ := primary_local inner wholePrimary read
    exact ⟨consumed, same, yields, fun stop move kept isKept => signs_of_primary (again stop move kept isKept)⟩
  unfold signsAt signs at read
  split at read
  · exact asPrimary read
  · next token span after =>
    split at read
    · next op found =>
      obtain ⟨⟨operand, rest₁⟩, readOperand, read⟩ := bind_eq_ok_iff.mp read
      obtain ⟨fits, rfl, rfl⟩ := complete_eq_ok_iff.mp read
      cases unaryOp?_eq_some_iff.mp found
      exact unary_taken each whole readOperand fits
    · exact asPrimary read

end Suffixes

/-! ### Operations -/

section Operations

variable {limit : Nat} {operand : Nat → Reader Tree}

abbrev tierAt (limit : Nat) (operand : Nat → Reader Tree) (tier stop : Nat) : Reader Tree :=
  tierReader ⟨limit, stop⟩ (operand stop) tier

abbrev joinedAt (limit : Nat) (operand : Nat → Reader Tree) (tier stop : Nat) : Nat → Tree → Reader Tree :=
  joined ⟨limit, stop⟩ (opAt (tier + 1)) (tierReader ⟨limit, stop⟩ (operand stop) tier)

theorem joined_stays {s : Setting} {op? : Token → Option BinaryOp} {operand : Reader Tree} {tree : Tree}
    {tokens : Tokens} (stays : ∀ token ∈ (items tokens).head?, op? token = none) (fuel : Nat) :
    joined s op? operand fuel tree tokens = .ok (tree, tokens) := by
  cases fuel with
  | zero => rfl
  | succ fuel =>
    unfold joined
    split
    · rfl
    · next token span rest =>
      rw [stays token rfl]

/-- Every round joins one more operand to those before it. -/
theorem round_binary {tier stop : Nat} (each : Local (Yields limit) (tierAt limit operand tier)) {op : BinaryOp}
    (onTier : op.tier = tier + 1) {left right : Tree} {span : Span} {after rest : Tokens}
    (read : tierAt limit operand tier stop after = .ok (right, rest))
    (fits : Expr.height (.binary (left.note.through right.note) op left right) ≤ limit) :
    ∃ added, ⟨op.token, span⟩ :: after = added ++ rest ∧
      Round limit (joinedAt limit operand tier) left added rest
        (.binary (left.note.through right.note) op left right) := by
  obtain ⟨consumed, rfl, yields, again⟩ := each read
  refine ⟨⟨op.token, span⟩ :: consumed, rfl, List.cons_ne_nil _ _, fun stop move kept fuel isKept => ?_, rfl,
    yields.closes.append [⟨op.token, span⟩], .cons (isParenthesis_binary op) yields.balanced, ?_⟩
  · have completed := @complete_moved move limit stop _ fits (moved move kept)
    rw [moved_binary, move.through, ← note_moved, ← note_moved] at completed ⊢
    exact joined_op onTier (again stop move kept isKept) completed
  · exact List.forall_mem_cons.mpr ⟨.inl rfl, List.forall_mem_singleton.mpr (.inr (yields.inside.behind [_]))⟩

theorem joined_local {tier : Nat} (each : Local (Yields limit) (tierAt limit operand tier))
    (whole : Whole limit (tierAt limit operand (tier + 1))) {fuel stop : Nat} {left tree : Tree}
    {done tokens rest : Tokens} (enough : tokens.length ≤ fuel)
    (reached : Reached (tierAt limit operand (tier + 1)) (joinedAt limit operand tier) done left tokens)
    (yields : Yields limit done left)
    (read : joinedAt limit operand tier stop fuel left tokens = .ok (tree, rest)) :
    Prolonged limit (tierAt limit operand (tier + 1)) done tokens tree rest := by
  have nothing : ∀ token ∈ (items []).head?, opAt (tier + 1) token = none :=
    fun _ first => absurd first (Option.not_mem_none _)
  have stopped {left : Tree} {done tokens : Tokens}
      (reached : Reached (tierAt limit operand (tier + 1)) (joinedAt limit operand tier) done left tokens)
      (yields : Yields limit done left)
      (stays : ∀ token ∈ (items tokens).head?, opAt (tier + 1) token = none) :
      Prolonged limit (tierAt limit operand (tier + 1)) done tokens left tokens := by
    refine reached.stopped yields fun _ move kept fuel isKept => joined_stays (fun token first => ?_) fuel
    rw [items_moved] at first
    exact stays token (head?_of_kept isKept first)
  induction fuel generalizing left tokens done with
  | zero =>
    cases List.length_eq_zero_iff.mp (Nat.le_zero.mp enough)
    cases read
    exact stopped reached yields nothing
  | succ fuel ih =>
    unfold joinedAt joined at read
    split at read
    · cases read
      exact stopped reached yields nothing
    · next token span after =>
      split at read
      · next op found =>
        obtain ⟨⟨right, rest₁⟩, readRight, completing⟩ := bind_eq_ok_iff.mp read
        obtain ⟨⟨node, rest₂⟩, completed, others⟩ := bind_eq_ok_iff.mp completing
        obtain ⟨fits, rfl, rfl⟩ := complete_eq_ok_iff.mp completed
        obtain ⟨onTier, rfl⟩ := opAt_eq_some_iff.mp found
        obtain ⟨added, same, round⟩ := round_binary each onTier readRight fits
        rw [same] at enough reached ⊢
        exact round.prolonged whole (fun _ fuel _ => joined_stays nothing fuel) reached yields
          fun reached yields => ih (round.length_le enough) reached yields others
      · next notOp =>
        cases read
        refine stopped reached yields fun other first => ?_
        cases first
        exact notOp

theorem Whole.tighter {tier : Nat} (whole : Whole limit (tierAt limit operand (tier + 1))) :
    Whole limit (tierAt limit operand tier) :=
  fun stop tokens node read => whole stop tokens node (bind_eq_of_eq_ok read)

theorem tierReader_local (each : Local (Yields limit) operand) {tier : Nat}
    (whole : Whole limit (tierAt limit operand tier)) : Local (Yields limit) (tierAt limit operand tier) := by
  induction tier with
  | zero => exact each
  | succ tier ih =>
    intro stop tokens tree rest read
    obtain ⟨⟨left, rest₁⟩, readLeft, others⟩ := bind_eq_ok_iff.mp read
    obtain ⟨done, rfl, yields, again⟩ := ih whole.tighter readLeft
    have reached : Reached (tierAt limit operand (tier + 1)) (joinedAt limit operand tier) done left rest₁ :=
      fun stop move kept isKept =>
        ⟨_, Nat.le_of_eq (length_moved move kept).symm, bind_eq_of_eq_ok (again stop move kept isKept)⟩
    exact (joined_local (ih whole.tighter) whole (Nat.le_refl _) reached yields others).taken

/-! ### Expressions -/

theorem choice_of_operation {s : Setting} {operand expr : Reader Tree} {tree : Tree} {tokens rest : Tokens}
    (read : tierReader s operand 5 tokens = .ok (tree, rest))
    (noQuestion : (items rest).head? ≠ some (.symbol .question)) :
    choice s operand expr tokens = .ok (tree, rest) := by
  refine (bind_eq_of_eq_ok read).trans ?_
  dsimp only
  split
  · exact absurd rfl noQuestion
  · rfl

abbrev choiceAt (limit : Nat) (operand expr : Nat → Reader Tree) (stop : Nat) : Reader Tree :=
  choice ⟨limit, stop⟩ (operand stop) (expr stop)

theorem Whole.operation {expr : Nat → Reader Tree} (whole : Whole limit (choiceAt limit operand expr)) :
    Whole limit (tierAt limit operand 5) :=
  fun stop tokens node read => whole stop tokens node (choice_of_operation read (Option.some_ne_none _).symm)

theorem ternary_taken {expr : Nat → Reader Tree} (operation : Local (Yields limit) (tierAt limit operand 5))
    (inner : Local (Yields limit) expr) (whole : Whole limit (choiceAt limit operand expr))
    {condition yes no : Tree} {question colon : Span} {stop : Nat}
    {tokens behindQuestion behindColon rest : Tokens}
    (readCondition : tierAt limit operand 5 stop tokens =
      .ok (condition, ⟨.symbol .question, question⟩ :: behindQuestion))
    (readYes : tierAt limit operand 5 stop behindQuestion = .ok (yes, ⟨.symbol .colon, colon⟩ :: behindColon))
    (readNo : expr stop behindColon = .ok (no, rest))
    (fits : Expr.height (.ternary (condition.note.through no.note) condition yes no) ≤ limit) :
    TakenAgain (Yields limit) (choiceAt limit operand expr) tokens
      (.ternary (condition.note.through no.note) condition yes no) rest := by
  obtain ⟨front, rfl, yieldsFront, againFront⟩ := operation readCondition
  obtain ⟨middle, rfl, yieldsMiddle, againMiddle⟩ := operation readYes
  obtain ⟨back, rfl, yieldsBack, againBack⟩ := inner readNo
  have again : Again (choiceAt limit operand expr)
      (front ++ ⟨.symbol .question, question⟩ :: (middle ++ ⟨.symbol .colon, colon⟩ :: back))
      (.ternary (condition.note.through no.note) condition yes no) rest := by
    intro stop move kept isKept
    have keptColon := prefix_behind (prefix_behind isKept back) [⟨.symbol .colon, colon⟩]
    have keptQuestion := prefix_behind (prefix_behind keptColon middle) [⟨.symbol .question, question⟩]
    have completed := @complete_moved move limit stop _ fits (moved move kept)
    rw [moved_ternary, move.through, ← note_moved, ← note_moved] at completed ⊢
    rw [List.append_assoc, List.cons_append, List.append_assoc, List.cons_append]
    refine (bind_eq_of_eq_ok (againFront stop move _ keptQuestion)).trans ?_
    refine (bind_eq_of_eq_ok (againMiddle stop move _ keptColon)).trans ?_
    refine (bind_eq_of_eq_ok (expect_eq_ok_iff.mpr rfl)).trans ?_
    exact (bind_eq_of_eq_ok (againBack stop move kept isKept)).trans completed
  have closes := ((yieldsBack.closes.append [⟨.symbol .colon, colon⟩]).append middle).append
    [⟨.symbol .question, question⟩]
  have balanced : Balanced
      (items (⟨.symbol .question, question⟩ :: (middle ++ ⟨.symbol .colon, colon⟩ :: back))) := by
    rw [items_cons, items_append, items_cons]
    exact .cons rfl (yieldsMiddle.balanced.append (.cons rfl yieldsBack.balanced))
  refine ⟨_, by simp, yields_append yieldsFront.opens closes yieldsFront.balanced balanced
    (again.whole whole) ?_, again⟩
  refine List.forall_mem_cons.mpr ⟨yieldsFront.inside.before _, List.forall_mem_cons.mpr ⟨?_,
    List.forall_mem_singleton.mpr ?_⟩⟩
  · exact ((yieldsMiddle.inside.before _).behind [_]).behind front
  · exact (((yieldsBack.inside.behind [_]).behind middle).behind [_]).behind front

theorem choice_local {expr : Nat → Reader Tree} (each : Local (Yields limit) operand)
    (inner : Local (Yields limit) expr) (whole : Whole limit (choiceAt limit operand expr)) :
    Local (Yields limit) (choiceAt limit operand expr) := by
  have operation : Local (Yields limit) (tierAt limit operand 5) := tierReader_local each whole.operation
  intro stop tokens tree rest read
  obtain ⟨⟨condition, rest₁⟩, readCondition, others⟩ := bind_eq_ok_iff.mp read
  dsimp only at others
  split at others
  · next question after =>
    obtain ⟨⟨yes, rest₂⟩, readYes, read⟩ := bind_eq_ok_iff.mp others
    obtain ⟨⟨colon, rest₃⟩, readColon, read⟩ := bind_eq_ok_iff.mp read
    obtain ⟨⟨no, rest₄⟩, readNo, read⟩ := bind_eq_ok_iff.mp read
    obtain ⟨fits, rfl, rfl⟩ := complete_eq_ok_iff.mp read
    cases expect_eq_ok_iff.mp readColon
    exact ternary_taken operation inner whole readCondition readYes readNo fits
  · next noQuestion =>
    cases others
    obtain ⟨front, rfl, yields, again⟩ := operation readCondition
    refine ⟨front, rfl, yields, fun stop move kept isKept => ?_⟩
    refine choice_of_operation (again stop move kept isKept) fun first => ?_
    rw [items_moved] at first
    obtain ⟨others, same⟩ := List.head?_eq_some_iff.mp (head?_of_kept isKept first)
    obtain ⟨span, after, rfl, -⟩ := exists_of_items_eq_cons same
    exact noQuestion span after rfl

/-! ### Levels -/

abbrev exprAt (limit depth stop : Nat) : Reader Tree := expr ⟨limit, stop⟩ depth

abbrev operandAt (limit depth stop : Nat) : Reader Tree := Parser.operand ⟨limit, stop⟩ depth

theorem exprAt_succ (depth : Nat) :
    exprAt limit (depth + 1) = choiceAt limit (operandAt limit depth) (exprAt limit depth) :=
  funext fun _ => expr_succ _ depth

theorem operandAt_eq (depth : Nat) :
    operandAt limit depth = signsAt limit (fun stop => signed ⟨limit, stop⟩ depth) (exprAt limit depth) :=
  funext fun _ => operand_eq _ depth

/-- What is read with fewer levels is read with all levels. -/
theorem whole_expr {depth : Nat} (le : depth ≤ limit) : Whole limit (exprAt limit depth) := by
  intro stop tokens node read
  rcases (expr_extends ⟨Nat.le_refl _, rfl⟩ le).1 tokens with ⟨error, failed, -⟩ | same
  · cases failed.symm.trans read
  · exact same.trans read

/-- An operand is an expression on the next level. -/
theorem whole_operand {depth : Nat} (lt : depth < limit) : Whole limit (operandAt limit depth) := by
  have wholeChoice := whole_expr lt
  rw [exprAt_succ] at wholeChoice
  have wholeOperation := wholeChoice.operation
  exact wholeOperation.tighter.tighter.tighter.tighter.tighter

theorem tooDeep_local : Local (Yields limit) fun stop => tooDeep ⟨limit, stop⟩ :=
  fun _ _ _ _ read => nomatch read

theorem operandAt_local {depth : Nat} (inner : Local (Yields limit) (exprAt limit depth))
    (each : Local (Yields limit) fun stop => signed ⟨limit, stop⟩ depth) (lt : depth < limit) :
    Local (Yields limit) (operandAt limit depth) := by
  have whole := whole_operand lt
  rw [operandAt_eq] at whole ⊢
  exact signs_local inner each whole

/-- By induction on the levels that are left: a reader calls others that have fewer. -/
theorem expr_local (depth : Nat) : (depth ≤ limit → Local (Yields limit) (exprAt limit depth)) ∧
    (depth < limit → Local (Yields limit) (operandAt limit depth)) := by
  induction depth with
  | zero =>
    have exprLocal : Local (Yields limit) (exprAt limit 0) := by
      intro stop tokens tree rest read
      rw [exprAt, expr] at read
      exact tooDeep_local read
    exact ⟨fun _ => exprLocal, operandAt_local exprLocal tooDeep_local⟩
  | succ depth ih =>
    have exprLocal (le : depth + 1 ≤ limit) : Local (Yields limit) (exprAt limit (depth + 1)) := by
      have whole := whole_expr le
      rw [exprAt_succ] at whole ⊢
      exact choice_local (ih.2 le) (ih.1 (Nat.le_of_lt le)) whole
    exact ⟨exprLocal, fun lt => operandAt_local (exprLocal (Nat.le_of_lt lt))
      (ih.2 (Nat.lt_of_succ_lt lt)) lt⟩

end Operations

end Cel.Parser
