import Cel.Proofs.Grammar.Readers
import Cel.Proofs.Layout.Row

/-! # Readers put nodes in their places

From tokens that stand one after the other, every reader of the parser makes trees whose nodes are in
their places and that stand in a row before the tokens that are left. Parentheses leave no trace in a
tree, so that a node may begin behind the first token that was read for it and end before the last
one. An error stands at a token, at a node, or at the end of the input.
-/

namespace Cel.Parser

variable {s : Setting} {whole : Tokens}

/-- Whether an error may stand at a span: at the end of the input, or from a token to a token. -/
def Usable (s : Setting) (whole : Tokens) (span : Span) : Prop :=
  span = .point s.stop ∨ Bounded whole span ∧ span.start ≤ span.stop

/-- Whether a result leaves tokens in order behind an offset up to which its value is as it should be,
or else is an error at a usable span. -/
def Gives {β : Type} (s : Setting) (whole : Tokens) (proper : Nat → β → Prop) :
    Except ParseError (β × Tokens) → Prop
  | .error error => Usable s whole error.span
  | .ok (value, rest) => ∃ last, InOrder whole last rest ∧ proper last value

/-- Whether all that a reader takes from tokens in order stands in a row behind the offset from which
on they are. The trees of what is read are those given by `trees`. -/
def Lays {β : Type} (s : Setting) (whole : Tokens) (trees : β → List Tree) (reader : Reader β) : Prop :=
  ∀ {first tokens}, InOrder whole first tokens →
    Gives s whole (fun last value => Row whole first last (trees value)) (reader tokens)

section Gives

variable {β γ : Type} {proper : Nat → β → Prop} {proper' : Nat → γ → Prop}

theorem Gives.bind {result : Except ParseError (β × Tokens)}
    {next : β × Tokens → Except ParseError (γ × Tokens)} (given : Gives s whole proper result)
    (goOn : ∀ {value rest last}, InOrder whole last rest → proper last value →
      Gives s whole proper' (next (value, rest))) : Gives s whole proper' (result >>= next) := by
  cases result with
  | error error => exact given
  | ok read =>
    obtain ⟨last, inOrder, isProper⟩ := given
    exact goOn inOrder isProper

theorem Gives.pure {value : β} {rest : Tokens} {last : Nat} (inOrder : InOrder whole last rest)
    (isProper : proper last value) : Gives s whole proper (.ok (value, rest)) :=
  ⟨last, inOrder, isProper⟩

end Gives

/-! ### Single tokens -/

/-- Whether a span is that of a token between two offsets, the second of which is where it ends. -/
structure Taken (whole : Tokens) (first last : Nat) (span : Span) : Prop where
  isToken : ∃ token ∈ whole, token.span = span
  notBefore : first ≤ span.start
  notEmpty : span.start ≤ span.stop
  ends : span.stop = last

namespace Taken

variable {first last : Nat} {span : Span}

theorem starts (taken : Taken whole first last span) :
    ∃ token ∈ whole, token.span.start = span.start := by
  obtain ⟨token, member, same⟩ := taken.isToken
  exact ⟨token, member, by rw [same]⟩

theorem stops (taken : Taken whole first last span) :
    ∃ token ∈ whole, token.span.stop = span.stop := by
  obtain ⟨token, member, same⟩ := taken.isToken
  exact ⟨token, member, by rw [same]⟩

theorem bounded (taken : Taken whole first last span) : Bounded whole span :=
  ⟨taken.starts, taken.stops⟩

theorem usable (taken : Taken whole first last span) : Usable s whole span :=
  .inr ⟨taken.bounded, taken.notEmpty⟩

end Taken

section Tokens

variable {first : Nat} {tokens rest : Tokens} {item : Token} {span : Span}

/-- The first one of tokens in order, and the ones behind it. -/
theorem InOrder.taken (inOrder : InOrder whole first (⟨item, span⟩ :: rest)) :
    Taken whole first span.stop span ∧ InOrder whole span.stop rest := by
  obtain ⟨member, notBefore, notEmpty, after⟩ := inOrder
  exact ⟨⟨⟨_, member, rfl⟩, notBefore, notEmpty, rfl⟩, after⟩

theorem here_usable (inOrder : InOrder whole first tokens) : Usable s whole (here s tokens) := by
  cases tokens with
  | nil => exact .inl rfl
  | cons next rest => exact inOrder.taken.1.usable

theorem expect_gives (sign : Symbol) (inOrder : InOrder whole first tokens) :
    Gives s whole (fun last span => Taken whole first last span) (expect s sign tokens) := by
  unfold expect
  split
  · obtain ⟨taken, after⟩ := inOrder.taken
    split
    · exact .pure after taken
    · exact taken.usable
  · exact here_usable inOrder

theorem expectName_gives (role : NameRole) (inOrder : InOrder whole first tokens) :
    Gives s whole (fun last (name : Located String) => Taken whole first last name.span)
      (expectName s role tokens) := by
  unfold expectName
  split
  · obtain ⟨taken, after⟩ := inOrder.taken
    exact .pure after taken
  · exact here_usable inOrder

/-- A node is completed in its place, or an error stands there. -/
theorem complete_gives {node : Tree} (bounded : Bounded whole node.note)
    (row : Row whole node.note.start node.note.stop node.children) (before : first ≤ node.note.start)
    (after : InOrder whole node.note.stop rest) :
    Gives s whole (fun last tree => Row whole first last [tree]) (complete s node rest) := by
  unfold complete
  split
  · exact .inr ⟨bounded, row.le⟩
  · exact .pure after ((Row.node bounded row).mono before (Nat.le_refl _))

/-- A node without others below it is completed where its tokens are. -/
theorem leaf_gives {node : Tree} {last : Nat} (isLeaf : node.children = [])
    (taken : Taken whole first last node.note) (after : InOrder whole last rest) :
    Gives s whole (fun last tree => Row whole first last [tree]) (complete s node rest) := by
  have empty : Row whole node.note.start node.note.stop node.children := by
    rw [isLeaf]
    exact .nil taken.notEmpty
  rw [← taken.ends] at after
  exact complete_gives taken.bounded empty taken.notBefore after

end Tokens

/-! ### Sequences -/

section Sequences

variable {β : Type} {trees : β → List Tree} {item : Reader β}

theorem further_lays (lays : Lays s whole trees item) (close : Symbol) (fuel : Nat) :
    Lays s whole (·.flatMap trees) (further close item fuel) := by
  induction fuel with
  | zero => exact fun inOrder => .pure inOrder (.nil (Nat.le_refl _))
  | succ fuel ih =>
    intro first tokens inOrder
    unfold further
    split
    · obtain ⟨comma, after⟩ := inOrder.taken
      have notBefore := Nat.le_trans comma.notBefore comma.notEmpty
      split
      · exact .pure after (.nil notBefore)
      · refine (lays after).bind fun inOrder one => ?_
        refine (ih inOrder).bind fun inOrder others => ?_
        exact .pure inOrder ((one.append others).mono notBefore (Nat.le_refl _))
    · exact .pure inOrder (.nil (Nat.le_refl _))

/-- Items up to a closing bracket, which stands behind them. -/
theorem sequence_gives (lays : Lays s whole trees item) (close : Symbol) {first : Nat}
    {tokens : Tokens} (inOrder : InOrder whole first tokens) :
    Gives s whole (fun last (value : List β × Span) =>
      Row whole first value.2.start (value.1.flatMap trees) ∧ Taken whole first last value.2)
      (sequence s close item tokens) := by
  unfold sequence
  split
  · refine (expect_gives close inOrder).bind fun inOrder closing => ?_
    exact .pure inOrder ⟨.nil closing.notBefore, closing⟩
  · refine (lays inOrder).bind fun inOrder one => ?_
    refine (further_lays lays close _ inOrder).bind fun inOrder others => ?_
    refine (expect_gives close inOrder).bind fun inOrder closing => ?_
    have all := one.append others
    refine .pure inOrder ⟨all.mono (Nat.le_refl _) closing.notBefore, closing.isToken, ?_,
      closing.notEmpty, closing.ends⟩
    exact Nat.le_trans all.le closing.notBefore

variable {expr : Reader Tree} (lays : Lays s whole ([·]) expr)

include lays

theorem entry_lays : Lays s whole (fun entry => [entry.1, entry.2]) (entry s expr) := by
  intro first tokens inOrder
  refine (lays inOrder).bind fun inOrder key => ?_
  refine (expect_gives .colon inOrder).bind fun inOrder colon => ?_
  refine (lays inOrder).bind fun inOrder value => ?_
  have between := Nat.le_trans colon.notBefore colon.notEmpty
  rw [colon.ends] at between
  exact .pure inOrder (key.append (value.mono between (Nat.le_refl _)))

theorem field_lays : Lays s whole (fun field => [field.2]) (field s expr) := by
  intro first tokens inOrder
  refine (expectName_gives .field inOrder).bind fun inOrder name => ?_
  refine (expect_gives .colon inOrder).bind fun inOrder colon => ?_
  refine (lays inOrder).bind fun inOrder value => ?_
  have behindName := Nat.le_trans name.notBefore name.notEmpty
  have behindColon := Nat.le_trans colon.notBefore colon.notEmpty
  rw [name.ends] at behindName
  rw [colon.ends] at behindColon
  exact .pure inOrder (value.mono (Nat.le_trans behindName behindColon) (Nat.le_refl _))

end Sequences

/-! ### Atoms and what follows them -/

/-- A node that ends with a closing token, before which the trees below the node stand. -/
theorem closed_gives {node : Tree} {first middle last : Nat} {closing : Span} {rest : Tokens}
    (starts : ∃ token ∈ whole, token.span.start = node.note.start) (before : first ≤ node.note.start)
    (row : Row whole node.note.start closing.start node.children)
    (closes : Taken whole middle last closing) (ends : node.note.stop = closing.stop)
    (after : InOrder whole last rest) :
    Gives s whole (fun last tree => Row whole first last [tree]) (complete s node rest) := by
  have bounded : Bounded whole node.note := ⟨starts, by rw [ends]; exact closes.stops⟩
  have wide : Row whole node.note.start node.note.stop node.children := by
    refine row.mono (Nat.le_refl _) ?_
    rw [ends]
    exact closes.notEmpty
  rw [← closes.ends, ← ends] at after
  exact complete_gives bounded wide before after

/-- A node that ends with the last one of the trees below it. -/
theorem ended_gives {node tree : Tree} {others : List Tree} {first last start : Nat} {rest : Tokens}
    (row : Row whole start last (others ++ [tree])) (below : node.children = others ++ [tree])
    (spanned : node.note = ⟨start, tree.note.stop⟩)
    (starts : ∃ token ∈ whole, token.span.start = start) (before : first ≤ start)
    (after : InOrder whole last rest) :
    Gives s whole (fun last tree => Row whole first last [tree]) (complete s node rest) := by
  have isLast : Placed whole tree :=
    row.placed tree (List.mem_append_right _ (List.mem_singleton_self tree))
  obtain ⟨toEnd, behind⟩ := row.toEnd
  refine complete_gives ?_ ?_ ?_ ?_
  · rw [spanned]
    exact ⟨starts, isLast.bounded.stops⟩
  · rw [spanned, below]
    exact toEnd
  · rw [spanned]
    exact before
  · rw [spanned]
    exact after.mono behind

section Atoms

variable {expr : Reader Tree} (lays : Lays s whole ([·]) expr)

include lays

theorem atom_lays : Lays s whole ([·]) (atom s expr) := by
  intro first tokens inOrder
  unfold atom
  split
  · exact .inl rfl
  · next token span rest =>
    obtain ⟨opening, after⟩ := inOrder.taken
    have notBefore := Nat.le_trans opening.notBefore opening.notEmpty
    split
    · exact leaf_gives rfl opening after
    · split
      · exact leaf_gives rfl opening after
      · exact opening.usable
      · refine (expectName_gives .member after).bind fun inOrder name => ?_
        have behind : Row whole span.start _ [] := .nil (Nat.le_trans opening.notEmpty name.notBefore)
        exact closed_gives opening.starts opening.notBefore behind name rfl inOrder
      · refine (lays after).bind fun inOrder inner => ?_
        refine (expect_gives .rightParen inOrder).bind fun inOrder closing => ?_
        have behind := Nat.le_trans closing.notBefore closing.notEmpty
        rw [closing.ends] at behind
        exact .pure inOrder (inner.mono notBefore behind)
      · refine (sequence_gives lays .rightBracket after).bind fun inOrder read => ?_
        obtain ⟨items, closing⟩ := read
        rw [List.flatMap_singleton'] at items
        exact closed_gives opening.starts opening.notBefore
          (items.mono opening.notEmpty (Nat.le_refl _)) closing rfl inOrder
      · refine (sequence_gives (entry_lays lays) .rightBrace after).bind fun inOrder read => ?_
        obtain ⟨entries, closing⟩ := read
        exact closed_gives opening.starts opening.notBefore
          (entries.mono opening.notEmpty (Nat.le_refl _)) closing rfl inOrder
      · exact opening.usable

/-- What follows an expression makes a node around it that begins where the expression does. -/
theorem suffixes_gives (fuel : Nat) {first middle : Nat} {start : Tree} {tokens : Tokens}
    (row : Row whole first middle [start]) (inOrder : InOrder whole middle tokens) :
    Gives s whole (fun last tree => Row whole first last [tree])
      (suffixes s expr fuel start tokens) := by
  induction fuel generalizing middle start tokens with
  | zero => exact .pure inOrder row
  | succ fuel ih =>
    -- A node that begins with the expression and ends with a closing token, and the other suffixes.
    have goOn {node : Tree} {middle' last : Nat} {closing : Span} {others : List Tree}
        {rest : Tokens} (spanned : node.note = start.note.through closing)
        (below : node.children = start :: others) (inside : Row whole middle closing.start others)
        (closes : Taken whole middle' last closing) (after : InOrder whole last rest) :
        Gives s whole (fun last tree => Row whole first last [tree])
          (complete s node rest >>= fun x => suffixes s expr fuel x.1 x.2) := by
      have starts : node.note.start = start.note.start := by rw [spanned, Span.through]
      have ends : node.note.stop = closing.stop := by rw [spanned, Span.through]
      have children : Row whole node.note.start closing.start node.children := by
        rw [starts, below]
        exact row.fromStart.append inside
      have isStart : ∃ token ∈ whole, token.span.start = node.note.start := by
        rw [starts]
        exact row.bounded.starts
      have before : first ≤ node.note.start := by
        rw [starts]
        exact row.inRow.1
      refine (closed_gives isStart before children closes ends after).bind fun inOrder row => ?_
      exact ih row inOrder
    unfold suffixes
    split
    · obtain ⟨opening, after⟩ := inOrder.taken
      have notBefore := Nat.le_trans opening.notBefore opening.notEmpty
      split
      · refine (sequence_gives lays .rightParen after).bind fun inOrder read => ?_
        obtain ⟨args, closing⟩ := read
        rw [List.flatMap_singleton'] at args
        exact goOn rfl rfl (args.mono notBefore (Nat.le_refl _)) closing inOrder
      · exact opening.usable
    · obtain ⟨opening, after⟩ := inOrder.taken
      have notBefore := Nat.le_trans opening.notBefore opening.notEmpty
      refine (lays after).bind fun inOrder position => ?_
      refine (expect_gives .rightBracket inOrder).bind fun inOrder closing => ?_
      exact goOn rfl rfl (position.mono notBefore closing.notBefore) closing inOrder
    · obtain ⟨opening, after⟩ := inOrder.taken
      have notBefore := Nat.le_trans opening.notBefore opening.notEmpty
      refine (expectName_gives .member after).bind fun inOrder name => ?_
      exact goOn rfl rfl (.nil (Nat.le_trans notBefore name.notBefore)) name inOrder
    · obtain ⟨opening, after⟩ := inOrder.taken
      have notBefore := Nat.le_trans opening.notBefore opening.notEmpty
      split
      · refine (sequence_gives (field_lays lays) .rightBrace after).bind fun inOrder read => ?_
        obtain ⟨fields, closing⟩ := read
        rw [← List.map_eq_flatMap] at fields
        exact goOn rfl rfl (fields.mono notBefore (Nat.le_refl _)) closing inOrder
      · exact .pure inOrder row
    · exact .pure inOrder row

theorem primary_lays : Lays s whole ([·]) (primary s expr) := by
  intro first tokens inOrder
  refine (atom_lays lays inOrder).bind fun inOrder row => ?_
  exact suffixes_gives lays _ row inOrder

/-- A sign begins a node that ends with its operand. -/
theorem signs_lays {signed : Reader Tree} (operand : Lays s whole ([·]) signed) :
    Lays s whole ([·]) (signs s signed expr) := by
  intro first tokens inOrder
  unfold signs
  split
  · exact primary_lays lays inOrder
  · next token span rest =>
    split
    · obtain ⟨sign, after⟩ := inOrder.taken
      refine (operand after).bind fun inOrder row => ?_
      have wide : Row whole span.start _ ([] ++ [_]) := row.mono sign.notEmpty (Nat.le_refl _)
      exact ended_gives wide rfl rfl sign.starts sign.notBefore inOrder
    · exact primary_lays lays inOrder

end Atoms

/-! ### Operations -/

section Operations

variable {operand : Reader Tree} (lays : Lays s whole ([·]) operand)

include lays

/-- A left operand that stands before the tokens is the start of all that is joined to it. -/
theorem joined_gives (op? : Token → Option BinaryOp) (fuel : Nat) {first middle : Nat} {left : Tree}
    {tokens : Tokens} (row : Row whole first middle [left]) (inOrder : InOrder whole middle tokens) :
    Gives s whole (fun last tree => Row whole first last [tree])
      (joined s op? operand fuel left tokens) := by
  induction fuel generalizing middle left tokens with
  | zero => exact .pure inOrder row
  | succ fuel ih =>
    unfold joined
    split
    · exact .pure inOrder row
    · obtain ⟨sign, after⟩ := inOrder.taken
      split
      · refine (lays after).bind fun inOrder right => ?_
        have behind := right.mono (Nat.le_trans sign.notBefore sign.notEmpty) (Nat.le_refl _)
        refine (ended_gives (row.fromStart.append behind) rfl rfl row.bounded.starts row.inRow.1
          inOrder).bind fun inOrder row => ?_
        exact ih row inOrder
      · exact .pure inOrder row

theorem tierReader_lays (tier : Nat) : Lays s whole ([·]) (tierReader s operand tier) := by
  induction tier with
  | zero => exact lays
  | succ tier ih =>
    intro first tokens inOrder
    exact (ih inOrder).bind fun inOrder row => joined_gives ih _ _ row inOrder

theorem choice_lays {expr : Reader Tree} (inner : Lays s whole ([·]) expr) :
    Lays s whole ([·]) (choice s operand expr) := by
  intro first tokens inOrder
  have operation : Lays s whole ([·]) (disjunction s operand) := tierReader_lays lays 5
  refine (operation inOrder).bind fun inOrder condition => ?_
  dsimp only
  split
  · obtain ⟨question, after⟩ := inOrder.taken
    refine (operation after).bind fun inOrder yes => ?_
    refine (expect_gives .colon inOrder).bind fun inOrder colon => ?_
    refine (inner inOrder).bind fun inOrder no => ?_
    have toYes := Nat.le_trans question.notBefore question.notEmpty
    have toNo := Nat.le_trans colon.notBefore colon.notEmpty
    rw [colon.ends] at toNo
    have row := (condition.fromStart.append (yes.mono toYes (Nat.le_refl _))).append
      (no.mono toNo (Nat.le_refl _))
    exact ended_gives row rfl rfl condition.bounded.starts condition.inRow.1 inOrder
  · exact .pure inOrder condition

end Operations

theorem tooDeep_lays : Lays s whole ([·]) (tooDeep s) := fun inOrder => here_usable inOrder

/-- By induction on the levels that are left: when there are none, the error stands at the next
token. -/
theorem expr_lays (depth : Nat) :
    Lays s whole ([·]) (expr s depth) ∧ Lays s whole ([·]) (operand s depth) := by
  induction depth with
  | zero =>
    have exprLays : Lays s whole ([·]) (expr s 0) := by
      intro first tokens inOrder
      rw [expr]
      exact tooDeep_lays inOrder
    refine ⟨exprLays, ?_⟩
    rw [operand_eq]
    exact signs_lays exprLays tooDeep_lays
  | succ depth ih =>
    obtain ⟨exprIh, operandIh⟩ := ih
    have exprLays : Lays s whole ([·]) (expr s (depth + 1)) := by
      rw [expr_succ]
      exact choice_lays operandIh exprIh
    refine ⟨exprLays, ?_⟩
    rw [operand_eq]
    exact signs_lays exprLays operandIh

end Cel.Parser
