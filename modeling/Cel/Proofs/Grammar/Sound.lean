import Cel.Proofs.Grammar.Readers

/-! # What is read is derived

Whatever a reader of the parser takes from the start of the tokens is derived by the grammar, with the
tree that is read as its tree. Loops are read from the left: what has been read before a loop and what
each round adds to it are derived together.
-/

namespace Cel.Parser

open Grammar (Category Phrase Derives Separated entryTokens fieldTokens)

variable {s : Setting}

/-- The tokens before `rest` are of a category and stand for a tree. -/
def Reads (category : Category) (tokens : Tokens) (tree : Tree) (rest : Tokens) : Prop :=
  ∃ consumed, items tokens = consumed ++ items rest ∧ Derives category consumed tree.shape

/-- Whether what a reader takes is always of a category. -/
def Sound (category : Category) (reader : Reader Tree) : Prop :=
  ∀ {tokens tree rest}, reader tokens = .ok (tree, rest) → Reads category tokens tree rest

/-! ### Sequences -/

/-- Whether what a reader takes is always an item of a kind. -/
def ItemKind.Sound {β : Type} (kind : ItemKind β) (reader : Reader β) : Prop :=
  ∀ {tokens value rest}, reader tokens = .ok (value, rest) →
    ∃ piece, kind.IsItem piece ∧ kind.forget value = kind.result piece ∧
      items tokens = kind.tokens piece ++ items rest

theorem sound_exprItems {expr : Reader Tree} (sound : Sound .expression expr) :
    exprItems.Sound expr := by
  intro tokens tree rest read
  obtain ⟨consumed, same, derived⟩ := sound read
  exact ⟨⟨consumed, tree.shape⟩, derived, rfl, same⟩

theorem sound_entryItems {expr : Reader Tree} (sound : Sound .expression expr) :
    entryItems.Sound (entry s expr) := by
  intro tokens value rest read
  obtain ⟨⟨key, rest₁⟩, readKey, read⟩ := bind_eq_ok_iff.mp read
  obtain ⟨⟨colon, rest₂⟩, readColon, read⟩ := bind_eq_ok_iff.mp read
  obtain ⟨⟨value, rest₃⟩, readValue, read⟩ := bind_eq_ok_iff.mp read
  cases read
  cases expect_eq_ok_iff.mp readColon
  obtain ⟨keyTokens, keySame, keyDerived⟩ := sound readKey
  obtain ⟨valueTokens, valueSame, valueDerived⟩ := sound readValue
  refine ⟨(⟨keyTokens, key.shape⟩, ⟨valueTokens, value.shape⟩), ⟨keyDerived, valueDerived⟩, rfl, ?_⟩
  simp [keySame, valueSame, entryItems, entryTokens]

theorem sound_fieldItems {expr : Reader Tree} (sound : Sound .expression expr) :
    fieldItems.Sound (field s expr) := by
  intro tokens value rest read
  obtain ⟨⟨name, rest₁⟩, readName, read⟩ := bind_eq_ok_iff.mp read
  obtain ⟨⟨colon, rest₂⟩, readColon, read⟩ := bind_eq_ok_iff.mp read
  obtain ⟨⟨value, rest₃⟩, readValue, read⟩ := bind_eq_ok_iff.mp read
  cases read
  cases expectName_eq_ok_iff.mp readName
  cases expect_eq_ok_iff.mp readColon
  obtain ⟨valueTokens, valueSame, valueDerived⟩ := sound readValue
  refine ⟨(name.item, ⟨valueTokens, value.shape⟩), valueDerived, rfl, ?_⟩
  simp [valueSame, fieldItems, fieldTokens]

section Sequences

variable {β : Type} {kind : ItemKind β} {item : Reader β} (sound : kind.Sound item)

include sound

/-- Further items continue any first one. -/
theorem further_sound {close : Symbol} {fuel : Nat} {tokens rest : Tokens} {values : List β}
    (read : further close item fuel tokens = .ok (values, rest)) :
    ∃ pieces consumed, kind.MadeOf values pieces ∧ items tokens = consumed ++ items rest ∧
      ∀ first, Separated (first :: pieces.map kind.tokens) (first ++ consumed) := by
  induction fuel generalizing tokens values with
  | zero =>
    cases read
    refine ⟨[], [], kind.madeOf_nil, rfl, fun first => ?_⟩
    rw [List.append_nil]
    exact .last first
  | succ fuel ih =>
    unfold further at read
    split at read
    · next span after =>
      split at read
      · cases read
        exact ⟨[], [.symbol .comma], kind.madeOf_nil, rfl, fun first => .lastComma first⟩
      · obtain ⟨⟨value, rest₁⟩, readFirst, read⟩ := bind_eq_ok_iff.mp read
        obtain ⟨⟨others, rest₂⟩, readOthers, read⟩ := bind_eq_ok_iff.mp read
        cases read
        obtain ⟨piece, isItem, made, same⟩ := sound readFirst
        obtain ⟨pieces, consumed, madeOthers, sameOthers, separated⟩ := ih readOthers
        refine ⟨piece :: pieces, .symbol .comma :: (kind.tokens piece ++ consumed),
          madeOthers.cons isItem made, ?_, fun first => .more first (separated _)⟩
        rw [items_cons, same, sameOthers, List.cons_append, List.append_assoc]
    · cases read
      refine ⟨[], [], kind.madeOf_nil, rfl, fun first => ?_⟩
      rw [List.append_nil]
      exact .last first

theorem sequence_sound {close : Symbol} {tokens rest : Tokens} {values : List β} {stop : Span}
    (read : sequence s close item tokens = .ok ((values, stop), rest)) :
    ∃ pieces listed, kind.MadeOf values pieces ∧ Separated (pieces.map kind.tokens) listed ∧
      items tokens = listed ++ .symbol close :: items rest := by
  unfold sequence at read
  split at read
  · obtain ⟨⟨span, rest₁⟩, closed, read⟩ := bind_eq_ok_iff.mp read
    cases read
    cases expect_eq_ok_iff.mp closed
    exact ⟨[], [], kind.madeOf_nil, .empty, rfl⟩
  · obtain ⟨⟨value, rest₁⟩, readFirst, read⟩ := bind_eq_ok_iff.mp read
    obtain ⟨⟨others, rest₂⟩, readOthers, read⟩ := bind_eq_ok_iff.mp read
    obtain ⟨⟨span, rest₃⟩, closed, read⟩ := bind_eq_ok_iff.mp read
    cases read
    cases expect_eq_ok_iff.mp closed
    obtain ⟨piece, isItem, made, same⟩ := sound readFirst
    obtain ⟨pieces, consumed, madeOthers, sameOthers, separated⟩ := further_sound sound readOthers
    refine ⟨piece :: pieces, kind.tokens piece ++ consumed, madeOthers.cons isItem made,
      separated _, ?_⟩
    rw [same, sameOthers, items_cons, List.append_assoc]

end Sequences

/-! ### Atoms and what follows them -/

section Atoms

variable {expr : Reader Tree} (sound : Sound .expression expr)

include sound

theorem atom_sound : Sound .atom (atom s expr) := by
  intro tokens tree rest read
  unfold atom at read
  split at read
  · cases read
  · next token span after =>
    split at read
    · next value found =>
      obtain ⟨-, rfl, rfl⟩ := complete_eq_ok_iff.mp read
      cases constant?_eq_some_iff.mp found
      exact ⟨[value.token], rfl, .constant value⟩
    · split at read
      · next name _ =>
        obtain ⟨-, rfl, rfl⟩ := complete_eq_ok_iff.mp read
        exact ⟨[.ident name], rfl, .ident name⟩
      · cases read
      · obtain ⟨⟨name, rest₁⟩, named, read⟩ := bind_eq_ok_iff.mp read
        obtain ⟨-, rfl, rfl⟩ := complete_eq_ok_iff.mp read
        cases expectName_eq_ok_iff.mp named
        exact ⟨[.symbol .dot, .ident name.item], rfl, .rootIdent name.item⟩
      · obtain ⟨⟨inner, rest₁⟩, readInner, read⟩ := bind_eq_ok_iff.mp read
        obtain ⟨⟨stop, rest₂⟩, closed, read⟩ := bind_eq_ok_iff.mp read
        cases read
        cases expect_eq_ok_iff.mp closed
        obtain ⟨consumed, same, derived⟩ := sound readInner
        refine ⟨_, ?_, .parenthesized derived⟩
        simp [same]
      · obtain ⟨⟨⟨values, stop⟩, rest₁⟩, listed, read⟩ := bind_eq_ok_iff.mp read
        obtain ⟨-, rfl, rfl⟩ := complete_eq_ok_iff.mp read
        obtain ⟨pieces, consumed, ⟨each, made⟩, separated, same⟩ :=
          sequence_sound (sound_exprItems sound) listed
        refine ⟨.symbol .leftBracket :: (consumed ++ [.symbol .rightBracket]), by simp [same], ?_⟩
        rw [shape_list made]
        exact .list each separated
      · obtain ⟨⟨⟨values, stop⟩, rest₁⟩, listed, read⟩ := bind_eq_ok_iff.mp read
        obtain ⟨-, rfl, rfl⟩ := complete_eq_ok_iff.mp read
        obtain ⟨pieces, consumed, ⟨each, made⟩, separated, same⟩ :=
          sequence_sound (sound_entryItems sound) listed
        refine ⟨.symbol .leftBrace :: (consumed ++ [.symbol .rightBrace]), by simp [same], ?_⟩
        rw [shape_map made]
        have keys : ∀ entry ∈ pieces, Derives .expression entry.1.tokens entry.1.tree :=
          fun entry member => (each entry member).1
        have values : ∀ entry ∈ pieces, Derives .expression entry.2.tokens entry.2.tree :=
          fun entry member => (each entry member).2
        exact .map keys values separated
      · cases read

/-- What follows an expression makes another one of it. -/
theorem suffixes_sound {fuel : Nat} {start tree : Tree} {tokens rest : Tokens}
    (read : suffixes s expr fuel start tokens = .ok (tree, rest)) {before : List Token}
    (derived : Derives .primary before start.shape) :
    ∃ consumed, items tokens = consumed ++ items rest ∧
      Derives .primary (before ++ consumed) tree.shape := by
  induction fuel generalizing start tokens before with
  | zero =>
    cases read
    exact ⟨[], rfl, by rwa [List.append_nil]⟩
  | succ fuel ih =>
    -- One suffix and then the others, where `added` is what the one suffix takes.
    have goOn {start' : Tree} {tokens' : Tokens} {added : List Token}
        (same : items tokens = added ++ items tokens')
        (read : suffixes s expr fuel start' tokens' = .ok (tree, rest))
        (derived : Derives .primary (before ++ added) start'.shape) :
        ∃ consumed, items tokens = consumed ++ items rest ∧
          Derives .primary (before ++ consumed) tree.shape := by
      obtain ⟨consumed, sameRest, derived⟩ := ih read derived
      refine ⟨added ++ consumed, by rw [same, sameRest, List.append_assoc], ?_⟩
      rwa [List.append_assoc] at derived
    unfold suffixes at read
    split at read
    · next span after =>
      split at read
      · next callee =>
        obtain ⟨⟨⟨values, stop⟩, rest₁⟩, listed, completing⟩ := bind_eq_ok_iff.mp read
        obtain ⟨⟨called, rest₂⟩, completed, others⟩ := bind_eq_ok_iff.mp completing
        obtain ⟨-, rfl, rfl⟩ := complete_eq_ok_iff.mp completed
        obtain ⟨pieces, consumed, ⟨each, made⟩, separated, same⟩ :=
          sequence_sound (sound_exprItems sound) listed
        have whole : items (⟨.symbol .leftParen, span⟩ :: after) =
            (.symbol .leftParen :: (consumed ++ [.symbol .rightParen])) ++ items rest₂ := by
          simp [same]
        refine goOn whole others ?_
        rw [shape_call made]
        exact .call derived (callable_shape_iff.mpr callee) each separated
      · cases read
    · next span after =>
      obtain ⟨⟨position, rest₁⟩, readInner, closing⟩ := bind_eq_ok_iff.mp read
      obtain ⟨⟨stop, rest₂⟩, closed, completing⟩ := bind_eq_ok_iff.mp closing
      obtain ⟨⟨indexed, rest₃⟩, completed, others⟩ := bind_eq_ok_iff.mp completing
      obtain ⟨-, rfl, rfl⟩ := complete_eq_ok_iff.mp completed
      cases expect_eq_ok_iff.mp closed
      obtain ⟨consumed, same, inside⟩ := sound readInner
      have whole : items (⟨.symbol .leftBracket, span⟩ :: after) =
          (.symbol .leftBracket :: (consumed ++ [.symbol .rightBracket])) ++ items rest₃ := by
        simp [same]
      exact goOn whole others (.index derived inside)
    · next span after =>
      obtain ⟨⟨name, rest₁⟩, named, completing⟩ := bind_eq_ok_iff.mp read
      obtain ⟨⟨selected, rest₂⟩, completed, others⟩ := bind_eq_ok_iff.mp completing
      obtain ⟨-, rfl, rfl⟩ := complete_eq_ok_iff.mp completed
      cases expectName_eq_ok_iff.mp named
      have whole : items (⟨.symbol .dot, span⟩ :: ⟨.ident name.item, name.span⟩ :: rest₂) =
          [.symbol .dot, .ident name.item] ++ items rest₂ := rfl
      exact goOn whole others (.member derived name.item)
    · next span after =>
      split at read
      · next typeName =>
        obtain ⟨⟨⟨values, stop⟩, rest₁⟩, listed, completing⟩ := bind_eq_ok_iff.mp read
        obtain ⟨⟨built, rest₂⟩, completed, others⟩ := bind_eq_ok_iff.mp completing
        obtain ⟨-, rfl, rfl⟩ := complete_eq_ok_iff.mp completed
        obtain ⟨pieces, consumed, ⟨each, made⟩, separated, same⟩ :=
          sequence_sound (sound_fieldItems sound) listed
        have whole : items (⟨.symbol .leftBrace, span⟩ :: after) =
            (.symbol .leftBrace :: (consumed ++ [.symbol .rightBrace])) ++ items rest₂ := by
          simp [same]
        refine goOn whole others ?_
        rw [shape_struct made]
        exact .struct derived (typeName_shape_iff.mpr typeName) each separated
      · cases read
        exact ⟨[], rfl, by rwa [List.append_nil]⟩
    · cases read
      exact ⟨[], rfl, by rwa [List.append_nil]⟩

theorem primary_sound : Sound .primary (primary s expr) := by
  intro tokens tree rest read
  obtain ⟨⟨start, rest₁⟩, readAtom, read⟩ := bind_eq_ok_iff.mp read
  obtain ⟨before, same, derived⟩ := atom_sound sound readAtom
  obtain ⟨consumed, sameRest, derived⟩ := suffixes_sound sound read (.atom derived)
  exact ⟨before ++ consumed, by rw [same, sameRest, List.append_assoc], derived⟩

theorem signs_sound {signed : Reader Tree} (soundSigned : Sound (.operation 0) signed) :
    Sound (.operation 0) (signs s signed expr) := by
  intro tokens tree rest read
  have asPrimary (read : primary s expr tokens = .ok (tree, rest)) :
      Reads (.operation 0) tokens tree rest := by
    obtain ⟨consumed, same, derived⟩ := primary_sound sound read
    exact ⟨consumed, same, .primary derived⟩
  unfold signs at read
  split at read
  · exact asPrimary read
  · next token span after =>
    split at read
    · next op found =>
      obtain ⟨⟨operand, rest₁⟩, readOperand, read⟩ := bind_eq_ok_iff.mp read
      obtain ⟨-, rfl, rfl⟩ := complete_eq_ok_iff.mp read
      cases unaryOp?_eq_some_iff.mp found
      obtain ⟨consumed, same, derived⟩ := soundSigned readOperand
      exact ⟨op.token :: consumed, by rw [items_cons, same, List.cons_append], .unary op derived⟩
    · exact asPrimary read

end Atoms

/-! ### Operations -/

/-- Every round of a loop over operators joins one more operand from the right. -/
theorem joined_sound {tier : Nat} {operand : Reader Tree} (sound : Sound (.operation tier) operand)
    {fuel : Nat} {left tree : Tree} {tokens rest : Tokens}
    (read : joined s (opAt (tier + 1)) operand fuel left tokens = .ok (tree, rest))
    {before : List Token} (derived : Derives (.operation (tier + 1)) before left.shape) :
    ∃ consumed, items tokens = consumed ++ items rest ∧
      Derives (.operation (tier + 1)) (before ++ consumed) tree.shape := by
  induction fuel generalizing left tokens before with
  | zero =>
    cases read
    exact ⟨[], rfl, by rwa [List.append_nil]⟩
  | succ fuel ih =>
    unfold joined at read
    split at read
    · cases read
      exact ⟨[], rfl, by rwa [List.append_nil]⟩
    · next token span after =>
      split at read
      · next op found =>
        obtain ⟨⟨right, rest₁⟩, readRight, completing⟩ := bind_eq_ok_iff.mp read
        obtain ⟨⟨node, rest₂⟩, completed, others⟩ := bind_eq_ok_iff.mp completing
        obtain ⟨-, rfl, rfl⟩ := complete_eq_ok_iff.mp completed
        obtain ⟨onTier, rfl⟩ := opAt_eq_some_iff.mp found
        obtain ⟨added, same, derivedRight⟩ := sound readRight
        have joinedOne : Derives (.operation (tier + 1)) (before ++ op.token :: added)
            (.binary () op left.shape right.shape) := .binary onTier derived derivedRight
        obtain ⟨consumed, sameRest, derived⟩ := ih others joinedOne
        refine ⟨op.token :: (added ++ consumed), ?_, ?_⟩
        · rw [items_cons, same, sameRest, List.cons_append, List.append_assoc]
        · rwa [List.append_assoc] at derived
      · cases read
        exact ⟨[], rfl, by rwa [List.append_nil]⟩

theorem tierReader_sound {operand : Reader Tree} (sound : Sound (.operation 0) operand)
    (tier : Nat) : Sound (.operation tier) (tierReader s operand tier) := by
  induction tier with
  | zero => exact sound
  | succ tier ih =>
    intro tokens tree rest read
    obtain ⟨⟨left, rest₁⟩, readLeft, read⟩ := bind_eq_ok_iff.mp read
    obtain ⟨before, same, derived⟩ := ih readLeft
    obtain ⟨consumed, sameRest, derived⟩ := joined_sound ih read (.tighter derived)
    exact ⟨before ++ consumed, by rw [same, sameRest, List.append_assoc], derived⟩

theorem choice_sound {operand expr : Reader Tree} (soundOperand : Sound (.operation 0) operand)
    (soundExpr : Sound .expression expr) : Sound .expression (choice s operand expr) := by
  intro tokens tree rest read
  have soundOperation : Sound (.operation 5) (disjunction s operand) :=
    tierReader_sound soundOperand 5
  obtain ⟨⟨condition, rest₁⟩, readCondition, read⟩ := bind_eq_ok_iff.mp read
  obtain ⟨conditionTokens, conditionSame, conditionDerived⟩ := soundOperation readCondition
  dsimp only at read
  split at read
  · next span after =>
    obtain ⟨⟨yes, rest₂⟩, readYes, read⟩ := bind_eq_ok_iff.mp read
    obtain ⟨⟨colon, rest₃⟩, readColon, read⟩ := bind_eq_ok_iff.mp read
    obtain ⟨⟨no, rest₄⟩, readNo, read⟩ := bind_eq_ok_iff.mp read
    obtain ⟨-, rfl, rfl⟩ := complete_eq_ok_iff.mp read
    cases expect_eq_ok_iff.mp readColon
    obtain ⟨yesTokens, yesSame, yesDerived⟩ := soundOperation readYes
    obtain ⟨noTokens, noSame, noDerived⟩ := soundExpr readNo
    exact ⟨_, by simp [conditionSame, yesSame, noSame], .choice conditionDerived yesDerived noDerived⟩
  · cases read
    exact ⟨conditionTokens, conditionSame, .operation conditionDerived⟩

/-- What the parser takes as an expression is derived as one, and what it takes as an operand is
derived as an operand. -/
theorem expr_sound (depth : Nat) :
    Sound .expression (expr s depth) ∧ Sound (.operation 0) (operand s depth) := by
  have tooDeepSound (category : Category) : Sound category (tooDeep s) := fun read => nomatch read
  induction depth with
  | zero =>
    have exprSound : Sound .expression (expr s 0) := by
      intro tokens tree rest read
      rw [expr] at read
      cases read
    refine ⟨exprSound, ?_⟩
    rw [operand_eq]
    exact signs_sound exprSound (tooDeepSound _)
  | succ depth ih =>
    have exprSound : Sound .expression (expr s (depth + 1)) := by
      rw [expr_succ]
      exact choice_sound ih.2 ih.1
    refine ⟨exprSound, ?_⟩
    rw [operand_eq]
    exact signs_sound exprSound ih.2

end Cel.Parser
