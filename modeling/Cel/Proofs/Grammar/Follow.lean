import Cel.Proofs.Grammar

/-! # What comes after a phrase

A phrase is read to its end only if what comes after it does not go on with it: behind an operand on a
tier, no operator of that tier or a tighter one and nothing that opens a call, a position, a member or
the fields of a struct. A closing bracket, a comma or a colon ends phrases of every category.
-/

namespace Cel

theorem BinaryOp.token_injective {first second : BinaryOp} (same : first.token = second.token) :
    first = second := by
  cases first <;> cases second <;> first
    | rfl
    | cases same

namespace Grammar

/-- Whether a token opens something that belongs to the operand before it. -/
def OpensSuffix : Token → Prop
  | .symbol .leftParen | .symbol .leftBracket | .symbol .leftBrace | .symbol .dot => True
  | _ => False

/-- Whether what comes after an operand of a tier does not go on with it. -/
def Stops (tier : Nat) (after : List Token) : Prop :=
  ∀ token ∈ after.head?, ¬OpensSuffix token ∧ ∀ op : BinaryOp, op.tier ≤ tier → token ≠ op.token

/-- What can stand behind an expression inside of another one. -/
def closers : List Symbol := [.rightParen, .rightBracket, .rightBrace, .comma, .colon]

/-- Whether what comes after an expression ends it. -/
def Ends (after : List Token) : Prop := ∀ token ∈ after.head?, ∃ sign ∈ closers, token = .symbol sign

theorem ends_nil : Ends [] := nofun

theorem ends_cons {sign : Symbol} (closes : sign ∈ closers) (after : List Token) :
    Ends (.symbol sign :: after) := by
  rintro token ⟨⟩
  exact ⟨sign, closes, rfl⟩

theorem Stops.of_le {tier lower : Nat} {after : List Token} (stops : Stops tier after)
    (le : lower ≤ tier) : Stops lower after :=
  fun token isNext => ⟨(stops token isNext).1, fun op below => (stops token isNext).2 op (by omega)⟩

/-- An operator ends the operands of the tighter tiers. -/
theorem stops_op {tier : Nat} {op : BinaryOp} (onTier : op.tier = tier + 1) (after : List Token) :
    Stops tier (op.token :: after) := by
  rintro token ⟨⟩
  refine ⟨by cases op <;> exact id, fun other below same => ?_⟩
  cases BinaryOp.token_injective same
  omega

theorem stops_question (tier : Nat) (after : List Token) :
    Stops tier (.symbol .question :: after) := by
  rintro token ⟨⟩
  exact ⟨id, fun op _ same => by cases op <;> cases same⟩

theorem Ends.stops {after : List Token} (ends : Ends after) (tier : Nat) : Stops tier after := by
  intro token isNext
  obtain ⟨sign, closes, rfl⟩ := ends token isNext
  simp only [closers, List.mem_cons, List.not_mem_nil, or_false] at closes
  rcases closes with rfl | rfl | rfl | rfl | rfl
  all_goals exact ⟨id, fun op _ same => by cases op <;> cases same⟩

theorem not_begins_of_mem_closers {sign : Symbol} (closes : sign ∈ closers) :
    ¬Begins (.symbol sign) := by
  simp only [closers, List.mem_cons, List.not_mem_nil, or_false] at closes
  rcases closes with rfl | rfl | rfl | rfl | rfl
  all_goals exact id

/-- A primary expression does not begin with a sign. -/
theorem Derives.unsigned {category : Category} {tokens : List Token} {tree : Expr Unit}
    (derived : Derives category tokens tree) (isPrimary : category = .primary ∨ category = .atom) :
    ∃ first rest, tokens = first :: rest ∧ ∀ op : UnaryOp, first ≠ op.token := by
  induction derived with
  | operation | choice | binary | tighter | unary | primary => simp at isPrimary
  | atom whole ih => exact ih (.inr rfl)
  | member operand name ih =>
    obtain ⟨first, rest, rfl, unsigned⟩ := ih (.inl rfl)
    exact ⟨first, _, rfl, unsigned⟩
  | index operand inside ih =>
    obtain ⟨first, rest, rfl, unsigned⟩ := ih (.inl rfl)
    exact ⟨first, _, rfl, unsigned⟩
  | call callee named each separated ih | struct typeName named each separated ih =>
    obtain ⟨first, rest, rfl, unsigned⟩ := ih (.inl rfl)
    exact ⟨first, _, rfl, unsigned⟩
  | constant value =>
    refine ⟨value.token, [], rfl, fun op same => ?_⟩
    cases value with
    | bool b => cases b <;> cases op <;> cases same
    | _ => cases op <;> cases same
  | ident | rootIdent | parenthesized | list | map =>
    exact ⟨_, _, rfl, fun op same => by cases op <;> cases same⟩

/-- The first piece stands at the start. -/
theorem Separated.starts {first : List Token} {others : List (List Token)} {tokens : List Token}
    (separated : Separated (first :: others) tokens) : ∃ rest, tokens = first ++ rest := by
  cases separated with
  | last => exact ⟨[], (List.append_nil first).symm⟩
  | lastComma => exact ⟨_, rfl⟩
  | more => exact ⟨_, rfl⟩

end Grammar

end Cel
