import Cel.Expr.Parser
import Cel.Proofs.Except
import Cel.Proofs.Expr.Shape
import Cel.Proofs.Grammar

/-! # Readers and the grammar

The readers of the parser in the terms of the grammar: which tokens the elementary readers take, which
operators stand on which tier, and how the readers of the tiers follow from each other. What a
sequence between brackets consists of is described once for all kinds of items.
-/

namespace Cel.Parser

open Grammar (Phrase Derives Callable TypeName entryTokens fieldTokens)

/-- Tokens without their places. -/
def items (tokens : Tokens) : List Token := tokens.map (·.item)

@[simp] theorem items_nil : items [] = [] := rfl

@[simp] theorem items_cons (token : Token) (span : Span) (rest : Tokens) :
    items (⟨token, span⟩ :: rest) = token :: items rest := rfl

@[simp] theorem length_items (tokens : Tokens) : (items tokens).length = tokens.length :=
  List.length_map _

theorem exists_of_items_eq_cons {tokens : Tokens} {first : Token} {after : List Token}
    (same : items tokens = first :: after) :
    ∃ span rest, tokens = ⟨first, span⟩ :: rest ∧ items rest = after := by
  obtain ⟨located, rest, rfl, rfl, rfl⟩ := List.map_eq_cons_iff.mp same
  exact ⟨located.span, rest, rfl, rfl⟩

/-! ### Elementary readers -/

section Elementary

variable {s : Setting} {tokens rest : Tokens}

theorem expect_eq_ok_iff {sign : Symbol} {span : Span} :
    expect s sign tokens = .ok (span, rest) ↔ tokens = ⟨.symbol sign, span⟩ :: rest := by
  unfold expect
  split
  · next found place others =>
    split
    · next same => simp [same]
    · next different => simp [different]
  · next other =>
    constructor
    · exact nofun
    · rintro rfl
      exact absurd rfl (other sign span rest)

theorem expectName_eq_ok_iff {role : NameRole} {name : Located String} :
    expectName s role tokens = .ok (name, rest) ↔
      tokens = ⟨.ident name.item, name.span⟩ :: rest := by
  unfold expectName
  split
  · next found place others =>
    constructor
    · rintro ⟨⟩
      rfl
    · rintro ⟨⟩
      rfl
  · next other =>
    constructor
    · exact nofun
    · rintro rfl
      exact absurd rfl (other name.item name.span rest)

theorem complete_eq_ok_iff {node tree : Tree} :
    complete s node tokens = .ok (tree, rest) ↔
      node.height ≤ s.maxDepth ∧ tree = node ∧ rest = tokens := by
  unfold complete
  split
  · next tooHigh => simp [Nat.not_le.mpr tooHigh]
  · next fits => simp [Nat.le_of_not_lt fits, eq_comm]

/-- A node that stands for no more tokens than there are levels is complete. -/
theorem complete_eq_ok {category : Grammar.Category} {consumed : List Token} (node : Tree)
    (derived : Derives category consumed node.shape) (short : consumed.length ≤ s.maxDepth)
    (tokens : Tokens) : complete s node tokens = .ok (node, tokens) := by
  have height := derived.height_le
  rw [Expr.height_shape] at height
  exact complete_eq_ok_iff.mpr ⟨Nat.le_trans height short, rfl, rfl⟩

theorem startsWith_eq_true_iff {sign : Symbol} :
    startsWith sign tokens = true ↔ (items tokens).head? = some (.symbol sign) := by
  cases tokens <;> simp [startsWith, nextToken?, items]

end Elementary

/-! ### Operators and constants -/

theorem constant?_eq_some_iff {token : Token} {value : Constant} :
    constant? token = some value ↔ token = value.token := by
  constructor
  · intro found
    cases token with
    | keyword word => cases word <;> cases found <;> rfl
    | int | uint | double | string | bytes =>
      cases found
      rfl
    | ident | reserved | symbol => cases found
  · rintro rfl
    cases value with
    | bool b => cases b <;> rfl
    | _ => rfl

theorem unaryOp?_eq_some_iff {token : Token} {op : UnaryOp} :
    unaryOp? token = some op ↔ token = op.token := by
  constructor
  · intro found
    unfold unaryOp? at found
    split at found <;> cases found <;> rfl
  · rintro rfl
    cases op <;> rfl

/-- The operator of a tier that a token is. -/
def opAt (tier : Nat) : Token → Option BinaryOp :=
  match tier with
  | 1 => productOp?
  | 2 => sumOp?
  | 3 => relationOp?
  | 4 => andOp?
  | 5 => orOp?
  | _ => fun _ => none

theorem opAt_eq_some_iff {tier : Nat} {token : Token} {op : BinaryOp} :
    opAt tier token = some op ↔ op.tier = tier ∧ token = op.token := by
  constructor
  · intro found
    unfold opAt at found
    split at found
    · unfold productOp? at found
      split at found <;> cases found <;> exact ⟨rfl, rfl⟩
    · unfold sumOp? at found
      split at found <;> cases found <;> exact ⟨rfl, rfl⟩
    · unfold relationOp? at found
      split at found <;> cases found <;> exact ⟨rfl, rfl⟩
    · unfold andOp? at found
      split at found <;> cases found
      exact ⟨rfl, rfl⟩
    · unfold orOp? at found
      split at found <;> cases found
      exact ⟨rfl, rfl⟩
    · cases found
  · rintro ⟨rfl, rfl⟩
    cases op <;> rfl

/-- Operands joined by the operators of a tier and the tighter ones. -/
def tierReader (s : Setting) (operand : Reader Tree) : Nat → Reader Tree
  | 0 => operand
  | tier + 1 => chain s (opAt (tier + 1)) (tierReader s operand tier)

theorem disjunction_eq (s : Setting) (operand : Reader Tree) :
    disjunction s operand = tierReader s operand 5 := rfl

/-- What reads the operand of a sign. -/
def signed (s : Setting) : (depth : Nat) → Reader Tree
  | 0 => tooDeep s
  | depth + 1 => operand s depth

theorem expr_succ (s : Setting) (depth : Nat) :
    expr s (depth + 1) = choice s (operand s depth) (expr s depth) := by
  funext tokens
  rw [expr]

theorem operand_eq (s : Setting) (depth : Nat) :
    operand s depth = signs s (signed s depth) (expr s depth) := by
  funext tokens
  cases depth with
  | zero =>
    have none : expr s 0 = tooDeep s := by
      funext tokens
      rw [expr]
    rw [operand, none, signed]
  | succ depth => rw [operand, expr_succ, signed]

/-! ### Callees and types -/

theorem callable_shape_iff {α : Type} {tree : Expr α} :
    Callable tree.shape ↔ tree.isCallee = true := by
  constructor
  · intro callable
    cases tree with
    | ident | member => rfl
    | _ => cases callable
  · intro callee
    cases tree with
    | ident span name => exact .ident name
    | member span operand name => exact .member operand.shape name
    | _ => cases callee

theorem typeName_shape_iff {tree : Tree} : TypeName tree.shape ↔ tree.isTypeName = true := by
  constructor
  · intro typeName
    cases tree with
    | ident | rootIdent | member => rfl
    | _ => cases typeName
  · intro named
    cases tree with
    | ident span name => exact .ident name
    | rootIdent span name => exact .rootIdent name
    | member span operand name => exact .member operand.shape name
    | _ => cases named

/-! ### Items of sequences -/

/-- A kind of items that stand between brackets: the pieces of text that are such items, their tokens,
and what they stand for, which is what becomes of an item that is read. -/
structure ItemKind (β : Type) where
  Piece : Type
  Result : Type
  IsItem : Piece → Prop
  tokens : Piece → List Token
  result : Piece → Result
  forget : β → Result

namespace ItemKind

variable {β : Type} (kind : ItemKind β)

/-- Whether some values have been made of some items, one of each. -/
def MadeOf (values : List β) (pieces : List kind.Piece) : Prop :=
  (∀ piece ∈ pieces, kind.IsItem piece) ∧ values.map kind.forget = pieces.map kind.result

theorem madeOf_nil : kind.MadeOf [] [] := ⟨nofun, rfl⟩

variable {kind}

theorem MadeOf.cons {value : β} {piece : kind.Piece} {values : List β} {pieces : List kind.Piece}
    (isItem : kind.IsItem piece) (made : kind.forget value = kind.result piece)
    (others : kind.MadeOf values pieces) : kind.MadeOf (value :: values) (piece :: pieces) := by
  refine ⟨List.forall_mem_cons.mpr ⟨isItem, others.1⟩, ?_⟩
  rw [List.map_cons, List.map_cons, made, others.2]

end ItemKind

/-- Expressions as items. -/
def exprItems : ItemKind Tree where
  Piece := Phrase
  Result := Expr Unit
  IsItem phrase := Derives .expression phrase.tokens phrase.tree
  tokens := Phrase.tokens
  result := Phrase.tree
  forget := Expr.shape

/-- Map entries as items. -/
def entryItems : ItemKind (Tree × Tree) where
  Piece := Phrase × Phrase
  Result := Expr Unit × Expr Unit
  IsItem entry := Derives .expression entry.1.tokens entry.1.tree ∧
    Derives .expression entry.2.tokens entry.2.tree
  tokens := entryTokens
  result entry := (entry.1.tree, entry.2.tree)
  forget := Expr.shapeOfEntry

/-- Struct fields as items. -/
def fieldItems : ItemKind (String × Tree) where
  Piece := String × Phrase
  Result := String × Expr Unit
  IsItem field := Derives .expression field.2.tokens field.2.tree
  tokens := fieldTokens
  result field := (field.1, field.2.tree)
  forget := Expr.shapeOfField

/-! ### Nodes made of items -/

section Nodes

variable {span : Span} {operand : Tree}

theorem shape_list {values : List Tree} {elements : List Phrase}
    (made : values.map exprItems.forget = elements.map exprItems.result) :
    Expr.shape (.list span values) = .list () (elements.map Phrase.tree) := by
  rw [Expr.shape, Expr.shapeOfAll_eq_map]
  exact congrArg (Expr.list ()) made

theorem shape_map {values : List (Tree × Tree)} {entries : List (Phrase × Phrase)}
    (made : values.map entryItems.forget = entries.map entryItems.result) :
    Expr.shape (.map span values) =
      .map () (entries.map fun entry => (entry.1.tree, entry.2.tree)) := by
  rw [Expr.shape, Expr.shapeOfEntries_eq_map]
  exact congrArg (Expr.map ()) made

theorem shape_call {values : List Tree} {args : List Phrase}
    (made : values.map exprItems.forget = args.map exprItems.result) :
    Expr.shape (.call span operand values) = .call () operand.shape (args.map Phrase.tree) := by
  rw [Expr.shape, Expr.shapeOfAll_eq_map]
  exact congrArg (Expr.call () operand.shape) made

theorem shape_struct {values : List (String × Tree)} {fields : List (String × Phrase)}
    (made : values.map fieldItems.forget = fields.map fieldItems.result) :
    Expr.shape (.struct span operand values) =
      .struct () operand.shape (fields.map fun field => (field.1, field.2.tree)) := by
  rw [Expr.shape, Expr.shapeOfFields_eq_map]
  exact congrArg (Expr.struct () operand.shape) made

end Nodes

end Cel.Parser
