import Cel.Proofs.Grammar.Complete
import Cel.Proofs.Grammar.Sound

/-! # The parser reads the grammar

With more levels of nesting than tokens, a list of tokens is parsed exactly if the grammar derives it
as a whole, and the tree is the one that the grammar gives it. As the parser gives no more than one
tree, the grammar is not ambiguous.
-/

namespace Cel.Parser

open Grammar (Category Derives Ends)

variable {s : Setting}

/-- Every phrase of the grammar is taken by the readers of its category, by induction on how it is
derived: its parts are derived from fewer tokens, so the levels that are left suffice for them. -/
theorem complete_of_derives {category : Category} {consumed : List Token} {tree : Expr Unit}
    (derived : Derives category consumed tree) (short : consumed.length ≤ s.maxDepth) :
    Complete s consumed tree category := by
  induction derived with
  | choice first second third firstIh secondIh thirdIh =>
    simp only [List.length_append, List.length_cons] at short
    exact complete_choice first second third (by omega) (firstIh (by omega)) (secondIh (by omega))
      (thirdIh (by omega))
  | operation whole ih => exact complete_operation (ih short)
  | binary onTier first second firstIh secondIh =>
    simp only [List.length_append, List.length_cons] at short
    exact complete_binary onTier first second short (firstIh (by omega)) (secondIh (by omega))
  | tighter whole ih => exact complete_tighter (ih short)
  | unary op operand ih => exact complete_unary operand short (ih (Nat.le_of_succ_le short))
  | primary whole ih => exact complete_primary whole (ih short)
  | member operand name ih =>
    simp only [List.length_append, List.length_cons, List.length_nil] at short
    exact complete_member operand short (ih (by omega))
  | index operand inside operandIh insideIh =>
    simp only [List.length_append, List.length_cons, List.length_nil] at short
    exact complete_index operand inside (by omega) (operandIh (by omega)) (insideIh (by omega))
  | call callee named each separated calleeIh ih =>
    simp only [List.length_append, List.length_cons, List.length_nil] at short
    refine complete_call callee named each separated (by omega) (calleeIh (by omega)) ?_
    intro arg member
    have within := separated.length_le _ (List.mem_map_of_mem member)
    exact ih arg member (by omega)
  | struct typeName named each separated typeIh ih =>
    simp only [List.length_append, List.length_cons, List.length_nil] at short
    refine complete_struct typeName named each separated (by omega) (typeIh (by omega)) ?_
    intro field member
    have within := separated.length_le _ (List.mem_map_of_mem member)
    simp only [Grammar.fieldTokens, List.length_cons] at within
    exact ih field member (by omega)
  | atom whole ih => exact complete_atom (ih short)
  | constant value => exact complete_constant value short
  | ident name => exact complete_ident name short
  | rootIdent name => exact complete_rootIdent name short
  | parenthesized inside ih =>
    simp only [List.length_append, List.length_cons, List.length_nil] at short
    exact complete_parenthesized (ih (by omega))
  | list each separated ih =>
    simp only [List.length_append, List.length_cons, List.length_nil] at short
    refine complete_list each separated (by omega) fun item member => ?_
    have within := separated.length_le _ (List.mem_map_of_mem member)
    exact ih item member (by omega)
  | map keys values separated keysIh valuesIh =>
    simp only [List.length_append, List.length_cons, List.length_nil] at short
    have within (entry : Grammar.Phrase × Grammar.Phrase) (member : entry ∈ _) :=
      separated.length_le _ (List.mem_map_of_mem member)
    simp only [Grammar.entryTokens, List.length_append, List.length_cons] at within
    refine complete_map keys values separated (by omega) (fun entry member => ?_)
      fun entry member => ?_
    · have := within entry member
      exact keysIh entry member (by omega)
    · have := within entry member
      exact valuesIh entry member (by omega)

variable {maxDepth : Nat} {tokens : Tokens}

/-- Whatever the nesting limit is, the tokens of a tree are derived as a whole. -/
theorem derives_of_tree_eq_ok {found : Tree} (read : tree maxDepth tokens = .ok found) :
    Derives .expression (items tokens) found.shape := by
  unfold tree at read
  split at read
  · cases read
  · obtain ⟨⟨whole, rest⟩, readWhole, read⟩ := bind_eq_ok_iff.mp read
    obtain ⟨consumed, same, derived⟩ := (expr_sound maxDepth).1 readWhole
    dsimp only at read
    split at read
    · cases read
      rw [same, items_nil, List.append_nil]
      exact derived
    · cases read

theorem exists_tree_of_derives {shape : Expr Unit} (derived : Derives .expression (items tokens) shape)
    (enough : tokens.length < maxDepth) :
    ∃ found, found.shape = shape ∧ tree maxDepth tokens = .ok found := by
  rw [← length_items] at enough
  have complete : Complete ⟨maxDepth, stopOf tokens⟩ (items tokens) shape .expression :=
    complete_of_derives derived (Nat.le_of_lt enough)
  obtain ⟨found, rest, sameShape, noRest, read⟩ :=
    complete maxDepth [] enough Grammar.ends_nil tokens (List.append_nil _).symm
  refine ⟨found, sameShape, ?_⟩
  have notEmpty : ¬tokens.isEmpty := by
    intro empty
    rw [List.isEmpty_iff.mp empty] at derived
    obtain ⟨_, _, impossible, -⟩ := derived.begins
    cases impossible
  rw [tree, if_neg notEmpty]
  refine (bind_eq_of_eq_ok read).trans ?_
  cases List.map_eq_nil_iff.mp noRest
  rfl

/-- No list of tokens is an expression in two ways. -/
theorem derives_unique {list : List Token} {first second : Expr Unit}
    (derived : Derives .expression list first) (again : Derives .expression list second) :
    first = second := by
  let tokens : Tokens := list.map fun token => ⟨token, .point 0⟩
  have same : items tokens = list := List.map_map.trans (List.map_id list)
  rw [← same] at derived again
  have enough : tokens.length < tokens.length + 1 := Nat.lt_succ_self _
  obtain ⟨found, rfl, read⟩ := exists_tree_of_derives derived enough
  obtain ⟨foundAgain, rfl, readAgain⟩ := exists_tree_of_derives again enough
  cases read.symm.trans readAgain
  rfl

theorem parse_eq_ok_iff {parsed : Expr Mark} :
    parse maxDepth tokens = .ok parsed ↔
      ∃ found, tree maxDepth tokens = .ok found ∧ found.number 1 = parsed := by
  unfold parse
  cases tree maxDepth tokens <;> simp [Except.map]

/-- With more levels of nesting than tokens, exactly what the grammar derives is parsed, and it has no
tree but the one that is parsed. -/
theorem parse_iff_derives (enough : tokens.length < maxDepth) :
    ((∃ parsed, parse maxDepth tokens = .ok parsed) ↔
      ∃ shape, Derives .expression (items tokens) shape) ∧
    ∀ parsed, parse maxDepth tokens = .ok parsed →
      ∀ shape, Derives .expression (items tokens) shape ↔ shape = parsed.shape := by
  have derives_of_parse {parsed : Expr Mark} (read : parse maxDepth tokens = .ok parsed) :
      Derives .expression (items tokens) parsed.shape := by
    obtain ⟨found, readTree, rfl⟩ := parse_eq_ok_iff.mp read
    rw [Expr.shape_number]
    exact derives_of_tree_eq_ok readTree
  refine ⟨⟨?_, ?_⟩, ?_⟩
  · rintro ⟨parsed, read⟩
    exact ⟨parsed.shape, derives_of_parse read⟩
  · rintro ⟨shape, derived⟩
    obtain ⟨found, -, read⟩ := exists_tree_of_derives derived enough
    exact ⟨found.number 1, parse_eq_ok_iff.mpr ⟨found, read, rfl⟩⟩
  · intro parsed read shape
    constructor
    · exact fun derived => derives_unique derived (derives_of_parse read)
    · rintro rfl
      exact derives_of_parse read

/-- The tokens of a difference between a difference and a name. -/
def difference : Tokens :=
  [⟨.ident "x", ⟨0, 1⟩⟩, ⟨.symbol .minus, ⟨2, 3⟩⟩, ⟨.ident "y", ⟨4, 5⟩⟩, ⟨.symbol .minus, ⟨6, 7⟩⟩,
    ⟨.ident "z", ⟨8, 9⟩⟩]

theorem parse_iff_derives_difference :
    difference.length < 6 ∧ (∃ parsed, parse 6 difference = .ok parsed) ∧
      ∀ shape, Derives .expression (items difference) shape ↔
        shape = .binary () .sub (.binary () .sub (.ident () "x") (.ident () "y")) (.ident () "z") :=
  have enough : difference.length < 6 := by decide
  ⟨enough, ⟨_, rfl⟩, fun shape => (parse_iff_derives enough).2 _ rfl shape⟩

end Cel.Parser
