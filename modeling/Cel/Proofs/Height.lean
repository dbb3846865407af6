import Cel.Engines.Standard
import Cel.Program
import Cel.Proofs.Check.Rules
import Cel.Proofs.Expr.Numbering
import Cel.Proofs.Expr.Shape
import Cel.Proofs.Grammar.Parse

/-! # The nesting limit bounds every tree

A loop over operators or over what follows an operand raises a tree without a deeper recursion of the
reader. Each of its rounds completes a node, though, and no node is complete that is higher than the
limit. Checking drops nodes and adds none, so that a term is never higher than its expression.
-/

namespace Cel

namespace Parser

variable {s : Setting}

/-- Whether a reader gives only trees that are no higher than the nesting limit. -/
def Low (s : Setting) (reader : Reader Tree) : Prop :=
  ∀ {tokens tree rest}, reader tokens = .ok (tree, rest) → tree.height ≤ s.maxDepth

theorem height_le_of_complete {node tree : Tree} {tokens rest : Tokens}
    (completed : complete s node tokens = .ok (tree, rest)) : tree.height ≤ s.maxDepth := by
  obtain ⟨fits, rfl, -⟩ := complete_eq_ok_iff.mp completed
  exact fits

theorem atom_low {expr : Reader Tree} (low : Low s expr) : Low s (atom s expr) := by
  intro tokens tree rest read
  unfold atom at read
  split at read
  · cases read
  · split at read
    · exact height_le_of_complete read
    · split at read
      · exact height_le_of_complete read
      · cases read
      · obtain ⟨_, -, completed⟩ := bind_eq_ok_iff.mp read
        exact height_le_of_complete completed
      · obtain ⟨⟨inner, rest₁⟩, readInner, closing⟩ := bind_eq_ok_iff.mp read
        obtain ⟨_, -, made⟩ := bind_eq_ok_iff.mp closing
        cases made
        exact low readInner
      · obtain ⟨_, -, completed⟩ := bind_eq_ok_iff.mp read
        exact height_le_of_complete completed
      · obtain ⟨_, -, completed⟩ := bind_eq_ok_iff.mp read
        exact height_le_of_complete completed
      · cases read

/-- What follows an expression completes a node in each round. -/
theorem height_le_of_suffixes {expr : Reader Tree} {fuel : Nat} {start tree : Tree}
    {tokens rest : Tokens} (read : suffixes s expr fuel start tokens = .ok (tree, rest))
    (fits : start.height ≤ s.maxDepth) : tree.height ≤ s.maxDepth := by
  induction fuel generalizing start tokens with
  | zero =>
    cases read
    exact fits
  | succ fuel ih =>
    -- In whatever way a node is read, the next round starts from it complete.
    have goOn {node : Tree} {after : Tokens}
        (read : (complete s node after >>= fun x => suffixes s expr fuel x.1 x.2) = .ok (tree, rest)) :
        tree.height ≤ s.maxDepth := by
      obtain ⟨_, completed, others⟩ := bind_eq_ok_iff.mp read
      exact ih others (height_le_of_complete completed)
    unfold suffixes at read
    split at read
    · split at read
      · obtain ⟨_, -, completing⟩ := bind_eq_ok_iff.mp read
        exact goOn completing
      · cases read
    · obtain ⟨_, -, closing⟩ := bind_eq_ok_iff.mp read
      obtain ⟨_, -, completing⟩ := bind_eq_ok_iff.mp closing
      exact goOn completing
    · obtain ⟨_, -, completing⟩ := bind_eq_ok_iff.mp read
      exact goOn completing
    · split at read
      · obtain ⟨_, -, completing⟩ := bind_eq_ok_iff.mp read
        exact goOn completing
      · cases read
        exact fits
    · cases read
      exact fits

theorem primary_low {expr : Reader Tree} (low : Low s expr) : Low s (primary s expr) := by
  intro tokens tree rest read
  obtain ⟨_, readAtom, others⟩ := bind_eq_ok_iff.mp read
  exact height_le_of_suffixes others (atom_low low readAtom)

theorem signs_low {signed expr : Reader Tree} (low : Low s expr) : Low s (signs s signed expr) := by
  intro tokens tree rest read
  unfold signs at read
  split at read
  · exact primary_low low read
  · split at read
    · obtain ⟨_, -, completed⟩ := bind_eq_ok_iff.mp read
      exact height_le_of_complete completed
    · exact primary_low low read

/-- Every further operand completes a node. -/
theorem height_le_of_joined {op? : Token → Option BinaryOp} {operand : Reader Tree} {fuel : Nat}
    {left tree : Tree} {tokens rest : Tokens}
    (read : joined s op? operand fuel left tokens = .ok (tree, rest))
    (fits : left.height ≤ s.maxDepth) : tree.height ≤ s.maxDepth := by
  induction fuel generalizing left tokens with
  | zero =>
    cases read
    exact fits
  | succ fuel ih =>
    unfold joined at read
    split at read
    · cases read
      exact fits
    · split at read
      · obtain ⟨_, -, completing⟩ := bind_eq_ok_iff.mp read
        obtain ⟨_, completed, others⟩ := bind_eq_ok_iff.mp completing
        exact ih others (height_le_of_complete completed)
      · cases read
        exact fits

theorem tierReader_low {operand : Reader Tree} (low : Low s operand) (tier : Nat) :
    Low s (tierReader s operand tier) := by
  induction tier with
  | zero => exact low
  | succ tier ih =>
    intro tokens tree rest read
    obtain ⟨_, readLeft, others⟩ := bind_eq_ok_iff.mp read
    exact height_le_of_joined others (ih readLeft)

theorem choice_low {operand expr : Reader Tree} (low : Low s operand) :
    Low s (choice s operand expr) := by
  intro tokens tree rest read
  have lowOperation : Low s (disjunction s operand) := tierReader_low low 5
  obtain ⟨_, readCondition, read⟩ := bind_eq_ok_iff.mp read
  dsimp only at read
  split at read
  · obtain ⟨_, -, read⟩ := bind_eq_ok_iff.mp read
    obtain ⟨_, -, read⟩ := bind_eq_ok_iff.mp read
    obtain ⟨_, -, completed⟩ := bind_eq_ok_iff.mp read
    exact height_le_of_complete completed
  · cases read
    exact lowOperation readCondition

/-- No expression and no operand that is read is higher than the nesting limit, however many levels of
the limit are left. -/
theorem expr_low (depth : Nat) : Low s (expr s depth) ∧ Low s (operand s depth) := by
  induction depth with
  | zero =>
    have exprLow : Low s (expr s 0) := by
      intro tokens tree rest read
      rw [expr] at read
      cases read
    refine ⟨exprLow, ?_⟩
    rw [operand_eq]
    exact signs_low exprLow
  | succ depth ih =>
    have exprLow : Low s (expr s (depth + 1)) := by
      rw [expr_succ]
      exact choice_low ih.2
    refine ⟨exprLow, ?_⟩
    rw [operand_eq]
    exact signs_low exprLow

theorem height_le_of_tree {maxDepth : Nat} {tokens : Tokens} {found : Tree}
    (read : tree maxDepth tokens = .ok found) : found.height ≤ maxDepth := by
  unfold tree at read
  split at read
  · cases read
  · obtain ⟨_, readWhole, read⟩ := bind_eq_ok_iff.mp read
    dsimp only at read
    split at read
    · cases read
      exact (expr_low maxDepth).1 readWhole
    · cases read

end Parser

namespace Check

open Term (heightOfAll heightOfEntries heightOfFields)

theorem heightOfAll_le_of_forall₂ {items : List (Expr Mark)} {terms : List Term}
    (each : List.Forall₂ (fun item term => term.height ≤ item.height) items terms) :
    heightOfAll terms ≤ Expr.heightOfAll items := by
  induction each with
  | nil => exact Nat.le_refl 0
  | cons head tail ih =>
    rw [heightOfAll, Expr.heightOfAll]
    omega

theorem heightOfEntries_le_of_forall₂ {entries : List (Expr Mark × Expr Mark)}
    {terms : List (Term × Term)}
    (each : List.Forall₂ (fun entry pair => pair.1.height ≤ entry.1.height ∧
      pair.2.height ≤ entry.2.height) entries terms) :
    heightOfEntries terms ≤ Expr.heightOfEntries entries := by
  induction each with
  | nil => exact Nat.le_refl 0
  | cons head tail ih =>
    obtain ⟨key, value⟩ := head
    rw [heightOfEntries, Expr.heightOfEntries]
    omega

theorem heightOfFields_le_of_forall₂ {fields : List (String × Expr Mark)}
    {terms : List (String × Term)}
    (each : List.Forall₂ (fun field pair => pair.2.height ≤ field.2.height) fields terms) :
    heightOfFields terms ≤ Expr.heightOfFields fields := by
  induction each with
  | nil => exact Nat.le_refl 0
  | cons head tail ih =>
    rw [heightOfFields, Expr.heightOfFields]
    omega

theorem height_binary (span : Span) (op : BinaryOp) (left right : Term) :
    (binary span op left right).height = max left.height right.height + 1 := by
  unfold binary
  split <;> rw [Term.height]

theorem Resolves.height_le [Engines] {mark : Mark} {name : String} {args : List Term} {term : Term}
    (resolved : Resolves mark name args term) : term.height ≤ heightOfAll args + 1 := by
  cases resolved with
  | unknown | call => simp only [Term.height, Nat.le_refl]
  | «matches» found literal compiled =>
    subst literal
    rw [Term.height, heightOfAll]
    omega
  | search found operands computed =>
    subst operands
    rw [Term.height, heightOfAll, heightOfAll]
    omega

/-- The operands of a call stand below its node, if a receiver does not directly. -/
theorem heightOfAll_operands {mark : Mark} {callee : Expr Mark} {args operands : List (Expr Mark)}
    {name : String} {method : Bool} (applies : invocation callee args = (name, method, operands)) :
    Expr.heightOfAll operands + 1 ≤ (Expr.call mark callee args).height := by
  rw [Expr.height]
  cases callee with
  | member calleeMark receiver field =>
    cases applies
    rw [Expr.heightOfAll, Expr.height]
    omega
  | _ =>
    cases applies
    omega

/-- A term is no higher than the expression it is made of. -/
theorem Checks.height_le [Engines] {macros : Bool} {scope : List String} {e : Expr Mark} {term : Term}
    (checked : Checks macros scope e term) : term.height ≤ e.height := by
  induction checked with
  | constant | bound | free | root => exact Nat.le_refl _
  | list same each ih =>
    have items := heightOfAll_le_of_forall₂ (List.forall₂_iff_zip.mpr ⟨same, ih⟩)
    exact Nat.succ_le_succ items
  | map same keys values keysIh valuesIh =>
    have entries := heightOfEntries_le_of_forall₂ <| List.forall₂_iff_zip.mpr
      ⟨same, fun member => ⟨keysIh member, valuesIh member⟩⟩
    exact Nat.succ_le_succ entries
  | struct named distinct same sameName each ih =>
    have fields := heightOfFields_le_of_forall₂ (List.forall₂_iff_zip.mpr ⟨same, ih⟩)
    rw [Term.height, Expr.height]
    omega
  | unary checked ih | select checked ih => exact Nat.succ_le_succ ih
  | binary leftChecked rightChecked leftIh rightIh =>
    rw [height_binary, Expr.height]
    omega
  | conditional conditionChecked yesChecked noChecked conditionIh yesIh noIh =>
    rw [Term.height, Expr.height]
    omega
  | index operandChecked positionChecked operandIh positionIh =>
    rw [Term.height, Expr.height]
    omega
  | has enabled isMacro checked ih =>
    simp only [Term.height, Expr.height, Expr.heightOfAll]
    omega
  | call applies ordinary same each resolved ih =>
    have operands := heightOfAll_le_of_forall₂ (List.forall₂_iff_zip.mpr ⟨same, ih⟩)
    calc _ ≤ _ := resolved.height_le
      _ ≤ _ := Nat.succ_le_succ operands
      _ ≤ _ := heightOfAll_operands applies
  | quantified enabled isMacro rangeChecked testChecked rangeIh testIh
  | quantifiedPair enabled isMacro distinct rangeChecked testChecked rangeIh testIh
  | filter enabled isMacro rangeChecked testChecked rangeIh testIh
  | collect enabled isMacro rangeChecked testChecked rangeIh testIh =>
    simp only [Term.height, Expr.height, Expr.heightOfAll]
    omega
  | collectIf enabled isMacro rangeChecked testChecked bodyChecked rangeIh testIh bodyIh =>
    simp only [Term.height, Expr.height, Expr.heightOfAll]
    omega

end Check

namespace Program

/-- Neither the expression that is read from a source nor the term that is evaluated is higher than the
nesting limit. The heights are those of a table by number that is filled while the nodes are completed,
in which a node finds the heights of the nodes directly below it. -/
theorem height_le_of_compile [Engines] {settings : Settings} {source : String} {program : Program}
    (compiled : compile settings source = .ok program) :
    ∃ expr, parse settings.maxDepth source = .ok expr ∧
      expr.check settings.macros = .ok program.term ∧
      Expr.enter [] expr.nodes = expr.nodes.map Expr.height ∧
      expr.height ≤ settings.maxDepth ∧ program.term.height ≤ settings.maxDepth := by
  obtain ⟨expr, parsed, checked⟩ := bind_eq_ok_iff.mp compiled
  split at checked
  · cases checked
  · next term accepted =>
    cases checked
    refine ⟨expr, parsed, accepted, ?_⟩
    unfold parse at parsed
    split at parsed
    · cases parsed
    · split at parsed
      · cases parsed
      · next numbered =>
        cases parsed
        obtain ⟨found, read, rfl⟩ := Parser.parse_eq_ok_iff.mp numbered
        have low : (found.number 1).height ≤ settings.maxDepth := by
          rw [Expr.height_number]
          exact Parser.height_le_of_tree read
        exact ⟨found.enter_nodes [], low, Nat.le_trans (Check.checks_of_check accepted).height_le low⟩

/-- A product of a chain of sums in the body of a loop: the term takes up all six levels. -/
theorem height_le_of_compile_loop :
    ∃ program expr,
      compile ⟨6, true⟩ "[1, 2].all(x, (x + 1 + 2) * 3 > -x)" = .ok program ∧
      parse 6 "[1, 2].all(x, (x + 1 + 2) * 3 > -x)" = .ok expr ∧
      Expr.enter [] expr.nodes = expr.nodes.map Expr.height ∧
      expr.height ≤ 6 ∧ program.term.height ≤ 6 ∧ program.term.height = 6 := by
  have computed : (compile ⟨6, true⟩ "[1, 2].all(x, (x + 1 + 2) * 3 > -x)").toOption.any
      (·.term.height == 6) = true := by decide +kernel
  obtain ⟨program, compiled, attained⟩ := exists_ok_of_any computed
  obtain ⟨expr, parsed, -, entered, low, termLow⟩ := height_le_of_compile compiled
  exact ⟨program, expr, compiled, parsed, entered, low, termLow, beq_iff_eq.mp attained⟩

end Program

end Cel
