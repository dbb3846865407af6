import Cel.Proofs.Check.Rules

/-! # Uses of names

Where an expression uses names, and which of those uses the body of a loop binds. The names that a
macro declares are no uses, nor are field names, functions and types. Checking keeps every use: a use
becomes a variable of the activation if no loop binds it, and a bound name otherwise.
-/

namespace Cel.Naming

open Check (Checks Resolves invocation IsOrdinary)

/-- A use of a name. -/
structure Use where
  name : String
  span : Span
  /-- Whether a loop binds the name. -/
  isBound : Bool
deriving DecidableEq, Repr

mutual

/-- The uses of names in an expression under loops that bind the names of `scope`, in source order. -/
def uses (scope : List String) : Expr Mark → List Use
  | .constant .. => []
  | .ident mark name => [⟨name, mark.span, decide (name ∈ scope)⟩]
  | .rootIdent mark name => [⟨name, mark.span, false⟩]
  | .list _ items => usesOfAll scope items
  | .map _ entries => usesOfEntries scope entries
  | .struct _ _ fields => usesOfFields scope fields
  | .unary _ _ operand | .member _ operand _ => uses scope operand
  | .binary _ _ left right => uses scope left ++ uses scope right
  | .ternary _ condition yes no => uses scope condition ++ uses scope yes ++ uses scope no
  | .index _ operand position => uses scope operand ++ uses scope position
  | .call _ (.member _ receiver name) args =>
    uses scope receiver ++
      match Macro.named? name true, args with
      | some .map, [.ident _ value, predicate, body] =>
        uses (value :: scope) predicate ++ uses (value :: scope) body
      | some _, [.ident _ index, .ident _ value, body] => uses (value :: index :: scope) body
      | some _, [.ident _ value, body] => uses (value :: scope) body
      | _, args => usesOfAll scope args
  | .call _ _ args => usesOfAll scope args

def usesOfAll (scope : List String) : List (Expr Mark) → List Use
  | [] => []
  | e :: rest => uses scope e ++ usesOfAll scope rest

def usesOfEntries (scope : List String) : List (Expr Mark × Expr Mark) → List Use
  | [] => []
  | (key, value) :: rest => uses scope key ++ uses scope value ++ usesOfEntries scope rest

def usesOfFields (scope : List String) : List (String × Expr Mark) → List Use
  | [] => []
  | (_, e) :: rest => uses scope e ++ usesOfFields scope rest

end

mutual

/-- The uses of names in a checked term, in the order in which the term has them. -/
def usesOfTerm : Term → List Use
  | .constant .. => []
  | .free span name => [⟨name, span, false⟩]
  | .bound span name _ => [⟨name, span, true⟩]
  | .select _ operand _ | .has _ operand _ | .unary _ _ operand => usesOfTerm operand
  | .index _ operand position => usesOfTerm operand ++ usesOfTerm position
  | .list _ items => usesOfTerms items
  | .map _ entries => usesOfTermEntries entries
  | .struct _ _ fields => usesOfTermFields fields
  | .strict _ _ left right | .and _ left right | .or _ left right =>
    usesOfTerm left ++ usesOfTerm right
  | .conditional _ condition yes no =>
    usesOfTerm condition ++ usesOfTerm yes ++ usesOfTerm no
  | .call _ _ args | .unknownCall _ _ args => usesOfTerms args
  | .matches _ target _ _ => usesOfTerm target
  | .search _ target pattern => usesOfTerm target ++ usesOfTerm pattern
  | .quantified _ _ _ range predicate | .filter _ _ range predicate =>
    usesOfTerm range ++ usesOfTerm predicate
  | .collect _ _ range body => usesOfTerm range ++ usesOfTerm body
  | .collectIf _ _ range predicate body =>
    usesOfTerm range ++ (usesOfTerm predicate ++ usesOfTerm body)

def usesOfTerms : List Term → List Use
  | [] => []
  | term :: rest => usesOfTerm term ++ usesOfTerms rest

def usesOfTermEntries : List (Term × Term) → List Use
  | [] => []
  | (key, value) :: rest => usesOfTerm key ++ usesOfTerm value ++ usesOfTermEntries rest

def usesOfTermFields : List (String × Term) → List Use
  | [] => []
  | (_, term) :: rest => usesOfTerm term ++ usesOfTermFields rest

end

variable {scope : List String}

theorem usesOfTerms_eq {items : List (Expr Mark)} {terms : List Term}
    (same : List.Forall₂ (fun item term => usesOfTerm term = uses scope item) items terms) :
    usesOfTerms terms = usesOfAll scope items := by
  induction same with
  | nil => rfl
  | cons head tail ih => rw [usesOfTerms, usesOfAll, head, ih]

theorem usesOfTermEntries_eq {entries : List (Expr Mark × Expr Mark)} {terms : List (Term × Term)}
    (same : List.Forall₂ (fun entry pair => usesOfTerm pair.1 = uses scope entry.1 ∧
      usesOfTerm pair.2 = uses scope entry.2) entries terms) :
    usesOfTermEntries terms = usesOfEntries scope entries := by
  induction same with
  | nil => rfl
  | cons head tail ih =>
    obtain ⟨key, value⟩ := head
    rw [usesOfTermEntries, usesOfEntries, key, value, ih]

theorem usesOfTermFields_eq {fields : List (String × Expr Mark)} {terms : List (String × Term)}
    (same : List.Forall₂ (fun field pair => usesOfTerm pair.2 = uses scope field.2) fields terms) :
    usesOfTermFields terms = usesOfFields scope fields := by
  induction same with
  | nil => rfl
  | cons head tail ih => rw [usesOfTermFields, usesOfFields, head, ih]

theorem usesOfTerm_binary (span : Span) (op : BinaryOp) (left right : Term) :
    usesOfTerm (Check.binary span op left right) = usesOfTerm left ++ usesOfTerm right := by
  unfold Check.binary
  split <;> rw [usesOfTerm]

theorem uses_call {mark : Mark} {callee : Expr Mark} {args operands : List (Expr Mark)}
    {name : String} {method : Bool} (applies : invocation callee args = (name, method, operands))
    (ordinary : IsOrdinary true name method) :
    uses scope (.call mark callee args) = usesOfAll scope operands := by
  cases callee with
  | member =>
    cases applies
    unfold uses
    simp only [ordinary rfl, usesOfAll]
  | _ =>
    cases applies
    simp only [uses]

variable [Engines]

/-- A literal pattern uses no names. -/
theorem usesOfTerm_of_resolves {mark : Mark} {name : String} {args : List Term} {term : Term}
    (resolved : Resolves mark name args term) : usesOfTerm term = usesOfTerms args := by
  cases resolved with
  | unknown | call => rw [usesOfTerm]
  | «matches» found literal compiled => simp only [literal, usesOfTerm, usesOfTerms, List.append_nil]
  | search found operands computed => simp only [operands, usesOfTerm, usesOfTerms, List.append_nil]

/-- Checking keeps all uses of names, and which of them are bound. -/
theorem usesOfTerm_of_checks {e : Expr Mark} {term : Term} (checked : Checks true scope e term) :
    usesOfTerm term = uses scope e := by
  induction checked with
  | constant | root => simp only [usesOfTerm, uses]
  | @bound scope mark name depth found =>
    have member : name ∈ scope := by
      by_contra notMember
      rw [List.idxOf?_eq_none_iff.mpr notMember] at found
      cases found
    simp only [usesOfTerm, uses, member, decide_true]
  | free notBound => simp only [usesOfTerm, uses, notBound, decide_false]
  | list same each ih =>
    rw [usesOfTerm, uses, usesOfTerms_eq (List.forall₂_iff_zip.mpr ⟨same, ih⟩)]
  | map same keys values keysIh valuesIh =>
    have paired := usesOfTermEntries_eq <| List.forall₂_iff_zip.mpr ⟨same, fun member =>
      ⟨keysIh member, valuesIh member⟩⟩
    rw [usesOfTerm, uses, paired]
  | struct named distinct same sameName each ih =>
    rw [usesOfTerm, uses, usesOfTermFields_eq (List.forall₂_iff_zip.mpr ⟨same, ih⟩)]
  | unary checked ih | select checked ih => rw [usesOfTerm, uses, ih]
  | binary leftChecked rightChecked leftIh rightIh =>
    rw [usesOfTerm_binary, uses, leftIh, rightIh]
  | conditional conditionChecked yesChecked noChecked conditionIh yesIh noIh =>
    rw [usesOfTerm, uses, conditionIh, yesIh, noIh]
  | index operandChecked positionChecked operandIh positionIh =>
    rw [usesOfTerm, uses, operandIh, positionIh]
  | has enabled isMacro checked ih => simp only [usesOfTerm, uses, usesOfAll, ih, List.append_nil]
  | call applies ordinary same each resolved ih =>
    rw [usesOfTerm_of_resolves resolved, uses_call applies ordinary,
      usesOfTerms_eq (List.forall₂_iff_zip.mpr ⟨same, ih⟩)]
  | quantified enabled isMacro rangeChecked testChecked rangeIh testIh
  | quantifiedPair enabled isMacro distinct rangeChecked testChecked rangeIh testIh
  | filter enabled isMacro rangeChecked testChecked rangeIh testIh
  | collect enabled isMacro rangeChecked testChecked rangeIh testIh =>
    conv_rhs => unfold uses
    simp only [usesOfTerm, isMacro, rangeIh, testIh]
  | collectIf enabled isMacro rangeChecked testChecked bodyChecked rangeIh testIh bodyIh =>
    conv_rhs => unfold uses
    simp only [usesOfTerm, isMacro, rangeIh, testIh, bodyIh]

end Cel.Naming
