import Cel.Check
import Cel.Proofs.Except
import Cel.Proofs.Expr.Numbering
import Cel.Proofs.Expr.Shape
import Cel.Proofs.Term.Spans

/-! # Checking and shapes

Checking looks at the shape of an expression only. The numbers and spans of its nodes end up in the
faults that are reported and in the spans of the checked term, and decide nothing.
-/

namespace Cel

/-- The mark of nodes whose places do not matter. -/
def Mark.nowhere : Mark := ⟨0, .point 0⟩

namespace Expr

mutual

/-- The expression with a tree, all nodes of which have the same mark. -/
def unplaced : Expr Unit → Expr Mark
  | constant _ value => constant .nowhere value
  | ident _ name => ident .nowhere name
  | rootIdent _ name => rootIdent .nowhere name
  | list _ items => list .nowhere (unplacedAll items)
  | map _ entries => map .nowhere (unplacedEntries entries)
  | unary _ op operand => unary .nowhere op operand.unplaced
  | binary _ op left right => binary .nowhere op left.unplaced right.unplaced
  | ternary _ condition yes no => ternary .nowhere condition.unplaced yes.unplaced no.unplaced
  | member _ operand field => member .nowhere operand.unplaced field
  | index _ operand position => index .nowhere operand.unplaced position.unplaced
  | call _ callee args => call .nowhere callee.unplaced (unplacedAll args)
  | struct _ typeName fields => struct .nowhere typeName.unplaced (unplacedFields fields)

def unplacedAll : List (Expr Unit) → List (Expr Mark)
  | [] => []
  | tree :: rest => tree.unplaced :: unplacedAll rest

def unplacedEntries : List (Expr Unit × Expr Unit) → List (Expr Mark × Expr Mark)
  | [] => []
  | (key, value) :: rest => (key.unplaced, value.unplaced) :: unplacedEntries rest

def unplacedFields : List (String × Expr Unit) → List (String × Expr Mark)
  | [] => []
  | (field, tree) :: rest => (field, tree.unplaced) :: unplacedFields rest

end

theorem note_unplaced (tree : Expr Unit) : tree.unplaced.note = .nowhere := by
  cases tree <;> simp only [unplaced, note]

theorem length_unplacedAll (items : List (Expr Mark)) :
    (unplacedAll (shapeOfAll items)).length = items.length := by
  induction items with
  | nil => rfl
  | cons item rest ih => rw [shapeOfAll, unplacedAll, List.length_cons, ih, List.length_cons]

theorem qualifiedName?_unplaced (e : Expr Mark) :
    e.shape.unplaced.qualifiedName? = e.qualifiedName? := by
  induction e using childrenInduction with
  | node e ih =>
    cases e with
    | member mark operand field =>
      simp only [shape, unplaced, qualifiedName?, ih operand (List.mem_singleton_self operand)]
    | _ => simp only [shape, unplaced, qualifiedName?]

end Expr

/-- The fault without regard to its place. -/
def CompileError.unplaced (error : CompileError) : CompileError :=
  ⟨error.cause, Mark.nowhere.span, Mark.nowhere.id⟩

namespace Check

variable {macros : Bool} {scope : List String} {mark : Mark}

/-! ### Parts of the checker -/

theorem loopVariable_unplaced (mark : Mark) (loop : Macro) (arg : Expr Mark) :
    loopVariable .nowhere loop arg.shape.unplaced =
      (loopVariable mark loop arg).mapError .unplaced := by
  cases arg with
  | ident => rfl
  | _ => rfl

theorem loopVariables_unplaced (loop : Macro) (index value : Expr Mark) :
    loopVariables .nowhere loop index.shape.unplaced value.shape.unplaced =
      (loopVariables mark loop index value).mapError .unplaced := by
  simp only [loopVariables, loopVariable_unplaced mark, mapError_bind, Expr.note_unplaced]
  refine congrArg _ (funext fun first => congrArg _ (funext fun second => ?_))
  split <;> rfl

theorem structName_unplaced (typeName : Expr Mark) :
    structName typeName.shape.unplaced = (structName typeName).mapError .unplaced := by
  simp only [structName, Expr.qualifiedName?_unplaced, Expr.note_unplaced]
  split <;> rfl

theorem binary_unplaced (span : Span) (op : BinaryOp) (left right : Term) :
    (binary span op left right).unplaced =
      binary (.point 0) op left.unplaced right.unplaced := by
  cases op <;> rfl

/-- The result of checking without regard to places. -/
def unplaced (result : Except CompileError Term) : Except CompileError Term :=
  (result.mapError .unplaced).map .unplaced

variable [Engines]

theorem search_unplaced (target pattern : Term) :
    search .nowhere target.unplaced pattern.unplaced = unplaced (search mark target pattern) := by
  cases pattern with
  | constant span value =>
    cases value with
    | string source =>
      simp only [Term.unplaced, Term.mapSpan, search]
      split <;> rfl
    | _ => rfl
  | _ => rfl

theorem resolve_unplaced (name : String) (method : Bool) (args : List Term) :
    resolve .nowhere name method (Term.mapSpanOfAll (fun _ => .point 0) args) =
      unplaced (resolve mark name method args) := by
  unfold resolve
  rw [Term.length_mapSpanOfAll]
  split
  · rfl
  · next function found =>
    split
    · rfl
    split
    · rfl
    split
    · rfl
    rcases args with _ | ⟨target, _ | ⟨pattern, _ | ⟨extra, rest⟩⟩⟩
    · cases function <;> rfl
    · cases function <;> rfl
    · cases function with
      | «matches» => exact search_unplaced target pattern
      | _ => rfl
    · cases function <;> rfl

/-! ### Expressions -/

/-- Whether checking an expression comes to the same without regard to places. -/
def IgnoresPlaces (macros : Bool) (e : Expr Mark) : Prop :=
  ∀ scope, check macros scope e.shape.unplaced = unplaced (check macros scope e)

theorem checkAll_unplaced {items : List (Expr Mark)}
    (each : ∀ item ∈ items, IgnoresPlaces macros item) (scope : List String) :
    checkAll macros scope (Expr.unplacedAll (Expr.shapeOfAll items)) =
      ((checkAll macros scope items).mapError .unplaced).map
        (Term.mapSpanOfAll fun _ => .point 0) := by
  induction items with
  | nil => rfl
  | cons item rest ih =>
    obtain ⟨head, tail⟩ := List.forall_mem_cons.mp each
    refine bind_eq_of_corresponds (head scope) fun term => ?_
    exact bind_eq_of_corresponds (ih tail) fun terms => rfl

theorem checkEntries_unplaced {entries : List (Expr Mark × Expr Mark)}
    (each : ∀ entry ∈ entries, IgnoresPlaces macros entry.1 ∧ IgnoresPlaces macros entry.2)
    (scope : List String) :
    checkEntries macros scope (Expr.unplacedEntries (Expr.shapeOfEntries entries)) =
      ((checkEntries macros scope entries).mapError .unplaced).map
        (Term.mapSpanOfEntries fun _ => .point 0) := by
  induction entries with
  | nil => rfl
  | cons entry rest ih =>
    obtain ⟨⟨key, value⟩, tail⟩ := List.forall_mem_cons.mp each
    refine bind_eq_of_corresponds (key scope) fun keyTerm => ?_
    refine bind_eq_of_corresponds (value scope) fun valueTerm => ?_
    exact bind_eq_of_corresponds (ih tail) fun terms => rfl

theorem checkFields_unplaced {fields : List (String × Expr Mark)}
    (each : ∀ field ∈ fields, IgnoresPlaces macros field.2) (scope seen : List String) :
    checkFields macros scope seen (Expr.unplacedFields (Expr.shapeOfFields fields)) =
      ((checkFields macros scope seen fields).mapError .unplaced).map
        (Term.mapSpanOfFields fun _ => .point 0) := by
  induction fields generalizing seen with
  | nil => rfl
  | cons field rest ih =>
    obtain ⟨head, tail⟩ := List.forall_mem_cons.mp each
    simp only [Expr.shapeOfFields, Expr.unplacedFields, checkFields]
    split
    · simp only [Expr.note_unplaced]
      rfl
    · refine bind_eq_of_corresponds (head scope) fun term => ?_
      exact bind_eq_of_corresponds (ih tail _) fun terms => rfl

/-- The operand of a member is checked when the member is. -/
theorem IgnoresPlaces.operand {operand : Expr Mark} {field : String}
    (member : IgnoresPlaces macros (.member mark operand field)) : IgnoresPlaces macros operand := by
  intro scope
  have same := member scope
  simp only [Expr.shape, Expr.unplaced, check] at same
  revert same
  generalize check macros scope operand = result
  generalize check macros scope operand.shape.unplaced = result'
  intro same
  cases result with
  | error error =>
    cases result' with
    | error error' => exact same
    | ok term' => cases same
  | ok term =>
    cases result' with
    | error error' => cases same
    | ok term' =>
      injection same with same
      injection same with _ same
      exact congrArg Except.ok same

section Calls

variable {calleeMark : Mark} {receiver : Expr Mark} {name : String} {args : List (Expr Mark)}

/-- A call by name asks for a field, or applies a function. -/
theorem IgnoresPlaces.namedCall (each : ∀ arg ∈ args, IgnoresPlaces macros arg) :
    IgnoresPlaces macros (.call mark (.ident calleeMark name) args) := by
  intro scope
  simp only [Expr.shape, Expr.unplaced, check]
  split
  · next loop found =>
    rcases args with _ | ⟨arg, _ | ⟨second, rest⟩⟩
    · cases loop <;> rfl
    · cases loop with
      | has =>
        cases arg with
        | member mark operand field =>
          exact bind_eq_of_corresponds ((each _ (.head _)).operand scope) fun term => rfl
        | _ => rfl
      | _ => rfl
    · simp only [Expr.shapeOfAll, Expr.unplacedAll]
      split
      · next isOne => cases (List.cons.inj isOne).2
      · next isOne => cases (List.cons.inj isOne).2
      · simp only [List.length_cons, Expr.length_unplacedAll]
        rfl
  · exact bind_eq_of_corresponds (checkAll_unplaced each scope) (resolve_unplaced name false)

/-- A method is a loop over the receiver, or a function of it and the arguments. -/
theorem IgnoresPlaces.methodCall (first : IgnoresPlaces macros receiver)
    (each : ∀ arg ∈ args, IgnoresPlaces macros arg) :
    IgnoresPlaces macros (.call mark (.member calleeMark receiver name) args) := by
  intro scope
  simp only [Expr.shape, Expr.unplaced, check]
  split
  · next loop found =>
    rcases args with _ | ⟨arg, _ | ⟨second, _ | ⟨third, _ | ⟨fourth, rest⟩⟩⟩⟩
    · cases loop <;> rfl
    · cases loop <;> rfl
    · cases loop with
      | has => rfl
      | quantifier kind | filter | map =>
        refine bind_eq_of_mapError (loopVariable_unplaced mark _ arg) fun value => ?_
        refine bind_eq_of_corresponds (first scope) fun range => ?_
        exact bind_eq_of_corresponds (each second (.tail _ (.head _)) _) fun body => rfl
    · cases loop with
      | has | filter => rfl
      | quantifier kind =>
        refine bind_eq_of_mapError (loopVariables_unplaced _ arg second) fun binder => ?_
        refine bind_eq_of_corresponds (first scope) fun range => ?_
        exact bind_eq_of_corresponds (each third (.tail _ (.tail _ (.head _))) _) fun test => rfl
      | map =>
        refine bind_eq_of_mapError (loopVariable_unplaced mark _ arg) fun value => ?_
        refine bind_eq_of_corresponds (first scope) fun range => ?_
        refine bind_eq_of_corresponds (each second (.tail _ (.head _)) _) fun test => ?_
        exact bind_eq_of_corresponds (each third (.tail _ (.tail _ (.head _))) _) fun body => rfl
    · cases loop <;> simp only [Expr.shapeOfAll, Expr.unplacedAll, List.length_cons,
        Expr.length_unplacedAll] <;> rfl
  · refine bind_eq_of_corresponds (first scope) fun term => ?_
    refine bind_eq_of_corresponds (checkAll_unplaced each scope) fun terms => ?_
    exact resolve_unplaced name true (term :: terms)

end Calls

/-- Checking an expression comes to the same as checking its tree, without regard to places. -/
theorem check_unplaced (e : Expr Mark) : IgnoresPlaces macros e := by
  induction e using Expr.childrenInduction with
  | node e ih =>
    intro scope
    cases e with
    | constant | rootIdent => rfl
    | ident mark name =>
      simp only [Expr.shape, Expr.unplaced, check]
      split <;> rfl
    | list mark items =>
      exact bind_eq_of_corresponds (checkAll_unplaced ih scope) fun terms => rfl
    | map mark entries =>
      refine bind_eq_of_corresponds (checkEntries_unplaced (fun entry member => ?_) scope) fun _ => rfl
      exact ⟨ih _ (List.mem_flatMap_of_mem member (.head _)),
        ih _ (List.mem_flatMap_of_mem member (.tail _ (.head _)))⟩
    | struct mark typeName fields =>
      have each (field : String × Expr Mark) (member : field ∈ fields) :
          IgnoresPlaces macros field.2 :=
        ih _ (List.mem_cons_of_mem _ (List.mem_map_of_mem member))
      refine bind_eq_of_mapError (structName_unplaced typeName) fun name => ?_
      exact bind_eq_of_corresponds (checkFields_unplaced each scope []) fun _ => rfl
    | unary mark op operand | member mark operand field =>
      exact bind_eq_of_corresponds (ih operand (.head _) scope) fun term => rfl
    | binary mark op left right =>
      refine bind_eq_of_corresponds (ih left (.head _) scope) fun leftTerm => ?_
      refine bind_eq_of_corresponds (ih right (.tail _ (.head _)) scope) fun rightTerm => ?_
      exact congrArg Except.ok (binary_unplaced mark.span op leftTerm rightTerm).symm
    | index mark operand position =>
      refine bind_eq_of_corresponds (ih operand (.head _) scope) fun operandTerm => ?_
      exact bind_eq_of_corresponds (ih position (.tail _ (.head _)) scope) fun _ => rfl
    | ternary mark condition yes no =>
      refine bind_eq_of_corresponds (ih condition (.head _) scope) fun conditionTerm => ?_
      refine bind_eq_of_corresponds (ih yes (.tail _ (.head _)) scope) fun yesTerm => ?_
      exact bind_eq_of_corresponds (ih no (.tail _ (.tail _ (.head _))) scope) fun _ => rfl
    | call mark callee args =>
      have each (arg : Expr Mark) (member : arg ∈ args) : IgnoresPlaces macros arg :=
        ih arg (List.mem_cons_of_mem _ member)
      cases callee with
      | ident calleeMark name => exact IgnoresPlaces.namedCall each scope
      | member calleeMark receiver name =>
        exact IgnoresPlaces.methodCall (ih _ (.head _)).operand each scope
      | _ => exact bind_eq_of_corresponds (checkAll_unplaced each scope) (resolve_unplaced "" false)

/-- An expression is accepted if its tree is, with a term that differs in its spans alone. -/
theorem check_unplaced_eq_ok_iff {e : Expr Mark} {alike : Term} :
    check macros scope e.shape.unplaced = .ok alike ↔
      ∃ term, check macros scope e = .ok term ∧ term.unplaced = alike := by
  rw [check_unplaced e]
  cases check macros scope e with
  | error error => exact ⟨nofun, fun ⟨_, accepted, _⟩ => nomatch accepted⟩
  | ok term =>
    constructor
    · exact fun accepted => ⟨term, rfl, Except.ok.inj accepted⟩
    · rintro ⟨_, ⟨⟩, rfl⟩
      rfl

section Make

variable {form operand : Expr Mark} {make : Term → Term}
  (made : check macros scope form.shape.unplaced =
    (check macros scope operand.shape.unplaced).map make)

include made

/-- An expression that is checked by checking another one is accepted if that one is, and is refused for the
same reason. -/
theorem unplaced_check_of_make :
    unplaced (check macros scope form) = (unplaced (check macros scope operand)).map make := by
  rw [← check_unplaced form, ← check_unplaced operand, made]

theorem accepted_iff_of_make :
    (∃ term, check macros scope form = .ok term) ↔
      ∃ term, check macros scope operand = .ok term := by
  have same := unplaced_check_of_make made
  revert same
  generalize check macros scope form = result
  generalize check macros scope operand = operandResult
  intro same
  cases result with
  | error error =>
    refine iff_of_false nofun ?_
    rintro ⟨_, rfl⟩
    cases same
  | ok term =>
    refine iff_of_true ⟨term, rfl⟩ ?_
    cases operandResult with
    | error error => cases same
    | ok operandTerm => exact ⟨operandTerm, rfl⟩

theorem eq_make_of_accepted {term operandTerm : Term}
    (accepted : check macros scope form = .ok term)
    (operandAccepted : check macros scope operand = .ok operandTerm) :
    term.unplaced = make operandTerm.unplaced := by
  have same := unplaced_check_of_make made
  rw [accepted, operandAccepted] at same
  exact Except.ok.inj same

end Make

/-- Two expressions that are checked by checking the same parts are accepted together, with the terms that
they make of these parts. -/
theorem check_of_same_parts {e e' : Expr Mark} {Parts : Type} {checked : Parts → Prop}
    {make make' : Parts → Term}
    (first : ∀ alike, check macros scope e.shape.unplaced = .ok alike ↔
      ∃ parts, checked parts ∧ make parts = alike)
    (second : ∀ alike, check macros scope e'.shape.unplaced = .ok alike ↔
      ∃ parts, checked parts ∧ make' parts = alike) :
    ((∃ term, check macros scope e = .ok term) ↔ ∃ term, check macros scope e' = .ok term) ∧
      ∀ term term', check macros scope e = .ok term → check macros scope e' = .ok term' →
        ∃ parts, checked parts ∧ term.unplaced = make parts ∧ term'.unplaced = make' parts := by
  have partsOf {term : Term} (accepted : check macros scope e = .ok term) :
      ∃ parts, checked parts ∧ make parts = term.unplaced :=
    (first _).mp (check_unplaced_eq_ok_iff.mpr ⟨term, accepted, rfl⟩)
  have partsOf' {term : Term} (accepted : check macros scope e' = .ok term) :
      ∃ parts, checked parts ∧ make' parts = term.unplaced :=
    (second _).mp (check_unplaced_eq_ok_iff.mpr ⟨term, accepted, rfl⟩)
  have termOf {parts : Parts} (isChecked : checked parts) :
      ∃ term, check macros scope e = .ok term ∧ term.unplaced = make parts :=
    check_unplaced_eq_ok_iff.mp ((first _).mpr ⟨parts, isChecked, rfl⟩)
  have termOf' {parts : Parts} (isChecked : checked parts) :
      ∃ term, check macros scope e' = .ok term ∧ term.unplaced = make' parts :=
    check_unplaced_eq_ok_iff.mp ((second _).mpr ⟨parts, isChecked, rfl⟩)
  refine ⟨⟨?_, ?_⟩, ?_⟩
  · rintro ⟨term, accepted⟩
    obtain ⟨parts, isChecked, -⟩ := partsOf accepted
    obtain ⟨term', accepted', -⟩ := termOf' isChecked
    exact ⟨term', accepted'⟩
  · rintro ⟨term, accepted⟩
    obtain ⟨parts, isChecked, -⟩ := partsOf' accepted
    obtain ⟨term', accepted', -⟩ := termOf isChecked
    exact ⟨term', accepted'⟩
  · intro term term' accepted accepted'
    obtain ⟨parts, isChecked, made⟩ := partsOf accepted
    obtain ⟨term'', accepted'', made'⟩ := termOf' isChecked
    cases accepted'.symm.trans accepted''
    exact ⟨parts, isChecked, made.symm, made'⟩

end Check

end Cel
