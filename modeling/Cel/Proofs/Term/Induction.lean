import Cel.Term

/-! # Induction over terms

The recursor of the nested type of terms speaks about lists of terms and about pairs. Here are the
principles that proofs use. One has a case for each kind of node, where the terms of a list, the keys
and values of a map and the fields of a struct satisfy the property one by one. The other one has a
single case, for a node and the terms directly below it, whatever its kind. The nodes of a term are
those that can be reached from it in this way.
-/

namespace Cel.Term

@[elab_as_elim]
theorem induction {motive : Term → Prop}
    (constant : ∀ span value, motive (.constant span value))
    (free : ∀ span name, motive (.free span name))
    (bound : ∀ span name depth, motive (.bound span name depth))
    (select : ∀ span operand field, motive operand → motive (.select span operand field))
    (has : ∀ span operand field, motive operand → motive (.has span operand field))
    (index : ∀ span operand position, motive operand → motive position →
      motive (.index span operand position))
    (list : ∀ span items, (∀ item ∈ items, motive item) → motive (.list span items))
    (map : ∀ span entries, (∀ entry ∈ entries, motive entry.1 ∧ motive entry.2) →
      motive (.map span entries))
    (struct : ∀ span typeName fields, (∀ field ∈ fields, motive field.2) →
      motive (.struct span typeName fields))
    (unary : ∀ span op operand, motive operand → motive (.unary span op operand))
    (strict : ∀ span op left right, motive left → motive right →
      motive (.strict span op left right))
    (and : ∀ span left right, motive left → motive right → motive (.and span left right))
    (or : ∀ span left right, motive left → motive right → motive (.or span left right))
    (conditional : ∀ span condition yes no, motive condition → motive yes → motive no →
      motive (.conditional span condition yes no))
    (call : ∀ span function args, (∀ arg ∈ args, motive arg) → motive (.call span function args))
    (unknownCall : ∀ span name args, (∀ arg ∈ args, motive arg) →
      motive (.unknownCall span name args))
    («matches» : ∀ span target source pattern, motive target →
      motive (.matches span target source pattern))
    (search : ∀ span target pattern, motive target → motive pattern →
      motive (.search span target pattern))
    (quantified : ∀ span kind binder range predicate, motive range → motive predicate →
      motive (.quantified span kind binder range predicate))
    (filter : ∀ span name range predicate, motive range → motive predicate →
      motive (.filter span name range predicate))
    (collect : ∀ span name range body, motive range → motive body →
      motive (.collect span name range body))
    (collectIf : ∀ span name range predicate body, motive range → motive predicate →
      motive body → motive (.collectIf span name range predicate body))
    (term : Term) : motive term := by
  refine @Term.rec motive (fun items => ∀ item ∈ items, motive item)
    (fun entries => ∀ entry ∈ entries, motive entry.1 ∧ motive entry.2)
    (fun fields => ∀ field ∈ fields, motive field.2)
    (fun entry => motive entry.1 ∧ motive entry.2) (fun field => motive field.2)
    constant free bound select has index list map struct unary strict and or conditional call
    unknownCall «matches» search quantified filter collect collectIf ?_ ?_ ?_ ?_ ?_ ?_ ?_ ?_ term
  case refine_1 | refine_3 | refine_5 => exact fun _ member => absurd member List.not_mem_nil
  case refine_2 | refine_4 | refine_6 =>
    intro head tail first rest other member
    rcases List.mem_cons.mp member with rfl | later
    · exact first
    · exact rest other later
  case refine_7 => exact fun _ _ key value => ⟨key, value⟩
  case refine_8 => exact fun _ _ value => value

theorem forall_mem_pair {property : Term → Prop} {first second : Term} (head : property first)
    (tail : property second) : ∀ term ∈ [first, second], property term :=
  List.forall_mem_cons.mpr ⟨head, List.forall_mem_singleton.mpr tail⟩

/-- What holds of a node if it holds of the terms below it holds of every term. -/
@[elab_as_elim]
theorem childrenInduction {motive : Term → Prop}
    (node : ∀ term : Term, (∀ child ∈ term.children, motive child) → motive term) (term : Term) :
    motive term := by
  induction term using Term.induction with
  | constant | free | bound => exact node _ nofun
  | select _ _ _ ih | has _ _ _ ih | unary _ _ _ ih | «matches» _ _ _ _ ih =>
    exact node _ (List.forall_mem_singleton.mpr ih)
  | index _ _ _ first second | strict _ _ _ _ first second | and _ _ _ first second
  | or _ _ _ first second | search _ _ _ first second | quantified _ _ _ _ _ first second
  | filter _ _ _ _ first second | collect _ _ _ _ first second => exact node _ (forall_mem_pair first second)
  | conditional _ _ _ _ first second third | collectIf _ _ _ _ _ first second third =>
    exact node _ (List.forall_mem_cons.mpr ⟨first, forall_mem_pair second third⟩)
  | list _ _ ih | call _ _ _ ih | unknownCall _ _ _ ih => exact node _ ih
  | struct _ _ _ ih => exact node _ (List.forall_mem_map.mpr ih)
  | map _ _ ih =>
    refine node _ (List.forall_mem_flatMap.mpr fun entry member => ?_)
    exact forall_mem_pair (ih entry member).1 (ih entry member).2

/-- Whether a term is a node of another one. -/
inductive Contains (whole : Term) : Term → Prop where
  | self : Contains whole whole
  | child {node child : Term} (inside : Contains whole node) (isChild : child ∈ node.children) :
    Contains whole child

/-- The nodes of a node of a term are nodes of the term. -/
theorem Contains.trans {whole node inner : Term} (outside : whole.Contains node)
    (inside : node.Contains inner) : whole.Contains inner := by
  induction inside with
  | self => exact outside
  | child _ isChild ih => exact .child ih isChild

/-- A node of a term is the term itself, or a node of one that stands directly below it. -/
theorem Contains.eq_or_below {whole node : Term} (inside : whole.Contains node) :
    node = whole ∨ ∃ child ∈ whole.children, child.Contains node := by
  induction inside with
  | self => exact .inl rfl
  | @child node child inside isChild ih =>
    rcases ih with rfl | ⟨first, isFirst, below⟩
    · exact .inr ⟨child, isChild, .self⟩
    · exact .inr ⟨first, isFirst, .child below isChild⟩

end Cel.Term
