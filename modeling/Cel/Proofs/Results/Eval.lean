import Cel.Proofs.Results.Values
import Cel.Proofs.Term.Induction

/-! # What terms evaluate to

A property of sound and known values that holds everywhere in the values an activation binds holds
everywhere in every known value that a term evaluates to. Unknown values only arise from the names
that the activation withholds.
-/

namespace Cel

open Value (Everywhere Keeps)

/-! ### Connectives and loops -/

section Loops

variable {α β : Type} {p : Value → Prop} {q : Names → Prop} {span : Span}

theorem Kept.combine_givesOnly (kept : Kept p q) (op : Connective) {left right : Outcome}
    (first : GivesOnly (Keeps p q) left) (second : GivesOnly (Keeps p q) right) :
    GivesOnly (Keeps p q) (op.combine span left right) := by
  unfold Connective.combine
  split
  · exact GivesOnly.ok_iff.mpr (kept.keeps_atomic (Value.atomic_bool _))
  · split
    · exact GivesOnly.ok_iff.mpr (kept.union (first _ rfl) (second _ rfl))
    · exact GivesOnly.ok_iff.mpr (first _ rfl)
    · exact GivesOnly.ok_iff.mpr (second _ rfl)
    · exact GivesOnly.error
    · exact GivesOnly.error
    · exact GivesOnly.ok_iff.mpr (kept.keeps_atomic (Value.atomic_bool _))
    · exact GivesOnly.error

namespace Loop

/-- Whether a loop gives only allowed results, and stops for want of a value only with names that
have a property. -/
def Within (q : Names → Prop) (allowed : α → Prop) : Except Stop α → Prop
  | .ok value => allowed value
  | .error (.unknown names) => q names
  | .error (.error _) => True

namespace Within

variable {allowed : α → Prop} {allowed' : β → Prop}

theorem bind {result : Except Stop α} {next : α → Except Stop β}
    (first : Within q allowed result) (rest : ∀ value, allowed value → Within q allowed' (next value)) :
    Within q allowed' (result >>= next) := by
  cases result with
  | ok value => exact rest value first
  | error stop => cases stop <;> exact first

theorem map {result : Except Stop α} (first : Within q allowed result) {f : α → β}
    (rest : ∀ value, allowed value → allowed' (f value)) :
    Within q allowed' (do return f (← result)) :=
  first.bind rest

end Within

theorem truth_within {outcome : Outcome} (givesOnly : GivesOnly (Keeps p q) outcome) :
    Within q (fun _ => True) (truth span outcome) := by
  unfold truth
  split
  · exact trivial
  · exact givesOnly _ rfl
  · exact trivial
  · exact trivial

theorem valueOf_within {outcome : Outcome} (givesOnly : GivesOnly (Keeps p q) outcome) :
    Within q (Keeps p q) (valueOf outcome) := by
  cases outcome with
  | ok value => exact givesOnly value rfl
  | error error => exact trivial

theorem count_within {holds : α → Except Stop Bool} {elements : List α}
    (each : ∀ element ∈ elements, Within q (fun _ => True) (holds element)) :
    Within q (fun _ => True) (count holds elements) := by
  induction elements with
  | nil => exact trivial
  | cons element rest ih =>
    obtain ⟨head, tail⟩ := List.forall_mem_cons.mp each
    exact head.bind fun _ _ => (ih tail).map fun _ _ => trivial

/-- What a loop collects is allowed if what each step makes is. -/
theorem gather_within {allowed : β → Prop} {step : α → Except Stop (Option β)} {elements : List α}
    (each : ∀ element ∈ elements, Within q (∀ value ∈ ·, allowed value) (step element)) :
    Within q (∀ value ∈ ·, allowed value) (gather step elements) := by
  induction elements with
  | nil => exact fun value member => absurd member List.not_mem_nil
  | cons element rest ih =>
    obtain ⟨head, tail⟩ := List.forall_mem_cons.mp each
    refine head.bind fun made madeAllowed => (ih tail).map fun others othersAllowed value member => ?_
    rcases List.mem_append.mp member with here | later
    · exact madeAllowed value (Option.mem_toList.mp here)
    · exact othersAllowed value later

theorem keep_within {allowed : α → Prop} {holds : α → Except Stop Bool} {element : α}
    (isAllowed : allowed element) (within : Within q (fun _ => True) (holds element)) :
    Within q (∀ value ∈ ·, allowed value) (keep holds element) := by
  refine within.map fun held _ value member => ?_
  cases held with
  | true =>
    cases member
    exact isAllowed
  | false => cases member

/-- The step that makes something of every element. -/
theorem some_within {allowed : β → Prop} {result : Except Stop β}
    (within : Within q allowed result) :
    Within q (∀ value ∈ ·, allowed value) (do return some (← result)) := by
  refine within.map fun value isAllowed made member => ?_
  cases member
  exact isAllowed

theorem finish_givesOnly {result : Except Stop Value} (within : Within q (Keeps p q) result) :
    GivesOnly (Keeps p q) (finish result) := by
  unfold finish
  split
  · exact GivesOnly.ok_iff.mpr within
  · exact GivesOnly.error
  · exact GivesOnly.ok_iff.mpr within

theorem overRange_givesOnly {range : Value} {elements? : Value → Option (List α)}
    {loop : List α → Outcome} (rangeKept : range.Keeps p q)
    (loops : ∀ elements, range.Known → elements? range = some elements →
      GivesOnly (Keeps p q) (loop elements)) :
    GivesOnly (Keeps p q) (overRange span range elements? loop) := by
  unfold overRange
  split
  · exact GivesOnly.ok_iff.mpr rangeKept
  · next notUnknown =>
    split
    · next elements found =>
      refine loops elements ?_ found
      by_contra notKnown
      obtain ⟨names, same⟩ := Value.not_known_iff.mp notKnown
      exact notUnknown names same
    · exact GivesOnly.error

/-- A search that goes on has met only names that have the property. -/
theorem search_givesOnly (kept : Kept p q) {decisive : Bool} {test : α → Outcome}
    {elements : List α} (tests : ∀ element ∈ elements, GivesOnly (Keeps p q) (test element))
    {pending : Pending} (pendingKept : ∀ names ∈ pending.unknown, q names) :
    GivesOnly (Keeps p q) (search decisive span test pending elements) := by
  induction elements generalizing pending with
  | nil =>
    unfold search Pending.conclude
    split
    · next met => exact GivesOnly.ok_iff.mpr (pendingKept _ met)
    · exact GivesOnly.error
    · exact GivesOnly.ok_iff.mpr (kept.keeps_atomic (Value.atomic_bool _))
  | cons element rest ih =>
    obtain ⟨head, tail⟩ := List.forall_mem_cons.mp tests
    unfold search
    split
    · split
      · exact GivesOnly.ok_iff.mpr (kept.keeps_atomic (Value.atomic_bool _))
      · exact ih tail pendingKept
    · next names gives =>
      have met : q names := head _ gives
      refine ih tail ?_
      rintro _ ⟨⟩
      cases before : pending.unknown with
      | none =>
        exact (Names.empty_union names).symm ▸ met
      | some earlier => exact kept.union (pendingKept earlier before) met
    · exact ih tail pendingKept
    · exact ih tail pendingKept

end Loop

end Loops

/-! ### Ranges -/

section Ranges

variable {p : Value → Prop} {q : Names → Prop} (kept : Kept p q) {range : Value}

include kept

/-- The elements of a range are parts of a list or keys of a map. -/
theorem Kept.elements? (inRange : Everywhere p range) {elements : List Value}
    (found : range.elements? = some elements) : ∀ element ∈ elements, Everywhere p element := by
  cases range with
  | list items =>
    cases found
    exact inRange.inside
  | map entries =>
    cases found
    intro element member
    obtain ⟨entry, -, rfl⟩ := List.mem_map.mp member
    exact kept.everywhere_atomic (Value.atomic_ofKey _)
  | _ => cases found

/-- What a loop binds are parts, positions and keys of its range. -/
theorem Kept.frames? {binder : Binder} (inRange : Everywhere p range)
    {frames : List (List Value)} (found : binder.frames? range = some frames) :
    ∀ frame ∈ frames, ∀ value ∈ frame, Everywhere p value := by
  obtain ⟨index, name⟩ := binder
  intro frame isFrame value member
  cases index with
  | none =>
    obtain ⟨elements, isElements, rfl⟩ := Option.map_eq_some_iff.mp found
    obtain ⟨element, isElement, rfl⟩ := List.mem_map.mp isFrame
    rw [List.mem_singleton.mp member]
    exact kept.elements? inRange isElements element isElement
  | some _ =>
    cases range with
    | list items =>
      cases found
      obtain ⟨position, inBounds, rfl⟩ := List.mem_mapIdx.mp isFrame
      rcases List.mem_pair.mp member with rfl | rfl
      · exact inRange.inside _ (List.getElem_mem inBounds)
      · exact kept.everywhere_atomic (Value.atomic_int _)
    | map entries =>
      cases found
      obtain ⟨entry, isEntry, rfl⟩ := List.mem_map.mp isFrame
      rcases List.mem_pair.mp member with rfl | rfl
      · exact inRange.inside _ (List.mem_map_of_mem isEntry)
      · exact kept.everywhere_atomic (Value.atomic_ofKey _)
    | _ => cases found

end Ranges

/-! ### Terms -/

/-- What an activation binds has a property everywhere, and the names it withholds have another. -/
structure Activation.Keeps (p : Value → Prop) (q : Names → Prop) (activation : Activation) :
    Prop where
  bound : ∀ name value, activation.value? name = some value → Everywhere p value
  withheld : ∀ name, activation.isUnknown name = true → q (.singleton name)

namespace Kept

variable {p : Value → Prop} {q : Names → Prop} (kept : Kept p q) {activation : Activation}
  {locals : List Value} {span : Span}

include kept

theorem readVariable_givesOnly (keeps : activation.Keeps p q) (name : String) :
    GivesOnly (Keeps p q) (Eval.readVariable activation span name) := by
  unfold Eval.readVariable
  split
  · next withheld => exact GivesOnly.ok_iff.mpr (keeps.withheld name withheld)
  · split
    · next value found => exact GivesOnly.ok_iff.mpr (kept.keeps (keeps.bound name value found))
    · exact GivesOnly.error

/-- A map literal never stores a key that is equal to another one. -/
theorem entriesOf_givesOnly {entries : List (MapKey × Value)}
    {evaluated : List (Span × Value × Value)} (distinct : Value.DistinctKeys entries)
    (stored : ∀ entry ∈ entries, Everywhere p entry.2)
    (each : ∀ entry ∈ evaluated, Everywhere p entry.2.2) :
    GivesOnly (fun entries => Everywhere p (.map entries)) (Eval.entriesOf entries evaluated) := by
  induction evaluated generalizing entries with
  | nil =>
    refine GivesOnly.ok_iff.mpr (.intro (kept.ofSound rfl distinct) fun part member => ?_)
    obtain ⟨entry, isEntry, rfl⟩ := List.mem_map.mp member
    exact stored entry isEntry
  | cons entry rest ih =>
    obtain ⟨span, key, value⟩ := entry
    obtain ⟨head, tail⟩ := List.forall_mem_cons.mp each
    unfold Eval.entriesOf
    split
    · exact GivesOnly.error
    · next storedKey isKey =>
      split
      · exact GivesOnly.error
      · next notStored =>
        rw [Value.eq_ofKey_of_key? isKey, Bool.not_eq_true, Option.isSome_eq_false_iff,
          Option.isNone_iff_eq_none] at notStored
        refine ih (distinct.insert notStored value) (fun other member => ?_) tail
        rcases Entries.mem_or_eq_of_mem_insert member with rfl | before
        · exact head
        · exact stored other before

theorem mapOf_givesOnly {evaluated : List (Span × Value × Value)}
    (each : ∀ value ∈ Eval.keysAndValues evaluated, value.Keeps p q) :
    GivesOnly (Keeps p q) (Eval.mapOf evaluated) := by
  unfold Eval.mapOf
  split
  · next names found => exact GivesOnly.ok_iff.mpr (kept.of_unknowns? each found)
  · next none =>
    have inside := everywhere_of_unknowns? each none
    have values : ∀ entry ∈ evaluated, Everywhere p entry.2.2 := fun entry member =>
      inside _ (List.mem_flatMap.mpr ⟨entry, member, by simp⟩)
    have distinct : Value.DistinctKeys [] := List.nodup_nil
    have made := kept.entriesOf_givesOnly distinct nofun values
    exact made.map fun entries everywhere => kept.keeps everywhere

theorem keeps_structOf (typeName : String) {fields : List (String × Value)}
    (each : ∀ field ∈ fields, field.2.Keeps p q) : (Eval.structOf typeName fields).Keeps p q := by
  have each : ∀ value ∈ fields.map (·.2), value.Keeps p q := by
    intro value member
    obtain ⟨field, isField, rfl⟩ := List.mem_map.mp member
    exact each field isField
  unfold Eval.structOf
  split
  · next names found => exact kept.of_unknowns? each found
  · next none =>
    have inside := everywhere_of_unknowns? each none
    refine kept.keeps (.intro (kept.ofSound rfl trivial) fun part member => ?_)
    obtain ⟨field, isField, rfl⟩ := List.mem_map.mp member
    exact inside _ (List.mem_map_of_mem (Entries.mem_of_mem_ofList isField))

theorem quantify_givesOnly {α : Type} (kind : Quantifier) {test : α → Outcome} {frames : List α}
    (tests : ∀ frame ∈ frames, GivesOnly (Keeps p q) (test frame)) :
    GivesOnly (Keeps p q) (Eval.quantify kind span test frames) := by
  cases kind with
  | all | «exists» => exact Loop.search_givesOnly kept tests nofun
  | existsOne =>
    refine Loop.finish_givesOnly (Loop.Within.map (Loop.count_within fun frame member => ?_)
      fun count _ => kept.keeps_atomic (Value.atomic_bool _))
    exact Loop.truth_within (tests frame member)

variable [Engines]

omit kept in
theorem evalAll_givesOnly {items : List Term}
    (each : ∀ item ∈ items, GivesOnly (Keeps p q) (Eval.eval activation locals item)) :
    GivesOnly (∀ value ∈ ·, Keeps p q value) (Eval.evalAll activation locals items) := by
  induction items with
  | nil => exact GivesOnly.ok_iff.mpr nofun
  | cons item rest ih =>
    obtain ⟨head, tail⟩ := List.forall_mem_cons.mp each
    exact head.bind fun value first => (ih tail).map fun values others =>
      List.forall_mem_cons.mpr ⟨first, others⟩

omit kept in
theorem evalFields_givesOnly {fields : List (String × Term)}
    (each : ∀ field ∈ fields, GivesOnly (Keeps p q) (Eval.eval activation locals field.2)) :
    GivesOnly (∀ field ∈ ·, Keeps p q field.2) (Eval.evalFields activation locals fields) := by
  induction fields with
  | nil => exact GivesOnly.ok_iff.mpr nofun
  | cons field rest ih =>
    obtain ⟨head, tail⟩ := List.forall_mem_cons.mp each
    exact head.bind fun value first => (ih tail).map fun values others =>
      List.forall_mem_cons.mpr ⟨first, others⟩

omit kept in
theorem evalEntries_givesOnly {entries : List (Term × Term)}
    (each : ∀ entry ∈ entries, GivesOnly (Keeps p q) (Eval.eval activation locals entry.1) ∧
      GivesOnly (Keeps p q) (Eval.eval activation locals entry.2)) :
    GivesOnly (∀ value ∈ Eval.keysAndValues ·, Keeps p q value)
      (Eval.evalEntries activation locals entries) := by
  induction entries with
  | nil => exact GivesOnly.ok_iff.mpr nofun
  | cons entry rest ih =>
    obtain ⟨⟨key, value⟩, tail⟩ := List.forall_mem_cons.mp each
    refine key.bind fun key first => value.bind fun value second => (ih tail).map fun values others => ?_
    exact List.forall_mem_cons.mpr ⟨first, List.forall_mem_cons.mpr ⟨second, others⟩⟩

/-- The known values that a term evaluates to have the property everywhere, under loops that bind only
such values. -/
theorem eval_givesOnly (keeps : activation.Keeps p q) {term : Term}
    (inner : ∀ value ∈ locals, Everywhere p value) :
    GivesOnly (Keeps p q) (Eval.eval activation locals term) := by
  induction term using Term.induction generalizing locals with
  | constant span value =>
    exact GivesOnly.ok_iff.mpr (kept.keeps_atomic (Value.atomic_ofConstant value))
  | free span name => exact kept.readVariable_givesOnly keeps name
  | bound span name depth =>
    simp only [Eval.eval]
    split
    · next value found =>
      exact GivesOnly.ok_iff.mpr (kept.keeps (inner value (List.mem_of_getElem? found)))
    · exact GivesOnly.error
  | select span operand field ih =>
    exact (ih inner).bind fun value operand => (kept.select_givesOnly field operand).locate span
  | has span operand field ih =>
    exact (ih inner).bind fun value operand => (kept.has_givesOnly field operand).locate span
  | index span operand position operandIh positionIh =>
    exact (operandIh inner).bind fun container operand => (positionIh inner).bind
      fun position atKept => (kept.index_givesOnly operand atKept).locate span
  | list span items ih =>
    exact (evalAll_givesOnly fun item member => ih item member inner).map fun values each =>
      kept.keeps_listOf each
  | map span entries ih =>
    refine (evalEntries_givesOnly fun entry member => ?_).bind fun evaluated each =>
      kept.mapOf_givesOnly each
    exact ⟨(ih entry member).1 inner, (ih entry member).2 inner⟩
  | struct span typeName fields ih =>
    exact (evalFields_givesOnly fun field member => ih field member inner).map fun values each =>
      kept.keeps_structOf typeName each
  | unary span op operand ih =>
    exact (ih inner).bind fun value operand => (kept.unary_givesOnly op operand).locate span
  | strict span op left right leftIh rightIh =>
    exact (leftIh inner).bind fun a left => (rightIh inner).bind
      fun b right => (kept.strict_givesOnly op left right).locate span
  | and span left right leftIh rightIh =>
    rw [Eval.eval_and]
    exact kept.combine_givesOnly .and (leftIh inner) (rightIh inner)
  | or span left right leftIh rightIh =>
    rw [Eval.eval_or]
    exact kept.combine_givesOnly .or (leftIh inner) (rightIh inner)
  | conditional span condition yes no conditionIh yesIh noIh =>
    refine (conditionIh inner).bind fun value met => ?_
    split
    · exact yesIh inner
    · exact noIh inner
    · exact GivesOnly.ok_iff.mpr met
    · exact GivesOnly.error
  | call span function args ih =>
    refine (evalAll_givesOnly fun arg member => ih arg member inner).bind fun values each => ?_
    exact (kept.ifKnown_givesOnly each (kept.call_givesOnly function)).locate span
  | unknownCall => exact GivesOnly.error
  | «matches» span target source pattern ih =>
    refine (ih inner).bind fun value operand => ?_
    have alone := List.forall_mem_singleton.mpr operand
    exact (kept.ifKnown_givesOnly alone fun _ =>
      kept.everywhere_givesOnly (Value.testPattern_givesOnly value pattern)).locate span
  | search span target pattern targetIh patternIh =>
    refine (targetIh inner).bind fun value operand => (patternIh inner).bind fun source isSource => ?_
    have both := List.forall_mem_cons.mpr ⟨operand, List.forall_mem_singleton.mpr isSource⟩
    exact (kept.ifKnown_givesOnly both fun _ =>
      kept.everywhere_givesOnly (Value.matches_givesOnly value source)).locate span
  | quantified span kind binder range predicate rangeIh testIh =>
    refine (rangeIh inner).bind fun range rangeKept => ?_
    refine Loop.overRange_givesOnly rangeKept fun frames known found => ?_
    have inRange := (Value.keeps_iff_of_known known).mp rangeKept
    refine kept.quantify_givesOnly kind fun frame isFrame => testIh ?_
    exact List.forall_mem_append.mpr ⟨kept.frames? inRange found frame isFrame, inner⟩
  | filter span name range predicate rangeIh testIh =>
    refine (rangeIh inner).bind fun range rangeKept => ?_
    refine Loop.overRange_givesOnly rangeKept fun elements known found => ?_
    have each := kept.elements? ((Value.keeps_iff_of_known known).mp rangeKept) found
    refine Loop.finish_givesOnly (Loop.Within.map (Loop.gather_within fun element member => ?_)
      fun items (everywhere : ∀ item ∈ items, Everywhere p item) => ?_)
    · have inner := List.forall_mem_cons.mpr ⟨each element member, inner⟩
      exact Loop.keep_within (each element member) (Loop.truth_within (testIh inner))
    · exact kept.keeps (.intro (kept.ofSound rfl trivial) everywhere)
  | collect span name range body rangeIh bodyIh =>
    refine (rangeIh inner).bind fun range rangeKept => ?_
    refine Loop.overRange_givesOnly rangeKept fun elements known found => ?_
    have each := kept.elements? ((Value.keeps_iff_of_known known).mp rangeKept) found
    refine Loop.finish_givesOnly (Loop.Within.map (Loop.gather_within fun element member => ?_)
      fun items => kept.keeps_listOf)
    have inner := List.forall_mem_cons.mpr ⟨each element member, inner⟩
    exact Loop.some_within (Loop.valueOf_within (bodyIh inner))
  | collectIf span name range predicate body rangeIh testIh bodyIh =>
    refine (rangeIh inner).bind fun range rangeKept => ?_
    refine Loop.overRange_givesOnly rangeKept fun elements known found => ?_
    have each := kept.elements? ((Value.keeps_iff_of_known known).mp rangeKept) found
    refine Loop.finish_givesOnly (Loop.Within.map (Loop.gather_within fun element member => ?_)
      fun items => kept.keeps_listOf)
    have inner := List.forall_mem_cons.mpr ⟨each element member, inner⟩
    refine (Loop.truth_within (testIh inner)).bind fun held _ => ?_
    cases held with
    | true => exact Loop.some_within (Loop.valueOf_within (bodyIh inner))
    | false =>
      intro value member
      cases member

end Kept

end Cel
