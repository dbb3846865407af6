import Cel.Engines.Standard
import Cel.Eval.Functions
import Cel.Proofs.Value.Order

/-! # The greatest and the least value

The functions `max` and `min` go through some values once and compare each of them with the best one so far.
Since the order is transitive across all kinds of numbers, the value that is left is ahead of all of them or
equal, and it is the first such value. Since only values of one kind can be compared, no value of another
kind goes unnoticed, wherever it stands.
-/

namespace Cel

/-! ### Steps in one direction -/

/-- Steps that do not go in opposite directions lead in the direction of the first that goes anywhere. -/
theorem then_of_compare {α : Type} {compare : α → α → Ordering} [Std.TransCmp compare] {x y z : α}
    {order order' : Ordering} (first : compare x y = order) (second : compare y z = order')
    (agree : order = .eq ∨ order' = .eq ∨ order = order') : compare x z = order.then order' := by
  cases order with
  | eq => rw [Ordering.eq_then, Std.TransCmp.congr_left first, second]
  | lt =>
    cases order' with
    | lt => exact Std.TransCmp.lt_trans first second
    | eq => exact Std.TransCmp.lt_of_lt_of_eq first second
    | gt => simp at agree
  | gt =>
    cases order' with
    | lt => simp at agree
    | eq => exact Std.TransCmp.gt_of_gt_of_eq first second
    | gt => exact Std.TransCmp.gt_trans first second

namespace Value

variable {a b c : Value} {order order' : Ordering}

theorem Compared.then (first : Compared a b order) (second : Compared b c order')
    (agree : order = .eq ∨ order' = .eq ∨ order = order') : Compared a c (order.then order') := by
  cases first with
  | bool ordered =>
    cases second with
    | bool ordered' => exact .bool (then_of_compare ordered ordered' agree)
    | number left => cases left
  | string ordered =>
    cases second with
    | string ordered' => exact .string (then_of_compare ordered ordered' agree)
    | number left => cases left
  | bytes ordered =>
    cases second with
    | bytes ordered' => exact .bytes (then_of_compare ordered ordered' agree)
    | number left => cases left
  | timestamp ordered =>
    cases second with
    | timestamp ordered' => exact .timestamp (then_of_compare ordered ordered' agree)
    | number left => cases left
  | duration ordered =>
    cases second with
    | duration ordered' => exact .duration (then_of_compare ordered ordered' agree)
    | number left => cases left
  | number left middle ordered =>
    cases second with
    | number middle' right ordered' =>
      cases middle.symm.trans middle'
      exact .number left right (then_of_compare ordered ordered' agree)
    | _ => cases middle

/-! ### Kinds of values -/

/-- The kinds of values that are ordered among themselves. All numbers but NaN are of one kind. -/
inductive OrderKind where
  | bool | string | bytes | timestamp | duration | number
deriving DecidableEq, Repr

/-- The kind of a value, if it can be ordered. -/
def orderKind? : Value → Option OrderKind
  | bool _ => some .bool
  | string _ => some .string
  | bytes _ => some .bytes
  | timestamp _ => some .timestamp
  | duration _ => some .duration
  | int _ | uint _ => some .number
  | double d => if d.isNaN then none else some .number
  | _ => none

theorem orderKind?_eq_some_iff {kind : OrderKind} :
    a.orderKind? = some kind ↔
      match kind with
      | .bool => ∃ x, a = bool x
      | .string => ∃ x, a = string x
      | .bytes => ∃ x, a = bytes x
      | .timestamp => ∃ x, a = timestamp x
      | .duration => ∃ x, a = duration x
      | .number => ∃ x, a.exactValue? = some x := by
  cases a with
  | double d =>
    have exact : (∃ x, d.extended? = some x) ↔ d.isNaN = false := by
      rw [← Option.isSome_iff_exists, Option.isSome_iff_ne_none, ne_eq, Double.extended?_eq_none_iff,
        Bool.not_eq_true]
    cases kind <;> simp [orderKind?, exactValue?, exact]
  | _ => cases kind <;> simp [orderKind?, exactValue?]

/-- Values can be compared exactly if they are of one kind. -/
theorem exists_compare_iff :
    (∃ order, a.compare b = some order) ↔
      ∃ kind, a.orderKind? = some kind ∧ b.orderKind? = some kind := by
  simp only [compare_eq_some_iff]
  constructor
  · rintro ⟨order, compared⟩
    cases compared with
    | bool | string | bytes | timestamp | duration => exact ⟨_, rfl, rfl⟩
    | number left right =>
      exact ⟨.number, orderKind?_eq_some_iff.mpr ⟨_, left⟩, orderKind?_eq_some_iff.mpr ⟨_, right⟩⟩
  · rintro ⟨kind, left, right⟩
    rw [orderKind?_eq_some_iff] at left right
    cases kind with
    | bool =>
      obtain ⟨⟨x, rfl⟩, y, rfl⟩ := And.intro left right
      exact ⟨_, .bool rfl⟩
    | string =>
      obtain ⟨⟨x, rfl⟩, y, rfl⟩ := And.intro left right
      exact ⟨_, .string rfl⟩
    | bytes =>
      obtain ⟨⟨x, rfl⟩, y, rfl⟩ := And.intro left right
      exact ⟨_, .bytes rfl⟩
    | timestamp =>
      obtain ⟨⟨x, rfl⟩, y, rfl⟩ := And.intro left right
      exact ⟨_, .timestamp rfl⟩
    | duration =>
      obtain ⟨⟨x, rfl⟩, y, rfl⟩ := And.intro left right
      exact ⟨_, .duration rfl⟩
    | number =>
      obtain ⟨⟨x, left⟩, y, right⟩ := And.intro left right
      exact ⟨_, .number left right rfl⟩

/-- A value that can be ordered has the same place as itself. -/
theorem compare_self {kind : OrderKind} (isKind : a.orderKind? = some kind) :
    a.compare a = some .eq := by
  obtain ⟨order, compared⟩ := exists_compare_iff.mpr ⟨kind, isKind, isKind⟩
  have swapped := compare_eq_some_iff.mpr (compare_eq_some_iff.mp compared).swap
  rw [compared, Option.some.injEq] at swapped
  rw [compared]
  cases order <;> first
    | rfl
    | cases swapped

/-! ### Leaders -/

variable {wanted : Ordering} {seen rest all : List Value} {best candidate v : Value} {function : Builtin}

/-- Whether a value can be compared with all of some values and is ahead of each of them, in the wanted
direction, or has the same place. -/
def Leads (wanted : Ordering) (values : List Value) (v : Value) : Prop :=
  ∀ other ∈ values, v.compare other = some wanted ∨ v.compare other = some .eq

/-- Whether a value is the first of some values that leads them. -/
def LeadsFirst (wanted : Ordering) (values : List Value) (v : Value) : Prop :=
  ∃ before after, values = before ++ v :: after ∧ Leads wanted values v ∧
    ∀ earlier ∈ before, ¬Leads wanted values earlier

/-- Whoever is ahead of a leader is ahead of all. -/
theorem Leads.of_ahead (leads : Leads wanted seen best) (ahead : candidate.compare best = some wanted)
    {other : Value} (member : other ∈ seen) : candidate.compare other = some wanted := by
  rw [compare_eq_some_iff] at ahead ⊢
  rcases leads other member with below | level
  · have composed := ahead.then (compare_eq_some_iff.mp below) (.inr (.inr rfl))
    rwa [Ordering.then_self] at composed
  · have composed := ahead.then (compare_eq_some_iff.mp level) (.inr (.inl rfl))
    rwa [Ordering.then_eq] at composed

/-- What one step of the search makes of the first leader so far. -/
theorem LeadsFirst.step (isDirection : wanted ≠ .eq) (first : LeadsFirst wanted seen best)
    {order : Ordering} (compared : candidate.compare best = some order) :
    LeadsFirst wanted (seen ++ [candidate]) (if order = wanted then candidate else best) := by
  obtain ⟨before, after, rfl, leads, behind⟩ := first
  obtain ⟨kind, isKind, -⟩ := exists_compare_iff.mp ⟨order, compared⟩
  have back := compare_eq_some_iff.mpr (compare_eq_some_iff.mp compared).swap
  split
  · next ahead =>
    subst ahead
    refine ⟨before ++ best :: after, [], rfl, ?_, fun earlier member leadsAll => ?_⟩
    · intro other member
      rcases List.mem_append.mp member with old | new
      · exact .inl (leads.of_ahead compared old)
      · rw [List.mem_singleton.mp new]
        exact .inr (compare_self isKind)
    · have ahead := leads.of_ahead compared member
      have swapped := compare_eq_some_iff.mpr (compare_eq_some_iff.mp ahead).swap
      have level := leadsAll candidate (List.mem_append_right _ (List.mem_singleton_self _))
      rw [swapped] at level
      cases order <;> simp at level isDirection
  · next notAhead =>
    refine ⟨before, after ++ [candidate], by simp, ?_, fun earlier member leadsAll => ?_⟩
    · intro other member
      rcases List.mem_append.mp member with old | new
      · exact leads other old
      · rw [List.mem_singleton.mp new, back]
        cases order <;> cases wanted <;> simp at notAhead isDirection ⊢
    · refine behind earlier member fun other old => ?_
      exact leadsAll other (List.mem_append_left _ old)

/-- A search that finds something finds the first leader, by induction on the values that are left. -/
theorem leadsFirst_of_extremeOf (isDirection : wanted ≠ .eq) (first : LeadsFirst wanted seen best)
    (found : extremeOf function wanted all best rest = .ok v) : LeadsFirst wanted (seen ++ rest) v := by
  induction rest generalizing seen best with
  | nil =>
    cases found
    rwa [List.append_nil]
  | cons candidate rest ih =>
    rw [extremeOf] at found
    split at found
    · next order compared =>
      have next := ih (first.step isDirection compared) found
      rwa [List.append_assoc] at next
    · split at found <;> cases found

/-- A search finds something exactly if all values are of the kind of the first. -/
theorem exists_extremeOf_iff :
    (∃ v, extremeOf function wanted all best rest = .ok v) ↔
      ∀ other ∈ rest, ∃ kind, best.orderKind? = some kind ∧ other.orderKind? = some kind := by
  induction rest generalizing best with
  | nil => exact iff_of_true ⟨best, rfl⟩ nofun
  | cons candidate rest ih =>
    rw [extremeOf, List.forall_mem_cons]
    split
    · next order compared =>
      obtain ⟨kind, isKind, isKind'⟩ := exists_compare_iff.mp ⟨order, compared⟩
      have next : (if order = wanted then candidate else best).orderKind? = best.orderKind? := by
        rw [isKind']
        split
        · exact isKind
        · exact isKind'
      rw [ih, next, and_iff_right ⟨kind, isKind', isKind⟩]
    · next notCompared =>
      refine iff_of_false ?_ ?_
      · rintro ⟨v, found⟩
        split at found <;> cases found
      · rintro ⟨⟨kind, isKind, isKind'⟩, -⟩
        obtain ⟨order, compared⟩ := exists_compare_iff.mpr ⟨kind, isKind', isKind⟩
        rw [notCompared] at compared
        cases compared

/-! ### Calls -/

/-- The values among which an extremum is looked for: the arguments, or the items of a single list. -/
def contenders : List Value → List Value
  | [list items] => items
  | args => args

theorem extreme_eq (args : List Value) :
    extreme function wanted args =
      match contenders args with
      | [] => .error (.noValues function)
      | first :: rest => extremeOf function wanted (contenders args) first rest := rfl

/-- Several values are of one kind if each of the others is of the kind of the first. -/
theorem exists_kind_cons_iff {first : Value} (several : rest ≠ []) :
    (∃ kind, ∀ contender ∈ first :: rest, contender.orderKind? = some kind) ↔
      ∀ other ∈ rest, ∃ kind, first.orderKind? = some kind ∧ other.orderKind? = some kind := by
  constructor
  · rintro ⟨kind, each⟩ other member
    exact ⟨kind, each first List.mem_cons_self, each other (List.mem_cons_of_mem _ member)⟩
  · intro each
    obtain ⟨second, member⟩ := List.exists_mem_of_ne_nil rest several
    obtain ⟨kind, isKind, -⟩ := each second member
    refine ⟨kind, List.forall_mem_cons.mpr ⟨isKind, fun other member => ?_⟩⟩
    obtain ⟨kind', isKind', otherKind⟩ := each other member
    cases isKind.symm.trans isKind'
    exact otherKind

theorem leadsFirst_singleton {kind : OrderKind} (isKind : a.orderKind? = some kind) :
    LeadsFirst wanted [a] a := by
  refine ⟨[], [], rfl, fun other member => ?_, nofun⟩
  rw [List.mem_singleton.mp member]
  exact .inr (compare_self isKind)

end Value

namespace Builtin

open Value (LeadsFirst contenders extreme)

variable {function : Builtin} {wanted : Ordering}

/-- The direction in which a function looks for an extremum. -/
def direction? : Builtin → Option Ordering
  | .max => some .gt
  | .min => some .lt
  | _ => none

theorem call_of_direction? [Engines] (looks : function.direction? = some wanted) (args : List Value) :
    wanted ≠ .eq ∧ function.call args = extreme function wanted args := by
  cases function with
  | max | min =>
    cases looks
    exact ⟨nofun, rfl⟩
  | _ => cases looks

/-- What `max` or `min` finds among two or more values is the first of them that is compared with all of
them and is never behind. They fail if there is no value at all, and besides exactly if there are two or
more values that are not all of one kind: all booleans, strings, bytes, timestamps or durations, or all
numbers other than NaN. -/
theorem extremum_leads_first [Engines] (looks : function.direction? = some wanted) (args : List Value) :
    (∀ v, function.call args = .ok v → 2 ≤ (contenders args).length →
        LeadsFirst wanted (contenders args) v) ∧
      ((∃ cause, function.call args = .error cause) ↔ contenders args = [] ∨
        2 ≤ (contenders args).length ∧
          ¬∃ kind, ∀ contender ∈ contenders args, contender.orderKind? = some kind) := by
  obtain ⟨isDirection, isSearch⟩ := call_of_direction? looks args
  rw [isSearch, Value.extreme_eq]
  generalize contenders args = values
  match values with
  | [] => exact ⟨nofun, iff_of_true ⟨_, rfl⟩ (.inl rfl)⟩
  | [value] => exact ⟨fun _ _ two => by simp at two, iff_of_false nofun (by simp)⟩
  | first :: second :: rest =>
    have two : 2 ≤ (first :: second :: rest).length := by simp
    have several : second :: rest ≠ [] := nofun
    have finds := @Value.exists_extremeOf_iff wanted (second :: rest) (first :: second :: rest) first
      function
    rw [← Value.exists_kind_cons_iff several] at finds
    constructor
    · intro v found _
      obtain ⟨kind, each⟩ := finds.mp ⟨v, found⟩
      have alone : LeadsFirst wanted [first] first :=
        Value.leadsFirst_singleton (each first List.mem_cons_self)
      exact Value.leadsFirst_of_extremeOf isDirection alone found
    · rw [← finds]
      simp only [reduceCtorEq, false_or, two, true_and]
      cases Value.extremeOf function wanted (first :: second :: rest) first (second :: rest) with
      | ok v => exact iff_of_false nofun (not_not_intro ⟨v, rfl⟩)
      | error cause => exact iff_of_true ⟨cause, rfl⟩ nofun

/-- The least of numbers of three kinds is the first of two equal ones, and NaN has no place among them. -/
theorem extremum_leads_first_of_numbers :
    let one : Value := .double ⟨0x3FF0000000000000⟩
    let nan : Value := .double ⟨0x7FF8000000000000⟩
    LeadsFirst .lt [.uint 2, one, .int 1] one ∧
      ∃ cause, Builtin.max.call [.list [.uint 2, .int 1, nan]] = .error cause := by
  intro one nan
  have looksDown : Builtin.min.direction? = some .lt := rfl
  have looksUp : Builtin.max.direction? = some .gt := rfl
  have least := extremum_leads_first looksDown [.uint 2, one, .int 1]
  have greatest := extremum_leads_first looksUp [.list [.uint 2, .int 1, nan]]
  have found : Builtin.min.call [.uint 2, one, .int 1] = .ok one := by rfl
  refine ⟨least.1 one found (by decide), greatest.2.mpr (.inr ⟨by decide, ?_⟩)⟩
  rintro ⟨kind, each⟩
  have none : nan.orderKind? = none := by rfl
  have isKind := each nan (by simp [contenders])
  rw [none] at isKind
  cases isKind

end Builtin

end Cel
