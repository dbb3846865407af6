import Mathlib.Order.WithBot
import Cel.Eval.Operators
import Cel.Proofs.Value.Order

/-! # The order of numbers

Every number but NaN denotes a rational number or one of two infinities: an integer itself, a double what
its bits say. The operators on numbers of any kinds are the relations between what they denote, and NaN
stands in no relation. So numbers are totally ordered across their kinds.
-/

namespace Cel

/-- The rational numbers between two infinities. -/
abbrev ExtendedRat := WithBot (WithTop ℚ)

namespace Double

/-- The number that the bits of a double denote. NaN denotes none. -/
def number? (d : Double) : Option ExtendedRat :=
  match d.form with
  | .nan => none
  | .infinite negative => some (if negative then ⊥ else ⊤)
  | .finite negative significand exponent =>
    some ((signOf negative * (significand * 2 ^ exponent) : ℚ) : WithTop ℚ)

/-- An exact value among the rational numbers. -/
def Extended.number : Extended → ExtendedRat
  | .bottom => ⊥
  | .exact value => (value.toRat : WithTop ℚ)
  | .top => ⊤

theorem number?_eq (d : Double) : d.number? = d.extended?.map Extended.number := by
  cases form : d.form with
  | nan => simp [number?, extended?, form]
  | infinite negative => cases negative <;> simp [number?, extended?, form, Extended.number]
  | finite negative significand exponent =>
    obtain ⟨x, exact, value⟩ := exists_extended?_of_rat? (rat?_of_form form)
    rw [exact, Option.map_some, Extended.number, value]
    simp only [number?, form]

theorem Extended.compare_eq_cmp (x y : Extended) : x.compare y = cmp x.number y.number := by
  cases x with
  | bottom =>
    cases y with
    | bottom => exact (cmp_self_eq_eq _).symm
    | exact y => exact ((cmp_eq_lt_iff _ _).mpr (WithBot.bot_lt_coe _)).symm
    | top => exact ((cmp_eq_lt_iff _ _).mpr bot_lt_top).symm
  | exact x =>
    cases y with
    | bottom => exact ((cmp_eq_gt_iff _ _).mpr (WithBot.bot_lt_coe _)).symm
    | exact y =>
      have embedded : StrictMono fun q : ℚ => ((q : WithTop ℚ) : ExtendedRat) :=
        fun _ _ below => WithBot.coe_lt_coe.mpr (WithTop.coe_lt_coe.mpr below)
      rw [compare_exact]
      exact (embedded.cmp_map_eq _ _).symm
    | top => exact ((cmp_eq_lt_iff _ _).mpr (WithBot.coe_lt_coe.mpr (WithTop.coe_lt_top _))).symm
  | top =>
    cases y with
    | bottom => exact ((cmp_eq_gt_iff _ _).mpr bot_lt_top).symm
    | exact y => exact ((cmp_eq_gt_iff _ _).mpr (WithBot.coe_lt_coe.mpr (WithTop.coe_lt_top _))).symm
    | top => exact (cmp_self_eq_eq _).symm

end Double

/-- The relation between numbers that an operator stands for. -/
def BinaryOp.relation? : BinaryOp → Option (ExtendedRat → ExtendedRat → Prop)
  | .lt => some (· < ·)
  | .le => some (· ≤ ·)
  | .gt => some (· > ·)
  | .ge => some (· ≥ ·)
  | .eq => some (· = ·)
  | _ => none

namespace Value

/-- The number that a value denotes. NaN and values of other kinds denote none. -/
def number? : Value → Option ExtendedRat
  | int n => some ((n.toInt : ℚ) : WithTop ℚ)
  | uint n => some ((n.toNat : ℚ) : WithTop ℚ)
  | double d => d.number?
  | _ => none

/-- Whether an operator answers that two values are in its relation. -/
def Holds (op : BinaryOp) (a b : Value) : Prop := strict op a b = .ok (bool true)

variable {a b c : Value}

theorem number?_eq (a : Value) : a.number? = a.exactValue?.map Double.Extended.number := by
  cases a with
  | int n =>
    simp only [number?, exactValue?, Option.map_some, Double.Extended.number,
      Double.Extended.exact_ofInt_toRat]
  | uint n =>
    simp only [number?, exactValue?, Option.map_some, Double.Extended.number,
      Double.Extended.exact_ofInt_toRat, Int.cast_natCast]
  | double d => exact Double.number?_eq d
  | _ => rfl

theorem exists_number?_iff (numeric : a.isNumeric = true) : (∃ x, a.number? = some x) ↔ a.NotNaN := by
  cases a with
  | int n => exact iff_of_true ⟨_, rfl⟩ trivial
  | uint n => exact iff_of_true ⟨_, rfl⟩ trivial
  | double d =>
    rw [number?_eq, ← Option.isSome_iff_exists, Option.isSome_map, Option.isSome_iff_ne_none, exactValue?,
      ne_eq, Double.extended?_eq_none_iff, Bool.not_eq_true]
    exact Iff.rfl
  | _ => cases numeric

theorem compareNumbers_eq_cmp (a b : Value) :
    compareNumbers a b = (do return cmp (← a.number?) (← b.number?)) := by
  rw [compareNumbers_eq, number?_eq, number?_eq]
  cases a.exactValue? with
  | none => rfl
  | some x =>
    cases b.exactValue? with
    | none => rfl
    | some y => exact congrArg some (x.compare_eq_cmp y)

theorem compareNumbers_eq_none_iff :
    compareNumbers a b = none ↔ a.number? = none ∨ b.number? = none := by
  rw [compareNumbers_eq_cmp]
  cases a.number? with
  | none => exact iff_of_true rfl (.inl rfl)
  | some x =>
    cases b.number? with
    | none => exact iff_of_true rfl (.inr rfl)
    | some y =>
      exact iff_of_false (Option.some_ne_none _)
        (not_or.mpr ⟨Option.some_ne_none _, Option.some_ne_none _⟩)

theorem compare_of_isNumeric (numeric : a.isNumeric = true) : a.compare b = compareNumbers a b := by
  cases a with
  | int | uint | double => rfl
  | _ => cases numeric

theorem equal_of_isNumeric (numeric : a.isNumeric = true) :
    a.equal b = (compareNumbers a b == some .eq) := by
  cases a with
  | int | uint | double => simp [equal]
  | _ => cases numeric

theorem ifKnown_of_isNumeric (numeric : a.isNumeric = true) (numeric' : b.isNumeric = true)
    (result : Except EvalError.Cause Value) : ifKnown [a, b] result = result := by
  cases a with
  | int | uint | double =>
    cases b with
    | int | uint | double => rfl
    | _ => cases numeric'
  | _ => cases numeric

theorem relate_of_isNumeric (op : BinaryOp) (holds : Ordering → Bool) (numeric : a.isNumeric = true)
    (numeric' : b.isNumeric = true) :
    relate op holds a b = .ok (bool ((compareNumbers a b).any holds)) := by
  rw [relate, compare_of_isNumeric numeric]
  cases compareNumbers a b with
  | some order => rfl
  | none => simp [numeric, numeric']

/-! ### Operators as relations -/

/-- An operator on numbers tests their order, and the test is its relation. -/
theorem exists_test {op : BinaryOp} {relation : ExtendedRat → ExtendedRat → Prop}
    (stands : op.relation? = some relation) (numeric : a.isNumeric = true)
    (numeric' : b.isNumeric = true) :
    ∃ test : Ordering → Bool, (∀ x y, test (cmp x y) = true ↔ relation x y) ∧
      strict op a b = .ok (bool ((compareNumbers a b).any test)) := by
  have known (result : Except EvalError.Cause Value) : ifKnown [a, b] result = result :=
    ifKnown_of_isNumeric numeric numeric' result
  cases op with
  | lt =>
    cases stands
    refine ⟨Ordering.isLT, fun x y => ?_, ?_⟩
    · rw [Ordering.isLT_iff_eq_lt, cmp_eq_lt_iff]
    · exact (known _).trans (relate_of_isNumeric _ _ numeric numeric')
  | le =>
    cases stands
    refine ⟨Ordering.isLE, cmp_isLE_iff, ?_⟩
    exact (known _).trans (relate_of_isNumeric _ _ numeric numeric')
  | gt =>
    cases stands
    refine ⟨Ordering.isGT, fun x y => ?_, ?_⟩
    · rw [Ordering.isGT_iff_eq_gt, cmp_eq_gt_iff]
    · exact (known _).trans (relate_of_isNumeric _ _ numeric numeric')
  | ge =>
    cases stands
    refine ⟨Ordering.isGE, cmp_isGE_iff, ?_⟩
    exact (known _).trans (relate_of_isNumeric _ _ numeric numeric')
  | eq =>
    cases stands
    refine ⟨(· == .eq), fun x y => ?_, ?_⟩
    · rw [beq_iff_eq, cmp_eq_eq_iff]
    · refine (known _).trans ?_
      rw [equal_of_isNumeric numeric]
      cases compareNumbers a b <;> rfl
  | _ => cases stands

/-- An operator on numbers answers whether its relation holds between what they denote. -/
theorem strict_of_relation? {op : BinaryOp} {relation : ExtendedRat → ExtendedRat → Prop}
    (stands : op.relation? = some relation) (numeric : a.isNumeric = true)
    (numeric' : b.isNumeric = true) :
    ∃ holds, strict op a b = .ok (bool holds) ∧
      (holds = true ↔ ∃ x y, a.number? = some x ∧ b.number? = some y ∧ relation x y) := by
  obtain ⟨test, isRelation, computed⟩ := exists_test stands numeric numeric'
  refine ⟨_, computed, ?_⟩
  rw [compareNumbers_eq_cmp]
  cases a.number? with
  | none => exact iff_of_false Bool.false_ne_true (by rintro ⟨x, y, ⟨⟩, -⟩)
  | some x =>
    cases b.number? with
    | none => exact iff_of_false Bool.false_ne_true (by rintro ⟨x, y, -, ⟨⟩, -⟩)
    | some y =>
      refine (isRelation x y).trans ⟨fun related => ⟨x, y, rfl, rfl, related⟩, ?_⟩
      rintro ⟨x, y, ⟨⟩, ⟨⟩, related⟩
      exact related

theorem holds_iff {op : BinaryOp} {relation : ExtendedRat → ExtendedRat → Prop}
    (stands : op.relation? = some relation) (numeric : a.isNumeric = true)
    (numeric' : b.isNumeric = true) :
    Holds op a b ↔ ∃ x y, a.number? = some x ∧ b.number? = some y ∧ relation x y := by
  obtain ⟨holds, computed, isRelation⟩ := strict_of_relation? stands numeric numeric'
  rw [Holds, computed, ← isRelation]
  simp

/-- All the relations are transitive. -/
theorem relation?_trans {op : BinaryOp} {relation : ExtendedRat → ExtendedRat → Prop}
    (stands : op.relation? = some relation) {x y z : ExtendedRat} (first : relation x y)
    (second : relation y z) : relation x z := by
  cases op with
  | lt =>
    cases stands
    exact lt_trans first second
  | le =>
    cases stands
    exact le_trans first second
  | gt =>
    cases stands
    exact lt_trans second first
  | ge =>
    cases stands
    exact le_trans second first
  | eq =>
    cases stands
    exact first.trans second
  | _ => cases stands

/-- Numbers are compared by the numbers that they denote, exactly and across their kinds, and only NaN
cannot be compared. The operators on them are the relations of a total order. -/
theorem numbers_totally_ordered (numeric : a.isNumeric = true) (numeric' : b.isNumeric = true)
    (numeric'' : c.isNumeric = true) :
    (compareNumbers a b = none ↔ ¬a.NotNaN ∨ ¬b.NotNaN) ∧
      (a.NotNaN → b.NotNaN → ∃ x y, a.number? = some x ∧ b.number? = some y ∧
        compareNumbers a b = some (cmp x y)) ∧
      (∀ op relation, op.relation? = some relation →
        (∃ holds, strict op a b = .ok (bool holds) ∧
          (holds = true ↔ ∃ x y, a.number? = some x ∧ b.number? = some y ∧ relation x y)) ∧
        (Holds op a b → Holds op b c → Holds op a c)) ∧
      (a.NotNaN → b.NotNaN → (Holds .le a b ∨ Holds .le b a) ∧
        (Holds .le a b → Holds .le b a → Holds .eq a b)) := by
  have number : a.NotNaN → b.NotNaN → ∃ x y, a.number? = some x ∧ b.number? = some y := by
    intro notNaN notNaN'
    obtain ⟨x, left⟩ := (exists_number?_iff numeric).mpr notNaN
    obtain ⟨y, right⟩ := (exists_number?_iff numeric').mpr notNaN'
    exact ⟨x, y, left, right⟩
  refine ⟨?_, ?_, ?_, ?_⟩
  · rw [compareNumbers_eq_none_iff, ← exists_number?_iff numeric, ← exists_number?_iff numeric',
      ← Option.isSome_iff_exists, ← Option.isSome_iff_exists, Option.not_isSome_iff_eq_none,
      Option.not_isSome_iff_eq_none]
  · intro notNaN notNaN'
    obtain ⟨x, y, left, right⟩ := number notNaN notNaN'
    refine ⟨x, y, left, right, ?_⟩
    rw [compareNumbers_eq_cmp, left, right]
    rfl
  · intro op relation stands
    refine ⟨strict_of_relation? stands numeric numeric', ?_⟩
    rw [holds_iff stands numeric numeric', holds_iff stands numeric' numeric'',
      holds_iff stands numeric numeric'']
    rintro ⟨x, y, left, middle, first⟩ ⟨y', z, middle', right, second⟩
    cases middle.symm.trans middle'
    exact ⟨x, z, left, right, relation?_trans stands first second⟩
  · intro notNaN notNaN'
    obtain ⟨x, y, left, right⟩ := number notNaN notNaN'
    have atMost : BinaryOp.relation? .le = some (· ≤ ·) := rfl
    have same : BinaryOp.relation? .eq = some (· = ·) := rfl
    rw [holds_iff atMost numeric numeric', holds_iff atMost numeric' numeric,
      holds_iff same numeric numeric']
    constructor
    · rcases le_total x y with below | above
      · exact .inl ⟨x, y, left, right, below⟩
      · exact .inr ⟨y, x, right, left, above⟩
    · rintro ⟨x, y, left, right, below⟩ ⟨y', x', right', left', above⟩
      cases left.symm.trans left'
      cases right.symm.trans right'
      exact ⟨x, y, left, right, le_antisymm below above⟩

/-- From the largest integer through the double next to it, which is `2 ^ 63`, to an unsigned integer that
no double represents. -/
theorem numbers_totally_ordered_of_mixed_kinds :
    let largest := int 0x7FFFFFFFFFFFFFFF
    let power := double ⟨0x43E0000000000000⟩
    let unsigned := uint 0x8000000000000001
    Holds .lt largest power ∧ Holds .lt power unsigned ∧ Holds .lt largest unsigned ∧
      compareNumbers largest power = some .lt ∧ largest.NotNaN ∧ power.NotNaN := by
  intro largest power unsigned
  have first : Holds .lt largest power := rfl
  have second : Holds .lt power unsigned := rfl
  have ordered := numbers_totally_ordered (a := largest) (b := power) (c := unsigned) rfl rfl rfl
  refine ⟨first, second, (ordered.2.2.1 .lt _ rfl).2 first second, ?_, trivial, rfl⟩
  decide +kernel

end Value

end Cel
