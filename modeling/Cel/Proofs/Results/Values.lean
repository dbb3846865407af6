import Cel.Proofs.Results

/-! # What operations on values give

Most operations on values give sound values without parts. Concatenation, selection, indexing and the
functions `dyn`, `max` and `min` pass on what they are given, and so do conversions of a time to
itself.
-/

namespace Cel

open EvalError (Cause)

namespace Value

/-! ### New values -/

@[simp] theorem mismatch_givesOnly {α : Type} (allowed : α → Prop) (operation : Operation)
    (operands : List Value) :
    GivesOnly allowed (mismatch operation operands : Except Cause α) :=
  GivesOnly.error

@[simp] theorem refuse_givesOnly (allowed : Value → Prop) (function : Builtin) (args : List Value) :
    GivesOnly allowed (refuse function args) :=
  GivesOnly.error

@[simp] theorem unconvertible_givesOnly (allowed : Value → Prop) (value : Value)
    (target : Builtin) : GivesOnly allowed (unconvertible value target) :=
  GivesOnly.error

@[simp] theorem signed_givesOnly (what : Overflow) (n : Int) : GivesOnly Atomic (signed what n) := by
  unfold signed
  split <;> simp

@[simp] theorem unsigned_givesOnly (what : Overflow) (n : Int) :
    GivesOnly Atomic (unsigned what n) := by
  unfold unsigned
  split <;> simp

/-- A timestamp that is computed is canonical. -/
@[simp] theorem timestampOf_givesOnly (total : Int) : GivesOnly Atomic (timestampOf total) := by
  unfold timestampOf
  split
  · next found =>
    exact GivesOnly.ok_iff.mpr (atomic_timestamp (Timestamp.canonical_of_ofTotal? found))
  · exact GivesOnly.error

/-- A duration that is computed is canonical. -/
@[simp] theorem durationOf_givesOnly (total : Int) : GivesOnly Atomic (durationOf total) := by
  unfold durationOf
  split
  · next found =>
    exact GivesOnly.ok_iff.mpr (atomic_duration (Duration.canonical_of_ofTotal? found))
  · exact GivesOnly.error

@[simp] theorem promoted_givesOnly (op : BinaryOp) (compute : Double → Double → Double)
    (a b : Value) : GivesOnly Atomic (promoted op compute a b) := by
  unfold promoted
  split
  · split <;> simp
  · split <;> simp
  · simp

theorem sub_givesOnly (a b : Value) : GivesOnly Atomic (a.sub b) := by
  unfold sub
  split <;> simp

theorem mul_givesOnly (a b : Value) : GivesOnly Atomic (a.mul b) := by
  unfold mul
  split <;> simp

theorem div_givesOnly (a b : Value) : GivesOnly Atomic (a.div b) := by
  unfold div
  split
  · split <;> simp
  · split <;> simp
  · simp

theorem mod_givesOnly (a b : Value) : GivesOnly Atomic (a.mod b) := by
  unfold mod
  split
  · split
    · simp
    · split <;> simp
  · split <;> simp
  · simp

theorem relate_givesOnly (op : BinaryOp) (holds : Ordering → Bool) (a b : Value) :
    GivesOnly Atomic (relate op holds a b) := by
  unfold relate
  split
  · simp
  · split <;> simp

theorem isIn_givesOnly (element container : Value) : GivesOnly Atomic (element.isIn container) := by
  unfold isIn
  split <;> simp

theorem size_givesOnly (value : Value) : GivesOnly Atomic value.size := by
  unfold size
  split <;> simp

theorem testText_givesOnly (function : Builtin) (test : List Char → List Char → Bool)
    (a b : Value) : GivesOnly Atomic (testText function test a b) := by
  unfold testText
  split <;> simp

theorem testPattern_givesOnly (target : Value) (pattern : Regex) :
    GivesOnly Atomic (target.testPattern pattern) := by
  unfold testPattern
  split <;> simp

theorem matches_givesOnly [Engines] (target pattern : Value) :
    GivesOnly Atomic (target.matches pattern) := by
  unfold «matches»
  split
  · split
    · exact testPattern_givesOnly target _
    · simp
  · simp

@[simp] theorem converted_givesOnly {α : Type} {make : α → Value} (each : ∀ a, Atomic (make a))
    (value : Value) (target : Builtin) (found : Option α) :
    GivesOnly Atomic (converted value target make found) := by
  cases found <;> simp [converted, each]

theorem toInt_givesOnly (value : Value) : GivesOnly Atomic value.toInt := by
  unfold toInt
  split <;> simp

theorem toUint_givesOnly (value : Value) : GivesOnly Atomic value.toUint := by
  unfold toUint
  split <;> simp

theorem toDouble_givesOnly (value : Value) : GivesOnly Atomic value.toDouble := by
  unfold toDouble
  split <;> simp

theorem toString_givesOnly (value : Value) : GivesOnly Atomic value.toString := by
  unfold toString
  split <;> simp

theorem toBool_givesOnly (value : Value) : GivesOnly Atomic value.toBool := by
  unfold toBool
  split
  · simp
  · split
    · simp
    · split <;> simp
  · simp

theorem toBytes_givesOnly (value : Value) : GivesOnly Atomic value.toBytes := by
  unfold toBytes
  split <;> simp

@[simp] theorem partOf_givesOnly (component : Time.Component) (clock : Option Time.Clock) :
    GivesOnly Atomic (partOf component clock) := by
  unfold partOf
  split <;> simp

theorem timestampPart_givesOnly [Engines] (function : Builtin) (component : Time.Component)
    (args : List Value) : GivesOnly Atomic (timestampPart function component args) := by
  refine GivesOnly.bind_of_forall fun value => ?_
  split
  · simp
  · split <;> simp
  · simp

theorem timePart_givesOnly [Engines] (function : Builtin) (component : Time.Component) (unit : Int)
    (args : List Value) : GivesOnly Atomic (timePart function component unit args) := by
  refine GivesOnly.bind_of_forall fun value => ?_
  split
  · simp
  · exact timestampPart_givesOnly function component args

end Value

/-! ### Values that are passed on -/

namespace Kept

open Value (Everywhere Keeps)

variable {p : Value → Prop} {q : Names → Prop} (kept : Kept p q)

include kept

theorem everywhere_givesOnly {result : Except Cause Value} (new : GivesOnly Value.Atomic result) :
    GivesOnly (Everywhere p) result :=
  new.mono fun _ => kept.everywhere_atomic

theorem add_givesOnly {a b : Value} (left : Everywhere p a) (right : Everywhere p b) :
    GivesOnly (Everywhere p) (a.add b) := by
  unfold Value.add
  split
  · exact kept.everywhere_givesOnly (Value.signed_givesOnly _ _)
  · exact kept.everywhere_givesOnly (Value.unsigned_givesOnly _ _)
  · exact GivesOnly.ok_iff.mpr (kept.everywhere_atomic (Value.atomic_string _))
  · exact GivesOnly.ok_iff.mpr (kept.everywhere_atomic (Value.atomic_bytes _))
  · next items items' =>
    refine GivesOnly.ok_iff.mpr (.intro (kept.ofSound rfl trivial) fun item member => ?_)
    exact (List.mem_append.mp member).elim (left.inside item) (right.inside item)
  · exact kept.everywhere_givesOnly (Value.timestampOf_givesOnly _)
  · exact kept.everywhere_givesOnly (Value.timestampOf_givesOnly _)
  · exact kept.everywhere_givesOnly (Value.durationOf_givesOnly _)
  · exact kept.everywhere_givesOnly (Value.promoted_givesOnly _ _ _ _)

theorem strict_givesOnly (op : BinaryOp) {a b : Value} (left : a.Keeps p q)
    (right : b.Keeps p q) : GivesOnly (Keeps p q) (Value.strict op a b) := by
  have each : ∀ value ∈ [a, b], value.Keeps p q := by
    rintro value member
    rcases List.mem_pair.mp member with rfl | rfl
    · exact left
    · exact right
  refine kept.ifKnown_givesOnly each fun known => ?_
  have left : Everywhere p a := known a (by simp)
  have right : Everywhere p b := known b (by simp)
  cases op with
  | add => exact kept.add_givesOnly left right
  | sub => exact kept.everywhere_givesOnly (Value.sub_givesOnly a b)
  | mul => exact kept.everywhere_givesOnly (Value.mul_givesOnly a b)
  | div => exact kept.everywhere_givesOnly (Value.div_givesOnly a b)
  | mod => exact kept.everywhere_givesOnly (Value.mod_givesOnly a b)
  | eq | ne => exact GivesOnly.ok_iff.mpr (kept.everywhere_atomic (Value.atomic_bool _))
  | lt | le | gt | ge => exact kept.everywhere_givesOnly (Value.relate_givesOnly _ _ a b)
  | «in» => exact kept.everywhere_givesOnly (Value.isIn_givesOnly a b)
  | and | or => exact GivesOnly.error

theorem unary_givesOnly (op : UnaryOp) {a : Value} (operand : a.Keeps p q) :
    GivesOnly (Keeps p q) (a.unary op) := by
  have new {result : Except Cause Value} (givesOnly : GivesOnly Value.Atomic result) :
      GivesOnly (Keeps p q) result := givesOnly.mono fun _ => kept.keeps_atomic
  unfold Value.unary
  split
  · exact GivesOnly.ok_iff.mpr operand
  · exact new (by simp)
  · exact new (by simp)
  · exact new (by simp)
  · exact new (by simp)
  · exact GivesOnly.error

theorem select_givesOnly (field : String) {value : Value} (operand : value.Keeps p q) :
    GivesOnly (Keeps p q) (value.select field) := by
  unfold Value.select
  split
  · split
    · next entries value found =>
      obtain ⟨stored, member⟩ := Entries.mem_of_find? found
      have inside := operand.inside value (List.mem_map.mpr ⟨_, member, rfl⟩)
      exact GivesOnly.ok_iff.mpr (kept.keeps inside)
    · exact GivesOnly.error
  · split
    · next fields value found =>
      obtain ⟨stored, member⟩ := Entries.mem_of_find? found
      have inside := operand.inside value (List.mem_map.mpr ⟨_, member, rfl⟩)
      exact GivesOnly.ok_iff.mpr (kept.keeps inside)
    · exact GivesOnly.error
  · exact GivesOnly.ok_iff.mpr operand
  · exact GivesOnly.error

theorem has_givesOnly (field : String) {value : Value} (operand : value.Keeps p q) :
    GivesOnly (Keeps p q) (value.has field) := by
  unfold Value.has
  split
  · exact GivesOnly.ok_iff.mpr (kept.keeps_atomic (Value.atomic_bool _))
  · exact GivesOnly.ok_iff.mpr (kept.keeps_atomic (Value.atomic_bool _))
  · exact GivesOnly.ok_iff.mpr operand
  · exact GivesOnly.error

theorem index_givesOnly {container position : Value} (operand : container.Keeps p q)
    (atKept : position.Keeps p q) : GivesOnly (Keeps p q) (container.index position) := by
  have each : ∀ value ∈ [container, position], value.Keeps p q := by
    rintro value member
    rcases List.mem_pair.mp member with rfl | rfl
    · exact operand
    · exact atKept
  refine kept.ifKnown_givesOnly each fun known => ?_
  have inside := (known container (by simp)).inside
  split
  · next items =>
    split
    · next n _ =>
      split
      · next value found =>
        unfold Value.element? at found
        split at found
        · exact GivesOnly.ok_iff.mpr (inside value (List.mem_of_getElem? found))
        · cases found
      · exact GivesOnly.error
    · exact GivesOnly.error
  · next entries =>
    split
    · next value found =>
      obtain ⟨candidate, -, here⟩ := List.exists_of_findSome?_eq_some found
      obtain ⟨stored, member⟩ := Entries.mem_of_find? here
      exact GivesOnly.ok_iff.mpr (inside value (List.mem_map.mpr ⟨_, member, rfl⟩))
    · exact GivesOnly.error
  · exact GivesOnly.error

/-! ### Functions -/

omit kept in
theorem argument_givesOnly {args : List Value} (each : ∀ arg ∈ args, Everywhere p arg)
    (position : Nat) : GivesOnly (Everywhere p) (Value.argument args position) := by
  unfold Value.argument
  split
  · next value found => exact GivesOnly.ok_iff.mpr (each value (List.mem_of_getElem? found))
  · exact GivesOnly.error

omit kept in
theorem extremeOf_givesOnly (function : Builtin) (wanted : Ordering) (all : List Value)
    {best : Value} {rest : List Value} (bestKept : Everywhere p best)
    (each : ∀ value ∈ rest, Everywhere p value) :
    GivesOnly (Everywhere p) (Value.extremeOf function wanted all best rest) := by
  induction rest generalizing best with
  | nil => exact GivesOnly.ok_iff.mpr bestKept
  | cons candidate rest ih =>
    obtain ⟨head, tail⟩ := List.forall_mem_cons.mp each
    unfold Value.extremeOf
    split
    · next order _ =>
      refine ih ?_ tail
      split
      · exact head
      · exact bestKept
    · split
      · exact GivesOnly.error
      · exact GivesOnly.error

omit kept in
/-- The greatest and the least value are among those given, or among the items of a given list. -/
theorem extreme_givesOnly (function : Builtin) (wanted : Ordering) {args : List Value}
    (each : ∀ arg ∈ args, Everywhere p arg) :
    GivesOnly (Everywhere p) (Value.extreme function wanted args) := by
  unfold Value.extreme
  simp only
  split
  · exact GivesOnly.error
  · next first rest same =>
    have candidates : ∀ value ∈ first :: rest, Everywhere p value := by
      rw [← same]
      split
      · exact (each _ List.mem_cons_self).inside
      · exact each
    obtain ⟨head, tail⟩ := List.forall_mem_cons.mp candidates
    exact extremeOf_givesOnly function wanted _ head tail

theorem toTimestamp_givesOnly {value : Value} (operand : Everywhere p value) :
    GivesOnly (Everywhere p) value.toTimestamp := by
  unfold Value.toTimestamp
  split
  · exact GivesOnly.ok_iff.mpr operand
  · split
    · next denoted =>
      have canonical := Timestamp.canonical_of_read denoted
      exact GivesOnly.ok_iff.mpr (kept.everywhere_atomic (Value.atomic_timestamp canonical))
    · exact GivesOnly.error
  · simp only
    split
    · next valid =>
      have canonical := Timestamp.canonical_of_isValid valid
      exact GivesOnly.ok_iff.mpr (kept.everywhere_atomic (Value.atomic_timestamp canonical))
    · exact GivesOnly.error
  · exact GivesOnly.error

theorem toDuration_givesOnly {value : Value} (operand : Everywhere p value) :
    GivesOnly (Everywhere p) value.toDuration := by
  unfold Value.toDuration
  split
  · exact GivesOnly.ok_iff.mpr operand
  · split
    · next denoted =>
      have canonical := Duration.canonical_of_read denoted
      exact GivesOnly.ok_iff.mpr (kept.everywhere_atomic (Value.atomic_duration canonical))
    · exact GivesOnly.error
  · exact GivesOnly.error

theorem call_givesOnly [Engines] (function : Builtin) {args : List Value}
    (each : ∀ arg ∈ args, Everywhere p arg) :
    GivesOnly (Everywhere p) (function.call args) := by
  have first := argument_givesOnly each 0
  have new {next : Value → Except Cause Value} (ofNext : ∀ value, GivesOnly Value.Atomic (next value)) :
      GivesOnly (Everywhere p) (Value.argument args 0 >>= next) :=
    .bind_of_forall fun value => kept.everywhere_givesOnly (ofNext value)
  cases function with
  | size => exact new Value.size_givesOnly
  | contains | startsWith | endsWith =>
    exact new fun a => .bind_of_forall fun b => Value.testText_givesOnly _ _ a b
  | «matches» => exact GivesOnly.error
  | max | min => exact extreme_givesOnly _ _ each
  | int => exact new Value.toInt_givesOnly
  | uint => exact new Value.toUint_givesOnly
  | double => exact new Value.toDouble_givesOnly
  | string => exact new Value.toString_givesOnly
  | bool => exact new Value.toBool_givesOnly
  | bytes => exact new Value.toBytes_givesOnly
  | timestamp => exact first.bind fun value isKept => kept.toTimestamp_givesOnly isKept
  | duration => exact first.bind fun value isKept => kept.toDuration_givesOnly isKept
  | dyn => exact first
  | getFullYear | getMonth | getDayOfYear | getDayOfMonth | getDate | getDayOfWeek =>
    exact kept.everywhere_givesOnly (Value.timestampPart_givesOnly _ _ args)
  | getHours | getMinutes | getSeconds | getMilliseconds =>
    exact kept.everywhere_givesOnly (Value.timePart_givesOnly _ _ _ args)

end Kept

end Cel
