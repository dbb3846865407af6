import Cel.Proofs.Failures
import Cel.Proofs.Value.Sound

/-! # What operations on values fail with

No operation on values fails for an internal reason, if a strict operator is neither `&&` nor `||` and
a function gets as many arguments as its declaration admits. The failures of nearly all operations
mention only values without parts, and those of an index besides such values only the index.
-/

namespace Cel

open EvalError (Cause)

/-- Whether a failure has a reason that an expression may have, and not an internal one. -/
def EvalError.Cause.NotInternal (cause : Cause) : Prop := cause.kind ≠ .internal

/-- The values that a failure mentions. -/
def EvalError.Cause.values : Cause → List Value
  | indexOutOfBounds index _ => [index]
  | keyNotFound key | repeatedKey key => [key]
  | conversion value _ => [value]
  | _ => []

/-- Whether a failure is not internal, and the values that it mentions have no parts, or else have a
property. -/
def EvalError.Cause.Mentions (property : Value → Prop) (cause : Cause) : Prop :=
  cause.NotInternal ∧ ∀ value ∈ cause.values, value.Atomic ∨ property value

/-- Whether a failure is not internal, and mentions only values without parts. -/
abbrev EvalError.Cause.Ordinary (cause : Cause) : Prop := cause.Mentions fun _ => False

theorem EvalError.Cause.Mentions.mono {p q : Value → Prop} {cause : Cause}
    (mentions : cause.Mentions p) (implies : ∀ value, p value → q value) : cause.Mentions q :=
  ⟨mentions.1, fun value member => (mentions.2 value member).imp_right (implies value)⟩

theorem EvalError.Cause.Ordinary.mentions {property : Value → Prop} {cause : Cause}
    (ordinary : cause.Ordinary) : cause.Mentions property :=
  Mentions.mono ordinary fun _ => False.elim

namespace Value

open EvalError.Cause (NotInternal Ordinary Mentions)

/-! ### Operators -/

@[simp] theorem mismatch_failsOnly {α : Type} (operation : Operation) (operands : List Value) :
    FailsOnly Ordinary (mismatch operation operands : Except Cause α) := by
  simp [mismatch, Mentions, NotInternal, Cause.kind, Cause.values]

@[simp] theorem signed_failsOnly (what : Overflow) (n : Int) : FailsOnly Ordinary (signed what n) := by
  unfold signed
  split <;> simp [Mentions, NotInternal, Cause.kind, Cause.values]

@[simp] theorem unsigned_failsOnly (what : Overflow) (n : Int) :
    FailsOnly Ordinary (unsigned what n) := by
  unfold unsigned
  split <;> simp [Mentions, NotInternal, Cause.kind, Cause.values]

@[simp] theorem timestampOf_failsOnly (total : Int) : FailsOnly Ordinary (timestampOf total) := by
  unfold timestampOf
  split <;> simp [Mentions, NotInternal, Cause.kind, Cause.values]

@[simp] theorem durationOf_failsOnly (total : Int) : FailsOnly Ordinary (durationOf total) := by
  unfold durationOf
  split <;> simp [Mentions, NotInternal, Cause.kind, Cause.values]

@[simp] theorem promoted_failsOnly (op : BinaryOp) (compute : Double → Double → Double)
    (a b : Value) : FailsOnly Ordinary (promoted op compute a b) := by
  unfold promoted
  split
  · split <;> simp
  · split <;> simp
  · simp

theorem add_failsOnly (a b : Value) : FailsOnly Ordinary (a.add b) := by
  unfold add
  split <;> simp

theorem sub_failsOnly (a b : Value) : FailsOnly Ordinary (a.sub b) := by
  unfold sub
  split <;> simp

theorem mul_failsOnly (a b : Value) : FailsOnly Ordinary (a.mul b) := by
  unfold mul
  split <;> simp

theorem div_failsOnly (a b : Value) : FailsOnly Ordinary (a.div b) := by
  unfold div
  split
  · split <;> simp [Mentions, NotInternal, Cause.kind, Cause.values]
  · split <;> simp [Mentions, NotInternal, Cause.kind, Cause.values]
  · simp

theorem mod_failsOnly (a b : Value) : FailsOnly Ordinary (a.mod b) := by
  unfold mod
  split
  · split
    · simp [Mentions, NotInternal, Cause.kind, Cause.values]
    · split <;> simp [Mentions, NotInternal, Cause.kind, Cause.values]
  · split <;> simp [Mentions, NotInternal, Cause.kind, Cause.values]
  · simp

theorem relate_failsOnly (op : BinaryOp) (holds : Ordering → Bool) (a b : Value) :
    FailsOnly Ordinary (relate op holds a b) := by
  unfold relate
  split
  · simp
  · split <;> simp

theorem isIn_failsOnly (element container : Value) : FailsOnly Ordinary (element.isIn container) := by
  unfold isIn
  split <;> simp

theorem ifKnown_failsOnly {allowed : Cause → Prop} {operands : List Value}
    {result : Except Cause Value}
    (failsOnly : (∀ operand ∈ operands, operand.Known) → FailsOnly allowed result) :
    FailsOnly allowed (ifKnown operands result) := by
  unfold ifKnown
  split
  · exact FailsOnly.ok
  · next none => exact failsOnly (unknowns?_eq_none_iff.mp none)

theorem strict_failsOnly {op : BinaryOp} (notAnd : op ≠ .and) (notOr : op ≠ .or) (a b : Value) :
    FailsOnly Ordinary (strict op a b) := by
  refine ifKnown_failsOnly fun _ => ?_
  cases op with
  | add => exact add_failsOnly a b
  | sub => exact sub_failsOnly a b
  | mul => exact mul_failsOnly a b
  | div => exact div_failsOnly a b
  | mod => exact mod_failsOnly a b
  | eq | ne => exact FailsOnly.ok
  | lt | le | gt | ge => exact relate_failsOnly _ _ a b
  | «in» => exact isIn_failsOnly a b
  | and => exact absurd rfl notAnd
  | or => exact absurd rfl notOr

theorem unary_failsOnly (op : UnaryOp) (a : Value) : FailsOnly Ordinary (a.unary op) := by
  unfold unary
  split <;> simp

/-! ### Fields and elements -/

theorem select_failsOnly (field : String) (value : Value) :
    FailsOnly Ordinary (value.select field) := by
  unfold select
  split
  · split <;> simp [Mentions, NotInternal, Cause.kind, Cause.values]
  · split <;> simp [Mentions, NotInternal, Cause.kind, Cause.values]
  · simp
  · simp

theorem has_failsOnly (field : String) (value : Value) : FailsOnly Ordinary (value.has field) := by
  unfold has
  split <;> simp

/-- An index that finds nothing is known, and the failure mentions it. -/
theorem index_failsOnly (container position : Value) :
    FailsOnly (Mentions fun value => value.Known ∧ value = position)
      (container.index position) := by
  refine ifKnown_failsOnly fun known => ?_
  have known : position.Known := known position (by simp)
  split
  · split
    · split <;> simp [Mentions, NotInternal, Cause.kind, Cause.values, known]
    · simp [mismatch, Mentions, NotInternal, Cause.kind, Cause.values]
  · split <;> simp [Mentions, NotInternal, Cause.kind, Cause.values, known]
  · simp [mismatch, Mentions, NotInternal, Cause.kind, Cause.values]

/-! ### Functions -/

theorem argument_failsOnly {args : List Value} {position : Nat} (inRange : position < args.length) :
    FailsOnly Ordinary (argument args position) := by
  unfold argument
  rw [List.getElem?_eq_getElem inRange]
  exact FailsOnly.ok

@[simp] theorem refuse_failsOnly (function : Builtin) (args : List Value) :
    FailsOnly Ordinary (refuse function args) :=
  mismatch_failsOnly _ _

@[simp] theorem unconvertible_failsOnly {value : Value} (atomic : value.Atomic) (target : Builtin) :
    FailsOnly Ordinary (unconvertible value target) := by
  simp [unconvertible, Mentions, NotInternal, Cause.kind, Cause.values, atomic]

@[simp] theorem converted_failsOnly {α : Type} {value : Value} (atomic : value.Atomic)
    (target : Builtin) (make : α → Value) (found : Option α) :
    FailsOnly Ordinary (converted value target make found) := by
  cases found <;> simp [converted, atomic]

theorem size_failsOnly (value : Value) : FailsOnly Ordinary value.size := by
  unfold size
  split <;> simp

theorem testText_failsOnly (function : Builtin) (test : List Char → List Char → Bool)
    (a b : Value) : FailsOnly Ordinary (testText function test a b) := by
  unfold testText
  split <;> simp

theorem testPattern_failsOnly (target : Value) (pattern : Regex) :
    FailsOnly Ordinary (target.testPattern pattern) := by
  unfold testPattern
  split <;> simp

theorem matches_failsOnly [Engines] (target pattern : Value) :
    FailsOnly Ordinary (target.matches pattern) := by
  unfold «matches»
  split
  · split
    · exact testPattern_failsOnly target _
    · simp [Mentions, NotInternal, Cause.kind, Cause.values]
  · simp

theorem extremeOf_failsOnly (function : Builtin) (wanted : Ordering) (all : List Value)
    (best : Value) (rest : List Value) :
    FailsOnly Ordinary (extremeOf function wanted all best rest) := by
  induction rest generalizing best with
  | nil => exact FailsOnly.ok
  | cons candidate rest ih =>
    unfold extremeOf
    split
    · exact ih _
    · split <;> simp [Mentions, NotInternal, Cause.kind, Cause.values]

theorem extreme_failsOnly (function : Builtin) (wanted : Ordering) (args : List Value) :
    FailsOnly Ordinary (extreme function wanted args) := by
  unfold extreme
  simp only
  split
  · simp [Mentions, NotInternal, Cause.kind, Cause.values]
  · exact extremeOf_failsOnly _ _ _ _ _

/-! ### Conversions -/

theorem toInt_failsOnly (value : Value) : FailsOnly Ordinary value.toInt := by
  unfold toInt
  split <;> simp

theorem toUint_failsOnly (value : Value) : FailsOnly Ordinary value.toUint := by
  unfold toUint
  split <;> simp

theorem toDouble_failsOnly (value : Value) : FailsOnly Ordinary value.toDouble := by
  unfold toDouble
  split <;> simp

theorem toString_failsOnly (value : Value) : FailsOnly Ordinary value.toString := by
  unfold toString
  split <;> simp

theorem toBool_failsOnly (value : Value) : FailsOnly Ordinary value.toBool := by
  unfold toBool
  split
  · simp
  · split
    · simp
    · split <;> simp
  · simp

theorem toBytes_failsOnly (value : Value) : FailsOnly Ordinary value.toBytes := by
  unfold toBytes
  split <;> simp

theorem toTimestamp_failsOnly (value : Value) : FailsOnly Ordinary value.toTimestamp := by
  unfold toTimestamp
  split
  · simp
  · split <;> simp [Mentions, NotInternal, Cause.kind, Cause.values]
  · simp only
    split <;> simp [Mentions, NotInternal, Cause.kind, Cause.values]
  · simp

theorem toDuration_failsOnly (value : Value) : FailsOnly Ordinary value.toDuration := by
  unfold toDuration
  split
  · simp
  · split <;> simp [Mentions, NotInternal, Cause.kind, Cause.values]
  · simp

/-! ### Parts of times -/

theorem partOf_failsOnly (component : Time.Component) (clock : Option Time.Clock) :
    FailsOnly Ordinary (partOf component clock) := by
  unfold partOf
  split <;> simp [Mentions, NotInternal, Cause.kind, Cause.values]

theorem timestampPart_failsOnly [Engines] (function : Builtin) (component : Time.Component)
    {args : List Value} (given : 0 < args.length) :
    FailsOnly Ordinary (timestampPart function component args) := by
  refine (argument_failsOnly given).bind fun value _ => ?_
  split
  · exact partOf_failsOnly _ _
  · split
    · exact partOf_failsOnly _ _
    · simp [Mentions, NotInternal, Cause.kind, Cause.values]
  · simp

theorem timePart_failsOnly [Engines] (function : Builtin) (component : Time.Component) (unit : Int)
    {args : List Value} (given : 0 < args.length) :
    FailsOnly Ordinary (timePart function component unit args) := by
  refine (argument_failsOnly given).bind fun value _ => ?_
  split
  · simp
  · exact timestampPart_failsOnly function component given

end Value

namespace Builtin

open EvalError.Cause (NotInternal Ordinary Mentions)
open Value (argument_failsOnly)

/-- Every function takes at least one argument. -/
theorem pos_of_admits {function : Builtin} {count : Nat}
    (admitted : function.signature.arity.admits count = true) : 0 < count := by
  cases function <;> simp [signature, Arity.admits] at admitted <;> omega

/-- A call with an admitted number of arguments, of any function but the one that searches for a pattern,
has no internal failure. -/
theorem call_failsOnly [Engines] {function : Builtin} {args : List Value}
    (notSearch : function ≠ .matches)
    (admitted : function.signature.arity.admits args.length = true) :
    FailsOnly Ordinary (function.call args) := by
  have given := pos_of_admits admitted
  have first := argument_failsOnly given
  cases function with
  | size => exact first.bind fun value _ => Value.size_failsOnly value
  | contains | startsWith | endsWith =>
    have two : args.length = 2 := by simpa [signature, Arity.admits] using admitted
    have second : FailsOnly Ordinary (Value.argument args 1) := argument_failsOnly (by omega)
    exact first.bind fun a _ => second.bind fun b _ => Value.testText_failsOnly _ _ a b
  | «matches» => exact absurd rfl notSearch
  | max | min => exact Value.extreme_failsOnly _ _ _
  | int => exact first.bind fun value _ => Value.toInt_failsOnly value
  | uint => exact first.bind fun value _ => Value.toUint_failsOnly value
  | double => exact first.bind fun value _ => Value.toDouble_failsOnly value
  | string => exact first.bind fun value _ => Value.toString_failsOnly value
  | bool => exact first.bind fun value _ => Value.toBool_failsOnly value
  | bytes => exact first.bind fun value _ => Value.toBytes_failsOnly value
  | timestamp => exact first.bind fun value _ => Value.toTimestamp_failsOnly value
  | duration => exact first.bind fun value _ => Value.toDuration_failsOnly value
  | dyn => exact first
  | getFullYear | getMonth | getDayOfYear | getDayOfMonth | getDate | getDayOfWeek =>
    exact Value.timestampPart_failsOnly _ _ given
  | getHours | getMinutes | getSeconds | getMilliseconds =>
    exact Value.timePart_failsOnly _ _ _ given

end Builtin

end Cel
