import Cel.Library
import Cel.Proofs.NumberOrder

/-! # Kinds of machine integers

Signed and unsigned words have the same theory. Every word stands for an integer in the range of its kind,
every integer in the range is that of one word, and an exact result is narrowed to that word or to none.
-/

namespace Cel

/-- The kinds of machine integers. -/
inductive Integral where
  | signed
  | unsigned
deriving DecidableEq, Repr

namespace Integral

/-- The words of a kind. -/
def Word : Integral → Type
  | signed => Int64
  | unsigned => UInt64

/-- The integers that have a word of the kind. -/
def InRange : Integral → Int → Prop
  | signed, n => -0x8000000000000000 ≤ n ∧ n < 0x8000000000000000
  | unsigned, n => 0 ≤ n ∧ n < 0x10000000000000000

/-- The integer that a word stands for. -/
def toInt : (kind : Integral) → kind.Word → Int
  | signed, (n : Int64) => n.toInt
  | unsigned, (n : UInt64) => n.toNat

/-- The value that a word is. -/
def value : (kind : Integral) → kind.Word → Value
  | signed, n => .int n
  | unsigned, n => .uint n

/-- The literal that a word is written as. -/
def constant : (kind : Integral) → kind.Word → Constant
  | signed, n => .int n
  | unsigned, n => .uint n

/-- The word of an integer, if there is one. -/
def narrow? : (kind : Integral) → Int → Option kind.Word
  | signed, n => Number.int64? n
  | unsigned, n => Number.uint64? n

/-- The function that converts to the kind. -/
def conversion : Integral → Builtin
  | signed => .int
  | unsigned => .uint

def other : Integral → Integral
  | signed => unsigned
  | unsigned => signed

variable {kind : Integral} {n : Int} {w w' : kind.Word}

instance (kind : Integral) (n : Int) : Decidable (kind.InRange n) := by
  cases kind <;> exact inferInstanceAs (Decidable (_ ∧ _))

theorem narrow?_eq_some_iff : kind.narrow? n = some w ↔ kind.toInt w = n := by
  cases kind with
  | signed => exact Number.int64?_eq_some_iff
  | unsigned => exact Number.uint64?_eq_some_iff

theorem narrow?_eq_none_iff : kind.narrow? n = none ↔ ¬kind.InRange n := by
  cases kind with
  | signed =>
    refine Number.int64?_eq_none_iff.trans ?_
    unfold InRange
    omega
  | unsigned =>
    refine Number.uint64?_eq_none_iff.trans ?_
    unfold InRange
    omega

/-- The integers in the range are those of the words. -/
theorem exists_toInt_eq_iff : (∃ w, kind.toInt w = n) ↔ kind.InRange n := by
  simp only [← narrow?_eq_some_iff, ← Option.ne_none_iff_exists', ne_eq, narrow?_eq_none_iff,
    Decidable.not_not]

theorem inRange_toInt (w : kind.Word) : kind.InRange (kind.toInt w) := exists_toInt_eq_iff.mp ⟨w, rfl⟩

theorem narrow?_toInt (w : kind.Word) : kind.narrow? (kind.toInt w) = some w := narrow?_eq_some_iff.mpr rfl

theorem toInt_inj : kind.toInt w = kind.toInt w' ↔ w = w' := by
  rw [← narrow?_eq_some_iff, narrow?_toInt, Option.some.injEq, eq_comm]

theorem isNumeric_value (w : kind.Word) : (kind.value w).isNumeric = true := by
  cases kind <;> rfl

/-- A word is equal to itself. -/
theorem strict_eq_self (w : kind.Word) :
    Value.strict .eq (kind.value w) (kind.value w) = .ok (.bool true) := by
  have denotes : ∃ x, (kind.value w).number? = some x := by
    cases kind <;> exact ⟨_, rfl⟩
  obtain ⟨x, denotes⟩ := denotes
  have same : BinaryOp.relation? .eq = some (· = ·) := rfl
  exact (Value.holds_iff same (isNumeric_value w) (isNumeric_value w)).mpr ⟨x, x, denotes, denotes, rfl⟩

end Integral

end Cel
