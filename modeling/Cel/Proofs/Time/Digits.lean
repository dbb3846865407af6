import Mathlib.Data.List.Basic
import Cel.Proofs.Token.Escape
import Cel.Proofs.Token.Literal
import Cel.Time.Digits

/-! # Numbers of fixed width

A number that is filled up with zeros has exactly the digits that it is filled up to, and they spell it.
A fraction leaves zeros out at its end, which stand for nothing more than its scale.
-/

namespace Cel.Time

open Number (natOf isDigit)

theorem natOf_zeros (value count : Nat) :
    natOf 10 value (List.replicate count '0') = value * 10 ^ count := by
  induction count generalizing value with
  | zero => exact (Nat.mul_one value).symm
  | succ count ih =>
    have step : natOf 10 value (List.replicate (count + 1) '0') =
        natOf 10 (value * 10 + 0) (List.replicate count '0') := rfl
    rw [step, Nat.add_zero, ih, Nat.mul_assoc, Nat.pow_succ, Nat.mul_comm 10]

theorem length_padded {width n : Nat} (pos : 0 < width) (small : n < 10 ^ width) :
    (padded width n).length = width := by
  have short : (Nat.toDigits 10 n).length ≤ width :=
    (Nat.length_toDigits_le_iff (by decide) pos).mpr small
  simp only [padded, List.length_append, List.length_replicate]
  omega

theorem le_length_padded (width n : Nat) : width ≤ (padded width n).length := by
  simp only [padded, List.length_append, List.length_replicate]
  omega

theorem natOf_padded (width n : Nat) : natOf 10 0 (padded width n) = n := by
  rw [padded, Number.natOf_append, natOf_zeros, Nat.zero_mul, Number.natOf_toDigits]

theorem isDigit_padded (width n : Nat) : (padded width n).all isDigit = true := by
  have zeros : (List.replicate (width - (Nat.toDigits 10 n).length) '0').all isDigit = true := by
    rw [List.all_eq_true]
    intro c member
    rw [(List.mem_replicate.mp member).2]
    rfl
  rw [padded, List.all_append, zeros, Number.all_isDigit_toDigits n]
  rfl

/-! ### Numbers of two and of four digits -/

theorem exists_padded_two {n : Nat} (small : n < 100) : ∃ a b, padded 2 n = [a, b] ∧
    [a, b].all isDigit = true ∧ natOf 10 0 [a, b] = n := by
  obtain ⟨a, b, digits⟩ := List.length_eq_two.mp (length_padded Nat.two_pos small)
  exact ⟨a, b, digits, digits ▸ isDigit_padded 2 n, digits ▸ natOf_padded 2 n⟩

theorem exists_padded_four {n : Nat} (small : n < 10000) : ∃ a b c d, padded 4 n = [a, b, c, d] ∧
    [a, b, c, d].all isDigit = true ∧ natOf 10 0 [a, b, c, d] = n := by
  obtain ⟨a, b, c, d, digits⟩ := List.length_eq_four.mp (length_padded (by decide) small)
  exact ⟨a, b, c, d, digits, digits ▸ isDigit_padded 4 n, digits ▸ natOf_padded 4 n⟩

/-! ### Fractions -/

/-- The digits of a written fraction, without the zeros at their end. -/
def fractionDigits (nanos : Nat) : List Char :=
  ((Time.padded 9 nanos).reverse.dropWhile (· == '0')).reverse

/-- Only zeros are left out at the end. -/
theorem exists_padded_eq (nanos : Nat) :
    ∃ count, padded 9 nanos = fractionDigits nanos ++ List.replicate count '0' := by
  have parts := List.takeWhile_append_dropWhile (p := (· == '0')) (l := (padded 9 nanos).reverse)
  have zeros : ((padded 9 nanos).reverse.takeWhile (· == '0')) =
      List.replicate ((padded 9 nanos).reverse.takeWhile (· == '0')).length '0' := by
    apply List.eq_replicate_of_mem
    intro c member
    exact eq_of_beq (List.all_eq_true.mp List.all_takeWhile c member)
  refine ⟨((padded 9 nanos).reverse.takeWhile (· == '0')).length, ?_⟩
  have turned := congrArg List.reverse parts
  rw [List.reverse_append, List.reverse_reverse, zeros, List.reverse_replicate] at turned
  exact turned.symm

theorem fraction_zero : fraction 0 = [] := by decide

section Fraction

variable {nanos : Nat} (small : nanos < 10 ^ 9)

include small

/-- The digits of a fraction spell it, up to the zeros that are left out. -/
theorem fractionDigits_spec :
    (fractionDigits nanos).length ≤ 9 ∧ (fractionDigits nanos).all isDigit = true ∧
      natOf 10 0 (fractionDigits nanos) * 10 ^ (9 - (fractionDigits nanos).length) = nanos := by
  obtain ⟨count, padded⟩ := exists_padded_eq nanos
  have length := length_padded (by decide) small
  have spelled := natOf_padded 9 nanos
  have digits := isDigit_padded 9 nanos
  rw [padded, List.length_append, List.length_replicate] at length
  rw [padded, Number.natOf_append, natOf_zeros] at spelled
  rw [padded, List.all_append, Bool.and_eq_true] at digits
  have rest : 9 - (fractionDigits nanos).length = count := by omega
  exact ⟨by omega, digits.1, by rw [rest, spelled]⟩

theorem fractionDigits_ne_nil (pos : 0 < nanos) : fractionDigits nanos ≠ [] := by
  intro none
  obtain ⟨-, -, spells⟩ := fractionDigits_spec small
  rw [none] at spells
  have zero : natOf 10 0 [] = 0 := rfl
  rw [zero, Nat.zero_mul] at spells
  omega

theorem fraction_of_pos (pos : 0 < nanos) : fraction nanos = '.' :: fractionDigits nanos := by
  have some := fractionDigits_ne_nil small pos
  rw [fraction]
  split
  · next none => exact absurd (congrArg List.reverse none) some
  · rfl

theorem fraction_cases : nanos = 0 ∧ fraction nanos = [] ∨
    nanos ≠ 0 ∧ fraction nanos = '.' :: fractionDigits nanos := by
  rcases Nat.eq_zero_or_pos nanos with rfl | pos
  · exact .inl ⟨rfl, fraction_zero⟩
  · exact .inr ⟨pos.ne', fraction_of_pos small pos⟩

end Fraction

end Cel.Time
