import Cel.Proofs.Except
import Cel.Proofs.Time.Fraction
import Cel.Proofs.Time.Total

/-! # Reading written durations

A duration is written exactly, but its fraction is read as a double. So a written duration is read as
itself or as one that is shorter by a nanosecond, and the latter only if its nanoseconds are coarse.
-/

namespace Cel.Duration

open Time (fraction_cases fractionDigits fractionDigits_spec)

/-! ### The number of a written duration -/

section Written

variable {seconds nanos : Nat} (small : nanos < 10 ^ 9)

include small

theorem fraction_stops : ∀ c ∈ (Time.fraction nanos).head?, Number.isDigit c = false := by
  rcases fraction_cases small with ⟨-, none⟩ | ⟨-, some⟩
  · rw [none]
    exact nofun
  · rw [some]
    rintro _ ⟨⟩
    decide

theorem spanDigits_written : Number.spanDigits (Nat.toDigits 10 seconds ++ Time.fraction nanos) =
    (Nat.toDigits 10 seconds, Time.fraction nanos) := by
  have each := Number.all_isDigit_toDigits seconds
  have stops := fraction_stops small
  rw [Number.spanDigits, List.span_eq_takeWhile_dropWhile, Lexer.takeWhile_append_of_stops each stops,
    Lexer.dropWhile_append_of_stops each stops]

theorem inNumber_written : (Nat.toDigits 10 seconds ++ Time.fraction nanos).all inNumber = true := by
  have digits {text : List Char} (each : text.all Number.isDigit = true) : text.all inNumber = true := by
    rw [List.all_eq_true] at each ⊢
    intro c member
    rw [inNumber, each c member, Bool.true_or]
  rw [List.all_append, digits (Number.all_isDigit_toDigits seconds), Bool.true_and]
  rcases fraction_cases small with ⟨-, none⟩ | ⟨-, some⟩
  · rw [none]
    rfl
  · rw [some, List.all_cons, digits (fractionDigits_spec small).2.1]
    rfl

theorem point_not_mem_fractionDigits : '.' ∉ fractionDigits nanos := by
  intro member
  have isDigit := List.all_eq_true.mp (fractionDigits_spec small).2.1 '.' member
  exact absurd isDigit (by decide)

theorem written_lt_limit (inRange : seconds ≤ maxSeconds) :
    seconds * 1000000000 + readNanos nanos < limit := by
  have limitIs : limit = 2 ^ 127 := by decide
  have maxIs : maxSeconds = 315576000000 := rfl
  have read := readNanos_cases small
  omega

/-- The number of a written duration with its unit. -/
theorem part_written (inRange : seconds ≤ maxSeconds) :
    part (Nat.toDigits 10 seconds ++ Time.fraction nanos) "s" =
      .ok (seconds * 1000000000 + readNanos nanos) := by
  obtain ⟨c, more, digits, isDigit⟩ := Number.exists_toDigits_eq_cons seconds
  have notPoint : c ≠ '.' := by
    rintro rfl
    exact absurd isDigit (by decide)
  have notEmpty : ¬(Nat.toDigits 10 seconds ++ Time.fraction nanos = [] ∨
      Nat.toDigits 10 seconds ++ Time.fraction nanos = ['.']) := by
    simp [digits, notPoint]
  have isUnit : unit? "s" = some 1000000000 := rfl
  have most := written_lt_limit small inRange
  rw [part, if_neg notEmpty]
  simp only [isUnit, spanDigits_written small, Number.natOf_toDigits]
  rcases fraction_cases small with ⟨rfl, none⟩ | ⟨notZero, some⟩
  · rw [readNanos, if_pos rfl, Nat.add_zero] at most ⊢
    simp only [none, if_pos most]
  · rw [readNanos, if_neg notZero] at most ⊢
    simp only [some, if_neg (point_not_mem_fractionDigits small), if_pos most]

theorem parts_written (inRange : seconds ≤ maxSeconds) :
    parts 0 (Nat.toDigits 10 seconds ++ Time.fraction nanos ++ ['s']) =
      .ok (seconds * 1000000000 + readNanos nanos) := by
  have stops : ∀ c ∈ ['s'].head?, inNumber c = false := by
    rintro _ ⟨⟩
    decide
  have each : (Nat.toDigits 10 seconds ++ Time.fraction nanos).all inNumber = true :=
    inNumber_written small
  have number := Lexer.takeWhile_append_of_stops each stops
  have unit := Lexer.dropWhile_append_of_stops each stops
  have amount := part_written small inRange
  have most := written_lt_limit small inRange
  obtain ⟨c, more, digits⟩ := List.exists_cons_of_ne_nil
    (List.append_ne_nil_of_right_ne_nil (Nat.toDigits 10 seconds ++ Time.fraction nanos)
      (List.cons_ne_nil 's' []))
  rw [digits] at number unit ⊢
  have nothing : afterPart (c :: more) = [] := by
    rw [afterPart, unit]
    rfl
  have isUnit : String.ofList (['s'].takeWhile (!inNumber ·)) = "s" := rfl
  rw [parts]
  simp only [number, unit, isUnit, amount, Nat.zero_add, if_neg (not_le.mpr most), nothing]
  rw [parts]

end Written

/-! ### Reading it back -/

theorem text_toList (d : Duration) : d.text.toList =
    (if d.total < 0 then ['-'] else []) ++
      (Nat.toDigits 10 (d.total.natAbs / 1000000000) ++
        Time.fraction (d.total.natAbs % 1000000000) ++ ['s']) := by
  simp only [text, String.toList_ofList, List.append_assoc]

/-- The sign of a written duration is split off. -/
theorem sign_written (d : Duration) : Number.sign d.text.toList =
    (decide (d.total < 0), Nat.toDigits 10 (d.total.natAbs / 1000000000) ++
      Time.fraction (d.total.natAbs % 1000000000) ++ ['s']) := by
  rw [text_toList]
  by_cases negative : d.total < 0
  · rw [if_pos negative, decide_eq_true negative]
    rfl
  · obtain ⟨c, more, digits, isDigit⟩ :=
      Number.exists_toDigits_eq_cons (d.total.natAbs / 1000000000)
    rw [if_neg negative, decide_eq_false negative, digits, List.nil_append, List.cons_append,
      List.cons_append, Number.sign]
    · rintro rest ⟨⟩
      exact absurd isDigit (by decide)
    · rintro rest ⟨⟩
      exact absurd isDigit (by decide)

/-- The length with which a written duration of some length is read. -/
def readTotal (total : Int) : Int :=
  let magnitude : Nat :=
    total.natAbs / 1000000000 * 1000000000 + readNanos (total.natAbs % 1000000000)
  if total < 0 then -(magnitude : Int) else magnitude

theorem natAbs_readTotal_le (total : Int) : (readTotal total).natAbs ≤ total.natAbs := by
  have small : total.natAbs % 1000000000 < 10 ^ 9 := Nat.mod_lt _ (by decide)
  have read := readNanos_cases small
  simp only [readTotal]
  split
  · omega
  · omega

/-- A length is read as it is, unless its nanoseconds are coarse. Then it may be shorter by one. -/
theorem readTotal_cases (total : Int) :
    readTotal total = total ∨
      readTotal total = total - total.sign ∧ IsCoarse (total.natAbs % 1000000000) := by
  have small : total.natAbs % 1000000000 < 10 ^ 9 := Nat.mod_lt _ (by decide)
  rcases readNanos_cases small with same | less
  · left
    simp only [readTotal, same]
    split
    · omega
    · omega
  · right
    constructor
    · simp only [readTotal]
      rcases Int.lt_trichotomy total 0 with negative | zero | positive
      · rw [if_pos negative, Int.sign_eq_neg_one_of_neg negative]
        omega
      · omega
      · rw [if_neg (by omega), Int.sign_eq_one_of_pos positive]
        omega
    · by_contra fine
      have same := readNanos_eq small fine
      omega

theorem read_text_of_ofTotal? {d found : Duration} (inRange : d.total.natAbs / 1000000000 ≤ maxSeconds)
    (made : ofTotal? (readTotal d.total) = some found) : read d.text = .ok found := by
  have small : d.total.natAbs % 1000000000 < 10 ^ 9 := Nat.mod_lt _ (by decide)
  have sum := parts_written small inRange
  have notEmpty : Nat.toDigits 10 (d.total.natAbs / 1000000000) ++
      Time.fraction (d.total.natAbs % 1000000000) ++ ['s'] ≠ [] := by simp
  rw [read, sign_written]
  simp only [if_neg notEmpty]
  refine (bind_eq_of_eq_ok sum).trans ?_
  simp only [readTotal] at made
  simp only [decide_eq_true_eq, made]

/-- A written duration is read as itself, or as one that is shorter by a nanosecond. The latter happens to
coarse numbers of nanoseconds only. -/
theorem read_text {total : Int} {d : Duration} (made : ofTotal? total = some d) :
    read d.text = .ok d ∨
      IsCoarse (d.total.natAbs % 1000000000) ∧
        ∃ shorter, read d.text = .ok shorter ∧ shorter.total = d.total - d.total.sign := by
  obtain ⟨isTotal, inRange⟩ := total_of_ofTotal? made
  rw [← isTotal] at made inRange
  rcases readTotal_cases d.total with same | ⟨less, coarse⟩
  · left
    apply read_text_of_ofTotal? inRange
    rw [same]
    exact made
  · right
    have inRange' : (readTotal d.total).natAbs / 1000000000 ≤ maxSeconds :=
      Nat.le_trans (Nat.div_le_div_right (natAbs_readTotal_le d.total)) inRange
    obtain ⟨shorter, madeShorter⟩ := exists_ofTotal? inRange'
    refine ⟨coarse, shorter, read_text_of_ofTotal? inRange madeShorter, ?_⟩
    rw [(total_of_ofTotal? madeShorter).1, less]

/-- A negative duration whose fraction is not coarse. -/
theorem read_text_of_fine :
    ofTotal? (-1600000000) = some ⟨-1, -600000000⟩ ∧
      read (text ⟨-1, -600000000⟩) = .ok ⟨-1, -600000000⟩ := by
  have made : ofTotal? (-1600000000) = some ⟨-1, -600000000⟩ := by decide
  have fine : ¬IsCoarse 600000000 := by
    rintro ⟨place, low, high⟩
    cases place with
    | zero => omega
    | succ place =>
      have pos : 0 < 2 ^ place := Nat.two_pow_pos place
      rw [Nat.pow_succ] at high
      omega
  refine ⟨made, ?_⟩
  rcases read_text made with same | ⟨coarse, -⟩
  · exact same
  · exact absurd coarse fine

/-- Fifteen nanoseconds are written exactly, and read as fourteen. -/
theorem read_text_not_same :
    ofTotal? 15 = some ⟨0, 15⟩ ∧ text ⟨0, 15⟩ = "0.000000015s" ∧ read (text ⟨0, 15⟩) = .ok ⟨0, 14⟩ := by
  decide +kernel

end Cel.Duration
