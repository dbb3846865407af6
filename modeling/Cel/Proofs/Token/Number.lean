import Cel.Proofs.Token.Literal
import Cel.Proofs.Token.Places

/-! # Numbers that are cut off

A number is the same number wherever a blank or nothing follows it: its runs of digits stop there, and a
fraction, an exponent or a hexadecimal form that broke off before breaks off again.
-/

namespace Cel.Lexer

/-- Whether nothing, or a blank, stands at the start of a text. -/
def Ends (next : List Char) : Prop := ∀ c ∈ next.head?, isBlank c = true

theorem ends_nil : Ends [] := nofun

theorem ends_blank (rest : List Char) : Ends (' ' :: rest) := by
  rintro _ ⟨⟩
  decide

/-- No blank is of a kind if none of the four is. -/
theorem false_of_isBlank {p : Char → Bool} (none : [' ', '\t', '\n', '\r'].all (!p ·) = true) {c : Char}
    (blank : isBlank c = true) : p c = false := by
  have among : c ∈ [' ', '\t', '\n', '\r'] := by
    simp only [isBlank, Bool.or_eq_true, decide_eq_true_eq] at blank
    simpa [or_assoc] using blank
  have notOne := List.all_eq_true.mp none c among
  rwa [Bool.not_eq_true'] at notOne

theorem Ends.stops {p : Char → Bool} {next : List Char} (ends : Ends next)
    (none : [' ', '\t', '\n', '\r'].all (!p ·) = true) : ∀ c ∈ next.head?, p c = false :=
  fun c first => false_of_isBlank none (ends c first)

theorem Ends.numberStops {next : List Char} (ends : Ends next) :
    ∀ c ∈ next.head?, numberStops c = true := by
  intro c first
  have stopped := ends.stops (p := (!Lexer.numberStops ·)) (by decide) c first
  rwa [Bool.not_eq_false'] at stopped

/-! ### Cutting a text off -/

/-- A run of characters stays the same if the text is cut off behind it. -/
theorem takeWhile_take_append {p : Char → Bool} {text next : List Char} {n : Nat}
    (covers : (text.takeWhile p).length ≤ n) (stops : ∀ c ∈ next.head?, p c = false) :
    (text.take n ++ next).takeWhile p = text.takeWhile p := by
  have none : next.takeWhile p = [] := by
    cases next with
    | nil => rfl
    | cons c next => exact List.takeWhile_cons_of_neg (by simp [stops c rfl])
  induction text generalizing n with
  | nil => simpa using none
  | cons c rest ih =>
    cases n with
    | zero =>
      rw [List.take_zero, List.nil_append, none]
      exact (List.length_eq_zero_iff.mp (Nat.le_zero.mp covers)).symm
    | succ n =>
      rw [List.take_succ_cons, List.cons_append]
      cases first : p c with
      | true =>
        rw [List.takeWhile_cons_of_pos first, List.length_cons] at covers
        rw [List.takeWhile_cons_of_pos first, List.takeWhile_cons_of_pos first,
          ih (Nat.le_of_succ_le_succ covers)]
      | false =>
        have stopped : ¬p c = true := by rw [first]; exact Bool.false_ne_true
        rw [List.takeWhile_cons_of_neg stopped, List.takeWhile_cons_of_neg stopped]

theorem drop_take_append {text : List Char} {k n : Nat} (before : k ≤ n) (inside : k ≤ text.length)
    (next : List Char) : (text.take n ++ next).drop k = (text.drop k).take (n - k) ++ next := by
  have length : k ≤ (text.take n).length := by
    rw [List.length_take]
    omega
  rw [List.drop_append_of_le_length length, List.drop_take]

theorem take_take_append {text : List Char} {k n : Nat} (before : k ≤ n) (inside : k ≤ text.length)
    (next : List Char) : (text.take n ++ next).take k = text.take k := by
  have length : k ≤ (text.take n).length := by
    rw [List.length_take]
    omega
  rw [List.take_append_of_le_length length, List.take_take, Nat.min_eq_left before]

theorem length_takeWhile_le (p : Char → Bool) (text : List Char) :
    (text.takeWhile p).length ≤ text.length :=
  (List.takeWhile_prefix p).length_le

/-! ### Numbers -/

theorem fractionLength_cons (c : Char) (rest : List Char) :
    fractionLength (c :: rest) =
      if c = '.' then
        if rest.takeWhile Number.isDigit = [] then 0 else (rest.takeWhile Number.isDigit).length + 1
      else 0 := by
  by_cases isPoint : c = '.'
  · subst isPoint
    rfl
  · rw [if_neg isPoint]
    unfold fractionLength
    split
    · next same => exact absurd (List.cons.inj same).1 isPoint
    · rfl

theorem fractionLength_le (text : List Char) : fractionLength text ≤ text.length := by
  cases text with
  | nil => exact Nat.zero_le _
  | cons c rest =>
    have run := length_takeWhile_le Number.isDigit rest
    rw [fractionLength_cons, List.length_cons]
    split
    · split <;> omega
    · exact Nat.zero_le _

/-- The length of a sign at the start of a text. -/
def signLength : List Char → Nat
  | c :: _ => if c = '+' ∨ c = '-' then 1 else 0
  | [] => 0

theorem signLength_le (text : List Char) : signLength text ≤ 1 := by
  cases text with
  | nil => exact Nat.zero_le _
  | cons c rest =>
    rw [signLength]
    split <;> omega

theorem signLength_le_length (text : List Char) : signLength text ≤ text.length := by
  cases text with
  | nil => exact Nat.le_refl _
  | cons c rest => exact Nat.le_trans (signLength_le _) (Nat.succ_pos _)

/-- The digits of an exponent behind its mark. -/
def exponentDigits (rest : List Char) : List Char :=
  (rest.drop (signLength rest)).takeWhile Number.isDigit

theorem exponentLength_cons (e : Char) (rest : List Char) :
    exponentLength (e :: rest) =
      if e = 'e' ∨ e = 'E' then
        if exponentDigits rest = [] then 0 else (exponentDigits rest).length + signLength rest + 1
      else 0 := by
  cases rest <;> rfl

theorem exponentLength_le (text : List Char) : exponentLength text ≤ text.length := by
  cases text with
  | nil => exact Nat.zero_le _
  | cons e rest =>
    rw [exponentLength_cons, List.length_cons]
    split
    · split
      · exact Nat.zero_le _
      · next some =>
        have run := length_takeWhile_le Number.isDigit (rest.drop (signLength rest))
        have pos := List.length_pos_iff.mpr some
        rw [exponentDigits, List.length_drop] at *
        omega
    · exact Nat.zero_le _

section Cut

variable {text next : List Char} {n : Nat} (ends : Ends next)

include ends

theorem signLength_of_ends : signLength next = 0 := by
  cases next with
  | nil => rfl
  | cons c rest =>
    have noSign : ¬(c = '+' ∨ c = '-') := by
      rintro (rfl | rfl)
      · exact absurd (ends '+' rfl) (by decide)
      · exact absurd (ends '-' rfl) (by decide)
    exact if_neg noSign

theorem fractionLength_take_append (covers : fractionLength text ≤ n) :
    fractionLength (text.take n ++ next) = fractionLength text := by
  cases n with
  | zero =>
    rw [List.take_zero, List.nil_append, fractionLength_of_stops ends.numberStops]
    exact (Nat.le_zero.mp covers).symm
  | succ n =>
    cases text with
    | nil =>
      rw [List.take_nil, List.nil_append, fractionLength_of_stops ends.numberStops]
      rfl
    | cons c rest =>
      rw [fractionLength_cons] at covers
      rw [List.take_succ_cons, List.cons_append, fractionLength_cons, fractionLength_cons]
      by_cases isPoint : c = '.'
      · rw [if_pos isPoint] at covers
        have run : (rest.takeWhile Number.isDigit).length ≤ n := by
          split at covers
          · next none =>
            rw [none]
            exact Nat.zero_le _
          · omega
        rw [if_pos isPoint, if_pos isPoint, takeWhile_take_append run (ends.stops (by decide))]
      · rw [if_neg isPoint, if_neg isPoint]

theorem signLength_take_append (some : 0 < n) : signLength (text.take n ++ next) = signLength text := by
  cases text with
  | nil =>
    rw [List.take_nil, List.nil_append]
    exact signLength_of_ends ends
  | cons c rest =>
    obtain ⟨n, rfl⟩ : ∃ m, n = m + 1 := ⟨n - 1, by omega⟩
    rfl

theorem exponentDigits_take_append
    (covers : exponentDigits text = [] ∨ (exponentDigits text).length + signLength text ≤ n) :
    exponentDigits (text.take n ++ next) = exponentDigits text := by
  have stops : ∀ c ∈ next.head?, Number.isDigit c = false := ends.stops (by decide)
  have run : (exponentDigits text).length ≤ n - signLength text := by
    rcases covers with none | covers
    · rw [none]
      exact Nat.zero_le _
    · omega
  cases n with
  | zero =>
    rw [Nat.zero_sub] at run
    rw [List.length_eq_zero_iff.mp (Nat.le_zero.mp run), List.take_zero, List.nil_append, exponentDigits,
      signLength_of_ends ends, List.drop_zero]
    exact @takeWhile_append_of_stops Number.isDigit [] next rfl stops
  | succ n =>
    have sign : signLength (text.take (n + 1) ++ next) = signLength text :=
      signLength_take_append ends (Nat.succ_pos n)
    have short : signLength text ≤ 1 := signLength_le text
    have inside : signLength text ≤ text.length := signLength_le_length text
    rw [exponentDigits, sign, drop_take_append (by omega) inside, takeWhile_take_append run stops]
    rfl

theorem exponentLength_take_append (covers : exponentLength text ≤ n) :
    exponentLength (text.take n ++ next) = exponentLength text := by
  cases n with
  | zero =>
    rw [List.take_zero, List.nil_append, exponentLength_of_stops ends.numberStops]
    exact (Nat.le_zero.mp covers).symm
  | succ n =>
    cases text with
    | nil =>
      rw [List.take_nil, List.nil_append, exponentLength_of_stops ends.numberStops]
      rfl
    | cons e rest =>
      rw [exponentLength_cons] at covers
      rw [List.take_succ_cons, List.cons_append, exponentLength_cons, exponentLength_cons]
      by_cases mark : e = 'e' ∨ e = 'E'
      · rw [if_pos mark] at covers
        rw [if_pos mark, if_pos mark]
        have covers' : exponentDigits rest = [] ∨
            (exponentDigits rest).length + signLength rest ≤ n := by
          split at covers
          · next none => exact .inl none
          · exact .inr (by omega)
        rw [exponentDigits_take_append ends covers']
        split
        · rfl
        · next some =>
          have pos := List.length_pos_iff.mpr some
          have long : 0 < n := by
            rcases covers' with none | covers'
            · exact absurd none some
            · omega
          rw [signLength_take_append ends long]
      · rw [if_neg mark, if_neg mark]

/-! An integer ends in front of a mark or behind it. -/

theorem hasUnsignedMark_of_ends : hasUnsignedMark next = false := by
  cases next with
  | nil => rfl
  | cons c rest => exact ends.stops (p := fun c => c = 'u' || c = 'U') (by decide) c rfl

theorem hasUnsignedMark_take_append (covers : hasUnsignedMark text = true → 0 < n) :
    hasUnsignedMark (text.take n ++ next) = hasUnsignedMark text := by
  cases text with
  | nil =>
    rw [List.take_nil, List.nil_append]
    exact hasUnsignedMark_of_ends ends
  | cons c rest =>
    cases n with
    | zero =>
      have noMark : ¬hasUnsignedMark (c :: rest) = true := fun mark => absurd (covers mark) (Nat.lt_irrefl 0)
      rw [List.take_zero, List.nil_append, hasUnsignedMark_of_ends ends, Bool.eq_false_iff.mpr noMark]
    | succ n => rfl

theorem integer_take_append {length value : Nat} (inside : length ≤ text.length)
    (covers : (integer text length value).2 ≤ n) :
    length ≤ n ∧ (integer text length value).2 ≤ text.length ∧
      integer (text.take n ++ next) length value = integer text length value := by
  cases mark : hasUnsignedMark (text.drop length) with
  | true =>
    have long : length < text.length := by
      apply Nat.lt_of_not_le
      intro short
      rw [List.drop_eq_nil_of_le short] at mark
      cases mark
    have isLength : (integer text length value).2 = length + 1 := by rw [integer, if_pos mark]
    rw [isLength] at covers ⊢
    have same : hasUnsignedMark ((text.take n ++ next).drop length) = true := by
      rw [drop_take_append (by omega) inside, hasUnsignedMark_take_append ends fun _ => by omega, mark]
    refine ⟨by omega, long, ?_⟩
    rw [integer, integer, if_pos same, if_pos mark, take_take_append covers long]
  | false =>
    have noMark : ¬hasUnsignedMark (text.drop length) = true := by
      rw [mark]
      exact Bool.false_ne_true
    have isLength : (integer text length value).2 = length := by rw [integer, if_neg noMark]
    rw [isLength] at covers ⊢
    have same : ¬hasUnsignedMark ((text.take n ++ next).drop length) = true := by
      rwa [drop_take_append covers inside, hasUnsignedMark_take_append ends fun mark => absurd mark noMark]
    refine ⟨covers, inside, ?_⟩
    rw [integer, integer, if_neg same, if_neg noMark, take_take_append covers inside]

/-- The digits of a hexadecimal number behind its mark. -/
def hexDigits : List Char → List Char
  | '0' :: x :: rest => if x = 'x' ∨ x = 'X' then rest.takeWhile Number.isHexDigit else []
  | _ => []

omit ends in
theorem hexDigits_of_ne {c : Char} (notZero : c ≠ '0') (rest : List Char) : hexDigits (c :: rest) = [] := by
  unfold hexDigits
  split
  · next same => exact absurd (List.cons.inj same).1 notZero
  · rfl

theorem hexDigits_of_ends (c : Char) : hexDigits (c :: next) = [] := by
  by_cases zero : c = '0'
  · subst zero
    cases next with
    | nil => rfl
    | cons x rest =>
      have noMark : ¬(x = 'x' ∨ x = 'X') := by
        rintro (rfl | rfl)
        · exact absurd (ends 'x' rfl) (by decide)
        · exact absurd (ends 'X' rfl) (by decide)
      exact if_neg noMark
  · exact hexDigits_of_ne zero next

omit ends in
theorem hexDigits_length_le (c : Char) (rest : List Char) :
    hexDigits (c :: rest) = [] ∨ (hexDigits (c :: rest)).length + 2 ≤ (c :: rest).length := by
  by_cases zero : c = '0'
  · subst zero
    cases rest with
    | nil => exact .inl rfl
    | cons x rest =>
      have run := length_takeWhile_le Number.isHexDigit rest
      rw [hexDigits]
      split
      · right
        rw [List.length_cons, List.length_cons]
        omega
      · exact .inl rfl
  · exact .inl (hexDigits_of_ne zero rest)

theorem hexDigits_take_append {c : Char} {rest : List Char}
    (covers : hexDigits (c :: rest) = [] ∨ (hexDigits (c :: rest)).length + 1 ≤ n) :
    hexDigits (c :: (rest.take n ++ next)) = hexDigits (c :: rest) := by
  by_cases zero : c = '0'
  · subst zero
    cases n with
    | zero =>
      rw [List.take_zero, List.nil_append, hexDigits_of_ends ends]
      rcases covers with none | covers
      · exact none.symm
      · omega
    | succ n =>
      cases rest with
      | nil =>
        rw [List.take_nil, List.nil_append, hexDigits_of_ends ends]
        rfl
      | cons x rest =>
        rw [List.take_succ_cons, List.cons_append, hexDigits, hexDigits]
        rw [hexDigits] at covers
        by_cases mark : x = 'x' ∨ x = 'X'
        · rw [if_pos mark] at covers
          have run : (rest.takeWhile Number.isHexDigit).length ≤ n := by
            rcases covers with none | covers
            · rw [none]
              exact Nat.zero_le _
            · omega
          rw [if_pos mark, if_pos mark, takeWhile_take_append run (ends.stops (by decide))]
        · rw [if_neg mark, if_neg mark]
  · rw [hexDigits_of_ne zero, hexDigits_of_ne zero]

/-- The length of the whole part of a number, and the lengths up to the ends of its fraction and of its
exponent. -/
def wholeLength (text : List Char) : Nat := (text.takeWhile Number.isDigit).length

def fractionEnd (text : List Char) : Nat :=
  wholeLength text + fractionLength (text.drop (wholeLength text))

def exponentEnd (text : List Char) : Nat :=
  fractionEnd text + exponentLength (text.drop (fractionEnd text))

omit ends in
theorem exponentEnd_le (text : List Char) : exponentEnd text ≤ text.length := by
  have whole := length_takeWhile_le Number.isDigit text
  have fraction := fractionLength_le (text.drop (wholeLength text))
  have exponent := exponentLength_le (text.drop (fractionEnd text))
  rw [List.length_drop] at fraction exponent
  simp only [exponentEnd, fractionEnd, wholeLength] at *
  omega

omit ends in
theorem number_eq (text : List Char) :
    number text =
      if hexDigits text ≠ [] then
        integer text ((hexDigits text).length + 2) (Number.natOf 16 0 (hexDigits text))
      else if exponentEnd text = wholeLength text then
        integer text (wholeLength text) (Number.natOf 10 0 (text.takeWhile Number.isDigit))
      else
        (.token (.double ((Number.readDouble? (text.take (exponentEnd text))).getD .nan)),
          exponentEnd text) := by
  have same : exponentEnd text = wholeLength text ↔
      fractionLength (text.drop (wholeLength text)) = 0 ∧
        exponentLength (text.drop (fractionEnd text)) = 0 := by
    rw [exponentEnd, fractionEnd]
    omega
  simp only [same]
  rfl

/-- The parts of a decimal number are the same if the text is cut off behind them. -/
theorem exponentEnd_take_append (covers : exponentEnd text ≤ n) :
    (text.take n ++ next).takeWhile Number.isDigit = text.takeWhile Number.isDigit ∧
      exponentEnd (text.take n ++ next) = exponentEnd text := by
  have inside := exponentEnd_le text
  have whole : (text.take n ++ next).takeWhile Number.isDigit = text.takeWhile Number.isDigit := by
    apply takeWhile_take_append _ (ends.stops (by decide))
    simp only [exponentEnd, fractionEnd, wholeLength] at covers
    omega
  have sameWhole : wholeLength (text.take n ++ next) = wholeLength text := congrArg List.length whole
  have sameFraction : fractionEnd (text.take n ++ next) = fractionEnd text := by
    simp only [exponentEnd, fractionEnd] at covers inside
    rw [fractionEnd, sameWhole, drop_take_append (by omega) (by omega),
      fractionLength_take_append ends (by omega)]
    rfl
  refine ⟨whole, ?_⟩
  simp only [exponentEnd] at covers inside
  rw [exponentEnd, sameFraction, drop_take_append (by omega) (by omega),
    exponentLength_take_append ends (by omega)]
  rfl

/-- A number is the same if the text is cut off behind it. -/
theorem number_take_append {c : Char} {rest : List Char} (isDigit : Number.isDigit c = true)
    (covers : (number (c :: rest)).2 ≤ n) :
    (number (c :: rest)).2 ≤ (c :: rest).length ∧
      number ((c :: rest).take n ++ next) = number (c :: rest) := by
  obtain ⟨n, rfl⟩ : ∃ m, n = m + 1 := by
    have pos := number_length_pos isDigit rest
    exact ⟨n - 1, by omega⟩
  have start : (c :: rest).take (n + 1) ++ next = c :: (rest.take n ++ next) := rfl
  have sameHex := @hexDigits_take_append next n ends c rest
  rw [← start] at sameHex
  have hexInside := hexDigits_length_le c rest
  generalize c :: rest = text at *
  by_cases hex : hexDigits text = []
  · have noHex := (sameHex (.inl hex)).trans hex
    rw [number_eq text, if_neg (not_not_intro hex)] at covers ⊢
    rw [number_eq, if_neg (not_not_intro noHex)]
    by_cases whole : exponentEnd text = wholeLength text
    · rw [if_pos whole] at covers ⊢
      obtain ⟨before, inside, same⟩ :=
        integer_take_append ends (length_takeWhile_le Number.isDigit text) covers
      obtain ⟨sameWhole, sameEnd⟩ := exponentEnd_take_append ends (Nat.le_trans (Nat.le_of_eq whole) before)
      have sameLength : wholeLength (text.take (n + 1) ++ next) = wholeLength text :=
        congrArg List.length sameWhole
      rw [sameEnd, sameLength, sameWhole, if_pos whole]
      exact ⟨inside, same⟩
    · rw [if_neg whole] at covers ⊢
      obtain ⟨sameWhole, sameEnd⟩ := exponentEnd_take_append ends covers
      have sameLength : wholeLength (text.take (n + 1) ++ next) = wholeLength text :=
        congrArg List.length sameWhole
      rw [sameEnd, sameLength, if_neg whole, take_take_append covers (exponentEnd_le text)]
      exact ⟨exponentEnd_le text, rfl⟩
  · have inside : (hexDigits text).length + 2 ≤ text.length := by
      rcases hexInside with none | inside
      · exact absurd none hex
      · exact inside
    rw [number_eq text, if_pos hex] at covers ⊢
    obtain ⟨before, inside, same⟩ := integer_take_append ends inside covers
    have digits := sameHex (.inr (by omega))
    rw [number_eq, digits, if_pos hex]
    exact ⟨inside, same⟩

end Cut

end Cel.Lexer
