import Mathlib.Algebra.GroupWithZero.Nat
import Mathlib.Data.List.TakeDrop
import Mathlib.Data.List.TakeWhile
import Cel.Proofs.Except
import Cel.Proofs.Time.Total
import Cel.Proofs.Token.Literal

/-! # The grammar of durations

A duration is written as an optional sign and a sequence of amounts, each a decimal number and a unit.
Only such texts are read. Where no number has a point, reading is exact: a text is read if and only if it
is such a sequence and the sum of its amounts is in range. A sum that outgrows the words it is added up
in is out of range already, since amounts have no signs of their own.
-/

namespace Cel.Duration

open Number (isDigit natOf)

/-- The units of time with their nanoseconds. -/
def units : List (String × Nat) :=
  [("h", 3600000000000), ("m", 60000000000), ("s", 1000000000), ("ms", 1000000), ("us", 1000),
    ("\u00b5s", 1000), ("ns", 1)]

theorem unit?_eq_some_iff {unit : String} {nanos : Nat} :
    unit? unit = some nanos ↔ (unit, nanos) ∈ units := by
  unfold unit? units
  split <;> simp_all [eq_comm]

/-- A number and a unit, with the nanoseconds in the unit. -/
structure Amount where
  number : List Char
  unit : String
  nanos : Nat

namespace Amount

def text (amount : Amount) : List Char := amount.number ++ amount.unit.toList

/-- The nanoseconds of an amount whose number is written with digits alone. -/
def total (amount : Amount) : Nat := Nat.ofDigitChars 10 amount.number 0 * amount.nanos

/-- Whether the number has at least one digit, at most one point and nothing else, and the unit is one of
those that there are. -/
structure WellFormed (amount : Amount) : Prop where
  characters : ∀ c ∈ amount.number, isDigit c = true ∨ c = '.'
  atMostOnePoint : amount.number.count '.' ≤ 1
  someDigit : ∃ c ∈ amount.number, isDigit c = true
  isUnit : (amount.unit, amount.nanos) ∈ units

end Amount

/-- The signs that a duration may be written with. -/
def signs (negative : Bool) : List (List Char) := if negative then [['-']] else [[], ['+']]

/-- Whether a text is a sign and a nonempty sequence of amounts. -/
structure Written (text : List Char) (negative : Bool) (amounts : List Amount) : Prop where
  isText : ∃ sign ∈ signs negative, text = sign ++ amounts.flatMap Amount.text
  nonempty : amounts ≠ []
  wellFormed : ∀ amount ∈ amounts, amount.WellFormed

/-- The sum of some amounts. -/
def sumOf (amounts : List Amount) : Nat := (amounts.map Amount.total).sum

/-- The sum of some amounts with its sign. -/
def signed (negative : Bool) (amounts : List Amount) : Int :=
  if negative then -(sumOf amounts : Int) else sumOf amounts

/-! ### Amounts -/

theorem inNumber_iff {c : Char} : inNumber c = true ↔ isDigit c = true ∨ c = '.' := by
  simp [inNumber]

/-- A number is digits, or digits around a point. -/
theorem number_cases {number : List Char} (characters : ∀ c ∈ number, inNumber c = true) :
    ∃ whole, (∀ c ∈ whole, isDigit c = true) ∧
      (number = whole ∧ Number.spanDigits number = (whole, []) ∨
        ∃ digits, number = whole ++ '.' :: digits ∧ Number.spanDigits number = (whole, '.' :: digits)) := by
  have span : Number.spanDigits number = (number.takeWhile isDigit, number.dropWhile isDigit) :=
    List.span_eq_takeWhile_dropWhile ..
  have parts := List.takeWhile_append_dropWhile (p := isDigit) (l := number)
  refine ⟨number.takeWhile isDigit, fun c member => List.all_eq_true.mp List.all_takeWhile c member, ?_⟩
  cases rest : number.dropWhile isDigit with
  | nil =>
    rw [rest, List.append_nil] at parts
    exact .inl ⟨parts.symm, by rw [span, rest]⟩
  | cons c digits =>
    have notDigit : isDigit c = false := by
      have stops := List.head?_dropWhile_not isDigit number
      rwa [rest, List.head?_cons] at stops
    have isPoint : c = '.' := by
      have member : c ∈ number := by
        apply (List.dropWhile_suffix isDigit).subset
        rw [rest]
        exact List.mem_cons_self
      rcases inNumber_iff.mp (characters c member) with digit | point
      · rw [digit] at notDigit
        cases notDigit
      · exact point
    subst isPoint
    exact .inr ⟨digits, by rw [← rest, parts], by rw [span, rest]⟩

theorem count_point_of_digits {digits : List Char} (each : ∀ c ∈ digits, isDigit c = true) :
    digits.count '.' = 0 :=
  List.count_eq_zero.mpr fun point => absurd (each '.' point) (by decide)

/-- Only a number with a unit is read as an amount. -/
theorem wellFormed_of_part {number : List Char} {unit : String} {total : Nat}
    (characters : ∀ c ∈ number, inNumber c = true) (computed : part number unit = .ok total) :
    ∃ nanos, Amount.WellFormed ⟨number, unit, nanos⟩ := by
  have characters' : ∀ c ∈ number, isDigit c = true ∨ c = '.' :=
    fun c member => inNumber_iff.mp (characters c member)
  rw [part] at computed
  split at computed
  · cases computed
  next notEmpty =>
  obtain ⟨some, notPoint⟩ := not_or.mp notEmpty
  split at computed
  · cases computed
  next nanos isUnit =>
  obtain ⟨whole, digits, ⟨rfl, span⟩ | ⟨fraction, rfl, span⟩⟩ := number_cases characters
  · obtain ⟨c, member⟩ := List.exists_mem_of_ne_nil number some
    refine ⟨nanos, characters', ?_, ⟨c, member, digits c member⟩, unit?_eq_some_iff.mp isUnit⟩
    rw [count_point_of_digits digits]
    exact Nat.zero_le 1
  · rw [span] at computed
    dsimp only at computed
    split at computed
    · cases computed
    next amount isAmount =>
    have noPoint : '.' ∉ fraction := (Option.ite_none_left_eq_some.mp isAmount).1
    refine ⟨nanos, characters', ?_, ?_, unit?_eq_some_iff.mp isUnit⟩
    · rw [List.count_append, count_point_of_digits digits, List.count_cons_self,
        List.count_eq_zero.mpr noPoint]
    · cases whole with
      | cons c rest => exact ⟨c, List.mem_cons_self, digits c List.mem_cons_self⟩
      | nil =>
        -- A point alone is no number, so there is a digit behind it.
        obtain ⟨c, member⟩ := List.exists_mem_of_ne_nil fraction fun none => notPoint (by rw [none]; rfl)
        have inside : c ∈ [] ++ '.' :: fraction := List.mem_cons_of_mem _ member
        rcases characters' c inside with digit | rfl
        · exact ⟨c, inside, digit⟩
        · exact absurd member noPoint

/-- Digits and a unit are read as the amount that they stand for, if it is not too large. -/
theorem part_of_plain {amount : Amount} (wellFormed : amount.WellFormed) (plain : '.' ∉ amount.number) :
    part amount.number amount.unit =
      if amount.total < limit then .ok amount.total else .error .outOfRange := by
  obtain ⟨characters, -, ⟨c, member, -⟩, isUnit⟩ := wellFormed
  have digits : ∀ c ∈ amount.number, isDigit c = true := by
    intro c member
    rcases characters c member with digit | rfl
    · exact digit
    · exact absurd member plain
  have span : Number.spanDigits amount.number = (amount.number, []) := by
    rw [Number.spanDigits, List.span_eq_takeWhile_dropWhile, List.takeWhile_eq_self_iff.mpr digits,
      List.dropWhile_eq_nil_iff.mpr digits]
  have notEmpty : ¬(amount.number = [] ∨ amount.number = ['.']) := by
    rintro (none | point)
    · rw [none] at member
      cases member
    · rw [point] at plain
      exact plain (List.mem_singleton_self '.')
  rw [part, if_neg notEmpty, unit?_eq_some_iff.mpr isUnit]
  simp only [span, Number.natOf_eq_ofDigitChars digits]
  rfl

/-! ### Sequences of amounts -/

theorem each_unit : ∀ unit ∈ units, unit.1.toList ≠ [] ∧ unit.1.toList.all (!inNumber ·) = true := by
  decide

namespace Amount.WellFormed

variable {amount : Amount} (wellFormed : amount.WellFormed)

include wellFormed

theorem all_inNumber : amount.number.all inNumber = true :=
  List.all_eq_true.mpr fun c member => inNumber_iff.mpr (wellFormed.characters c member)

/-- An amount begins with its number. -/
theorem starts (rest : List Char) :
    ∃ c more, amount.text ++ rest = c :: more ∧ inNumber c = true := by
  obtain ⟨c, member, -⟩ := wellFormed.someDigit
  obtain ⟨first, others, isNumber⟩ := List.exists_cons_of_ne_nil (List.ne_nil_of_mem member)
  refine ⟨first, others ++ amount.unit.toList ++ rest, ?_, ?_⟩
  · rw [text, isNumber]
    simp only [List.cons_append]
  · apply List.all_eq_true.mp wellFormed.all_inNumber
    rw [isNumber]
    exact List.mem_cons_self

/-- The amount at the start of a text is read, and then what follows it. -/
theorem parts_text {rest : List Char} (follows : ∀ c ∈ rest.head?, inNumber c = true) (sum : Nat) :
    parts sum (amount.text ++ rest) =
      match part amount.number amount.unit with
      | .error fault => .error fault
      | .ok found => if limit ≤ sum + found then .error .outOfRange else parts (sum + found) rest := by
  obtain ⟨notEmpty, ofUnit⟩ := each_unit _ wellFormed.isUnit
  have unitStops : ∀ c ∈ (amount.unit.toList ++ rest).head?, inNumber c = false := by
    intro c first
    obtain ⟨letter, letters, isText⟩ := List.exists_cons_of_ne_nil notEmpty
    rw [isText] at first ofUnit
    cases first
    simpa using (List.all_eq_true.mp ofUnit) c List.mem_cons_self
  have restStops : ∀ c ∈ rest.head?, (!inNumber c) = false := by
    intro c first
    rw [follows c first]
    rfl
  have isText : amount.text ++ rest = amount.number ++ (amount.unit.toList ++ rest) := List.append_assoc ..
  have number := Lexer.takeWhile_append_of_stops wellFormed.all_inNumber unitStops
  have behind := Lexer.dropWhile_append_of_stops wellFormed.all_inNumber unitStops
  have unit := Lexer.takeWhile_append_of_stops ofUnit restStops
  have left := Lexer.dropWhile_append_of_stops ofUnit restStops
  rw [← isText] at number behind
  obtain ⟨c, more, starts, -⟩ := wellFormed.starts rest
  rw [starts] at number behind ⊢
  rw [parts, afterPart]
  cases made : part amount.number amount.unit with
  | error fault => simp only [number, behind, unit, String.ofList_toList, made]
  | ok found => simp only [number, behind, unit, left, String.ofList_toList, made]

end Amount.WellFormed

theorem starts_amounts {amounts : List Amount} (each : ∀ amount ∈ amounts, amount.WellFormed)
    (nonempty : amounts ≠ []) :
    ∃ c more, amounts.flatMap Amount.text = c :: more ∧ inNumber c = true := by
  obtain ⟨amount, others, rfl⟩ := List.exists_cons_of_ne_nil nonempty
  rw [List.flatMap_cons]
  exact (each amount List.mem_cons_self).starts _

theorem head?_amounts {amounts : List Amount} (each : ∀ amount ∈ amounts, amount.WellFormed) :
    ∀ c ∈ (amounts.flatMap Amount.text).head?, inNumber c = true := by
  by_cases empty : amounts = []
  · rw [empty]
    exact nofun
  · obtain ⟨c, more, starts, isNumber⟩ := starts_amounts each empty
    rw [starts]
    rintro _ ⟨⟩
    exact isNumber

/-- Amounts of plain digits are added up exactly, or their sum is too large. -/
theorem parts_amounts {amounts : List Amount} (each : ∀ amount ∈ amounts, amount.WellFormed)
    (plain : ∀ amount ∈ amounts, '.' ∉ amount.number) {sum : Nat} (small : sum < limit) :
    parts sum (amounts.flatMap Amount.text) =
      if sum + sumOf amounts < limit then .ok (sum + sumOf amounts) else .error .outOfRange := by
  induction amounts generalizing sum with
  | nil =>
    rw [List.flatMap_nil, parts]
    exact (if_pos small).symm
  | cons amount others ih =>
    obtain ⟨wellFormed, each⟩ := List.forall_mem_cons.mp each
    obtain ⟨noPoint, plain⟩ := List.forall_mem_cons.mp plain
    have isSum : sumOf (amount :: others) = amount.total + sumOf others := by
      simp only [sumOf, List.map_cons, List.sum_cons]
    rw [List.flatMap_cons, wellFormed.parts_text (head?_amounts each), part_of_plain wellFormed noPoint,
      isSum, ← Nat.add_assoc]
    -- Sums only grow, so one that is too large before the end is too large at the end.
    by_cases fits : amount.total < limit
    · rw [if_pos fits]
      dsimp only
      split
      · next tooLarge => rw [if_neg (by omega)]
      · next goesOn => exact ih each plain (by omega)
    · rw [if_neg fits, if_neg (by omega)]

/-- Whatever is read is a sequence of amounts. -/
theorem exists_amounts_of_parts {sum total : Nat} {text : List Char} (computed : parts sum text = .ok total) :
    ∃ amounts : List Amount, (∀ amount ∈ amounts, amount.WellFormed) ∧
      text = amounts.flatMap Amount.text := by
  induction sum, text using parts.induct with
  | case1 sum => exact ⟨[], nofun, rfl⟩
  | case2 sum first rest number unit fault failed =>
    rw [parts, failed] at computed
    cases computed
  | case3 sum first rest number unit amount found tooLarge =>
    rw [parts, found] at computed
    dsimp only at computed
    rw [if_pos tooLarge] at computed
    cases computed
  | case4 sum first rest number unit amount found goesOn ih =>
    rw [parts, found] at computed
    dsimp only at computed
    rw [if_neg goesOn] at computed
    obtain ⟨amounts, each, isText⟩ := ih computed
    have characters : ∀ c ∈ number, inNumber c = true :=
      fun c member => List.all_eq_true.mp List.all_takeWhile c member
    obtain ⟨nanos, wellFormed⟩ := wellFormed_of_part characters found
    refine ⟨⟨number, String.ofList unit, nanos⟩ :: amounts, List.forall_mem_cons.mpr ⟨wellFormed, each⟩, ?_⟩
    rw [List.flatMap_cons, ← isText, Amount.text, String.toList_ofList, afterPart, List.append_assoc,
      List.takeWhile_append_dropWhile, List.takeWhile_append_dropWhile]

/-! ### Signs and ranges -/

theorem exists_sign (text : List Char) :
    ∃ sign ∈ signs (Number.sign text).1, text = sign ++ (Number.sign text).2 := by
  unfold Number.sign
  split
  · exact ⟨['-'], List.mem_singleton_self _, rfl⟩
  · exact ⟨['+'], List.mem_cons_of_mem _ (List.mem_singleton_self _), rfl⟩
  · exact ⟨[], List.mem_cons_self, rfl⟩

theorem sign_append {sign rest : List Char} {negative : Bool} (isSign : sign ∈ signs negative)
    (starts : ∃ c more, rest = c :: more ∧ inNumber c = true) :
    Number.sign (sign ++ rest) = (negative, rest) := by
  obtain ⟨c, more, rfl, isNumber⟩ := starts
  cases negative with
  | true =>
    obtain rfl := List.mem_singleton.mp isSign
    rfl
  | false =>
    rcases List.mem_pair.mp isSign with rfl | rfl
    · rw [List.nil_append, Number.sign]
      · rintro rest ⟨⟩
        exact absurd isNumber (by decide)
      · rintro rest ⟨⟩
        exact absurd isNumber (by decide)
    · rfl

theorem read_eq {text : String} : read text =
    if (Number.sign text.toList).2 = [] then .error .malformed
    else match parts 0 (Number.sign text.toList).2 with
      | .error fault => .error fault
      | .ok sum =>
        match ofTotal? (if (Number.sign text.toList).1 then -(sum : Int) else sum) with
        | some d => .ok d
        | none => .error .outOfRange := by
  rw [read]
  split
  · next negative rest isSign =>
    simp only [isSign]
    split
    · rfl
    · cases parts 0 rest <;> rfl

theorem written_of_read {text : String} {d : Duration} (denotes : read text = .ok d) :
    ∃ negative amounts, Written text.toList negative amounts := by
  rw [read_eq] at denotes
  split at denotes
  · cases denotes
  next notEmpty =>
  split at denotes
  · cases denotes
  next sum computed =>
  obtain ⟨amounts, each, isText⟩ := exists_amounts_of_parts computed
  obtain ⟨sign, isSign, signed⟩ := exists_sign text.toList
  refine ⟨_, amounts, ⟨sign, isSign, by rw [← isText, ← signed]⟩, ?_, each⟩
  rintro rfl
  exact notEmpty isText

theorem natAbs_signed (negative : Bool) (amounts : List Amount) :
    (signed negative amounts).natAbs = sumOf amounts := by
  unfold signed
  cases negative with
  | true => exact (Int.natAbs_neg _).trans (Int.natAbs_natCast _)
  | false => exact Int.natAbs_natCast _

/-- A sum that outgrows the words is out of range. -/
theorem ofTotal?_of_large {total : Int} (large : limit ≤ total.natAbs) : ofTotal? total = none := by
  have size : limit = 2 ^ 127 := by decide
  have longest : maxSeconds = 315576000000 := rfl
  apply Option.eq_none_iff_forall_ne_some.mpr
  intro d made
  have inRange := (total_of_ofTotal? made).2
  unfold InRange at inRange
  omega

/-- A written duration of plain digits is read as its exact length, unless that is out of range. -/
theorem read_of_written {text : String} {negative : Bool} {amounts : List Amount}
    (written : Written text.toList negative amounts) (plain : '.' ∉ text.toList) :
    read text = match ofTotal? (signed negative amounts) with
      | some d => .ok d
      | none => .error .outOfRange := by
  obtain ⟨⟨sign, isSign, isText⟩, nonempty, each⟩ := written
  have starts := starts_amounts each nonempty
  have split : Number.sign text.toList = (negative, amounts.flatMap Amount.text) := by
    rw [isText]
    exact sign_append isSign starts
  have notEmpty : amounts.flatMap Amount.text ≠ [] := by
    obtain ⟨c, more, starts, -⟩ := starts
    rw [starts]
    exact List.cons_ne_nil c more
  have plain' : ∀ amount ∈ amounts, '.' ∉ amount.number := by
    intro amount member point
    apply plain
    rw [isText]
    apply List.mem_append_right
    exact List.mem_flatMap.mpr ⟨amount, member, List.mem_append_left _ point⟩
  have positive : 0 < limit := by decide
  rw [read_eq, split, if_neg notEmpty]
  dsimp only
  rw [parts_amounts each plain' positive, Nat.zero_add]
  by_cases fits : sumOf amounts < limit
  · rw [if_pos fits]
    rfl
  · have large : limit ≤ (signed negative amounts).natAbs := by
      rw [natAbs_signed]
      exact not_lt.mp fits
    rw [if_neg fits, ofTotal?_of_large large]

/-- Every round of reading takes something off the text, and only an optional sign and a sequence of amounts
is read at all. If no number has a point, such a text is read if and only if the sum of its amounts is in
range, and then as exactly this sum. -/
theorem read_iff_written :
    (∀ first rest, (afterPart (first :: rest)).length < (first :: rest).length) ∧
      (∀ text d, read text = .ok d → ∃ negative amounts, Written text.toList negative amounts) ∧
      ∀ text, '.' ∉ text.toList →
        ((∃ d, read text = .ok d) ↔ ∃ negative amounts, Written text.toList negative amounts ∧
          (signed negative amounts).natAbs / 1000000000 ≤ 315576000000) ∧
        ∀ d negative amounts, read text = .ok d → Written text.toList negative amounts →
          d.Canonical ∧ d.total = signed negative amounts := by
  refine ⟨length_afterPart_lt, fun text d => written_of_read, fun text plain => ⟨⟨?_, ?_⟩, ?_⟩⟩
  · rintro ⟨d, denotes⟩
    obtain ⟨negative, amounts, written⟩ := written_of_read denotes
    refine ⟨negative, amounts, written, ?_⟩
    rw [read_of_written written plain] at denotes
    split at denotes
    · next made => exact (total_of_ofTotal? made).2
    · cases denotes
  · rintro ⟨negative, amounts, written, inRange⟩
    obtain ⟨d, made⟩ := exists_ofTotal? inRange
    exact ⟨d, by rw [read_of_written written plain, made]⟩
  · intro d negative amounts denotes written
    rw [read_of_written written plain] at denotes
    split at denotes
    · next made =>
      cases denotes
      exact ofTotal?_eq_some_iff.mp made
    · cases denotes

/-- An hour and a half, taken back. -/
theorem read_iff_written_of_hours :
    '.' ∉ "-1h30m".toList ∧ ∃ d, read "-1h30m" = .ok d ∧ d.total = -5400000000000 := by
  have plain : '.' ∉ "-1h30m".toList := by decide
  have hour : Amount.WellFormed ⟨['1'], "h", 3600000000000⟩ :=
    ⟨List.forall_mem_singleton.mpr (.inl rfl), by decide, ⟨'1', List.mem_singleton_self _, rfl⟩, by decide⟩
  have half : Amount.WellFormed ⟨['3', '0'], "m", 60000000000⟩ :=
    ⟨List.forall_mem_cons.mpr ⟨.inl rfl, List.forall_mem_singleton.mpr (.inl rfl)⟩, by decide,
      ⟨'3', List.mem_cons_self, rfl⟩, by decide⟩
  have written : Written "-1h30m".toList true [⟨['1'], "h", 3600000000000⟩, ⟨['3', '0'], "m", 60000000000⟩] :=
    ⟨⟨['-'], by decide, by decide⟩, List.cons_ne_nil _ _,
      List.forall_mem_cons.mpr ⟨hour, List.forall_mem_singleton.mpr half⟩⟩
  obtain ⟨exists_iff, exact⟩ := read_iff_written.2.2 "-1h30m" plain
  obtain ⟨d, denotes⟩ := exists_iff.mpr ⟨true, _, written, by decide⟩
  exact ⟨plain, d, denotes, (exact d true _ denotes written).2⟩

end Cel.Duration
