import Cel.Engines.Standard
import Cel.Proofs.Steps
import Cel.Proofs.Time.Clock
import Cel.Proofs.Time.Digits
import Cel.Time.Rfc3339

/-! # Reading written timestamps

Every part of a written timestamp is read as itself: the four digits of a year and the two digits of all
other parts, and the fraction, whose zeros at the end are filled up again. So each timestamp of the years 1
to 9999 is read back from its text, whatever its nanoseconds.
-/

namespace Cel

theorem Text.Utf8.length_le_width (text : List Char) : text.length ≤ width text := by
  induction text with
  | nil => exact Nat.zero_le 0
  | cons c rest ih =>
    have pos := c.utf8Size_pos
    have split : width (c :: rest) = c.utf8Size + width rest := rfl
    rw [List.length_cons, split]
    omega

namespace Time.Rfc3339

open Clock (yearText)
open Number (isDigit natOf)

/-! ### The parts of a text -/

/-- A date of the years 0 to 9999 is read back. -/
theorem date_written {date : Date} (valid : date.isValid = true) (notBefore : 0 ≤ date.year)
    (notAfter : date.year ≤ 9999) (rest : List Char) :
    Rfc3339.date (yearText date.year ++ '-' ::
      (padded 2 date.month ++ '-' :: (padded 2 date.day ++ rest))) = .ok (date, rest) := by
  obtain ⟨⟨-, months⟩, -, days⟩ := Date.isValid_iff.mp valid
  have short := Date.daysInMonth_le (isLeap date.year) months
  obtain ⟨y₁, y₂, y₃, y₄, year, yearDigits, yearValue⟩ := exists_padded_four (n := date.year.natAbs) (by omega)
  obtain ⟨m₁, m₂, month, monthDigits, monthValue⟩ := exists_padded_two (n := date.month) (by omega)
  obtain ⟨d₁, d₂, day, dayDigits, dayValue⟩ := exists_padded_two (n := date.day) (by omega)
  have plain : yearText date.year = [y₁, y₂, y₃, y₄] := by rw [yearText, if_pos ⟨notBefore, notAfter⟩, year]
  have digits : [y₁, y₂, y₃, y₄, m₁, m₂, d₁, d₂].all isDigit = true := by
    change ([y₁, y₂, y₃, y₄] ++ ([m₁, m₂] ++ [d₁, d₂])).all isDigit = true
    rw [List.all_append, List.all_append, yearDigits, monthDigits, dayDigits]
    rfl
  have read : (⟨natOf 10 0 [y₁, y₂, y₃, y₄], natOf 10 0 [m₁, m₂], natOf 10 0 [d₁, d₂]⟩ : Date) = date := by
    rw [yearValue, monthValue, dayValue, Int.natAbs_of_nonneg notBefore]
  rw [plain, month, day]
  simp only [List.cons_append, List.nil_append, Rfc3339.date, if_pos digits, read, if_pos valid]

theorem timeOfDay_written {hour minute second : Nat} (hours : hour < 100) (minutes : minute < 100)
    (seconds : second < 100) (rest : List Char) :
    timeOfDay (padded 2 hour ++ ':' :: (padded 2 minute ++ ':' :: (padded 2 second ++ rest))) =
      .ok (⟨hour, minute, second⟩, rest) := by
  obtain ⟨h₁, h₂, hour', hourDigits, hourValue⟩ := exists_padded_two hours
  obtain ⟨m₁, m₂, minute', minuteDigits, minuteValue⟩ := exists_padded_two minutes
  obtain ⟨s₁, s₂, second', secondDigits, secondValue⟩ := exists_padded_two seconds
  have digits : [h₁, h₂, m₁, m₂, s₁, s₂].all isDigit = true := by
    change ([h₁, h₂] ++ ([m₁, m₂] ++ [s₁, s₂])).all isDigit = true
    rw [List.all_append, List.all_append, hourDigits, minuteDigits, secondDigits]
    rfl
  rw [hour', minute', second']
  simp only [List.cons_append, List.nil_append, timeOfDay, if_pos digits, hourValue, minuteValue, secondValue]

/-- A fraction is read back exactly, with or without digits. -/
theorem nanos_written {n : Nat} (small : n < 10 ^ 9) (rest : List Char) :
    nanos (fraction n ++ 'Z' :: rest) = .ok (n, 'Z' :: rest) := by
  rcases fraction_cases small with ⟨rfl, none⟩ | ⟨notZero, some⟩
  · rw [none]
    rfl
  obtain ⟨short, each, spelled⟩ := fractionDigits_spec small
  have stops : ∀ c ∈ ('Z' :: rest).head?, isDigit c = false := by
    rintro _ ⟨⟩
    decide
  have digits := Lexer.takeWhile_append_of_stops each stops
  have behind := Lexer.dropWhile_append_of_stops each stops
  -- No more than nine digits are written, so all of them count.
  have whole : (fractionDigits n).take 9 = fractionDigits n := List.take_of_length_le short
  have isSome := fractionDigits_ne_nil small (Nat.pos_of_ne_zero notZero)
  rw [some]
  unfold nanos
  simp only [List.cons_append, digits]
  split
  · next none _ => exact absurd none isSome
  · next none _ => exact absurd none isSome
  · rw [behind, whole]
    exact congrArg (fun n => Except.ok (n, 'Z' :: rest)) spelled

/-! ### The whole text -/

/-- A text is read if its parts are, and if the second is no leap second and is counted in universal time. -/
theorem read_of_parts {text rest behind : List Char} {date : Date} {hour minute second n : Nat}
    (wide : 19 ≤ Text.Utf8.width text) (dateRead : Rfc3339.date text = .ok (date, 'T' :: rest))
    (timeRead : timeOfDay rest = .ok (⟨hour, minute, second⟩, behind))
    (nanosRead : nanos behind = .ok (n, ['Z']))
    (hours : hour < 24) (minutes : minute < 60) (seconds : second < 60) :
    read text = .ok (date.toDays * 86400 + hour * 3600 + minute * 60 + second, n) := by
  have notShort : ¬Text.Utf8.width text < 19 := by omega
  have inRange : ¬(23 < hour ∨ 59 < minute ∨ 60 < second) := by omega
  have notLeap : second ≠ 60 := by omega
  have kept : min second 59 = second := by omega
  have universal : offset ['Z'] = .ok (0, []) := rfl
  rw [read, if_neg notShort]
  refine (bind_eq_of_eq_ok dateRead).trans ?_
  refine (bind_eq_of_eq_ok timeRead).trans ?_
  refine (bind_eq_of_eq_ok nanosRead).trans ?_
  refine (if_neg inRange).trans ?_
  refine (bind_eq_of_eq_ok universal).trans ?_
  simp only [kept, if_neg notLeap, Int.sub_zero]
  rfl

section Clock

variable {c : Clock}

theorem le_length_text (c : Clock) : 19 ≤ c.text.length := by
  have year : 4 ≤ (yearText c.date.year).length := by
    rw [yearText]
    split
    · exact le_length_padded 4 _
    · exact Nat.le_succ_of_le (le_length_padded 4 _)
  have month := le_length_padded 2 c.date.month
  have day := le_length_padded 2 c.date.day
  have hour := le_length_padded 2 (c.second / 3600)
  have minute := le_length_padded 2 (c.second / 60 % 60)
  have second := le_length_padded 2 (c.second % 60 + c.nanos / 1000000000)
  simp only [Clock.text, List.length_append, List.length_cons]
  omega

/-- The parts of the text of a clock, one after the other. -/
theorem text_eq_parts (nanos : c.nanos < 1000000000) (rest : List Char) :
    c.text ++ rest = yearText c.date.year ++ '-' :: (padded 2 c.date.month ++ '-' ::
      (padded 2 c.date.day ++ 'T' :: (padded 2 (c.second / 3600) ++ ':' ::
        (padded 2 (c.second / 60 % 60) ++ ':' :: (padded 2 (c.second % 60) ++ rest))))) := by
  rw [Clock.text, Nat.div_eq_of_lt nanos, Nat.add_zero]
  simp only [List.append_assoc, List.cons_append]

/-- The text of a clock in universal time is read as the moment that the clock shows. -/
theorem read_written (notBefore : 0 ≤ c.date.year) (notAfter : c.date.year ≤ 9999)
    (inDay : c.second < 86400) (nanos : c.nanos < 1000000000) :
    read (c.text ++ fraction c.nanos ++ ['Z']) = .ok (c.day * 86400 + c.second, c.nanos) := by
  have valid : c.date.isValid = true := (Date.ofDays_spec c.day).1
  have day : c.date.toDays = c.day := (Date.ofDays_spec c.day).2
  have hours : c.second / 3600 < 24 := by omega
  have minutes : c.second / 60 % 60 < 60 := Nat.mod_lt _ (by decide)
  have seconds : c.second % 60 < 60 := Nat.mod_lt _ (by decide)
  have dateRead := date_written valid notBefore notAfter
  have timeRead := timeOfDay_written (hours.trans (by decide)) (minutes.trans (by decide))
    (seconds.trans (by decide)) (fraction c.nanos ++ ['Z'])
  have sum : c.day * 86400 + c.second = c.date.toDays * 86400 + (c.second / 3600 : Nat) * 3600 +
      (c.second / 60 % 60 : Nat) * 60 + (c.second % 60 : Nat) := by omega
  have wide : 19 ≤ Text.Utf8.width (c.text ++ (fraction c.nanos ++ ['Z'])) := by
    have chars := Text.Utf8.length_le_width (c.text ++ (fraction c.nanos ++ ['Z']))
    have long := le_length_text c
    rw [List.length_append] at chars
    omega
  rw [List.append_assoc, sum]
  rw [text_eq_parts nanos] at wide ⊢
  exact read_of_parts wide (dateRead _) timeRead (nanos_written nanos []) hours minutes seconds

end Clock

end Time.Rfc3339

/-- A valid timestamp is read back from its text. -/
theorem Timestamp.read_text_of_isValid {t : Timestamp} (valid : t.isValid = true) :
    Timestamp.read t.text = .ok t := by
  obtain ⟨clock, shown, ⟨notBefore, notAfter⟩, inDay, small, seconds, nanos⟩ :=
    exists_clock? (canonical_of_isValid valid)
  have written : t.text.toList = clock.text ++ Time.fraction clock.nanos ++ ['Z'] := by
    simp only [text, shown, String.toList_ofList]
  have fromText := Time.Rfc3339.read_written (Int.le_of_lt notBefore) notAfter inDay small
  rw [read, written, fromText]
  simp only [seconds, nanos, Int64.ofInt_toInt, Int32.ofInt_toInt, valid, if_true]

/-! ### Conversions in terms -/

namespace Eval

variable {activation : Activation} {locals : List Value} {term : Term}

/-- A valid timestamp that is converted to a string and back is equal to what it was. -/
theorem timestamp_of_string [Engines] {t : Timestamp} {other : Term} (valid : t.isValid = true)
    (evaluated : eval activation locals term = .ok (.timestamp t))
    (evaluated' : eval activation locals other = .ok (.timestamp t)) (whole outer inner : Span) :
    let back := Term.call outer .timestamp [.call inner .string [term]]
    Timestamp.read t.text = .ok t ∧ eval activation locals back = .ok (.timestamp t) ∧
      eval activation locals (.strict whole .eq back other) = .ok (.bool true) := by
  intro back
  have reads := Timestamp.read_text_of_isValid valid
  have string : eval activation locals (.call inner .string [term]) = .ok (.string t.text) :=
    eval_call_of_arg evaluated inner .string
  have converted : eval activation locals back = .ok (.timestamp t) := by
    have toTimestamp : Builtin.timestamp.call [.string t.text] = .ok (.timestamp t) := by
      change Value.toTimestamp (.string t.text) = .ok (.timestamp t)
      rw [Value.toTimestamp, reads]
    refine (eval_call_of_arg string outer .timestamp).trans ?_
    rw [toTimestamp]
    rfl
  have equal : Value.strict .eq (.timestamp t) (.timestamp t) = .ok (.bool true) := by
    have compares : (Value.timestamp t).equal (.timestamp t) = (t == t) := by rw [Value.equal]
    change Except.ok (Value.bool ((Value.timestamp t).equal (.timestamp t))) = .ok (.bool true)
    rw [compares, beq_self_eq_true]
  refine ⟨reads, converted, ?_⟩
  rw [eval]
  refine (bind_eq_of_eq_ok converted).trans ?_
  refine (bind_eq_of_eq_ok evaluated').trans ?_
  rw [equal]
  rfl

/-- The last second of a leap day before the year 1000, with a zero behind the point. -/
theorem timestamp_of_string_on_leap_day :
    let t : Timestamp := ⟨-49539254401, 50000000⟩
    let activation : Activation := ⟨fun _ => some (.timestamp t), fun _ => false⟩
    let back : Term := .call ⟨0, 20⟩ .timestamp [.call ⟨10, 19⟩ .string [.free ⟨17, 18⟩ "t"]]
    t.isValid = true ∧ t.text = "0400-02-29T23:59:59.05Z" ∧
      Timestamp.read "0400-02-29T23:59:59.05Z" = .ok t ∧ eval activation [] back = .ok (.timestamp t) ∧
      eval activation [] (.strict ⟨0, 25⟩ .eq back (.free ⟨24, 25⟩ "t")) = .ok (.bool true) := by
  intro t activation back
  have valid : t.isValid = true := by decide
  have text : t.text = "0400-02-29T23:59:59.05Z" := by decide
  have value (span : Span) : eval activation [] (.free span "t") = .ok (.timestamp t) := by
    rw [eval]
    rfl
  obtain ⟨reads, converted, equal⟩ :=
    timestamp_of_string valid (value ⟨17, 18⟩) (value ⟨24, 25⟩) ⟨0, 25⟩ ⟨0, 20⟩ ⟨10, 19⟩
  rw [text] at reads
  exact ⟨valid, text, reads, converted, equal⟩

end Eval

end Cel
