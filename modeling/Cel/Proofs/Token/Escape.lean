import Mathlib.Algebra.Order.Ring.Nat
import Mathlib.Data.List.Induction
import Cel.Token.Literal

/-! # Escapes

The texts that may stand behind a backslash, each with the item that it spells. Simple escapes are one mark
or letter. Numeric escapes are runs of digits of a fixed length behind a letter, or three octal digits. The
numbers on the way to their value never need more than 32 bits, those of octets end below 256, and an item
carries its number unchanged.
-/

namespace Cel

namespace Number

theorem natOf_append (base value : Nat) (first second : List Char) :
    natOf base value (first ++ second) = natOf base (natOf base value first) second := by
  induction first generalizing value with
  | nil => rfl
  | cons c first ih => exact ih _

end Number

namespace Literal

/-! ### Digits -/

/-- Whether a text consists of digits of a base that spell a number. -/
inductive Spells (base : Nat) : List Char → Nat → Prop where
  | none : Spells base [] 0
  | digit {text : List Char} {value : Nat} {c : Char} {digit : Nat} (before : Spells base text value)
    (isDigit : Number.digit? c = some digit) (small : digit < base) :
    Spells base (text ++ [c]) (value * base + digit)

/-- Whether a character is a digit of a base. -/
def isDigitOf (base : Nat) (c : Char) : Bool := (Number.digit? c).any (· < base)

theorem isDigitOf_iff {base : Nat} {c : Char} :
    isDigitOf base c = true ↔ ∃ digit, Number.digit? c = some digit ∧ digit < base := by
  simp [isDigitOf, Option.any_eq_true]

theorem spells_iff {base : Nat} {text : List Char} {value : Nat} :
    Spells base text value ↔ text.all (isDigitOf base) = true ∧ Number.natOf base 0 text = value := by
  constructor
  · intro spells
    induction spells with
    | none => exact ⟨rfl, rfl⟩
    | @digit text value c digit _ isDigit small ih =>
      obtain ⟨each, same⟩ := ih
      have last : isDigitOf base c = true := isDigitOf_iff.mpr ⟨digit, isDigit, small⟩
      refine ⟨by rw [List.all_append, each, List.all_cons, last]; rfl, ?_⟩
      simp only [Number.natOf_append, same, Number.natOf, isDigit, Option.getD_some]
  · rintro ⟨each, rfl⟩
    induction text using List.reverseRecOn with
    | nil => exact .none
    | append_singleton text c ih =>
      rw [List.all_append, Bool.and_eq_true] at each
      obtain ⟨before, last⟩ := each
      rw [List.all_cons, List.all_nil, Bool.and_true] at last
      obtain ⟨digit, isDigit, small⟩ := isDigitOf_iff.mp last
      have spelled : Number.natOf base 0 (text ++ [c]) = Number.natOf base 0 text * base + digit := by
        simp only [Number.natOf_append, Number.natOf, isDigit, Option.getD_some]
      rw [spelled]
      exact .digit (ih before) isDigit small

theorem natOf_lt {base : Nat} {text : List Char} (each : text.all (isDigitOf base) = true)
    (value : Nat) : Number.natOf base value text < (value + 1) * base ^ text.length := by
  induction text generalizing value with
  | nil =>
    simp only [Number.natOf, List.length_nil, Nat.pow_zero, Nat.mul_one]
    exact Nat.lt_succ_self value
  | cons c text ih =>
    rw [List.all_cons, Bool.and_eq_true] at each
    obtain ⟨first, others⟩ := each
    obtain ⟨digit, isDigit, small⟩ := isDigitOf_iff.mp first
    have step : value * base + digit + 1 ≤ (value + 1) * base := by
      rw [Nat.add_mul, Nat.one_mul]
      omega
    calc Number.natOf base value (c :: text)
        = Number.natOf base (value * base + digit) text := by
          rw [Number.natOf, isDigit, Option.getD_some]
      _ < (value * base + digit + 1) * base ^ text.length := ih others _
      _ ≤ (value + 1) * base * base ^ text.length := Nat.mul_le_mul_right _ step
      _ = (value + 1) * base ^ (c :: text).length := by
          rw [List.length_cons, Nat.pow_succ, Nat.mul_assoc, Nat.mul_comm base]

theorem Spells.lt {base : Nat} {text : List Char} {value : Nat} (spells : Spells base text value) :
    value < base ^ text.length := by
  obtain ⟨each, rfl⟩ := spells_iff.mp spells
  have bound := natOf_lt each 0
  rwa [Nat.zero_add, Nat.one_mul] at bound

/-- The first digit bounds a number. -/
theorem Spells.lt_of_cons {base : Nat} {c : Char} {text : List Char} {value first : Nat}
    (spells : Spells base (c :: text) value) (isDigit : Number.digit? c = some first) :
    value < (first + 1) * base ^ text.length := by
  obtain ⟨each, rfl⟩ := spells_iff.mp spells
  rw [List.all_cons, Bool.and_eq_true] at each
  have bound := natOf_lt each.2 first
  rwa [Number.natOf, isDigit, Option.getD_some, Nat.zero_mul, Nat.zero_add]

theorem Spells.digit_of_mem {base : Nat} {text : List Char} {value : Nat}
    (spells : Spells base text value) : ∀ c ∈ text, isDigitOf base c = true :=
  List.all_eq_true.mp (spells_iff.mp spells).1

theorem digits?_eq_some_iff {base count : Nat} {text : List Char} {value : Nat} :
    digits? base count text = some value ↔
      ∃ digits after, text = digits ++ after ∧ digits.length = count ∧ Spells base digits value := by
  have same : (fun c => (Number.digit? c).any (· < base)) = isDigitOf base := rfl
  simp only [digits?, same]
  constructor
  · intro read
    split at read
    · next taken =>
      cases read
      refine ⟨text.take count, text.drop count, (List.take_append_drop count text).symm, taken.1, ?_⟩
      exact spells_iff.mpr ⟨taken.2, rfl⟩
    · cases read
  · rintro ⟨digits, after, rfl, rfl, spells⟩
    obtain ⟨each, spelled⟩ := spells_iff.mp spells
    rw [List.take_left, if_pos ⟨rfl, each⟩, spelled]

/-! ### Escapes of one character -/

/-- The escapes of one character: the marks that stand for themselves, and the letters that stand for a
control character. -/
inductive Simple : Char → Char → Prop where
  | mark {c : Char} (isMark : c ∈ ['\x5c', '/', '\x22', '\x27', '\x60', '?']) : Simple c c
  | bell : Simple 'a' '\x07'
  | backspace : Simple 'b' '\x08'
  | formFeed : Simple 'f' '\x0c'
  | lineFeed : Simple 'n' '\n'
  | carriageReturn : Simple 'r' '\r'
  | tab : Simple 't' '\t'
  | verticalTab : Simple 'v' '\x0b'

/-- The table that is read from has exactly these escapes. -/
theorem simpleEscape?_eq_some_iff {c d : Char} : simpleEscape? c = some d ↔ Simple c d := by
  constructor
  · intro found
    unfold simpleEscape? at found
    split at found
    · next isMark =>
      cases found
      exact .mark (by simpa using isMark)
    -- The other branches are the letters, one by one.
    repeat
      split at found
      · next isLetter =>
        cases found
        subst isLetter
        constructor
    cases found
  · intro simple
    cases simple with
    | mark isMark => exact if_pos (by simpa using isMark)
    | _ => decide

/-- A character that the table does not have is no escape. -/
theorem not_simple_of_eq_none {c d : Char} (absent : simpleEscape? c = none) : ¬Simple c d := by
  rw [← simpleEscape?_eq_some_iff, absent]
  exact Option.some_ne_none d ∘ Eq.symm

/-! ### Numeric escapes -/

/-- What the number of an escape is. -/
inductive Meaning where
  | octet | point

/-- The forms of numeric escapes, each with its base and its digits. -/
inductive Numeral : Meaning → List Char → Nat → List Char → Prop where
  | hex {x : Char} {digits : List Char} (mark : x = 'x' ∨ x = 'X') (two : digits.length = 2) :
    Numeral .octet (x :: digits) 16 digits
  | octal {c : Char} {digits : List Char} (low : '0' ≤ c ∧ c ≤ '3') (two : digits.length = 2) :
    Numeral .octet (c :: digits) 8 (c :: digits)
  | short {digits : List Char} (four : digits.length = 4) : Numeral .point ('u' :: digits) 16 digits
  | long {digits : List Char} (eight : digits.length = 8) : Numeral .point ('U' :: digits) 16 digits

theorem eq_of_low {c : Char} (low : '0' ≤ c ∧ c ≤ '3') : c = '0' ∨ c = '1' ∨ c = '2' ∨ c = '3' := by
  have least : 48 ≤ c.toNat := low.1
  have most : c.toNat ≤ 51 := low.2
  have codes : c.toNat = 48 ∨ c.toNat = 49 ∨ c.toNat = 50 ∨ c.toNat = 51 := by omega
  have back : Char.ofNat c.toNat = c := Char.ofNat_toNat c
  rcases codes with code | code | code | code <;> rw [code] at back <;> subst back <;> decide

theorem digit?_of_low {c : Char} (low : '0' ≤ c ∧ c ≤ '3') :
    ∃ digit, Number.digit? c = some digit ∧ digit ≤ 3 := by
  rcases eq_of_low low with rfl | rfl | rfl | rfl
  · exact ⟨0, by decide⟩
  · exact ⟨1, by decide⟩
  · exact ⟨2, by decide⟩
  · exact ⟨3, by decide⟩

/-- A small octal digit is the letter of no other escape. -/
theorem not_other_of_low {c : Char} (low : '0' ≤ c ∧ c ≤ '3') :
    simpleEscape? c = none ∧ ¬(c = 'x' ∨ c = 'X') ∧ c ≠ 'u' ∧ c ≠ 'U' := by
  rcases eq_of_low low with rfl | rfl | rfl | rfl <;> decide

namespace Numeral

variable {meaning : Meaning} {written digits : List Char} {base value : Nat}

/-- The number of an octet is below 256. An octal one begins with a small digit. -/
theorem octet_lt (form : Numeral .octet written base digits) (spells : Spells base digits value) :
    value < 256 := by
  cases form with
  | hex mark two =>
    have bound := spells.lt
    rwa [two] at bound
  | octal low two =>
    obtain ⟨first, isDigit, small⟩ := digit?_of_low low
    have bound := spells.lt_of_cons isDigit
    rw [two] at bound
    have most : (first + 1) * 8 ^ 2 ≤ (3 + 1) * 8 ^ 2 := Nat.mul_le_mul_right _ (Nat.succ_le_succ small)
    exact Nat.lt_of_lt_of_le bound most

end Numeral

/-! ### All escapes -/

/-- Whether a text may stand behind a backslash and spells an item. An octet and a character have the
number that is spelled, and so no surrogate and nothing beyond the last character can be spelled. -/
inductive Escape : List Char → Item → Prop where
  | simple {c d : Char} (simple : Simple c d) : Escape [c] (.char d)
  | octet {written digits : List Char} {base : Nat} {value : UInt8}
    (form : Numeral .octet written base digits) (spells : Spells base digits value.toNat) :
    Escape written (.octet value)
  | point {written digits : List Char} {base : Nat} {c : Char}
    (form : Numeral .point written base digits) (spells : Spells base digits c.toNat) :
    Escape written (.char c)

theorem char?_eq_some_iff {point : Nat} {c : Char} : char? point = some c ↔ c.toNat = point := by
  rw [char?]
  constructor
  · intro read
    split at read
    · next valid =>
      cases read
      rw [Char.ofNat, dif_pos valid]
      rfl
    · cases read
  · rintro rfl
    rw [if_pos (show c.toNat.isValidChar from c.valid), Char.ofNat_toNat]

/-- The item that digits behind a backslash spell as an octet. -/
theorem exists_octet {digits : Option Nat} {taken length : Nat} {item : Item}
    (read : (match digits with
      | some n => Except.ok (Item.octet (UInt8.ofNat n), taken)
      | none => .error LexError.Cause.invalidEscape) = .ok (item, length)) :
    ∃ n, digits = some n ∧ item = .octet (UInt8.ofNat n) ∧ taken = length := by
  cases digits with
  | none => cases read
  | some n =>
    cases read
    exact ⟨n, rfl, rfl, rfl⟩

/-- The item that digits behind a backslash spell as a character. -/
theorem exists_point {digits : Option Nat} {taken length : Nat} {item : Item}
    (read : (match digits >>= char? with
      | some d => Except.ok (Item.char d, taken)
      | none => .error LexError.Cause.invalidEscape) = .ok (item, length)) :
    ∃ c : Char, digits = some c.toNat ∧ item = .char c ∧ taken = length := by
  cases digits with
  | none => cases read
  | some n =>
    change (match char? n with
      | some d => Except.ok (Item.char d, taken)
      | none => .error LexError.Cause.invalidEscape) = .ok (item, length) at read
    cases spelled : char? n with
    | none =>
      rw [spelled] at read
      cases read
    | some c =>
      rw [spelled] at read
      cases read
      exact ⟨c, by rw [char?_eq_some_iff.mp spelled], rfl, rfl⟩

theorem octet_toNat {written digits : List Char} {base n : Nat}
    (form : Numeral .octet written base digits) (spells : Spells base digits n) :
    Escape written (.octet (UInt8.ofNat n)) := by
  have whole : (UInt8.ofNat n).toNat = n := UInt8.toNat_ofNat_of_lt' (form.octet_lt spells)
  exact .octet form (whole.symm ▸ spells)

theorem exists_escape_of_eq_ok {text : List Char} {item : Item} {taken : Nat}
    (read : escape text = .ok (item, taken)) :
    ∃ written after, text = written ++ after ∧ taken = written.length ∧ Escape written item := by
  cases text with
  | nil => cases read
  | cons c rest =>
    simp only [escape] at read
    split at read
    · next d simple =>
      cases read
      exact ⟨[c], rest, rfl, rfl, .simple (simpleEscape?_eq_some_iff.mp simple)⟩
    · split at read
      · next mark =>
        obtain ⟨n, spelled, rfl, rfl⟩ := exists_octet read
        obtain ⟨digits, after, rfl, two, spells⟩ := digits?_eq_some_iff.mp spelled
        exact ⟨c :: digits, after, rfl, by rw [List.length_cons, two], octet_toNat (.hex mark two) spells⟩
      · split at read
        · next mark =>
          subst mark
          obtain ⟨d, spelled, rfl, rfl⟩ := exists_point read
          obtain ⟨digits, after, rfl, four, spells⟩ := digits?_eq_some_iff.mp spelled
          exact ⟨'u' :: digits, after, rfl, by rw [List.length_cons, four], .point (.short four) spells⟩
        · split at read
          · next mark =>
            subst mark
            obtain ⟨d, spelled, rfl, rfl⟩ := exists_point read
            obtain ⟨digits, after, rfl, eight, spells⟩ := digits?_eq_some_iff.mp spelled
            exact ⟨'U' :: digits, after, rfl, by rw [List.length_cons, eight],
              .point (.long eight) spells⟩
          · split at read
            · next low =>
              obtain ⟨n, spelled, rfl, rfl⟩ := exists_octet read
              obtain ⟨digits, after, same, three, spells⟩ := digits?_eq_some_iff.mp spelled
              cases digits with
              | nil => cases three
              | cons first digits =>
                cases same
                have two : digits.length = 2 := Nat.succ.inj three
                exact ⟨c :: digits, after, rfl, three.symm, octet_toNat (.octal low two) spells⟩
            · cases read

theorem escape_eq_ok {written : List Char} {item : Item} (spelled : Escape written item)
    (after : List Char) : escape (written ++ after) = .ok (item, written.length) := by
  have taken {base : Nat} {digits : List Char} {value : Nat} (spells : Spells base digits value) :
      digits? base digits.length (digits ++ after) = some value :=
    digits?_eq_some_iff.mpr ⟨digits, after, rfl, rfl, spells⟩
  cases spelled with
  | simple simple =>
    simp only [escape, List.cons_append, simpleEscape?_eq_some_iff.mpr simple, List.length_singleton]
  | @octet _ digits base value form spells =>
    have read := taken spells
    have value : UInt8.ofNat value.toNat = value := UInt8.ofNat_toNat
    cases form with
    | hex mark two =>
      rw [two] at read
      have notSimple : simpleEscape? 'x' = none ∧ simpleEscape? 'X' = none := by decide
      rcases mark with rfl | rfl <;> simp [escape, notSimple, read, value, two]
    | octal low two =>
      rw [List.length_cons, two] at read
      rw [List.cons_append] at read
      obtain ⟨notSimple, notHex, notShort, notLong⟩ := not_other_of_low low
      simp [escape, notSimple, notHex, notShort, notLong, low, read, value, two]
  | @point _ digits base c form spells =>
    have read := taken spells
    have isChar : char? c.toNat = some c := char?_eq_some_iff.mpr rfl
    cases form with
    | short four =>
      rw [four] at read
      have notSimple : simpleEscape? 'u' = none := by decide
      simp [escape, notSimple, read, isChar, four]
    | long eight =>
      rw [eight] at read
      have notSimple : simpleEscape? 'U' = none := by decide
      simp [escape, notSimple, read, isChar, eight]

/-- The escapes that are read are the escapes there are. -/
theorem escape_eq_ok_iff {text : List Char} {item : Item} {taken : Nat} :
    escape text = .ok (item, taken) ↔
      ∃ written after, text = written ++ after ∧ taken = written.length ∧ Escape written item := by
  constructor
  · exact exists_escape_of_eq_ok
  · rintro ⟨written, after, rfl, rfl, spelled⟩
    exact escape_eq_ok spelled after

/-- No escape has a line break in it. -/
theorem Escape.newline_not_mem {written : List Char} {item : Item} (spelled : Escape written item) :
    '\n' ∉ written := by
  have noDigit (base : Nat) : isDigitOf base '\n' = false := rfl
  have outside {base : Nat} {digits : List Char} {value : Nat} (spells : Spells base digits value) :
      '\n' ∉ digits := by
    intro member
    have isDigit := spells.digit_of_mem '\n' member
    rw [noDigit] at isDigit
    cases isDigit
  cases spelled with
  | @simple c d simple =>
    rw [List.mem_singleton]
    rintro rfl
    exact not_simple_of_eq_none (by decide) simple
  | octet form spells =>
    cases form with
    | hex mark two =>
      rw [List.mem_cons, not_or]
      refine ⟨?_, outside spells⟩
      rcases mark with rfl | rfl <;> decide
    | octal low two => exact outside spells
  | point form spells =>
    cases form with
    | short four => exact List.not_mem_cons_of_ne_of_not_mem (by decide) (outside spells)
    | long eight => exact List.not_mem_cons_of_ne_of_not_mem (by decide) (outside spells)

end Literal

end Cel
