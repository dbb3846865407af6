import Cel.Proofs.Token.Scan
import Cel.Value.Text

/-! # Reading written literals

The decimal digits of a number are read as that number, as a signed literal or, with a mark behind
them, as an unsigned one. The escapes that bytes are written with are read as those bytes.
-/

namespace Cel

/-! ### Numbers -/

namespace Number

theorem isDigit_eq (c : Char) : isDigit c = c.isDigit := rfl

theorem digit?_of_isDigit {c : Char} (isDigit : c.isDigit = true) :
    digit? c = some (c.toNat - '0'.toNat) := by
  have bounds : '0' ≤ c ∧ c ≤ '9' := by simpa [← isDigit_eq, Number.isDigit] using isDigit
  rw [digit?, if_pos bounds]

theorem natOf_eq_ofDigitChars {digits : List Char} (each : ∀ c ∈ digits, c.isDigit = true)
    (value : Nat) : natOf 10 value digits = Nat.ofDigitChars 10 digits value := by
  induction digits generalizing value with
  | nil => rfl
  | cons c rest ih =>
    obtain ⟨head, tail⟩ := List.forall_mem_cons.mp each
    rw [natOf, digit?_of_isDigit head, Nat.ofDigitChars_cons, ih tail, Option.getD_some, Nat.mul_comm]

theorem isDigit_of_mem_toDigits {n : Nat} {c : Char} (member : c ∈ Nat.toDigits 10 n) :
    c.isDigit = true :=
  Nat.isDigit_of_mem_toDigits (by omega) (by omega) member

theorem all_isDigit_toDigits (n : Nat) : (Nat.toDigits 10 n).all isDigit = true :=
  List.all_eq_true.mpr fun _ => isDigit_of_mem_toDigits

/-- The decimal digits of a number begin with a digit. -/
theorem exists_toDigits_eq_cons (n : Nat) :
    ∃ c more, Nat.toDigits 10 n = c :: more ∧ c.isDigit = true := by
  obtain ⟨c, more, digits⟩ := List.exists_cons_of_ne_nil (Nat.toDigits_ne_nil (n := n) (b := 10))
  exact ⟨c, more, digits, isDigit_of_mem_toDigits (n := n) (by simp [digits])⟩

/-- The decimal digits of a number spell it. -/
theorem natOf_toDigits (n : Nat) : natOf 10 0 (Nat.toDigits 10 n) = n := by
  rw [natOf_eq_ofDigitChars fun c => isDigit_of_mem_toDigits]
  exact Nat.ofDigitChars_ten_toDigits

end Number

namespace Lexer

/-- The characters behind which nothing of a decimal number can stand. -/
def numberStops (c : Char) : Bool := !(Number.isDigit c || ".eExX".toList.contains c)

section Stops

variable {rest : List Char} (stops : ∀ c ∈ rest.head?, numberStops c = true)

include stops

theorem fractionLength_of_stops : fractionLength rest = 0 := by
  unfold fractionLength
  split
  · exact absurd (stops '.' rfl) (by decide)
  · rfl

theorem exponentLength_of_stops : exponentLength rest = 0 := by
  cases rest with
  | nil => rfl
  | cons e others =>
    have stopped : numberStops e = true := stops e rfl
    have noMark : ¬(e = 'e' ∨ e = 'E') := by
      rintro (rfl | rfl) <;> exact absurd stopped (by decide)
    exact if_neg noMark

theorem takeWhile_toDigits (n : Nat) :
    (Nat.toDigits 10 n ++ rest).takeWhile Number.isDigit = Nat.toDigits 10 n := by
  refine takeWhile_append_of_stops (Number.all_isDigit_toDigits n) fun c first => ?_
  have stopped := stops c first
  simp only [numberStops, Bool.not_eq_true', Bool.or_eq_false_iff] at stopped
  exact stopped.1

/-- The second character is a digit or what follows, but not the mark of a hexadecimal number. -/
theorem not_hexMark_of_toDigits {n : Nat} {c x : Char} {more : List Char}
    (same : Nat.toDigits 10 n ++ rest = c :: x :: more) : ¬(x = 'x' ∨ x = 'X') := by
  cases digits : Nat.toDigits 10 n with
  | nil => exact absurd digits Nat.toDigits_ne_nil
  | cons first others =>
    rw [digits] at same
    cases others with
    | nil =>
      cases same
      have stopped : numberStops x = true := stops x rfl
      rintro (rfl | rfl) <;> exact absurd stopped (by decide)
    | cons second others =>
      cases same
      have isDigit : x.isDigit = true := Number.isDigit_of_mem_toDigits (n := n) (by simp [digits])
      rintro (rfl | rfl) <;> exact absurd isDigit (by decide)

/-- Decimal digits that nothing goes on from are a decimal integer literal. -/
theorem number_toDigits (n : Nat) :
    number (Nat.toDigits 10 n ++ rest) =
      integer (Nat.toDigits 10 n ++ rest) (Nat.toDigits 10 n).length n := by
  have behind : (Nat.toDigits 10 n ++ rest).drop (Nat.toDigits 10 n).length = rest := List.drop_left
  unfold number
  simp only [takeWhile_toDigits stops, behind, fractionLength_of_stops stops,
    exponentLength_of_stops stops, Nat.add_zero, Number.natOf_toDigits]
  split
  · next x more same => simp [not_hexMark_of_toDigits stops same]
  · simp

end Stops

theorem isBlank_of_isDigit {c : Char} (isDigit : c.isDigit = true) : isBlank c = false := by
  rw [Bool.eq_false_iff]
  intro blank
  simp only [isBlank, Bool.or_eq_true, decide_eq_true_eq] at blank
  rcases blank with ((rfl | rfl) | rfl) | rfl <;> exact absurd isDigit (by decide)

theorem piece_of_isDigit {c : Char} (isDigit : c.isDigit = true) (rest : List Char) :
    piece c rest = number (c :: rest) := by
  have notSlash : c ≠ '/' := by
    rintro rfl
    exact absurd isDigit (by decide)
  rw [← Number.isDigit_eq] at isDigit
  simp [piece, isBlank_of_isDigit isDigit, notSlash, isDigit]

/-- The digits of a number begin with a digit, and so a number literal begins with them. -/
theorem exists_piece_toDigits (n : Nat) : ∃ c more, Nat.toDigits 10 n = c :: more ∧
    isBlank c = false ∧ ∀ rest : List Char, (∀ d ∈ rest.head?, numberStops d = true) →
      piece c (more ++ rest) = integer (c :: (more ++ rest)) (more.length + 1) n := by
  obtain ⟨c, more, digits, isDigit⟩ := Number.exists_toDigits_eq_cons n
  refine ⟨c, more, digits, isBlank_of_isDigit isDigit, fun rest stops => ?_⟩
  have read := number_toDigits stops n
  rw [digits] at read
  exact (piece_of_isDigit isDigit _).trans read

theorem Breaks.numberStops {rest : List Char} (breaks : Breaks rest) :
    ∀ c ∈ rest.head?, numberStops c = true := by
  intro c first
  have each : closers.all Lexer.numberStops = true := by decide
  exact List.all_eq_true.mp each c (breaks c first)

/-- The literal of a number in range. -/
theorem signed_eq_token {word : Int64} {value : Int} (same : word.toInt = value) (text : List Char) :
    signed text value = .token (.int word) := by
  simp only [signed, Number.int64?_eq_some_iff.mpr same]

theorem unsigned_eq_token {word : UInt64} {value : Int} (same : word.toNat = value)
    (text : List Char) : unsigned text value = .token (.uint word) := by
  simp only [unsigned, Number.uint64?_eq_some_iff.mpr same]

theorem Reads.int {word : Int64} {n : Nat} (same : word.toInt = n) :
    Reads (Nat.toDigits 10 n) [.int word] := by
  obtain ⟨c, more, digits, notBlank, first⟩ := exists_piece_toDigits n
  rw [digits]
  refine ⟨⟨c, more, rfl, notBlank⟩, fun rest breaks => Scans.of_piece ?_⟩
  have noMark : hasUnsignedMark rest = false := by
    have stops : ∀ d ∈ rest.head?, (d = 'u' || d = 'U') = false := breaks.stops (by decide)
    cases rest with
    | nil => rfl
    | cons d others => exact stops d rfl
  rw [first rest breaks.numberStops, integer, List.drop_succ_cons, List.drop_left,
    if_neg (by simp [noMark]), signed_eq_token same]

theorem Reads.uint (word : UInt64) :
    Reads (Nat.toDigits 10 word.toNat ++ ['u']) [.uint word] := by
  obtain ⟨c, more, digits, notBlank, first⟩ := exists_piece_toDigits word.toNat
  rw [digits]
  refine ⟨⟨c, _, rfl, notBlank⟩, fun rest breaks => ?_⟩
  have stops : ∀ d ∈ ('u' :: rest).head?, numberStops d = true := by
    rintro _ ⟨⟩
    decide
  have mark : hasUnsignedMark ('u' :: rest) = true := rfl
  have whole : piece c ((more ++ ['u']) ++ rest) = (.token (.uint word), (more ++ ['u']).length + 1) := by
    rw [List.append_assoc, List.singleton_append, first _ stops, integer, List.drop_succ_cons,
      List.drop_left, if_pos mark, unsigned_eq_token rfl, List.length_append, List.length_singleton]
  exact Scans.of_piece whole

/-- The digits of a number behind a minus sign. -/
theorem Reads.negative {word : Int64} {n : Nat} (same : word.toInt = n) :
    Reads ('-' :: Nat.toDigits 10 n) [.symbol .minus, .int word] where
  starts := ⟨'-', _, rfl, by decide⟩
  scans rest breaks :=
    (scans_symbol (c := '-') (by decide) rfl _).trans ((Reads.int same).scans rest breaks)

end Lexer

/-! ### Bytes -/

namespace Literal

open Value (byteText)

/-- The opening of written bytes. -/
def written : Opener := ⟨false, true, '\x22', false⟩

theorem digit?_digitChar : ∀ d < 16, Number.digit? (Nat.digitChar d) = some d := by decide

theorem toNat_ofNat {n : Nat} (small : n < 128) : (Char.ofNat n).toNat = n := by
  have valid : n.isValidChar := .inl (by omega)
  rw [Char.ofNat, dif_pos valid]
  rfl

theorem encode_ofNat {n : Nat} (small : n < 128) :
    Text.Utf8.encode [Char.ofNat n] = [UInt8.ofNat n] := by
  have code : (Char.ofNat n).val.toNat = n := toNat_ofNat small
  have short : n ≤ 127 := by omega
  simp only [Text.Utf8.encode, List.flatMap_singleton, String.utf8EncodeChar, code, if_pos short]

/-- A character with another code. -/
theorem ofNat_ne {n : Nat} {c : Char} (small : n < 128) (other : n ≠ c.toNat) : Char.ofNat n ≠ c := by
  rintro rfl
  exact other (toNat_ofNat small).symm

/-- A byte is written as an escaped special character, as a character that needs no escape, or with two
hexadecimal digits. -/
theorem byteText_cases (byte : UInt8) :
    (∃ c, (c = '\x22' ∨ c = '\x5c') ∧ Text.Utf8.encode [c] = [byte] ∧ byteText byte = ['\x5c', c]) ∨
    (∃ c, (c ≠ '\x22' ∧ c ≠ '\x5c' ∧ c ≠ '\n') ∧ Text.Utf8.encode [c] = [byte] ∧
      byteText byte = [c]) ∨
    byteText byte =
      ['\x5c', 'x', Nat.digitChar (byte.toNat / 16), Nat.digitChar (byte.toNat % 16)] := by
  have same : UInt8.ofNat byte.toNat = byte := UInt8.ofNat_toNat
  by_cases quote : byte.toNat = 0x22
  · refine .inl ⟨'\x22', .inl rfl, ?_, by simp [byteText, quote]⟩
    rw [← same, quote]
    decide
  by_cases backslash : byte.toNat = 0x5C
  · refine .inl ⟨'\x5c', .inr rfl, ?_, by simp [byteText, backslash]⟩
    rw [← same, backslash]
    decide
  by_cases visible : 0x20 ≤ byte.toNat ∧ byte.toNat ≤ 0x7E
  · have ascii : byte.toNat < 128 := by omega
    have newline : '\n'.toNat = 10 := rfl
    have notNewline : byte.toNat ≠ '\n'.toNat := by omega
    refine .inr (.inl ⟨Char.ofNat byte.toNat, ⟨?_, ?_, ?_⟩, ?_, ?_⟩)
    · exact ofNat_ne ascii quote
    · exact ofNat_ne ascii backslash
    · exact ofNat_ne ascii notNewline
    · rw [encode_ofNat ascii, same]
    · simp [byteText, quote, backslash, visible]
  · exact .inr (.inr (by simp [byteText, quote, backslash, visible]))

/-- Two hexadecimal digits behind an escape. -/
theorem escape_hex (byte : UInt8) (more : List Char) :
    escape ('x' :: Nat.digitChar (byte.toNat / 16) :: Nat.digitChar (byte.toNat % 16) :: more) =
      .ok (.octet byte, 3) := by
  have small : byte.toNat < 256 := byte.toNat_lt
  have high : Number.digit? (Nat.digitChar (byte.toNat / 16)) = some (byte.toNat / 16) :=
    digit?_digitChar _ (by omega)
  have low : Number.digit? (Nat.digitChar (byte.toNat % 16)) = some (byte.toNat % 16) :=
    digit?_digitChar _ (by omega)
  have noSimple : simpleEscape? 'x' = none := by decide
  have highSmall : byte.toNat / 16 < 16 := by omega
  have lowSmall : byte.toNat % 16 < 16 := by omega
  have sum : byte.toNat / 16 * 16 + byte.toNat % 16 = byte.toNat := by omega
  simp [escape, noSimple, digits?, high, low, highSmall, lowSmall, Number.natOf, sum]

/-- An escape in a body, if all that it takes is known. -/
theorem body_escape (text : List Char) {more : List Char} {item : Item}
    (escaped : escape (text ++ more) = .ok (item, text.length)) :
    body written ('\x5c' :: text ++ more) = do
      let (items, read) ← body written more
      return (item :: items, read + ('\x5c' :: text).length) := by
  have goesOn : written.closing.isPrefixOf ('\x5c' :: (text ++ more)) = false := by
    simp [written, Opener.closing, List.isPrefixOf]
  rw [List.cons_append, body, if_neg (by simp [goesOn]), if_pos ⟨rfl, by decide⟩]
  refine (bind_eq_of_eq_ok escaped).trans ?_
  simp only [List.drop_left, List.length_cons, Nat.add_assoc]

/-- A character that neither closes a body nor starts an escape. -/
theorem body_char {c : Char} (notQuote : c ≠ '\x22') (notEscape : c ≠ '\x5c') (notNewline : c ≠ '\n')
    (more : List Char) :
    body written (c :: more) = do
      let (items, read) ← body written more
      return (.char c :: items, read + 1) := by
  have goesOn : written.closing.isPrefixOf (c :: more) = false := by
    simp [written, Opener.closing, List.isPrefixOf, notQuote.symm]
  rw [body, if_neg (by simp [goesOn]), if_neg (by simp [notEscape]), if_neg (by simp [notNewline])]

/-- The way one byte is written is read as one item that stands for the byte. -/
theorem exists_body_byteText (byte : UInt8) : ∃ item : Item, item.toBytes = [byte] ∧
    ∀ more, body written (byteText byte ++ more) = do
      let (items, read) ← body written more
      return (item :: items, read + (byteText byte).length) := by
  rcases byteText_cases byte with ⟨c, special, stands, text⟩ |
    ⟨c, ⟨notQuote, notEscape, notNewline⟩, stands, text⟩ | text
  · refine ⟨.char c, stands, fun more => ?_⟩
    rw [text]
    rcases special with rfl | rfl <;> exact body_escape [_] rfl
  · refine ⟨.char c, stands, fun more => ?_⟩
    rw [text]
    exact body_char notQuote notEscape notNewline more
  · refine ⟨.octet byte, rfl, fun more => ?_⟩
    rw [text]
    exact body_escape ['x', _, _] (escape_hex byte more)

/-- The way bytes are written is read as items that stand for the bytes. -/
theorem exists_body_bytes (bytes : List UInt8) (rest : List Char) : ∃ items : List Item,
    items.flatMap Item.toBytes = bytes ∧
      body written (bytes.flatMap byteText ++ '\x22' :: rest) =
        .ok (items, (bytes.flatMap byteText).length + 1) := by
  induction bytes with
  | nil =>
    refine ⟨[], rfl, ?_⟩
    rw [List.flatMap_nil, List.nil_append, body, if_pos (by simp [written, Opener.closing, List.isPrefixOf])]
    rfl
  | cons byte others ih =>
    obtain ⟨items, stand, read⟩ := ih
    obtain ⟨item, stands, reads⟩ := exists_body_byteText byte
    refine ⟨item :: items, by rw [List.flatMap_cons, stands, stand, List.singleton_append], ?_⟩
    rw [List.flatMap_cons, List.append_assoc, reads]
    refine (bind_eq_of_eq_ok read).trans ?_
    simp [Nat.add_comm, Nat.add_left_comm, pure, Except.pure]

/-- The way a byte is written does not begin with a quotation mark. -/
theorem head?_byteText_ne (byte : UInt8) (more : List Char) :
    (byteText byte ++ more).head? ≠ some '\x22' := by
  rcases byteText_cases byte with ⟨c, -, -, text⟩ | ⟨c, ⟨notQuote, -⟩, -, text⟩ | text
  · simp [text]
  · simp [text, notQuote]
  · simp [text]

/-- Written bytes open as bytes between single quotation marks, since no quotation mark follows those of
the empty bytes. -/
theorem opener?_written (bytes : List UInt8) {rest : List Char} (breaks : Lexer.Breaks rest) :
    opener? ('b' :: '\x22' :: (bytes.flatMap byteText ++ '\x22' :: rest)) = some (written, 2) := by
  have single : ((bytes.flatMap byteText ++ '\x22' :: rest).take 2 == ['\x22', '\x22']) = false := by
    rw [beq_eq_false_iff_ne]
    intro marks
    cases bytes with
    | nil =>
      cases rest with
      | nil => cases marks
      | cons c others =>
        cases marks
        exact absurd (breaks '\x22' rfl) (by decide)
    | cons byte others =>
      rw [List.flatMap_cons, List.append_assoc] at marks
      have first := congrArg List.head? marks
      rw [List.head?_take, if_neg (by decide)] at first
      exact head?_byteText_ne byte _ first
  have style : style? ['b'] = some (false, true) := by decide
  have isAlpha : 'b'.isAlpha = true := by decide
  have notAlpha : '\x22'.isAlpha = false := by decide
  simp [opener?, isAlpha, notAlpha, style, Text.Quoted.quote, single, written]

end Literal

theorem Lexer.Reads.bytes (bytes : List UInt8) :
    Reads (Value.bytesText bytes).toList [.bytes bytes] := by
  rw [Value.bytesText, String.toList_ofList]
  refine ⟨⟨'b', _, rfl, by decide⟩, fun rest breaks => Scans.of_piece ?_⟩
  obtain ⟨items, stand, read⟩ := Literal.exists_body_bytes bytes rest
  have plain : isBlank 'b' = false ∧ Number.isDigit 'b' = false := by decide
  rw [List.cons_append, List.append_assoc, List.singleton_append]
  have isBytes : Literal.written.bytes = true := rfl
  have length : 2 + ((bytes.flatMap Value.byteText).length + 1) =
      ('\x22' :: (bytes.flatMap Value.byteText ++ ['\x22'])).length + 1 := by
    rw [List.length_cons, List.length_append, List.length_singleton]
    omega
  simp only [piece, plain, Literal.opener?_written bytes breaks, literal, List.drop_succ_cons,
    List.drop_zero, read, isBytes, stand, length]
  simp

end Cel
