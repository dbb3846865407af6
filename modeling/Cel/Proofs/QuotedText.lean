import Mathlib.Data.List.Basic
import Cel.Proofs.Literals
import Cel.Value.Text

/-! # Reading quoted text

The way a text is shown is read again character by character where it holds visible characters, tabs and
line breaks. A character that is written by its code point in braces has no escape that literals know, and
the null character is written as an octal escape without the two digits that it needs. So reading either
fails or gives one text, and this is the text that was written exactly if all its characters are legible.
-/

namespace Cel

/-! ### Digits behind a letter -/

namespace Literal

variable {spelling more : List Char} {item : Item}

theorem Escape.ne_nil (spelled : Escape spelling item) : spelling ≠ [] := by
  cases spelled with
  | simple => exact List.cons_ne_nil _ _
  | octet form => cases form <;> exact List.cons_ne_nil _ _
  | point form => cases form <;> exact List.cons_ne_nil _ _

/-- An escape that starts with a zero is an octal one. -/
theorem Escape.octal_of_zero (spelled : Escape ('0' :: more) item) :
    more.length = 2 ∧ ∀ c ∈ more, isDigitOf 8 c = true := by
  cases spelled with
  | simple simple => exact absurd simple (Literal.not_simple_of_eq_none (by decide))
  | octet form spells =>
    cases form with
    | hex mark => exact absurd mark (by decide)
    | octal _ two => exact ⟨two, fun c member => spells.digit_of_mem c (List.mem_cons_of_mem _ member)⟩
  | point form => cases form

theorem Escape.hex_of_short (spelled : Escape ('u' :: more) item) :
    more.length = 4 ∧ ∀ c ∈ more, isDigitOf 16 c = true := by
  cases spelled with
  | simple simple => exact absurd simple (Literal.not_simple_of_eq_none (by decide))
  | octet form =>
    cases form with
    | hex mark => exact absurd mark (by decide)
    | octal low => exact absurd low (by decide)
  | point form spells =>
    cases form with
    | short four => exact ⟨four, spells.digit_of_mem⟩

end Literal

open Literal (Body Escape Item Opener)

namespace Text.Quoted

/-- Whether a character is written so that literals are read with it. -/
def Legible (c : Char) : Prop := c = '\t' ∨ c = '\r' ∨ c = '\n' ∨ isVisible c = true

/-! ### Writing -/

/-- The ways to write a character between the quotes. -/
inductive Form (c : Char) : List Char → Prop where
  | short {letter : Char} (simple : Literal.Simple letter c) (legible : Legible c) :
    Form c [backslash, letter]
  | plain (ordinary : c ≠ quote ∧ c ≠ backslash ∧ c ≠ '\n') (visible : isVisible c = true) :
    Form c [c]
  | null (isNull : c = '\x00') : Form c [backslash, '0']
  | point (hidden : ¬Legible c) (digits : List Char) : Form c (backslash :: 'u' :: '\x7b' :: digits)

theorem form_encodeChar (c : Char) : Form c (encodeChar c) := by
  by_cases special : c = '\t' ∨ c = '\r' ∨ c = '\n' ∨ c = quote ∨ c = backslash ∨ c = '\x00'
  · rcases special with rfl | rfl | rfl | rfl | rfl | rfl
    · exact .short .tab (.inl rfl)
    · exact .short .carriageReturn (.inr (.inl rfl))
    · exact .short .lineFeed (.inr (.inr (.inl rfl)))
    · exact .short (.mark (by decide)) (.inr (.inr (.inr (by decide +kernel))))
    · exact .short (.mark (by decide)) (.inr (.inr (.inr (by decide +kernel))))
    · exact .null rfl
  · simp only [not_or] at special
    obtain ⟨notTab, notReturn, notNewline, notQuote, notBackslash, notNull⟩ := special
    have noShort : short? c = none := by
      simp [short?, notTab, notReturn, notNewline, notQuote, notBackslash, notNull]
    rw [encodeChar, noShort]
    cases visible : isVisible c with
    | true => exact .plain ⟨notQuote, notBackslash, notNewline⟩ visible
    | false =>
      apply Form.point
      rintro (isTab | isReturn | isNewline | isVisible)
      · exact notTab isTab
      · exact notReturn isReturn
      · exact notNewline isNewline
      · rw [visible] at isVisible
        cases isVisible

/-- No character is written with a quote in front, since quotes are escaped. -/
theorem Form.exists_cons {c : Char} {written : List Char} (form : Form c written) :
    ∃ first more, written = first :: more ∧ first ≠ quote := by
  cases form with
  | plain ordinary => exact ⟨c, [], rfl, ordinary.1⟩
  | _ => exact ⟨backslash, _, rfl, by decide⟩

variable {c d : Char} {text left spelling : List Char} {item : Item}

theorem encode_cons (c : Char) (rest : List Char) : encode (c :: rest) = encodeChar c ++ encode rest := rfl

/-- The first quote that is not escaped is the closing one. -/
theorem eq_nil_of_quote (same : quote :: left = encode text ++ [quote]) : text = [] ∧ left = [] := by
  cases text with
  | nil => exact ⟨rfl, (List.cons.inj same).2⟩
  | cons c rest =>
    obtain ⟨first, more, written, notQuote⟩ := (form_encodeChar c).exists_cons
    rw [encode_cons, written] at same
    exact absurd (List.cons.inj same).1.symm notQuote

/-- A character that is no escape has been written as itself. -/
theorem exists_of_ordinary (ordinary : d ≠ quote ∧ d ≠ backslash)
    (same : d :: left = encode text ++ [quote]) :
    ∃ rest, text = d :: rest ∧ left = encode rest ++ [quote] ∧ Legible d := by
  cases text with
  | nil => exact absurd (List.cons.inj same).1 ordinary.1
  | cons c rest =>
    have form := form_encodeChar c
    rw [encode_cons] at same
    generalize encodeChar c = written at form same
    cases form with
    | plain _ visible =>
      cases same
      exact ⟨rest, rfl, rfl, .inr (.inr (.inr visible))⟩
    | _ => exact absurd (List.cons.inj same).1 ordinary.2

/-- An octal digit is neither a quote nor a backslash. -/
theorem ordinary_of_digit (isDigit : Literal.isDigitOf 8 d = true) : d ≠ quote ∧ d ≠ backslash := by
  constructor <;> rintro rfl <;> exact absurd isDigit (by decide)

/-- An escape that is read has been written for one character, unless it takes the two characters behind a
null character as the octal digits that are missing there. -/
theorem exists_of_escape (spelled : Escape spelling item)
    (same : backslash :: (spelling ++ left) = encode text ++ [quote]) :
    (∃ c rest, text = c :: rest ∧ left = encode rest ++ [quote] ∧ Legible c) ∨
      ∃ c d rest, text = '\x00' :: c :: d :: rest ∧ left = encode rest ++ [quote] := by
  cases text with
  | nil => cases same
  | cons c rest =>
    have form := form_encodeChar c
    rw [encode_cons] at same
    generalize encodeChar c = written at form same
    cases form with
    | @short letter simple legible =>
      have behind : spelling ++ left = [letter] ++ (encode rest ++ [quote]) := (List.cons.inj same).2
      have read := Literal.escape_eq_ok spelled left
      rw [behind, Literal.escape_eq_ok (.simple simple)] at read
      have length : [letter].length = spelling.length := (Prod.mk.inj (Except.ok.inj read)).2
      obtain ⟨-, others⟩ := List.append_inj behind length.symm
      exact .inl ⟨c, rest, rfl, others, legible⟩
    | plain ordinary =>
      exact absurd (List.cons.inj same).1.symm ordinary.2.1
    | null isNull =>
      subst isNull
      have behind : spelling ++ left = '0' :: (encode rest ++ [quote]) := (List.cons.inj same).2
      obtain ⟨first, digits, rfl⟩ := List.exists_cons_of_ne_nil spelled.ne_nil
      obtain ⟨rfl, others⟩ := List.cons.inj behind
      obtain ⟨two, isDigit⟩ := spelled.octal_of_zero
      obtain ⟨c, d, rfl⟩ := List.length_eq_two.mp two
      -- The two digits are no escapes, and so they are the next two characters themselves.
      have ordinary := ordinary_of_digit (isDigit c (by simp))
      have ordinary' := ordinary_of_digit (isDigit d (by simp))
      obtain ⟨rest, rfl, others, -⟩ := exists_of_ordinary ordinary others
      obtain ⟨rest, rfl, others, -⟩ := exists_of_ordinary ordinary' others
      exact .inr ⟨c, d, rest, rfl, others⟩
    | point hidden digits =>
      have behind : spelling ++ left = 'u' :: '\x7b' :: (digits ++ encode rest ++ [quote]) :=
        (List.cons.inj same).2
      obtain ⟨first, more, rfl⟩ := List.exists_cons_of_ne_nil spelled.ne_nil
      obtain ⟨rfl, others⟩ := List.cons.inj behind
      obtain ⟨four, isDigit⟩ := spelled.hex_of_short
      obtain ⟨brace, more, rfl⟩ := List.exists_cons_of_length_eq_add_one four
      obtain ⟨rfl, -⟩ := List.cons.inj others
      exact absurd (isDigit '\x7b' (by simp)) (by decide)

/-! ### Reading -/

/-- The opening of written text. -/
def opener : Opener := ⟨false, false, quote, false⟩

/-- Where a body is read from written text, it goes up to the closing quote. Each item of it takes at least
one character of the text, and every character is legible if each takes only one. -/
theorem items_le_of_body {written after : List Char} {items : List Item} (isBody : Body opener written items)
    (same : written ++ quote :: after = encode text ++ [quote]) :
    after = [] ∧ items.length ≤ text.length ∧
      (items.length = text.length → ∀ c ∈ text, Legible c) := by
  induction isBody generalizing text with
  | done =>
    obtain ⟨rfl, rfl⟩ := eq_nil_of_quote same
    exact ⟨rfl, Nat.le_refl _, fun _ => List.forall_mem_nil _⟩
  | @char c written items goesOn plain _ ih =>
    have notQuote : c ≠ quote := by
      rintro rfl
      exact goesOn ⟨_, rfl⟩
    have notBackslash : c ≠ backslash := fun isEscape => absurd (plain isEscape) (by decide)
    obtain ⟨rest, rfl, others, legible⟩ := exists_of_ordinary ⟨notQuote, notBackslash⟩ same
    obtain ⟨nothing, most, each⟩ := ih others
    refine ⟨nothing, Nat.succ_le_succ most, fun length => ?_⟩
    exact List.forall_mem_cons.mpr ⟨legible, each (Nat.succ.inj length)⟩
  | @escape spelling written item items _ _ spelled _ ih =>
    rw [List.cons_append, List.append_assoc] at same
    rcases exists_of_escape spelled same with ⟨c, rest, rfl, others, legible⟩ |
      ⟨c, d, rest, rfl, others⟩
    · obtain ⟨nothing, most, each⟩ := ih others
      refine ⟨nothing, Nat.succ_le_succ most, fun length => ?_⟩
      exact List.forall_mem_cons.mpr ⟨legible, each (Nat.succ.inj length)⟩
    · obtain ⟨nothing, most, -⟩ := ih others
      simp only [List.length_cons]
      exact ⟨nothing, by omega, fun length => absurd length (by omega)⟩

/-- Legible characters make a body of themselves. -/
theorem body_of_legible (legible : ∀ c ∈ text, Legible c) :
    Body opener (encode text) (text.map .char) ∧ '\n' ∉ encode text := by
  have goesOn {first : Char} (notQuote : first ≠ quote) (more : List Char) :
      ¬opener.closing <+: first :: more := fun starts =>
    notQuote (List.cons_prefix_cons.mp starts).1.symm
  induction text with
  | nil => exact ⟨.done, List.not_mem_nil⟩
  | cons c rest ih =>
    obtain ⟨first, others⟩ := List.forall_mem_cons.mp legible
    obtain ⟨isBody, noBreak⟩ := ih others
    have form := form_encodeChar c
    rw [encode_cons]
    generalize encodeChar c = written at form
    cases form with
    | @short letter simple =>
      have notBreak : '\n' ≠ letter := by
        rintro rfl
        exact Literal.not_simple_of_eq_none (by decide) simple
      refine ⟨.escape (goesOn (by decide) _) rfl (.simple simple) isBody, ?_⟩
      simp [noBreak, notBreak, backslash]
    | plain ordinary =>
      obtain ⟨notQuote, notBackslash, notBreak⟩ := ordinary
      refine ⟨.char (goesOn notQuote _) (fun isEscape => absurd isEscape notBackslash) isBody, ?_⟩
      simp [noBreak, notBreak.symm]
    | null isNull =>
      subst isNull
      exact absurd first (by unfold Legible; decide +kernel)
    | point hidden => exact absurd first hidden

/-- Legible characters are read one by one. -/
theorem body_encode (legible : ∀ c ∈ text, Legible c) :
    Literal.body opener (encode text ++ [quote]) =
      .ok (text.map .char, (encode text ++ [quote]).length) := by
  obtain ⟨isBody, noBreak⟩ := body_of_legible legible
  rw [List.length_append]
  exact Literal.body_eq_ok isBody (fun _ => noBreak) []

/-- Whatever is read from written text goes up to the closing quote, and it is the text exactly if all its
characters are legible. -/
theorem toChar_eq_iff_of_body {items : List Item} {read : Nat}
    (isRead : Literal.body opener (encode text ++ [quote]) = .ok (items, read)) :
    read = (encode text ++ [quote]).length ∧
      (items.map Item.toChar = text ↔ ∀ c ∈ text, Legible c) := by
  obtain ⟨written, after, same, rfl, isBody, -⟩ := Literal.body_eq_ok_iff.mp isRead
  obtain ⟨rfl, -, each⟩ := items_le_of_body isBody same.symm
  refine ⟨by rw [same, List.append_nil, List.length_append], fun whole => each ?_, fun legible => ?_⟩
  · rw [← whole, List.length_map]
  · obtain ⟨rfl, -⟩ := Prod.mk.inj (Except.ok.inj ((body_encode legible).symm.trans isRead))
    rw [List.map_map]
    exact List.map_id text

theorem begins_write (text : List Char) :
    Literal.Begins ([quote] ++ (encode text ++ [quote])) [quote] opener := by
  apply Literal.begins_iff.mpr
  rw [Literal.opener?_eq_some_iff]
  refine ⟨[quote], encode text ++ [quote], rfl, rfl, ⟨[], .plain, .inr rfl, rfl⟩, ?_⟩
  rintro - ⟨after, marks⟩
  -- A second quote closes the empty text, and then there is no third.
  obtain ⟨-, nothing⟩ := eq_nil_of_quote marks
  cases nothing

end Text.Quoted

namespace Lexer

open Text.Quoted (Legible encode opener quote)
open Text.Utf8 (width)

/-- Written text is one literal, if its body can be read. -/
theorem tokensFrom_write (text : List Char) :
    let written := quote :: (encode text ++ [quote])
    tokensFrom 0 written =
      match Literal.body opener (encode text ++ [quote]) with
      | .error cause => .error ⟨cause, ⟨0, 1⟩⟩
      | .ok (items, _) => .ok [⟨opener.token items, ⟨0, width written⟩⟩] := by
  intro written
  obtain ⟨c, more, isText, first⟩ := exists_piece_of_begins (Text.Quoted.begins_write text)
  obtain ⟨rfl, same⟩ := List.cons.inj isText
  rw [← same] at first
  cases read : Literal.body opener (encode text ++ [quote]) with
  | error cause =>
    have invalid : piece quote (encode text ++ [quote]) = (.invalid cause, 1) := by
      refine first.trans ?_
      rw [literal, read]
      rfl
    rw [tokensFrom]
    simp only [invalid]
    rfl
  | ok found =>
    obtain ⟨items, taken⟩ := found
    obtain ⟨rfl, -⟩ := Text.Quoted.toChar_eq_iff_of_body read
    have token : piece quote (encode text ++ [quote]) = (.token (opener.token items), written.length) := by
      refine first.trans ?_
      rw [literal, read]
      simp [written, Opener.token, Nat.add_comm]
    have notSkipped : Piece.token (opener.token items) ≠ .skipped := by rintro ⟨⟩
    exact (tokensFrom_eq_single_iff token notSkipped _).mpr ⟨rfl, Nat.le_refl _⟩

/-- Reading the way a text is shown gives nothing but one string that spans it, if anything, and this is the
text itself exactly if all its characters are legible. -/
theorem tokens_text_eq_iff (text : String) :
    let source := (Value.string text).text
    (∀ found, tokens source = .ok found →
        ∃ other, found = [⟨.string other, ⟨0, source.utf8ByteSize⟩⟩]) ∧
      (tokens source = .ok [⟨.string text, ⟨0, source.utf8ByteSize⟩⟩] ↔
        ∀ c ∈ text.toList, Legible c) := by
  intro source
  have isSource : source.toList = quote :: (encode text.toList ++ [quote]) := String.toList_ofList
  have size : source.utf8ByteSize = width source.toList := by
    rw [Text.Utf8.width_eq, String.ofList_toList]
  rw [size, tokens, isSource, tokensFrom_write]
  cases read : Literal.body opener (encode text.toList ++ [quote]) with
  | error cause =>
    refine ⟨?_, ?_, fun legible => ?_⟩
    · rintro found ⟨⟩
    · rintro ⟨⟩
    · rw [Text.Quoted.body_encode legible] at read
      cases read
  | ok found =>
    obtain ⟨items, taken⟩ := found
    obtain ⟨-, whole⟩ := Text.Quoted.toChar_eq_iff_of_body read
    have isString : opener.token items = .string (String.ofList (items.map Item.toChar)) := rfl
    rw [← whole]
    simp only [isString]
    refine ⟨fun found isFound => ⟨_, (Except.ok.inj isFound).symm⟩, fun same => ?_, fun same => ?_⟩
    · obtain ⟨sameToken, -⟩ := Located.mk.inj (List.cons.inj (Except.ok.inj same)).1
      rw [← Token.string.inj sameToken, String.toList_ofList]
    · rw [same, String.ofList_toList]

/-- An invisible character is written by its code point in braces, which no literal can hold. A null character
takes the two digits behind it along and is read with them as a line break. -/
theorem tokens_text_of_not_legible :
    tokens (Value.string "\u200b").text = .error ⟨.invalidEscape, ⟨0, 1⟩⟩ ∧
      tokens (Value.string "\x0012").text = .ok [⟨.string "\n", ⟨0, 6⟩⟩] := by
  constructor <;> decide +kernel

end Lexer

end Cel
