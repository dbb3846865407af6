import Cel.Proofs.Except
import Cel.Token.Lexer

/-! # Reading tokens piece by piece

`Scans text found left` says that the pieces at the start of `text`, up to where `left` begins, are
some tokens and whatever stands between them. Texts can be scanned one after the other, as long as
none of them goes on in the next one. Words, symbols and sequences of written things separated by
commas are scanned here.
-/

namespace Cel.Lexer

/-- Whether reading the start of a text, until something is left, finds some tokens. -/
inductive Scans : List Char → List Token → List Char → Prop where
  | done (text : List Char) : Scans text [] text
  | skip {c : Char} {rest left : List Char} {found : List Token} {length : Nat}
    (first : piece c rest = (.skipped, length))
    (others : Scans (rest.drop (length - 1)) found left) : Scans (c :: rest) found left
  | token {c : Char} {rest left : List Char} {token : Token} {found : List Token} {length : Nat}
    (first : piece c rest = (.token token, length))
    (others : Scans (rest.drop (length - 1)) found left) : Scans (c :: rest) (token :: found) left

namespace Scans

variable {text middle left : List Char} {found others : List Token}

theorem trans (first : Scans text found middle) (second : Scans middle others left) :
    Scans text (found ++ others) left := by
  induction first with
  | done text => exact second
  | skip first _ ih => exact .skip first (ih second)
  | token first _ ih => exact .token first (ih second)

/-- What is scanned to its end is read as a whole. -/
theorem exists_tokensFrom (scans : Scans text found left) (complete : left = []) (offset : Nat) :
    ∃ tokens, tokensFrom offset text = .ok tokens ∧ tokens.map Located.item = found := by
  induction scans generalizing offset with
  | done text =>
    subst complete
    exact ⟨[], by rw [tokensFrom], rfl⟩
  | skip first _ ih =>
    obtain ⟨tokens, read, same⟩ := ih complete _
    refine ⟨tokens, ?_, same⟩
    simp only [tokensFrom, first]
    exact read
  | @token c rest left token found length first _ ih =>
    let span : Span := ⟨offset, offset + Text.Utf8.width ((c :: rest).take length)⟩
    obtain ⟨tokens, read, same⟩ := ih complete span.stop
    refine ⟨⟨token, span⟩ :: tokens, ?_, congrArg (List.cons token) same⟩
    simp only [tokensFrom, first]
    exact bind_eq_of_eq_ok read

/-- A piece that takes a known part of the text. -/
theorem of_piece {c : Char} {more rest : List Char} {token : Token}
    (first : piece c (more ++ rest) = (.token token, more.length + 1)) :
    Scans (c :: (more ++ rest)) [token] rest := by
  have drop : (more ++ rest).drop (more.length + 1 - 1) = rest := List.drop_left
  refine .token first ?_
  rw [drop]
  exact .done rest

end Scans

/-! ### What ends a piece -/

/-- The characters that can follow a written value. -/
def closers : List Char := [',', ':', ']', '\x7d']

/-- Whether what stands before a text ends there. -/
def Breaks (rest : List Char) : Prop := ∀ c ∈ rest.head?, c ∈ closers

theorem breaks_nil : Breaks [] := nofun

theorem breaks_cons {c : Char} (closes : c ∈ closers) (rest : List Char) : Breaks (c :: rest) := by
  rintro _ ⟨⟩
  exact closes

theorem Breaks.stops {p : Char → Bool} {rest : List Char} (breaks : Breaks rest)
    (none : closers.all (!p ·) = true) : ∀ c ∈ rest.head?, p c = false := by
  intro c first
  have notOne := List.all_eq_true.mp none c (breaks c first)
  rwa [Bool.not_eq_true'] at notOne

/-- A run of characters of a kind ends where another one follows. -/
theorem takeWhile_append_of_stops {p : Char → Bool} {word rest : List Char}
    (each : word.all p = true) (stops : ∀ c ∈ rest.head?, p c = false) :
    (word ++ rest).takeWhile p = word := by
  rw [List.takeWhile_append_of_pos (List.all_eq_true.mp each)]
  cases rest with
  | nil => simp
  | cons c rest => simp [stops c rfl]

theorem dropWhile_append_of_stops {p : Char → Bool} {word rest : List Char}
    (each : word.all p = true) (stops : ∀ c ∈ rest.head?, p c = false) :
    (word ++ rest).dropWhile p = rest := by
  have parts := List.takeWhile_append_dropWhile (p := p) (l := word ++ rest)
  rw [takeWhile_append_of_stops each stops] at parts
  exact List.append_cancel_left parts

/-! ### Symbols, blanks and words -/

/-- Whether a character starts nothing but the symbol that it is. -/
def isLone (c : Char) : Bool :=
  !(isBlank c || isWordRest c || "/'\x22=!<>&|".toList.contains c)

theorem isBlank_of_isLone {c : Char} (lone : isLone c = true) : isBlank c = false := by
  simp only [isLone, Bool.not_eq_true', Bool.or_eq_false_iff] at lone
  exact lone.1.1

theorem scans_symbol {c : Char} {sign : Symbol} (lone : isLone c = true)
    (isSign : symbol1? c = some sign) (rest : List Char) :
    Scans (c :: rest) [.symbol sign] rest := by
  have notBlank : isBlank c = false := isBlank_of_isLone lone
  simp only [isLone, Bool.not_eq_true', Bool.or_eq_false_iff] at lone
  obtain ⟨⟨-, notWord⟩, noOther⟩ := lone
  simp only [isWordRest, Bool.or_eq_false_iff] at notWord
  obtain ⟨notStart, notDigit⟩ := notWord
  have notAlpha : c.isAlpha = false := by
    simp only [isWordStart, Bool.or_eq_false_iff] at notStart
    exact notStart.1
  simp at noOther
  have noOpener : Literal.opener? (c :: rest) = none := by
    simp [Literal.opener?, notAlpha, Literal.style?, Literal.apostrophe, Text.Quoted.quote, noOther]
  have alone : rest.head? >>= symbol2? c = none := by
    cases rest <;> simp [symbol2?, noOther]
  have first : piece c ([] ++ rest) = (.token (.symbol sign), 0 + 1) := by
    simp [piece, notBlank, noOther, notDigit, noOpener, notStart, symbol, alone, isSign]
  exact Scans.of_piece first

/-- A blank before something else is dropped. -/
theorem scans_blank {c : Char} (notBlank : isBlank c = false) (rest : List Char) :
    Scans (' ' :: c :: rest) [] (c :: rest) := by
  have blank : isBlank ' ' = true := by decide
  have first : piece ' ' (c :: rest) = (.skipped, 1) := by simp [piece, blank, notBlank]
  exact .skip first (.done _)

theorem scans_keyword (word : Keyword) {rest : List Char} (breaks : Breaks rest) :
    Scans (word.text.toList ++ rest) [.keyword word] rest := by
  have letters : (word.text.toList ++ rest).takeWhile Char.isAlpha = word.text.toList :=
    takeWhile_append_of_stops (by cases word <;> decide) (breaks.stops (by decide))
  have whole : (word.text.toList ++ rest).takeWhile isWordRest = word.text.toList :=
    takeWhile_append_of_stops (by cases word <;> decide) (breaks.stops (by decide))
  have noStyle : Literal.style? word.text.toList = none := by cases word <;> decide
  have noOpener : Literal.opener? (word.text.toList ++ rest) = none := by
    simp only [Literal.opener?, letters, noStyle]
  have denoted : Token.ofWord word.text = .keyword word := by cases word <;> decide
  obtain ⟨c, more, same, start⟩ : ∃ c more, word.text.toList = c :: more ∧
      (isBlank c = false ∧ c ≠ '/' ∧ Number.isDigit c = false ∧ isWordStart c = true) := by
    cases word <;> exact ⟨_, _, rfl, by decide⟩
  obtain ⟨notBlank, notSlash, notDigit, starts⟩ := start
  have isText : String.ofList (c :: more) = word.text := by rw [← same, String.ofList_toList]
  rw [same, List.cons_append] at whole noOpener ⊢
  refine Scans.of_piece ?_
  simp only [piece, notBlank, notSlash, notDigit, noOpener, starts, whole, isText, denoted]
  rfl

/-! ### Written things -/

/-- Whether a text is read as some tokens, whatever ends it, and begins with no blank. -/
structure Reads (text : List Char) (found : List Token) : Prop where
  starts : ∃ c more, text = c :: more ∧ isBlank c = false
  scans : ∀ rest, Breaks rest → Scans (text ++ rest) found rest

namespace Reads

variable {first second : List Char} {firstFound secondFound : List Token}

/-- Two written things with a symbol and a blank between them. -/
theorem separated {c : Char} {sign : Symbol} (lone : isLone c = true) (isSign : symbol1? c = some sign)
    (closes : c ∈ closers) (firstReads : Reads first firstFound)
    (secondReads : Reads second secondFound) :
    Reads (first ++ c :: ' ' :: second) (firstFound ++ .symbol sign :: secondFound) where
  starts := by
    obtain ⟨d, more, rfl, notBlank⟩ := firstReads.starts
    exact ⟨d, _, rfl, notBlank⟩
  scans rest breaks := by
    have before := firstReads.scans _ (breaks_cons closes (' ' :: (second ++ rest)))
    have between : Scans (c :: ' ' :: (second ++ rest)) [.symbol sign] (' ' :: (second ++ rest)) :=
      scans_symbol lone isSign _
    have blank : Scans (' ' :: (second ++ rest)) [] (second ++ rest) := by
      obtain ⟨d, more, rfl, notBlank⟩ := secondReads.starts
      exact scans_blank notBlank (more ++ rest)
    have behind := blank.trans (secondReads.scans rest breaks)
    rw [List.append_assoc]
    exact before.trans (between.trans behind)

/-- Written things with a comma and a blank between any two of them. -/
theorem joined {α : Type} {text : α → List Char} {found : α → List Token} {item : α}
    {others : List α} (each : ∀ other ∈ item :: others, Reads (text other) (found other)) :
    Reads (List.intercalate [',', ' '] ((item :: others).map text))
      (List.intercalate [.symbol .comma] ((item :: others).map found)) := by
  induction others generalizing item with
  | nil => simpa using each
  | cons next others ih =>
    obtain ⟨head, tail⟩ := List.forall_mem_cons.mp each
    have behind := head.separated (c := ',') (by decide) rfl (by decide) (ih tail)
    simpa [List.intercalate_cons_cons] using behind

/-- A bracketed list of written things, of which there may be none. -/
theorem enclosed {α : Type} {text : α → List Char} {found : α → List Token} {items : List α}
    {opening closing : Char} {opens closes : Symbol} (loneOpening : isLone opening = true)
    (isOpening : symbol1? opening = some opens) (loneClosing : isLone closing = true)
    (isClosing : symbol1? closing = some closes) (ends : closing ∈ closers)
    (each : ∀ item ∈ items, Reads (text item) (found item)) :
    Reads (opening :: (List.intercalate [',', ' '] (items.map text) ++ [closing]))
      (.symbol opens ::
        (List.intercalate [.symbol .comma] (items.map found) ++ [.symbol closes])) where
  starts := ⟨opening, _, rfl, isBlank_of_isLone loneOpening⟩
  scans rest breaks := by
    have inside : Scans (List.intercalate [',', ' '] (items.map text) ++ closing :: rest)
        (List.intercalate [.symbol .comma] (items.map found)) (closing :: rest) := by
      cases items with
      | nil => exact .done _
      | cons item others => exact (joined each).scans _ (breaks_cons ends rest)
    have after := inside.trans (scans_symbol loneClosing isClosing rest)
    have whole := (scans_symbol loneOpening isOpening _).trans after
    simpa using whole

theorem keyword (word : Keyword) : Reads word.text.toList [.keyword word] where
  starts := by cases word <;> exact ⟨_, _, rfl, by decide⟩
  scans _ breaks := scans_keyword word breaks

/-- What is read on its own is read as a whole. -/
theorem exists_tokens {source : String} (reads : Reads source.toList firstFound) :
    ∃ tokens, Lexer.tokens source = .ok tokens ∧ tokens.map Located.item = firstFound := by
  have scans := reads.scans [] breaks_nil
  rw [List.append_nil] at scans
  exact scans.exists_tokensFrom rfl 0

end Reads

end Cel.Lexer
