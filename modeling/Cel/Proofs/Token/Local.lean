import Cel.Proofs.Token.Body
import Cel.Proofs.Token.Number

/-! # Tokens are local

A token depends on nothing but the characters that it takes: they are the same token wherever a blank or
nothing follows them. Words, symbols and numbers stop there, and a literal has seen its closing marks.
-/

namespace Cel.Lexer

open Literal (Opener)

/-! ### Words, symbols and literals -/

/-- A text that reads as a token: a character and more behind it, whatever ends it. -/
structure IsToken (c : Char) (more : List Char) (token : Token) : Prop where
  notBlank : isBlank c = false
  reads : ∀ next, Ends next → piece c (more ++ next) = (.token token, more.length + 1)

theorem notBlank_of_mark {mark : Char}
    (isMark : mark = Literal.apostrophe ∨ mark = Text.Quoted.quote) : isBlank mark = false := by
  rcases isMark with rfl | rfl <;> decide

/-- A word opens no literal, since no mark can follow its letters. -/
theorem opener?_word {word next : List Char} (isWord : word.all isWordRest = true) (ends : Ends next) :
    Literal.opener? (word ++ next) = none := by
  cases opened : Literal.opener? (word ++ next) with
  | none => rfl
  | some found =>
    obtain ⟨opener, length⟩ := found
    obtain ⟨opening, after, same, -, ⟨letters, style, isMark, rfl⟩, -⟩ :=
      Literal.opener?_eq_some_iff.mp opened
    obtain ⟨more, closing⟩ := opener.exists_closing
    rw [closing, List.append_assoc, List.cons_append] at same
    have notWord : isWordRest opener.mark = false := by
      rcases isMark with isMark | isMark <;> rw [isMark] <;> decide
    have lettersWord : letters.all isWordRest = true := by
      rw [List.all_eq_true]
      intro c member
      simp [isWordRest, isWordStart, List.all_eq_true.mp style.isAlpha c member]
    have sameWord := congrArg (List.takeWhile isWordRest) same
    rw [takeWhile_append_of_stops isWord (ends.stops (by decide)),
      takeWhile_append_of_stops lettersWord (by rintro _ ⟨⟩; exact notWord)] at sameWord
    subst sameWord
    have isNext := List.append_cancel_left same
    have blank := ends opener.mark (by rw [isNext]; rfl)
    rw [notBlank_of_mark isMark] at blank
    cases blank

theorem isToken_word {c : Char} {rest : List Char} (notBlank : isBlank c = false) (notSlash : c ≠ '/')
    (notDigit : Number.isDigit c = false) (starts : isWordStart c = true) :
    IsToken c (rest.takeWhile isWordRest)
      (.ofWord (String.ofList ((c :: rest).takeWhile isWordRest))) where
  notBlank := notBlank
  reads next ends := by
    have first : isWordRest c = true := by rw [isWordRest, starts, Bool.true_or]
    have each : (c :: rest.takeWhile isWordRest).all isWordRest = true := by
      rw [← List.takeWhile_cons_of_pos first]
      exact List.all_takeWhile
    have noOpener := opener?_word each ends
    have whole := takeWhile_append_of_stops each (ends.stops (p := isWordRest) (by decide))
    rw [List.cons_append] at noOpener whole
    simp only [piece, notBlank, notSlash, notDigit, noOpener, starts, whole,
      List.takeWhile_cons_of_pos first]
    rfl

theorem opener?_of_not_alpha {c : Char} (notAlpha : c.isAlpha = false) (rest : List Char) :
    Literal.opener? (c :: rest) = none ↔ ¬(c = Literal.apostrophe ∨ c = Text.Quoted.quote) := by
  have noLetters : (c :: rest).takeWhile Char.isAlpha = [] :=
    List.takeWhile_cons_of_neg (by simp [notAlpha])
  have style : Literal.style? [] = some (false, false) := rfl
  simp only [Literal.opener?, noLetters, style, List.length_nil, List.drop_zero]
  split
  · next isMark => exact iff_of_false (Option.some_ne_none _) (not_not.mpr isMark)
  · next notMark => exact iff_of_true rfl notMark

theorem symbol2?_of_isBlank (c : Char) {d : Char} (blank : isBlank d = true) : symbol2? c d = none := by
  have other : "=&|".toList.contains d = false :=
    false_of_isBlank (p := "=&|".toList.contains) (by decide) blank
  simp at other
  simp [symbol2?, other]

/-- A symbol is read for its own characters. -/
theorem exists_isToken_symbol {c : Char} {rest : List Char} {token : Token} {length : Nat}
    (notBlank : isBlank c = false) (notComment : ¬(c = '/' ∧ rest.head? = some '/'))
    (notDigit : Number.isDigit c = false) (noOpener : Literal.opener? (c :: rest) = none)
    (notStart : ¬isWordStart c = true) (read : symbol c rest = (.token token, length)) :
    ∃ more after, rest = more ++ after ∧ length = more.length + 1 ∧ IsToken c more token := by
  have notAlpha : c.isAlpha = false := by
    rw [Bool.not_eq_true, isWordStart, Bool.or_eq_false_iff] at notStart
    exact notStart.1
  have notMark := (opener?_of_not_alpha notAlpha rest).mp noOpener
  have opensNone (rest : List Char) : Literal.opener? (c :: rest) = none :=
    (opener?_of_not_alpha notAlpha rest).mpr notMark
  cases pair : rest.head? >>= symbol2? c with
  | some sign =>
    simp only [symbol, pair] at read
    cases read
    cases rest with
    | nil => cases pair
    | cons d after =>
      have isPair : symbol2? c d = some sign := pair
      have notSlash : c ≠ '/' := by
        rintro rfl
        cases isPair
      refine ⟨[d], after, rfl, rfl, notBlank, fun next _ => ?_⟩
      simp [piece, symbol, notBlank, notSlash, notDigit, opensNone, notStart, isPair]
  | none =>
    simp only [symbol, pair] at read
    cases single : symbol1? c with
    | none =>
      rw [single] at read
      cases read
    | some sign =>
      rw [single] at read
      cases read
      refine ⟨[], rest, rfl, rfl, notBlank, fun next ends => ?_⟩
      have noPair : next.head? >>= symbol2? c = none := by
        cases next with
        | nil => rfl
        | cons d next => exact symbol2?_of_isBlank c (ends d rfl)
      have noComment : next.head? ≠ some '/' := by
        intro slash
        exact absurd (ends '/' slash) (by decide)
      simp [piece, symbol, notBlank, noComment, notDigit, opensNone, notStart, noPair, single]

/-- Two marks behind one mark are seen before the closing mark ends. -/
theorem not_marks_prefix {opener : Opener} (single : opener.triple = false)
    (isMark : opener.mark = Literal.apostrophe ∨ opener.mark = Text.Quoted.quote)
    {written after next : List Char}
    (noMarks : ¬[opener.mark, opener.mark] <+: written ++ (opener.closing ++ after)) (ends : Ends next) :
    ¬[opener.mark, opener.mark] <+: written ++ (opener.closing ++ next) := by
  rw [Opener.closing_eq, single] at noMarks ⊢
  intro marks
  obtain ⟨behind, same⟩ := marks
  cases written with
  | nil =>
    have isNext : opener.mark :: behind = next := (List.cons.inj same).2
    have blank := ends opener.mark (by rw [← isNext]; rfl)
    rw [notBlank_of_mark isMark] at blank
    cases blank
  | cons c written =>
    obtain ⟨isFirst, others⟩ := List.cons.inj same
    subst isFirst
    cases written with
    | nil => exact noMarks ⟨after, rfl⟩
    | cons d written =>
      have isSecond : opener.mark = d := (List.cons.inj others).1
      subst isSecond
      exact noMarks ⟨_, rfl⟩

/-- A literal is read for its opening, its body and the closing marks. -/
theorem exists_isToken_literal {c : Char} {rest : List Char} {opener : Opener} {opening length : Nat}
    {token : Token} (opened : Literal.opener? (c :: rest) = some (opener, opening))
    (read : literal opener opening ((c :: rest).drop opening) = (.token token, length)) :
    ∃ more after, rest = more ++ after ∧ length = more.length + 1 ∧ IsToken c more token := by
  obtain ⟨front, after, same, rfl, opens, single⟩ := Literal.opener?_eq_some_iff.mp opened
  rw [same, List.drop_left] at read
  obtain ⟨first, more, rfl, notBlank, notSlash, notDigit⟩ := opens.exists_cons
  obtain ⟨rfl, rfl⟩ := List.cons.inj same
  cases body : Literal.body opener after with
  | error cause =>
    rw [literal, body] at read
    cases read
  | ok found =>
    obtain ⟨items, taken⟩ := found
    obtain ⟨written, left, rfl, rfl, isBody, allows⟩ := Literal.body_eq_ok_iff.mp body
    rw [literal, body] at read
    cases read
    refine ⟨more ++ (written ++ opener.closing), left, ?_, ?_, notBlank, fun next ends => ?_⟩
    · rw [List.append_assoc, List.append_assoc]
      rfl
    · simp only [List.length_append, List.length_cons]
      omega
    · have opensAgain : Literal.opener? (c :: (more ++ (written ++ (opener.closing ++ next)))) =
          some (opener, (c :: more).length) := by
        refine Literal.opener?_eq_some_iff.mpr ⟨c :: more, _, rfl, rfl, opens, fun isSingle => ?_⟩
        obtain ⟨letters, style, isMark, -⟩ := opens
        exact not_marks_prefix isSingle isMark (single isSingle) ends
      have behind : (c :: (more ++ (written ++ (opener.closing ++ next)))).drop (c :: more).length =
          written ++ (opener.closing ++ next) := List.drop_left
      have bodyAgain := Literal.body_eq_ok isBody allows next
      simp only [List.append_assoc]
      simp [piece, notBlank, notSlash, notDigit, opensAgain, literal, bodyAgain]
      exact Nat.add_right_comm _ _ _

theorem exists_isToken_number {c : Char} {rest : List Char} {token : Token} {length : Nat}
    (notBlank : isBlank c = false) (isDigit : Number.isDigit c = true)
    (read : number (c :: rest) = (.token token, length)) :
    ∃ more after, rest = more ++ after ∧ length = more.length + 1 ∧ IsToken c more token := by
  have covers : (number (c :: rest)).2 ≤ length := by rw [read]
  have pos := number_length_pos isDigit rest
  obtain ⟨n, rfl⟩ : ∃ n, length = n + 1 := ⟨length - 1, by omega⟩
  have inside := (number_take_append ends_nil isDigit covers).1
  rw [read] at inside
  have notSlash : c ≠ '/' := by
    rintro rfl
    exact absurd isDigit (by decide)
  have taken : (rest.take n).length = n := List.length_take_of_le (Nat.le_of_succ_le_succ inside)
  refine ⟨rest.take n, rest.drop n, (List.take_append_drop n rest).symm, by rw [taken], notBlank,
    fun next ends => ?_⟩
  have same := (number_take_append ends isDigit covers).2
  rw [List.take_succ_cons, List.cons_append, read] at same
  rw [taken]
  simp [piece, notBlank, notSlash, isDigit, same]

/-- What reads as a token is cut off from the text behind it. -/
theorem exists_isToken {c : Char} {rest : List Char} {token : Token} {length : Nat}
    (first : piece c rest = (.token token, length)) :
    ∃ more after, rest = more ++ after ∧ length = more.length + 1 ∧ IsToken c more token := by
  simp only [piece] at first
  split at first
  · cases first
  · next notBlank =>
    rw [Bool.not_eq_true] at notBlank
    split at first
    · cases first
    · next notComment =>
      split at first
      · next isDigit => exact exists_isToken_number notBlank isDigit first
      · next notDigit =>
        rw [Bool.not_eq_true] at notDigit
        split at first
        · next opener opening opened => exact exists_isToken_literal opened first
        · next noOpener =>
          split at first
          · next starts =>
            cases first
            have notSlash : c ≠ '/' := by
              rintro rfl
              exact absurd starts (by decide)
            have isWord : isWordRest c = true := by rw [isWordRest, starts, Bool.true_or]
            have whole := List.takeWhile_append_dropWhile (p := isWordRest) (l := rest)
            refine ⟨rest.takeWhile isWordRest, rest.dropWhile isWordRest, whole.symm, ?_,
              isToken_word notBlank notSlash notDigit starts⟩
            rw [List.takeWhile_cons_of_pos isWord, List.length_cons]
          · next notStart =>
            exact exists_isToken_symbol notBlank notComment notDigit noOpener notStart first

end Cel.Lexer
