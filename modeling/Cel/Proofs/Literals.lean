import Cel.Proofs.Token.Body
import Cel.Proofs.Token.Places

/-! # String and bytes literals

A text that opens a literal is one token exactly if what follows the opening is a body and the closing
marks, and the token then holds what the items of the body stand for.
-/

namespace Cel

namespace Literal

/-- Whether a text begins with an opening, and with no longer one. -/
structure Begins (text opening : List Char) (opener : Opener) : Prop where
  starts : opening <+: text
  opens : Opens opening opener
  longest : ∀ other otherOpener, Opens other otherOpener → other <+: text →
    other.length ≤ opening.length

variable {opening rest : List Char} {opener : Opener}

/-- An opening that a text begins with has the letters that the text begins with. -/
theorem Opens.eq_of_starts {text : List Char} (opens : Opens opening opener)
    (starts : opening <+: text) : opening = text.takeWhile Char.isAlpha ++ opener.closing := by
  obtain ⟨letters, style, isMark, rfl⟩ := opens
  obtain ⟨after, rfl⟩ := starts
  rw [takeWhile_opening style isMark]

theorem begins_iff :
    Begins (opening ++ rest) opening opener ↔
      opener? (opening ++ rest) = some (opener, opening.length) := by
  rw [opener?_eq_some_iff]
  constructor
  · intro begins
    refine ⟨opening, rest, rfl, rfl, begins.opens, fun single marks => ?_⟩
    obtain ⟨letters, style, isMark, rfl⟩ := begins.opens
    obtain ⟨after, rfl⟩ := marks
    -- The three marks would be a longer opening.
    let longer : Opener := { opener with triple := true }
    have opens : Opens (letters ++ longer.closing) longer := ⟨letters, style, isMark, rfl⟩
    have starts : letters ++ longer.closing <+: letters ++ opener.closing ++
        ([opener.mark, opener.mark] ++ after) := by
      refine ⟨after, ?_⟩
      simp [Opener.closing_eq, longer, single]
    have short := begins.longest _ _ opens starts
    simp [Opener.closing_eq, longer, single] at short
  · rintro ⟨opening', rest', same, length, opens, single⟩
    obtain ⟨rfl, rfl⟩ := List.append_inj same length
    have starts : opening <+: opening ++ rest := List.prefix_append _ _
    refine ⟨starts, opens, fun other otherOpener otherOpens otherStarts => ?_⟩
    have same := opens.eq_of_starts starts
    have otherSame := otherOpens.eq_of_starts otherStarts
    generalize (opening ++ rest).takeWhile Char.isAlpha = letters at same otherSame
    subst same otherSame
    rw [List.length_append, List.length_append]
    apply Nat.add_le_add_left
    cases triple : opener.triple with
    | true =>
      rw [Opener.closing, Opener.closing, List.length_replicate, List.length_replicate, triple]
      split <;> decide
    | false =>
      cases otherTriple : otherOpener.triple with
      | false =>
        apply Nat.le_of_eq
        rw [Opener.closing, Opener.closing, List.length_replicate, List.length_replicate, triple,
          otherTriple]
      | true =>
        -- Three marks behind the same letters leave two of them behind one mark.
        obtain ⟨after, both⟩ := otherStarts
        rw [List.append_assoc, List.append_assoc] at both
        have marks := List.append_cancel_left both
        rw [Opener.closing_eq, Opener.closing_eq, triple, otherTriple] at marks
        obtain ⟨sameMark, left⟩ := List.cons.inj marks
        exact absurd ⟨after, sameMark ▸ left⟩ (single triple)

/-- The token that a literal with given items is. -/
def Opener.token (opener : Opener) (items : List Item) : Token :=
  if opener.bytes then .bytes (items.flatMap Item.toBytes)
  else .string (String.ofList (items.map Item.toChar))

end Literal

namespace Lexer

open Literal (Opener Opens Begins Body Item)
open Text.Utf8 (width)

variable {opening rest : List Char} {opener : Opener}

/-- A text that begins with an opening is read as a literal. -/
theorem exists_piece_of_begins (begins : Begins (opening ++ rest) opening opener) :
    ∃ c more, opening ++ rest = c :: more ∧ piece c more = literal opener opening.length rest := by
  obtain ⟨c, more, rfl, notBlank, notSlash, notDigit⟩ := begins.opens.exists_cons
  have opened := Literal.begins_iff.mp begins
  refine ⟨c, more ++ rest, rfl, ?_⟩
  rw [List.cons_append] at opened
  have behind : (c :: (more ++ rest)).drop (c :: more).length = rest := List.drop_left
  rw [← behind]
  simp [piece, notBlank, notSlash, notDigit, opened]

end Lexer

end Cel
