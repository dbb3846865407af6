import Cel.Proofs.Except
import Cel.Proofs.Token.Escape
import Cel.Token.Lexer

/-! # Openings and bodies

A literal opens with letters and marks, and the same marks close it. Its body is read item by item, and
ends at the first boundary of items at which the marks stand.
-/

namespace Cel.Literal

/-! ### Openings -/

/-- Whether letters make a literal raw, and whether they make it bytes. -/
inductive Style : List Char → (raw bytes : Bool) → Prop where
  | plain : Style [] false false
  | raw {r : Char} (isR : r = 'r' ∨ r = 'R') : Style [r] true false
  | bytes {b : Char} (isB : b = 'b' ∨ b = 'B') : Style [b] false true
  | rawBytes {r b : Char} (isR : r = 'r' ∨ r = 'R') (isB : b = 'b' ∨ b = 'B') : Style [r, b] true true
  | bytesRaw {b r : Char} (isB : b = 'b' ∨ b = 'B') (isR : r = 'r' ∨ r = 'R') : Style [b, r] true true

/-- Whether a text is the opening of a literal: letters and marks. -/
def Opens (opening : List Char) (opener : Opener) : Prop :=
  ∃ letters, Style letters opener.raw opener.bytes ∧
    (opener.mark = apostrophe ∨ opener.mark = Text.Quoted.quote) ∧ opening = letters ++ opener.closing

theorem eq_of_toLower {c lower upper : Char} (same : c.toLower = lower)
    (shift : upper.toNat + 32 = lower.toNat) : c = lower ∨ c = upper := by
  change dite _ _ _ = lower at same
  split at same
  · next capital =>
    right
    have most : c.toNat ≤ 90 := capital.2
    have code : (c.val + 32).toNat = lower.toNat := congrArg Char.toNat same
    have sum : (c.val + 32).toNat = c.toNat + 32 := by
      rw [UInt32.toNat_add]
      exact Nat.mod_eq_of_lt (show c.toNat + 32 < 2 ^ 32 by omega)
    apply Char.toNat_inj.mp
    omega
  · exact .inl same

theorem style?_eq_some_iff {letters : List Char} {raw bytes : Bool} :
    style? letters = some (raw, bytes) ↔ Style letters raw bytes := by
  have isR {c : Char} (same : c.toLower = 'r') : c = 'r' ∨ c = 'R' := eq_of_toLower same (by decide)
  have isB {c : Char} (same : c.toLower = 'b') : c = 'b' ∨ c = 'B' := eq_of_toLower same (by decide)
  constructor
  · intro read
    rw [style?] at read
    split at read
    · next none =>
      cases read
      rw [List.map_eq_nil_iff.mp none]
      exact .plain
    · next one =>
      cases read
      obtain ⟨r, rfl, same⟩ := List.map_eq_singleton_iff.mp one
      exact .raw (isR same)
    · next one =>
      cases read
      obtain ⟨b, rfl, same⟩ := List.map_eq_singleton_iff.mp one
      exact .bytes (isB same)
    · next two =>
      cases read
      obtain ⟨b, others, rfl, first, one⟩ := List.map_eq_cons_iff.mp two
      obtain ⟨r, rfl, second⟩ := List.map_eq_singleton_iff.mp one
      exact .bytesRaw (isB first) (isR second)
    · next two =>
      cases read
      obtain ⟨r, others, rfl, first, one⟩ := List.map_eq_cons_iff.mp two
      obtain ⟨b, rfl, second⟩ := List.map_eq_singleton_iff.mp one
      exact .rawBytes (isR first) (isB second)
    · cases read
  · intro style
    cases style with
    | plain => rfl
    | raw isR => rcases isR with rfl | rfl <;> decide
    | bytes isB => rcases isB with rfl | rfl <;> decide
    | rawBytes isR isB => rcases isR with rfl | rfl <;> rcases isB with rfl | rfl <;> decide
    | bytesRaw isB isR => rcases isB with rfl | rfl <;> rcases isR with rfl | rfl <;> decide

theorem Style.isAlpha {letters : List Char} {raw bytes : Bool} (style : Style letters raw bytes) :
    letters.all Char.isAlpha = true := by
  have letter {c lower upper : Char} (isLetter : c = lower ∨ c = upper)
      (both : lower.isAlpha = true ∧ upper.isAlpha = true) : c.isAlpha = true := by
    rcases isLetter with rfl | rfl
    · exact both.1
    · exact both.2
  cases style with
  | plain => rfl
  | raw isR => simp [letter isR (by decide)]
  | bytes isB => simp [letter isB (by decide)]
  | rawBytes isR isB => simp [letter isR (by decide), letter isB (by decide)]
  | bytesRaw isB isR => simp [letter isB (by decide), letter isR (by decide)]

theorem Opener.closing_eq (opener : Opener) :
    opener.closing = if opener.triple then [opener.mark, opener.mark, opener.mark] else [opener.mark] := by
  rw [closing]
  cases opener.triple <;> rfl

theorem Opener.exists_closing (opener : Opener) : ∃ more, opener.closing = opener.mark :: more := by
  rw [closing_eq]
  cases opener.triple
  · exact ⟨[], rfl⟩
  · exact ⟨[_, _], rfl⟩

theorem isAlpha_of_mark {mark : Char} (isMark : mark = apostrophe ∨ mark = Text.Quoted.quote) :
    mark.isAlpha = false := by
  rcases isMark with rfl | rfl <;> decide

/-- The letters of an opening are all the letters at its start. -/
theorem takeWhile_opening {letters : List Char} {opener : Opener}
    (style : Style letters opener.raw opener.bytes)
    (isMark : opener.mark = apostrophe ∨ opener.mark = Text.Quoted.quote) (after : List Char) :
    (letters ++ opener.closing ++ after).takeWhile Char.isAlpha = letters := by
  obtain ⟨more, closing⟩ := opener.exists_closing
  rw [List.append_assoc, List.takeWhile_append_of_pos (List.all_eq_true.mp style.isAlpha), closing,
    List.cons_append, List.takeWhile_cons_of_neg (by simp [isAlpha_of_mark isMark]), List.append_nil]

/-- The opening that is read is made of letters and marks, and is not the start of a longer one. -/
theorem opener?_eq_some_iff {text : List Char} {opener : Opener} {length : Nat} :
    opener? text = some (opener, length) ↔
      ∃ opening after, text = opening ++ after ∧ length = opening.length ∧ Opens opening opener ∧
        (opener.triple = false → ¬[opener.mark, opener.mark] <+: after) := by
  constructor
  · intro read
    simp only [opener?] at read
    split at read
    · next raw bytes mark rest styled dropped =>
      have style := style?_eq_some_iff.mp styled
      have whole := List.prefix_iff_eq_append.mp (List.takeWhile_prefix (p := Char.isAlpha) (l := text))
      rw [dropped] at whole
      split at read
      · next isMark =>
        cases read
        cases triple : rest.take 2 == [mark, mark] with
        | true =>
          have marks : rest.take 2 = [mark, mark] := eq_of_beq triple
          have split : rest = mark :: mark :: rest.drop 2 := by
            have both := List.take_append_drop 2 rest
            rw [marks] at both
            exact both.symm
          refine ⟨_, rest.drop 2, ?_, ?_, ⟨_, style, isMark, rfl⟩, nofun⟩
          · rw [Opener.closing_eq, List.append_assoc]
            exact whole.symm.trans (congrArg (fun more => text.takeWhile Char.isAlpha ++ mark :: more) split)
          · rw [Opener.closing_eq, List.length_append]
            rfl
        | false =>
          refine ⟨_, rest, ?_, ?_, ⟨_, style, isMark, rfl⟩, fun _ marks => ?_⟩
          · rw [Opener.closing_eq, List.append_assoc]
            exact whole.symm
          · rw [Opener.closing_eq, List.length_append]
            rfl
          · rw [beq_eq_false_iff_ne] at triple
            exact triple (List.prefix_iff_eq_take.mp marks).symm
      · cases read
    · cases read
  · rintro ⟨opening, after, rfl, rfl, ⟨letters, style, isMark, rfl⟩, longest⟩
    have taken := takeWhile_opening style isMark after
    obtain ⟨more, closing⟩ := opener.exists_closing
    have behind : (letters ++ opener.closing ++ after).drop letters.length =
        opener.mark :: (more ++ after) := by
      rw [List.append_assoc, List.drop_left, closing, List.cons_append]
    have triple : ((more ++ after).take 2 == [opener.mark, opener.mark]) = opener.triple := by
      rw [Opener.closing_eq] at closing
      cases isTriple : opener.triple with
      | true =>
        rw [isTriple] at closing
        cases closing
        exact beq_self_eq_true _
      | false =>
        rw [isTriple] at closing
        cases closing
        rw [List.nil_append, beq_eq_false_iff_ne]
        intro marks
        exact longest isTriple (List.prefix_iff_eq_take.mpr marks.symm)
    have length : (letters ++ opener.closing).length =
        letters.length + if opener.triple then 3 else 1 := by
      rw [List.length_append, Opener.closing, List.length_replicate]
    simp only [opener?, taken, behind, style?_eq_some_iff.mpr style, if_pos isMark, triple, length]

/-- An opening begins with a letter or a mark, and so nothing else starts there. -/
theorem Opens.exists_cons {opening : List Char} {opener : Opener} (opens : Opens opening opener) :
    ∃ c more, opening = c :: more ∧ Lexer.isBlank c = false ∧ c ≠ '/' ∧ Number.isDigit c = false := by
  obtain ⟨letters, style, isMark, rfl⟩ := opens
  obtain ⟨more, closing⟩ := opener.exists_closing
  rw [closing]
  generalize opener.raw = raw, opener.bytes = bytes at style
  cases style with
  | plain =>
    refine ⟨_, more, rfl, ?_⟩
    rcases isMark with same | same <;> rw [same] <;> decide
  | raw isR =>
    refine ⟨_, _, rfl, ?_⟩
    rcases isR with rfl | rfl <;> decide
  | bytes isB =>
    refine ⟨_, _, rfl, ?_⟩
    rcases isB with rfl | rfl <;> decide
  | rawBytes isR =>
    refine ⟨_, _, rfl, ?_⟩
    rcases isR with rfl | rfl <;> decide
  | bytesRaw isB =>
    refine ⟨_, _, rfl, ?_⟩
    rcases isB with rfl | rfl <;> decide

/-! ### Bodies -/

/-- Whether a text in front of the closing marks is made of items, and the marks stand at no boundary of
items before. -/
inductive Body (opener : Opener) : List Char → List Item → Prop where
  | done : Body opener [] []
  | char {c : Char} {text : List Char} {items : List Item}
    (goesOn : ¬opener.closing <+: c :: (text ++ opener.closing))
    (plain : c = '\x5c' → opener.raw = true) (others : Body opener text items) :
    Body opener (c :: text) (.char c :: items)
  | escape {written text : List Char} {item : Item} {items : List Item}
    (goesOn : ¬opener.closing <+: '\x5c' :: (written ++ text ++ opener.closing))
    (notRaw : opener.raw = false) (spelled : Escape written item) (others : Body opener text items) :
    Body opener ('\x5c' :: (written ++ text)) (item :: items)

/-- Whether a text may stand in a literal: line breaks only between three marks. -/
def Opener.Allows (opener : Opener) (text : List Char) : Prop := opener.triple = false → '\n' ∉ text

/-- A text that ends with the closing marks starts with them, whatever follows it. -/
theorem closing_prefix_iff (opener : Opener) (text after : List Char) :
    opener.closing <+: text ++ (opener.closing ++ after) ↔ opener.closing <+: text ++ opener.closing := by
  have front : text ++ opener.closing <+: text ++ (opener.closing ++ after) := by
    rw [← List.append_assoc]
    exact List.prefix_append _ _
  constructor
  · intro starts
    apply List.prefix_of_prefix_length_le starts front
    rw [List.length_append]
    exact Nat.le_add_left _ _
  · exact fun starts => starts.trans front

theorem exists_body_of_eq_ok {opener : Opener} {text : List Char} {items : List Item} {read : Nat}
    (isRead : body opener text = .ok (items, read)) :
    ∃ written after, text = written ++ (opener.closing ++ after) ∧
      read = written.length + opener.closing.length ∧ Body opener written items ∧
      opener.Allows written := by
  fun_induction body opener text generalizing items read with
  | case1 => cases isRead
  | case2 c rest closes =>
    cases isRead
    obtain ⟨after, same⟩ := List.isPrefixOf_iff_prefix.mp closes
    exact ⟨[], after, same.symm, (Nat.zero_add _).symm, .done, fun _ => List.not_mem_nil⟩
  | case3 c rest goesOn escapes ih =>
    obtain ⟨⟨item, taken⟩, escaped, others⟩ := bind_eq_ok_iff.mp isRead
    obtain ⟨⟨items, read⟩, othersRead, made⟩ := bind_eq_ok_iff.mp others
    cases made
    obtain ⟨spelling, left, rfl, rfl, spelled⟩ := escape_eq_ok_iff.mp escaped
    obtain ⟨rfl, notRaw⟩ := escapes
    rw [Bool.not_eq_true] at notRaw
    obtain ⟨written, after, same, rfl, body, allows⟩ := ih spelling.length othersRead
    rw [List.drop_left] at same
    subst same
    refine ⟨'\x5c' :: (spelling ++ written), after, ?_, ?_, .escape ?_ notRaw spelled body, ?_⟩
    · rw [List.cons_append, List.append_assoc]
    · rw [List.length_cons, List.length_append]
      omega
    · rw [List.isPrefixOf_iff_prefix, ← List.append_assoc, ← List.cons_append, closing_prefix_iff] at goesOn
      exact goesOn
    · intro single
      rw [List.mem_cons, List.mem_append, not_or, not_or]
      exact ⟨by decide, spelled.newline_not_mem, allows single⟩
  | case4 c rest goesOn plain newline => cases isRead
  | case5 c rest goesOn plain allowed ih =>
    obtain ⟨⟨items, read⟩, othersRead, made⟩ := bind_eq_ok_iff.mp isRead
    cases made
    obtain ⟨written, after, rfl, rfl, body, allows⟩ := ih othersRead
    refine ⟨c :: written, after, rfl, ?_, .char ?_ ?_ body, ?_⟩
    · rw [List.length_cons]
      omega
    · rw [List.isPrefixOf_iff_prefix, ← List.cons_append, closing_prefix_iff] at goesOn
      exact goesOn
    · intro isEscape
      by_contra notRaw
      exact plain ⟨isEscape, notRaw⟩
    · intro single
      rw [List.mem_cons, not_or]
      refine ⟨fun newline => allowed ⟨newline.symm, ?_⟩, allows single⟩
      rw [single]
      exact Bool.false_ne_true

theorem body_closing (opener : Opener) (after : List Char) :
    body opener (opener.closing ++ after) = .ok ([], opener.closing.length) := by
  have closes : opener.closing.isPrefixOf (opener.closing ++ after) = true :=
    List.isPrefixOf_iff_prefix.mpr (List.prefix_append _ _)
  obtain ⟨more, same⟩ := opener.exists_closing
  generalize isClosing : opener.closing = closing at same closes
  subst same
  rw [List.cons_append] at closes ⊢
  rw [body, isClosing, if_pos closes]

theorem body_eq_ok {opener : Opener} {written : List Char} {items : List Item}
    (isBody : Body opener written items) (allows : opener.Allows written) (after : List Char) :
    body opener (written ++ (opener.closing ++ after)) =
      .ok (items, written.length + opener.closing.length) := by
  induction isBody with
  | done =>
    rw [List.nil_append, List.length_nil, Nat.zero_add]
    exact body_closing opener after
  | @char c text items goesOn plain _ ih =>
    have notClosed : ¬opener.closing.isPrefixOf (c :: (text ++ (opener.closing ++ after))) = true := by
      rw [List.isPrefixOf_iff_prefix, ← List.cons_append, closing_prefix_iff]
      exact goesOn
    have notEscape : ¬(c = '\x5c' ∧ ¬opener.raw = true) := fun isEscape => isEscape.2 (plain isEscape.1)
    have notNewline : ¬(c = '\n' ∧ ¬opener.triple = true) := by
      rintro ⟨rfl, single⟩
      rw [Bool.not_eq_true] at single
      exact allows single List.mem_cons_self
    have others := ih fun single member => allows single (List.mem_cons_of_mem _ member)
    rw [List.cons_append, body, if_neg notClosed, if_neg notEscape, if_neg notNewline]
    refine (bind_eq_of_eq_ok others).trans ?_
    simp only [pure, Except.pure, List.length_cons, Nat.add_right_comm]
  | @escape spelling text item items goesOn notRaw spelled _ ih =>
    have notClosed :
        ¬opener.closing.isPrefixOf ('\x5c' :: (spelling ++ (text ++ (opener.closing ++ after)))) = true := by
      rw [List.isPrefixOf_iff_prefix, ← List.append_assoc, ← List.cons_append, closing_prefix_iff]
      exact goesOn
    have isEscape : '\x5c' = '\x5c' ∧ ¬opener.raw = true := ⟨rfl, by simp [notRaw]⟩
    have others := ih fun single member =>
      allows single (List.mem_cons_of_mem _ (List.mem_append_right _ member))
    rw [List.cons_append, List.append_assoc, body, if_neg notClosed, if_pos isEscape]
    refine (bind_eq_of_eq_ok (escape_eq_ok spelled _)).trans ?_
    simp only [List.drop_left]
    refine (bind_eq_of_eq_ok others).trans ?_
    simp only [pure, Except.pure, List.length_cons, List.length_append]
    congr 2
    omega

/-- A body is read up to the first boundary of items at which the closing marks stand. -/
theorem body_eq_ok_iff {opener : Opener} {text : List Char} {items : List Item} {read : Nat} :
    body opener text = .ok (items, read) ↔
      ∃ written after, text = written ++ (opener.closing ++ after) ∧
        read = written.length + opener.closing.length ∧ Body opener written items ∧
        opener.Allows written := by
  constructor
  · exact exists_body_of_eq_ok
  · rintro ⟨written, after, rfl, rfl, isBody, allows⟩
    exact body_eq_ok isBody allows after

end Cel.Literal
