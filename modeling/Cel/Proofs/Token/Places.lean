import Cel.Proofs.Except
import Cel.Proofs.Failures
import Cel.Proofs.Layout.Row
import Cel.Token.Lexer

/-! # Places of tokens

Every piece of a source takes at least one character, and the next piece starts where it ends. So tokens
stand one after the other, and the spans of tokens and of lexical errors begin and end between
characters.
-/

namespace Cel

/-- Whether a span is a part of a source that begins and ends between characters. -/
structure Span.IsIn (source : String) (span : Span) : Prop where
  proper : span.start ≤ span.stop
  inside : span.stop ≤ source.utf8ByteSize
  starts : String.Pos.Raw.IsValid source ⟨span.start⟩
  stops : String.Pos.Raw.IsValid source ⟨span.stop⟩

theorem Span.isIn_iff {source : String} {span : Span} : span.IsIn source ↔
    span.start ≤ span.stop ∧ String.Pos.Raw.IsValid source ⟨span.start⟩ ∧
      String.Pos.Raw.IsValid source ⟨span.stop⟩ := by
  constructor
  · rintro ⟨proper, -, starts, stops⟩
    exact ⟨proper, starts, stops⟩
  · rintro ⟨proper, starts, stops⟩
    exact ⟨proper, stops.le_rawEndPos, starts, stops⟩

/-- The empty span at the start of a source. -/
theorem Span.isIn_zero (source : String) : (Span.point 0).IsIn source :=
  Span.isIn_iff.mpr ⟨Nat.le_refl _, String.Pos.Raw.isValid_zero, String.Pos.Raw.isValid_zero⟩

theorem Text.Utf8.width_eq (text : List Char) : width text = (String.ofList text).utf8ByteSize := by
  induction text with
  | nil => rfl
  | cons c rest ih =>
    rw [String.ofList_cons, String.utf8ByteSize_append, String.utf8ByteSize_singleton, ← ih]
    rfl

namespace Lexer

open Text.Utf8 (width width_eq)

/-! ### Lengths of pieces -/

theorem length_takeWhile_pos {p : Char → Bool} {c : Char} (first : p c = true) (rest : List Char) :
    0 < ((c :: rest).takeWhile p).length := by
  rw [List.takeWhile_cons_of_pos first, List.length_cons]
  exact Nat.succ_pos _

theorem integer_length_pos (text : List Char) {length : Nat} (pos : 0 < length) (value : Nat) :
    0 < (integer text length value).2 := by
  unfold integer
  split
  · exact Nat.succ_pos _
  · exact pos

theorem number_length_pos {c : Char} (isDigit : Number.isDigit c = true) (rest : List Char) :
    0 < (number (c :: rest)).2 := by
  have whole := length_takeWhile_pos isDigit rest
  unfold number
  extract_lets text hexDigits digits fraction exponent
  split
  · exact integer_length_pos _ (Nat.succ_pos _) _
  · split
    · exact integer_length_pos _ whole _
    · exact Nat.add_pos_left (Nat.add_pos_left whole _) _

theorem literal_length_pos (opener : Literal.Opener) {opening : Nat} (pos : 0 < opening)
    (text : List Char) : 0 < (literal opener opening text).2 := by
  unfold literal
  split
  · exact pos
  · exact Nat.add_pos_left pos _

theorem symbol_length_pos (c : Char) (rest : List Char) : 0 < (symbol c rest).2 := by
  unfold symbol
  split
  · exact Nat.succ_pos _
  · split <;> exact Nat.succ_pos _

theorem opening_pos {text : List Char} {opener : Literal.Opener} {opening : Nat}
    (opens : Literal.opener? text = some (opener, opening)) : 0 < opening := by
  simp only [Literal.opener?] at opens
  split at opens
  · split at opens
    · cases opens
      split <;> omega
    · cases opens
  · cases opens

/-- Every piece takes at least one character. -/
theorem piece_length_pos (c : Char) (rest : List Char) : 0 < (piece c rest).2 := by
  simp only [piece]
  split
  · next blank => exact length_takeWhile_pos blank rest
  · split
    · next slashes =>
      have notNewline : decide (c ≠ '\n') = true := by rw [slashes.1]; decide
      exact length_takeWhile_pos (p := fun c => decide (c ≠ '\n')) notNewline rest
    · split
      · next isDigit => exact number_length_pos isDigit rest
      · split
        · next opener opening opens => exact literal_length_pos opener (opening_pos opens) _
        · split
          · next starts =>
            exact length_takeWhile_pos (by rw [isWordRest, starts, Bool.true_or]) rest
          · exact symbol_length_pos c rest

/-- What is left behind a piece. -/
theorem drop_of_piece {c : Char} {rest : List Char} {found : Piece} {length : Nat}
    (first : piece c rest = (found, length)) : rest.drop (length - 1) = (c :: rest).drop length := by
  have pos := piece_length_pos c rest
  rw [first] at pos
  obtain ⟨more, rfl⟩ : ∃ more, length = more + 1 := ⟨length - 1, by omega⟩
  rfl

/-! ### Offsets between characters -/

/-- Whether a text is what is left of a source from an offset on. -/
def Leaves (source : String) (offset : Nat) (text : List Char) : Prop :=
  ∃ read, source.toList = read ++ text ∧ offset = width read

namespace Leaves

variable {source : String} {offset : Nat} {text : List Char}

theorem start (source : String) : Leaves source 0 source.toList := ⟨[], rfl, rfl⟩

theorem isValid (leaves : Leaves source offset text) : String.Pos.Raw.IsValid source ⟨offset⟩ := by
  obtain ⟨read, isSource, rfl⟩ := leaves
  refine String.Pos.Raw.isValid_iff_exists_take_toList.mpr ⟨read.length, ?_⟩
  rw [isSource, List.take_left, width_eq]

theorem drop (leaves : Leaves source offset text) (length : Nat) :
    Leaves source (offset + width (text.take length)) (text.drop length) := by
  obtain ⟨read, isSource, rfl⟩ := leaves
  refine ⟨read ++ text.take length, ?_, ?_⟩
  · rw [isSource, List.append_assoc, List.take_append_drop]
  · rw [width_eq, width_eq, width_eq, String.ofList_append, String.utf8ByteSize_append]

end Leaves

variable {source : String} {offset : Nat} {text : List Char}

/-- Where a piece has been read, its span is a part of the source, and the rest of the source is left
behind it. -/
theorem Leaves.piece {c : Char} {rest : List Char} (leaves : Leaves source offset (c :: rest))
    {length : Nat} {found : Piece} (first : Lexer.piece c rest = (found, length)) :
    Span.IsIn source ⟨offset, offset + width ((c :: rest).take length)⟩ ∧
      Leaves source (offset + width ((c :: rest).take length)) (rest.drop (length - 1)) := by
  have behind := leaves.drop length
  refine ⟨Span.isIn_iff.mpr ⟨Nat.le_add_right _ _, leaves.isValid, behind.isValid⟩, ?_⟩
  have pos := piece_length_pos c rest
  rw [first] at pos
  obtain ⟨more, rfl⟩ : ∃ more, length = more + 1 := ⟨length - 1, by omega⟩
  exact behind

/-- Every token stands at a part of the source. -/
theorem isIn_of_tokensFrom (leaves : Leaves source offset text) {tokens : Parser.Tokens}
    (read : tokensFrom offset text = .ok tokens) : ∀ token ∈ tokens, token.span.IsIn source := by
  fun_induction tokensFrom offset text generalizing tokens
  case case1 =>
    cases read
    exact nofun
  case case2 first ih => exact ih (leaves.piece first).2 read
  case case3 first ih =>
    obtain ⟨isIn, left⟩ := leaves.piece first
    obtain ⟨others, othersRead, made⟩ := bind_eq_ok_iff.mp read
    cases made
    exact List.forall_mem_cons.mpr ⟨isIn, ih left othersRead⟩
  case case4 => cases read

/-- Tokens stand one after the other. -/
theorem inOrder_of_tokensFrom {whole tokens : Parser.Tokens}
    (read : tokensFrom offset text = .ok tokens) (among : ∀ token ∈ tokens, token ∈ whole) :
    Parser.InOrder whole offset tokens := by
  fun_induction tokensFrom offset text generalizing tokens
  case case1 =>
    cases read
    exact trivial
  case case2 ih => exact (ih read among).mono (Nat.le_add_right _ _)
  case case3 ih =>
    obtain ⟨others, othersRead, made⟩ := bind_eq_ok_iff.mp read
    cases made
    obtain ⟨member, othersAmong⟩ := List.forall_mem_cons.mp among
    exact ⟨member, Nat.le_refl _, Nat.le_add_right _ _, ih othersRead othersAmong⟩
  case case4 => cases read

/-- The tokens of a source stand one after the other. -/
theorem inOrder_of_tokens {tokens : Parser.Tokens} (read : Lexer.tokens source = .ok tokens) :
    Parser.InOrder tokens 0 tokens :=
  inOrder_of_tokensFrom read fun _ member => member

/-! ### Single tokens -/

theorem width_append (first second : List Char) : width (first ++ second) = width first + width second := by
  rw [Text.Utf8.width_eq, Text.Utf8.width_eq, Text.Utf8.width_eq, String.ofList_append,
    String.utf8ByteSize_append]

theorem eq_nil_of_width {text : List Char} (empty : width text = 0) : text = [] := by
  cases text with
  | nil => rfl
  | cons c rest =>
    have pos : 0 < c.utf8Size := Char.utf8Size_pos c
    have sum : c.utf8Size + width rest = 0 := empty
    omega

/-- Reading finds one token that spans a text exactly if the first piece is that token and takes all of
it. -/
theorem tokensFrom_eq_single_iff {c : Char} {more : List Char} {found : Piece} {length : Nat}
    (first : piece c more = (found, length)) (notSkipped : found ≠ .skipped) (token : Token) :
    tokensFrom 0 (c :: more) = .ok [⟨token, ⟨0, width (c :: more)⟩⟩] ↔
      found = .token token ∧ (c :: more).length ≤ length := by
  have parts := List.take_append_drop length (c :: more)
  have behind : more.drop (length - 1) = (c :: more).drop length := drop_of_piece first
  cases found with
  | skipped => exact absurd rfl notSkipped
  | invalid cause =>
    apply iff_of_false
    · rw [tokensFrom]
      simp only [first]
      rintro ⟨⟩
    · rintro ⟨⟨⟩, -⟩
  | token other =>
    rw [tokensFrom]
    simp only [first, behind, Nat.zero_add]
    constructor
    · intro read
      obtain ⟨others, othersRead, made⟩ := bind_eq_ok_iff.mp read
      obtain ⟨same, -⟩ := List.cons.inj (Except.ok.inj made)
      obtain ⟨sameToken, sameSpan⟩ := Located.mk.inj same
      have whole : width ((c :: more).take length) = width (c :: more) := congrArg Span.stop sameSpan
      have sum := width_append ((c :: more).take length) ((c :: more).drop length)
      rw [parts] at sum
      have nothing : (c :: more).drop length = [] := eq_nil_of_width (by omega)
      exact ⟨congrArg Piece.token sameToken, List.drop_eq_nil_iff.mp nothing⟩
    · rintro ⟨same, all⟩
      cases same
      rw [List.drop_eq_nil_of_le all, List.take_of_length_le all, tokensFrom]
      rfl

end Lexer

end Cel
