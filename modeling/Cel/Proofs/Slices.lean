import Mathlib.Data.String.Basic
import Cel.Proofs.Token.Local

/-! # Slices of a source

A source is its tokens, blanks and comments, each in its place, and nothing else. The slice of a source at
a token is read as that token alone, and slices with a blank between any two of them are read as the same
tokens.
-/

namespace Cel

open Text.Utf8 (width)

/-! ### Slices -/

/-- The part of a source at a span. -/
def Span.slice (source : String) (span : Span) : String :=
  String.Pos.Raw.extract source ⟨span.start⟩ ⟨span.stop⟩

namespace Lexer

/-- The slice between two offsets is the text there. -/
theorem slice_eq {source : String} {before middle after : List Char}
    (isSource : source.toList = before ++ (middle ++ after)) :
    Span.slice source ⟨width before, width before + width middle⟩ = String.ofList middle := by
  have length (text : List Char) : width text = String.utf8Len text := by
    rw [Text.Utf8.width_eq, String.utf8ByteSize_ofList]
  have whole : source = String.ofList (before ++ middle ++ after) := by
    rw [List.append_assoc, ← isSource, String.ofList_toList]
  rw [Span.slice, length, length, whole]
  exact String.extract_of_valid before middle after

/-! ### Gaps -/

/-- Whether a text consists of blanks and comments. A comment goes on to the end of its line, or of the
source if the text is the last one. -/
inductive Gap : (last : Bool) → List Char → Prop where
  | nil {last : Bool} : Gap last []
  | blank {last : Bool} {c : Char} {rest : List Char} (blank : isBlank c = true) (others : Gap last rest) :
    Gap last (c :: rest)
  | comment {last : Bool} {body rest : List Char} (oneLine : '\n' ∉ body)
    (others : Gap last ('\n' :: rest)) :
    Gap last ('/' :: '/' :: (body ++ '\n' :: rest))
  | lastComment {body : List Char} (oneLine : '\n' ∉ body) : Gap true ('/' :: '/' :: body)

theorem Gap.blanks {last : Bool} {run rest : List Char} (blank : run.all isBlank = true)
    (others : Gap last rest) : Gap last (run ++ rest) := by
  induction run with
  | nil => exact others
  | cons c run ih =>
    rw [List.all_cons, Bool.and_eq_true] at blank
    exact .blank blank.1 (ih blank.2)

/-- The text of a source from an offset on as tokens with gaps between them. -/
inductive Divided : Nat → List Char → List (Located Token) → Prop where
  | last {offset : Nat} {gap : List Char} (isGap : Gap true gap) : Divided offset gap []
  | token {offset : Nat} {gap : List Char} {c : Char} {more rest : List Char} {token : Token}
    {tokens : List (Located Token)} (isGap : Gap false gap) (isToken : IsToken c more token)
    (others : Divided (offset + width gap + width (c :: more)) rest tokens) :
    Divided offset (gap ++ (c :: more ++ rest))
      (⟨token, ⟨offset + width gap, offset + width gap + width (c :: more)⟩⟩ :: tokens)

/-- Whether a text that is dropped makes the gap behind it longer, up to the end of the source or the next
token. -/
def Extends (run left : List Char) : Prop :=
  ∀ last gap rest, left = gap ++ rest → (last = true ∧ rest = []) ∨
    (last = false ∧ ∃ c more, rest = c :: more ∧ isBlank c = false) → Gap last gap → Gap last (run ++ gap)

theorem extends_blanks {run left : List Char} (blank : run.all isBlank = true) : Extends run left :=
  fun _ _ _ _ _ isGap => isGap.blanks blank

/-- A comment ends in front of a line break, which is a part of the gap behind it. -/
theorem extends_comment {body left : List Char} (oneLine : '\n' ∉ body)
    (ends : ∀ c ∈ left.head?, c = '\n') : Extends ('/' :: '/' :: body) left := by
  rintro last gap rest rfl stops isGap
  cases gap with
  | nil =>
    rcases stops with ⟨rfl, -⟩ | ⟨-, c, more, rfl, notBlank⟩
    · rw [List.append_nil]
      exact .lastComment oneLine
    · have newline : c = '\n' := ends c rfl
      rw [newline] at notBlank
      exact absurd notBlank (by decide)
  | cons c gap =>
    have newline : c = '\n' := ends c rfl
    subst newline
    exact .comment oneLine isGap

theorem head?_dropWhile {p : Char → Bool} {text : List Char} :
    ∀ c ∈ (text.dropWhile p).head?, p c = false := by
  intro c first
  have stopped := List.head?_dropWhile_not p text
  rw [Option.mem_def] at first
  rw [first] at stopped
  exact stopped

theorem signed_ne_skipped (text : List Char) (value : Int) : signed text value ≠ .skipped := by
  rw [signed]
  split <;> rintro ⟨⟩

theorem unsigned_ne_skipped (text : List Char) (value : Int) : unsigned text value ≠ .skipped := by
  rw [unsigned]
  split <;> rintro ⟨⟩

theorem integer_ne_skipped (text : List Char) (length value : Nat) :
    (integer text length value).1 ≠ .skipped := by
  simp only [integer]
  split
  · dsimp only
    exact unsigned_ne_skipped _ _
  · dsimp only
    exact signed_ne_skipped _ _

theorem number_ne_skipped (text : List Char) : (number text).1 ≠ .skipped := by
  rw [number_eq]
  split
  · exact integer_ne_skipped _ _ _
  · split
    · exact integer_ne_skipped _ _ _
    · rintro ⟨⟩

theorem literal_ne_skipped (opener : Literal.Opener) (opening : Nat) (text : List Char) :
    (literal opener opening text).1 ≠ .skipped := by
  rw [literal]
  split <;> rintro ⟨⟩

theorem symbol_ne_skipped (c : Char) (rest : List Char) : (symbol c rest).1 ≠ .skipped := by
  rw [symbol]
  split
  · rintro ⟨⟩
  · split <;> rintro ⟨⟩

/-- What is dropped is a run of blanks or a comment. -/
theorem exists_extends {c : Char} {rest : List Char} {length : Nat}
    (first : piece c rest = (.skipped, length)) :
    ∃ run left, c :: rest = run ++ left ∧ length = run.length ∧ Extends run left := by
  simp only [piece] at first
  split at first
  · next blank =>
    cases first
    exact ⟨_, _, List.takeWhile_append_dropWhile.symm, rfl, extends_blanks List.all_takeWhile⟩
  · split at first
    · next slashes =>
      cases first
      obtain ⟨rfl, second⟩ := slashes
      cases rest with
      | nil => cases second
      | cons d rest =>
        cases second
        let body := rest.takeWhile (· ≠ '\n')
        let left := rest.dropWhile (· ≠ '\n')
        have parts : body ++ left = rest := List.takeWhile_append_dropWhile
        have oneLine : '\n' ∉ body := by
          intro member
          have notNewline := List.all_eq_true.mp List.all_takeWhile '\n' member
          exact absurd notNewline (by decide)
        have ends : ∀ c ∈ left.head?, c = '\n' := by
          intro c first
          have stopped : decide (c ≠ '\n') = false := head?_dropWhile c first
          simpa using stopped
        have run : ('/' :: '/' :: rest).takeWhile (· ≠ '\n') = '/' :: '/' :: body := rfl
        refine ⟨'/' :: '/' :: body, left, ?_, by rw [run], extends_comment oneLine ends⟩
        rw [List.cons_append, List.cons_append, parts]
    · split at first
      · next isDigit => exact absurd (congrArg Prod.fst first) (number_ne_skipped _)
      · split at first
        · exact absurd (congrArg Prod.fst first) (literal_ne_skipped _ _ _)
        · split at first
          · cases first
          · exact absurd (congrArg Prod.fst first) (symbol_ne_skipped _ _)

theorem Divided.extend {offset : Nat} {run left : List Char} {tokens : List (Located Token)}
    (isExtended : Extends run left) (divided : Divided (offset + width run) left tokens) :
    Divided offset (run ++ left) tokens := by
  generalize isStart : offset + width run = start at divided
  cases divided with
  | last isGap => exact .last (isExtended true left [] (List.append_nil left).symm (.inl ⟨rfl, rfl⟩) isGap)
  | @token start gap c more rest token tokens isGap isToken others =>
    have longer := isExtended false gap (c :: more ++ rest) rfl
      (.inr ⟨rfl, c, more ++ rest, rfl, isToken.notBlank⟩) isGap
    have widths : start + width gap = offset + width (run ++ gap) := by
      rw [width_append, ← isStart, Nat.add_assoc]
    rw [widths] at others ⊢
    rw [← List.append_assoc]
    exact .token longer isToken others

/-- Reading divides a source into tokens. -/
theorem divided_of_tokensFrom {offset : Nat} {text : List Char} {tokens : List (Located Token)}
    (read : tokensFrom offset text = .ok tokens) : Divided offset text tokens := by
  fun_induction tokensFrom offset text generalizing tokens
  case case1 =>
    cases read
    exact .last .nil
  case case2 offset c rest length span remaining first ih =>
    have behind : remaining = (c :: rest).drop length := drop_of_piece first
    have divided := ih read
    obtain ⟨run, left, same, rfl, isExtended⟩ := exists_extends first
    rw [behind, same, List.drop_left] at divided
    rw [same]
    apply Divided.extend isExtended
    have isStop : span.stop = offset + width run := by
      change offset + width ((c :: rest).take run.length) = _
      rw [same, List.take_left]
    rw [← isStop]
    exact divided
  case case3 offset c rest length span remaining token first ih =>
    obtain ⟨others, othersRead, made⟩ := bind_eq_ok_iff.mp read
    cases made
    obtain ⟨more, after, rfl, rfl, isToken⟩ := exists_isToken first
    have behind : remaining = after := List.drop_left
    have divided := ih othersRead
    have taken : (c :: (more ++ after)).take (more.length + 1) = c :: more := by
      rw [List.take_succ_cons, List.take_left]
    have isStop : span.stop = offset + width (c :: more) := by
      change offset + width ((c :: (more ++ after)).take (more.length + 1)) = _
      rw [taken]
    have isSpan : span = ⟨offset, offset + width (c :: more)⟩ := by
      rw [← isStop]
    rw [behind, isStop] at divided
    rw [isSpan]
    exact @Divided.token offset [] c more after token others .nil isToken divided
  case case4 => cases read

/-! ### Divided sources -/

/-- Whether gaps stand from an offset to the first token, between tokens, and from the last one to the end
of a source. -/
def Gaps (source : String) : Nat → List (Located Token) → Prop
  | offset, [] => Gap true (Span.slice source ⟨offset, source.utf8ByteSize⟩).toList
  | offset, token :: rest =>
    Gap false (Span.slice source ⟨offset, token.span.start⟩).toList ∧ Gaps source token.span.stop rest

/-- Whether the slice of a source at a token reads as the token. -/
def Stands (source : String) (token : Located Token) : Prop :=
  ∃ c more, token.span.slice source = String.ofList (c :: more) ∧ IsToken c more token.item

namespace Divided

variable {source : String} {offset : Nat} {text : List Char} {tokens : List (Located Token)}

theorem le_start (divided : Divided offset text tokens) : ∀ token ∈ tokens, offset ≤ token.span.start := by
  induction divided with
  | last => exact nofun
  | @token offset gap c more rest token tokens _ _ _ ih =>
    intro other member
    rcases List.mem_cons.mp member with rfl | later
    · exact Nat.le_add_right _ _
    · have behind := ih other later
      omega

/-- Tokens take at least one byte and stand one after the other. -/
theorem inOrder (divided : Divided offset text tokens) :
    (∀ token ∈ tokens, token.span.start < token.span.stop) ∧
      tokens.Pairwise (·.span.stop ≤ ·.span.start) := by
  induction divided with
  | last => exact ⟨nofun, .nil⟩
  | @token offset gap c more rest token tokens _ _ others ih =>
    have pos : 0 < c.utf8Size := Char.utf8Size_pos c
    refine ⟨List.forall_mem_cons.mpr ⟨?_, ih.1⟩, List.pairwise_cons.mpr ⟨others.le_start, ih.2⟩⟩
    change offset + width gap < offset + width gap + (c.utf8Size + width more)
    omega

theorem gaps_and_stands (divided : Divided offset text tokens) (leaves : Leaves source offset text) :
    Gaps source offset tokens ∧ ∀ token ∈ tokens, Stands source token := by
  induction divided with
  | @last offset gap isGap =>
    obtain ⟨read, isSource, rfl⟩ := leaves
    have size : source.utf8ByteSize = width read + width gap := by
      rw [← width_append, ← isSource, Text.Utf8.width_eq, String.ofList_toList]
    have whole : source.toList = read ++ (gap ++ []) := by rw [isSource, List.append_nil]
    refine ⟨?_, nofun⟩
    rw [Gaps, size, slice_eq whole, String.toList_ofList]
    exact isGap
  | @token offset gap c more rest token tokens isGap isToken _ ih =>
    obtain ⟨read, isSource, rfl⟩ := leaves
    have before : source.toList = (read ++ gap) ++ ((c :: more) ++ rest) := by
      rw [isSource, List.append_assoc]
    have behind : Leaves source (width read + width gap + width (c :: more)) rest := by
      refine ⟨read ++ gap ++ (c :: more), ?_, ?_⟩
      · rw [before, List.append_assoc (read ++ gap)]
      · rw [width_append, width_append]
    obtain ⟨gaps, stands⟩ := ih behind
    refine ⟨⟨?_, gaps⟩, List.forall_mem_cons.mpr ⟨⟨c, more, ?_, isToken⟩, stands⟩⟩
    · rw [slice_eq isSource, String.toList_ofList]
      exact isGap
    · have slice := slice_eq before
      rw [width_append] at slice
      exact slice

end Divided

/-- The slice of a source at a token is read as that token. -/
theorem Stands.tokens_slice {source : String} {token : Located Token} (stands : Stands source token) :
    tokens (token.span.slice source) =
      .ok [⟨token.item, ⟨0, (token.span.slice source).utf8ByteSize⟩⟩] := by
  obtain ⟨c, more, slice, isToken⟩ := stands
  have first := isToken.reads [] ends_nil
  rw [List.append_nil] at first
  rw [slice, ← Text.Utf8.width_eq, tokens, String.toList_ofList]
  exact (tokensFrom_eq_single_iff first nofun token.item).mpr ⟨rfl, Nat.le_refl _⟩

/-- Joined texts begin as the first of them does. -/
theorem exists_intercalate_eq_cons (separator : List Char) (c : Char) (more : List Char)
    (others : List (List Char)) : ∃ rest, List.intercalate separator ((c :: more) :: others) = c :: rest := by
  cases others with
  | nil => exact ⟨more, List.intercalate_singleton⟩
  | cons next others => exact ⟨_, List.intercalate_cons_cons⟩

/-- Slices with a blank between any two of them are read as their tokens. -/
theorem scans_slices {source : String} {token : Located Token} {others : List (Located Token)}
    (stands : ∀ other ∈ token :: others, Stands source other) :
    Scans (List.intercalate [' '] ((token :: others).map fun token => (token.span.slice source).toList))
      ((token :: others).map Located.item) [] := by
  induction others generalizing token with
  | nil =>
    obtain ⟨c, more, slice, isToken⟩ := stands token List.mem_cons_self
    have alone : Scans (c :: (more ++ [])) [token.item] [] :=
      Scans.of_piece (isToken.reads [] ends_nil)
    simpa [slice] using alone
  | cons next others ih =>
    obtain ⟨head, tail⟩ := List.forall_mem_cons.mp stands
    obtain ⟨c, more, slice, isToken⟩ := head
    obtain ⟨d, left, nextSlice, nextIsToken⟩ := tail next List.mem_cons_self
    have behind := ih tail
    rw [List.map_cons, nextSlice, String.toList_ofList] at behind
    obtain ⟨rest, joined⟩ := exists_intercalate_eq_cons [' '] d left
      (others.map fun token => (token.span.slice source).toList)
    rw [joined] at behind
    have first : Scans (c :: (more ++ ' ' :: d :: rest)) [token.item] (' ' :: d :: rest) :=
      Scans.of_piece (isToken.reads (' ' :: d :: rest) (ends_blank _))
    have between : Scans (' ' :: d :: rest) [] (d :: rest) := scans_blank nextIsToken.notBlank rest
    have whole := first.trans (between.trans behind)
    rw [List.map_cons, List.map_cons, slice, nextSlice, String.toList_ofList, String.toList_ofList,
      List.intercalate_cons_cons, joined, List.append_assoc]
    exact whole

/-- Reading a source loses nothing and is local. Tokens take some bytes of the source between characters,
stand one after the other, and there are only blanks and comments around them. The slice of the source at
a token is read as that token alone, and slices with blanks between them as the same tokens. -/
theorem tokens_local {source : String} {found : List (Located Token)} (read : tokens source = .ok found) :
    (∀ token ∈ found, token.span.start < token.span.stop ∧ token.span.IsIn source) ∧
      found.Pairwise (·.span.stop ≤ ·.span.start) ∧
      Gaps source 0 found ∧
      (∀ token ∈ found, tokens (token.span.slice source) =
        .ok [⟨token.item, ⟨0, (token.span.slice source).utf8ByteSize⟩⟩]) ∧
      ∃ again, tokens (" ".intercalate (found.map (·.span.slice source))) = .ok again ∧
        again.map Located.item = found.map Located.item := by
  have divided : Divided 0 source.toList found := divided_of_tokensFrom read
  have isIn := isIn_of_tokensFrom (Leaves.start source) read
  obtain ⟨some, inOrder⟩ := divided.inOrder
  obtain ⟨gaps, stands⟩ := divided.gaps_and_stands (Leaves.start source)
  refine ⟨fun token member => ⟨some token member, isIn token member⟩, inOrder, gaps,
    fun token member => (stands token member).tokens_slice, ?_⟩
  cases found with
  | nil =>
    refine ⟨[], ?_, rfl⟩
    rw [List.map_nil, String.intercalate_nil, tokens, String.toList_empty, tokensFrom]
  | cons token others =>
    have scans := scans_slices stands
    have texts : (" ".intercalate ((token :: others).map (·.span.slice source))).toList =
        List.intercalate [' '] ((token :: others).map fun token => (token.span.slice source).toList) := by
      rw [String.toList_intercalate, List.map_map]
      rfl
    rw [← texts] at scans
    exact scans.exists_tokensFrom rfl 0

/-- A number with a name at its end, a literal with a wide character, and a comment before a keyword. -/
theorem tokens_local_of_mixed :
    let source := "1.5u+\"é\" // é\n in"
    let found : List (Located Token) :=
      [⟨.double ⟨0x3FF8000000000000⟩, ⟨0, 3⟩⟩, ⟨.ident "u", ⟨3, 4⟩⟩, ⟨.symbol .plus, ⟨4, 5⟩⟩,
        ⟨.string "é", ⟨5, 9⟩⟩, ⟨.keyword .in, ⟨17, 19⟩⟩]
    tokens source = .ok found ∧ Gaps source 0 found ∧
      ∃ again, tokens (" ".intercalate (found.map (·.span.slice source))) = .ok again ∧
        again.map Located.item = found.map Located.item := by
  intro source found
  have read : tokens source = .ok found := by decide +kernel
  obtain ⟨-, -, gaps, -, again⟩ := tokens_local read
  exact ⟨read, gaps, again⟩

end Lexer

end Cel
