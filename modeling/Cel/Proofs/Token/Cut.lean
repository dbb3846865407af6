import Cel.Proofs.Token.Local

/-! # Texts that are cut off

What a piece is depends on nothing behind it but what it could have gone on with. So if a text is cut off
behind a token, its tokens up to there are the same ones. And if a text is read from a token on, then its
tokens from there on are the same ones.
-/

namespace Cel

open Text.Utf8 (width)

/-- The span as many bytes further back, for a text that begins there. -/
def Span.back (bytes : Nat) (span : Span) : Span := ⟨span.start - bytes, span.stop - bytes⟩

/-- The span as many bytes further on, for a text that has others before it. -/
def Span.forth (bytes : Nat) (span : Span) : Span := ⟨span.start + bytes, span.stop + bytes⟩

namespace Lexer

variable {c : Char} {rest text : List Char} {found : Piece} {length offset n : Nat}

/-! ### Pieces -/

/-- What opens a literal opens one in every longer text. -/
theorem opener?_ne_none {opening : List Char} {opener : Literal.Opener} (opens : Literal.Opens opening opener)
    (after : List Char) : Literal.opener? (opening ++ after) ≠ none := by
  obtain ⟨letters, style, isMark, rfl⟩ := opens
  have taken := Literal.takeWhile_opening style isMark after
  obtain ⟨more, closing⟩ := opener.exists_closing
  have behind : (letters ++ opener.closing ++ after).drop letters.length = opener.mark :: (more ++ after) := by
    rw [List.append_assoc, List.drop_left, closing, List.cons_append]
  simp only [Literal.opener?, taken, behind, Literal.style?_eq_some_iff.mpr style, if_pos isMark]
  exact Option.some_ne_none _

theorem opener?_take (none : Literal.opener? text = none) (n : Nat) :
    Literal.opener? (text.take n) = Option.none := by
  cases opened : Literal.opener? (text.take n) with
  | none => rfl
  | some found =>
    obtain ⟨opening, after, same, -, opens, -⟩ := Literal.opener?_eq_some_iff.mp opened
    have whole := List.take_append_drop n text
    rw [same, List.append_assoc] at whole
    rw [← whole] at none
    exact absurd none (opener?_ne_none opens _)

theorem head?_of_take {d : Char} (first : (rest.take n).head? = some d) : rest.head? = some d := by
  rw [List.head?_take] at first
  split at first
  · cases first
  · exact first

theorem head?_take_of_pos (pos : 0 < n) : (rest.take n).head? = rest.head? := by
  rw [List.head?_take, if_neg (Nat.ne_of_gt pos)]

/-- A run of characters of a kind is the same in a text that is cut off behind it. -/
theorem takeWhile_take {p : Char → Bool} (covers : ((c :: rest).takeWhile p).length ≤ n + 1) :
    (c :: rest.take n).takeWhile p = (c :: rest).takeWhile p := by
  have stops : ∀ d ∈ List.head? [], p d = false := fun _ first => absurd first (Option.not_mem_none _)
  have run := takeWhile_take_append covers stops
  rwa [List.append_nil, List.take_succ_cons] at run

theorem symbol_take (read : symbol c rest = (found, length)) (covers : length ≤ n + 1) :
    symbol c (rest.take n) = (found, length) := by
  cases pair : rest.head? >>= symbol2? c with
  | some sign =>
    have pos : 0 < n := by
      simp only [symbol, pair] at read
      cases read
      omega
    rwa [symbol, head?_take_of_pos pos]
  | none =>
    have noPair : (rest.take n).head? >>= symbol2? c = none := by
      cases first : (rest.take n).head? with
      | none => rfl
      | some d =>
        rw [head?_of_take first] at pair
        exact pair
    rw [symbol, pair] at read
    rw [symbol, noPair]
    exact read

theorem literal_take {opener : Literal.Opener} {opening : Nat}
    (opened : Literal.opener? (c :: rest) = some (opener, opening))
    (read : literal opener opening ((c :: rest).drop opening) = (found, length)) (covers : length ≤ n + 1)
    (valid : ∀ cause, found ≠ .invalid cause) :
    Literal.opener? (c :: rest.take n) = some (opener, opening) ∧
      literal opener opening ((c :: rest.take n).drop opening) = (found, length) := by
  obtain ⟨front, after, same, rfl, opens, single⟩ := Literal.opener?_eq_some_iff.mp opened
  rw [same, List.drop_left] at read
  cases body : Literal.body opener after with
  | error cause =>
    rw [literal, body] at read
    cases read
    exact absurd rfl (valid _)
  | ok result =>
    obtain ⟨items, taken⟩ := result
    obtain ⟨written, left, rfl, rfl, isBody, allows⟩ := Literal.body_eq_ok_iff.mp body
    have isRead : (.token (if opener.bytes then .bytes (items.flatMap Literal.Item.toBytes)
          else .string (String.ofList (items.map Literal.Item.toChar))),
        front.length + (written.length + opener.closing.length)) = (found, length) := by
      rwa [literal, body] at read
    have isLength : (front ++ (written ++ opener.closing)).length = length := by
      rw [List.length_append, List.length_append]
      exact congrArg Prod.snd isRead
    let kept := left.take (n + 1 - length)
    have cut : c :: rest.take n = front ++ (written ++ (opener.closing ++ kept)) := by
      have whole : c :: rest = (front ++ (written ++ opener.closing)) ++ left := by simp [same]
      rw [← List.take_succ_cons, whole, List.take_append, isLength, List.take_of_length_le (by omega),
        List.append_assoc, List.append_assoc]
    have isPrefix : written ++ (opener.closing ++ kept) <+: written ++ (opener.closing ++ left) := by
      rw [List.prefix_append_right_inj, List.prefix_append_right_inj]
      exact List.take_prefix _ _
    rw [cut, List.drop_left, literal, Literal.body_eq_ok isBody allows kept]
    exact ⟨Literal.opener?_eq_some_iff.mpr ⟨front, _, rfl, rfl, opens, fun isSingle marks =>
      single isSingle (marks.trans isPrefix)⟩, isRead⟩

/-- A piece is the same in a text that is cut off behind it. -/
theorem piece_take (first : piece c rest = (found, length)) (covers : length ≤ n + 1)
    (valid : ∀ cause, found ≠ .invalid cause) : piece c (rest.take n) = (found, length) := by
  simp only [piece] at first ⊢
  split at first
  · next blank =>
    cases first
    rw [if_pos blank, takeWhile_take covers]
  · next notBlank =>
    rw [if_neg notBlank]
    split at first
    · next slashes =>
      cases first
      obtain ⟨rfl, second⟩ := slashes
      have pos : 0 < n := by
        cases rest with
        | nil => cases second
        | cons d rest =>
          cases second
          have run : ('/' :: '/' :: rest).takeWhile (· ≠ '\n') =
              '/' :: '/' :: rest.takeWhile (· ≠ '\n') := rfl
          rw [run, List.length_cons, List.length_cons] at covers
          omega
      rw [head?_take_of_pos pos, if_pos ⟨rfl, second⟩, takeWhile_take covers]
    · next noComment =>
      rw [if_neg fun slashes => noComment ⟨slashes.1, head?_of_take slashes.2⟩]
      split at first
      · next isDigit =>
        have inside : (number (c :: rest)).2 ≤ n + 1 := by rwa [first]
        have same := (number_take_append ends_nil isDigit inside).2
        rw [List.append_nil, List.take_succ_cons] at same
        rw [if_pos isDigit, same, first]
      · next notDigit =>
        rw [if_neg notDigit]
        split at first
        · next opener opening opened =>
          obtain ⟨openedAgain, readAgain⟩ := literal_take opened first covers valid
          simp only [openedAgain]
          exact readAgain
        · next noOpener =>
          have noOpenerAgain := opener?_take noOpener (n + 1)
          rw [List.take_succ_cons] at noOpenerAgain
          simp only [noOpenerAgain]
          split at first
          · next starts =>
            cases first
            rw [if_pos starts, takeWhile_take covers]
          · next notStart =>
            rw [if_neg notStart]
            exact symbol_take first covers

/-! ### Texts -/

theorem width_take_add (text : List Char) (m n : Nat) :
    width (text.take (m + n)) = width (text.take m) + width ((text.drop m).take n) := by
  rw [List.take_add, width_append]

theorem skipped_valid (cause : LexError.Cause) : Piece.skipped ≠ .invalid cause := Piece.noConfusion

theorem token_valid (token : Token) (cause : LexError.Cause) : Piece.token token ≠ .invalid cause :=
  Piece.noConfusion

theorem tokensFrom_skipped (first : piece c rest = (.skipped, length)) :
    tokensFrom offset (c :: rest) =
      tokensFrom (offset + width ((c :: rest).take length)) ((c :: rest).drop length) := by
  rw [← drop_of_piece first, tokensFrom]
  simp only [first]

theorem tokensFrom_token {token : Token} (first : piece c rest = (.token token, length))
    {others : List (Located Token)}
    (read : tokensFrom (offset + width ((c :: rest).take length)) ((c :: rest).drop length) = .ok others) :
    tokensFrom offset (c :: rest) =
      .ok (⟨token, ⟨offset, offset + width ((c :: rest).take length)⟩⟩ :: others) := by
  rw [← drop_of_piece first] at read
  rw [tokensFrom]
  simp only [first]
  exact bind_eq_of_eq_ok read

/-- A text that is cut off somewhere behind its first piece begins with that piece. -/
theorem exists_piece_take (first : piece c rest = (found, length)) (valid : ∀ cause, found ≠ .invalid cause)
    (n : Nat) : ∃ more, (c :: rest).take (length + n) = c :: more ∧ piece c more = (found, length) ∧
      (c :: more).take length = (c :: rest).take length ∧
      (c :: more).drop length = ((c :: rest).drop length).take n := by
  have pos := piece_length_pos c rest
  rw [first] at pos
  obtain ⟨k, rfl⟩ : ∃ k, length = k + 1 := ⟨length - 1, by omega⟩
  have cut : (c :: rest).take (k + 1 + n) = c :: rest.take (k + n) := by
    rw [Nat.add_right_comm, List.take_succ_cons]
  refine ⟨rest.take (k + n), cut, piece_take first (by omega) valid, ?_, ?_⟩
  · rw [← cut, List.take_take, Nat.min_eq_left (Nat.le_add_right _ _)]
  · rw [← cut, List.drop_take, Nat.add_sub_cancel_left]

/-- From a token on, the same tokens are read without the text before it. -/
theorem exists_tokensFrom_drop {before after : List (Located Token)} {token : Located Token}
    (read : tokensFrom offset text = .ok (before ++ token :: after)) :
    ∃ n, token.span.start = offset + width (text.take n) ∧
      tokensFrom token.span.start (text.drop n) = .ok (token :: after) := by
  fun_induction tokensFrom offset text generalizing before
  case case1 => cases before <;> cases read
  case case2 offset c rest length span remaining first ih =>
    have behind : remaining = (c :: rest).drop length := drop_of_piece first
    obtain ⟨n, starts, readRest⟩ := ih read
    refine ⟨length + n, ?_, ?_⟩
    · rw [starts, behind, width_take_add, ← Nat.add_assoc]
    · rwa [← List.drop_drop, ← behind]
  case case3 offset c rest length span remaining other first ih =>
    have behind : remaining = (c :: rest).drop length := drop_of_piece first
    obtain ⟨others, othersRead, made⟩ := bind_eq_ok_iff.mp read
    have same := Except.ok.inj made
    cases before with
    | nil =>
      obtain ⟨rfl, rfl⟩ := List.cons.inj same
      rw [behind] at othersRead
      exact ⟨0, rfl, tokensFrom_token first othersRead⟩
    | cons head before =>
      obtain ⟨rfl, rfl⟩ := List.cons.inj same
      obtain ⟨n, starts, readRest⟩ := ih othersRead
      refine ⟨length + n, ?_, ?_⟩
      · rw [starts, behind, width_take_add, ← Nat.add_assoc]
      · rwa [← List.drop_drop, ← behind]
  case case4 => cases read

/-- Up to a token, the same tokens are read without the text behind it. -/
theorem exists_tokensFrom_take {front after : List (Located Token)} {token : Located Token}
    (read : tokensFrom offset text = .ok (front ++ token :: after)) :
    ∃ n, token.span.stop = offset + width (text.take n) ∧
      tokensFrom offset (text.take n) = .ok (front ++ [token]) := by
  fun_induction tokensFrom offset text generalizing front
  case case1 => cases front <;> cases read
  case case2 offset c rest length span remaining first ih =>
    have behind : remaining = (c :: rest).drop length := drop_of_piece first
    obtain ⟨n, stops, readFront⟩ := ih read
    obtain ⟨more, cut, firstAgain, taken, left⟩ := exists_piece_take first skipped_valid n
    refine ⟨length + n, ?_, ?_⟩
    · rw [stops, behind, width_take_add, ← Nat.add_assoc]
    · rw [cut, tokensFrom_skipped firstAgain, taken, left, ← behind]
      exact readFront
  case case3 offset c rest length span remaining other first ih =>
    have behind : remaining = (c :: rest).drop length := drop_of_piece first
    obtain ⟨others, othersRead, made⟩ := bind_eq_ok_iff.mp read
    have same := Except.ok.inj made
    have goOn {n : Nat} {others : List (Located Token)}
        (readFront : tokensFrom span.stop (remaining.take n) = .ok others) :
        tokensFrom offset ((c :: rest).take (length + n)) = .ok (⟨other, span⟩ :: others) := by
      obtain ⟨more, cut, firstAgain, taken, left⟩ := exists_piece_take first (token_valid other) n
      rw [behind, ← left] at readFront
      have isStop : span.stop = offset + width ((c :: more).take length) := by rw [taken]
      have isSpan : span = ⟨offset, offset + width ((c :: more).take length)⟩ := by rw [taken]
      rw [isStop] at readFront
      rw [cut, isSpan]
      exact tokensFrom_token firstAgain readFront
    cases front with
    | nil =>
      obtain ⟨rfl, rfl⟩ := List.cons.inj same
      refine ⟨length + 0, rfl, goOn ?_⟩
      rw [List.take_zero, tokensFrom]
    | cons head front =>
      obtain ⟨rfl, rfl⟩ := List.cons.inj same
      obtain ⟨n, stops, readFront⟩ := ih othersRead
      refine ⟨length + n, ?_, goOn readFront⟩
      rw [stops, behind, width_take_add, ← Nat.add_assoc]
  case case4 => cases read

/-- The same text further back has its tokens further back. -/
theorem tokensFrom_back {bytes : Nat} {tokens : List (Located Token)}
    (read : tokensFrom (bytes + offset) text = .ok tokens) :
    tokensFrom offset text = .ok (tokens.map fun token => ⟨token.item, token.span.back bytes⟩) := by
  generalize isStart : bytes + offset = start at read
  fun_induction tokensFrom start text generalizing offset tokens
  case case1 =>
    cases read
    rw [tokensFrom, List.map_nil]
  case case2 start c rest length span remaining first ih =>
    have behind : remaining = (c :: rest).drop length := drop_of_piece first
    rw [tokensFrom_skipped first, ← behind]
    exact ih (by rw [← Nat.add_assoc, isStart]) read
  case case3 start c rest length span remaining other first ih =>
    have behind : remaining = (c :: rest).drop length := drop_of_piece first
    obtain ⟨others, othersRead, made⟩ := bind_eq_ok_iff.mp read
    cases made
    have isStop : bytes + (offset + width ((c :: rest).take length)) = span.stop := by
      rw [← Nat.add_assoc, isStart]
    have othersBack := ih isStop othersRead
    rw [behind] at othersBack
    have back : span.back bytes = ⟨offset, offset + width ((c :: rest).take length)⟩ := by
      change (⟨start - bytes, start + width ((c :: rest).take length) - bytes⟩ : Span) = _
      rw [← isStart, Nat.add_assoc, Nat.add_sub_cancel_left, Nat.add_sub_cancel_left]
    rw [tokensFrom_token first othersBack, List.map_cons, back]
  case case4 => cases read

end Lexer

end Cel
