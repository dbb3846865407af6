import Cel.Proofs.Grammar.Readers

/-! # Parentheses around phrases

Parentheses that only group leave no node behind. So a node begins behind those that open its first operand
and ends before those that close its last one. The tokens that are read for a node are the tokens from its
start to its end with such parentheses around them, and there are none exactly if the tokens of the node
itself are balanced.
-/

namespace Cel.Parser

/-- How many more parentheses some tokens open than they close. -/
def surplus (tokens : List Token) : Int :=
  (tokens.count (.symbol .leftParen) : Int) - (tokens.count (.symbol .rightParen) : Int)

/-- Whether every parenthesis that is closed has been opened before, and every one is closed. -/
structure Balanced (tokens : List Token) : Prop where
  closed : surplus tokens = 0
  opened : ∀ front, front <+: tokens → 0 ≤ surplus front

theorem surplus_append (first second : List Token) :
    surplus (first ++ second) = surplus first + surplus second := by
  simp only [surplus, List.count_append, Int.natCast_add]
  omega

/-- Whether a token is a parenthesis. -/
def isParenthesis : Token → Bool
  | .symbol .leftParen | .symbol .rightParen => true
  | _ => false

theorem surplus_of_other {token : Token} (other : isParenthesis token = false) : surplus [token] = 0 := by
  have notLeft : token ≠ .symbol .leftParen := by
    rintro rfl
    cases other
  have notRight : token ≠ .symbol .rightParen := by
    rintro rfl
    cases other
  simp only [surplus, List.count_singleton, beq_eq_false_iff_ne.mpr notLeft, beq_eq_false_iff_ne.mpr notRight]
  rfl

theorem isParenthesis_constant (value : Constant) : isParenthesis value.token = false := by
  cases value with
  | bool b => cases b <;> rfl
  | _ => rfl

theorem isParenthesis_unary (op : UnaryOp) : isParenthesis op.token = false := by
  cases op <;> rfl

theorem isParenthesis_binary (op : BinaryOp) : isParenthesis op.token = false := by
  cases op <;> rfl

namespace Balanced

variable {first second : List Token}

theorem nil : Balanced [] :=
  ⟨rfl, fun front isFront => by rw [List.prefix_nil.mp isFront]; exact Int.le_refl 0⟩

theorem append (isFirst : Balanced first) (isSecond : Balanced second) : Balanced (first ++ second) := by
  refine ⟨by rw [surplus_append, isFirst.closed, isSecond.closed, Int.zero_add], fun front isFront => ?_⟩
  rcases List.prefix_or_prefix_of_prefix isFront (List.prefix_append first second) with within | ⟨rest, rfl⟩
  · exact isFirst.opened front within
  · have more := isSecond.opened rest ((List.prefix_append_right_inj first).mp isFront)
    rw [surplus_append, isFirst.closed, Int.zero_add]
    exact more

theorem single {token : Token} (other : isParenthesis token = false) : Balanced [token] := by
  refine ⟨surplus_of_other other, fun front isFront => ?_⟩
  rcases List.prefix_concat_iff.mp (show front <+: [] ++ [token] from isFront) with rfl | nothing
  · exact Int.le_of_eq (surplus_of_other other).symm
  · exact nil.opened front nothing

theorem cons {token : Token} (other : isParenthesis token = false) (others : Balanced second) :
    Balanced (token :: second) := (single other).append others

theorem parenthesized (isFirst : Balanced first) :
    Balanced (.symbol .leftParen :: (first ++ [.symbol .rightParen])) := by
  have left : surplus [.symbol .leftParen] = 1 := by decide
  have right : surplus [.symbol .rightParen] = -1 := by decide
  have whole (tokens : List Token) : surplus (.symbol .leftParen :: tokens) = 1 + surplus tokens := by
    rw [← List.singleton_append, surplus_append, left]
  refine ⟨by rw [whole, surplus_append, isFirst.closed, right]; rfl, fun front isFront => ?_⟩
  rcases List.prefix_cons_iff.mp isFront with rfl | ⟨inner, rfl, isInner⟩
  · exact Int.le_refl 0
  · rw [whole]
    rcases List.prefix_concat_iff.mp isInner with rfl | within
    · rw [surplus_append, isFirst.closed, right]
      decide
    · have := isFirst.opened inner within
      omega

end Balanced

/-! ### Edges -/

/-- Whether some tokens begin at an offset. -/
def StartsAt (tokens : Tokens) (offset : Nat) : Prop := ∃ first ∈ tokens.head?, first.span.start = offset

/-- Whether some tokens end at an offset. -/
def StopsAt (tokens : Tokens) (offset : Nat) : Prop := ∃ last ∈ tokens.getLast?, last.span.stop = offset

section Edges

variable {tokens : Tokens} {offset : Nat}

theorem StartsAt.append (starts : StartsAt tokens offset) (others : Tokens) :
    StartsAt (tokens ++ others) offset := by
  obtain ⟨first, isFirst, isStart⟩ := starts
  refine ⟨first, ?_, isStart⟩
  rw [List.head?_append, isFirst]
  rfl

theorem StopsAt.append (stops : StopsAt tokens offset) (others : Tokens) :
    StopsAt (others ++ tokens) offset := by
  obtain ⟨last, isLast, isStop⟩ := stops
  refine ⟨last, ?_, isStop⟩
  rw [List.getLast?_append, isLast]
  rfl

theorem startsAt_cons (first : Located Token) (rest : Tokens) : StartsAt (first :: rest) first.span.start :=
  ⟨first, rfl, rfl⟩

theorem stopsAt_concat (front : Tokens) (last : Located Token) : StopsAt (front ++ [last]) last.span.stop :=
  ⟨last, List.getLast?_concat, rfl⟩

/-- Whether some tokens begin at an offset behind parentheses. -/
def Opens (tokens : Tokens) (offset : Nat) : Prop :=
  ∃ opened rest, tokens = opened ++ rest ∧ (∀ token ∈ opened, token.item = .symbol .leftParen) ∧
    StartsAt rest offset

/-- Whether some tokens end at an offset before parentheses. -/
def Closes (tokens : Tokens) (offset : Nat) : Prop :=
  ∃ rest closed, tokens = rest ++ closed ∧ (∀ token ∈ closed, token.item = .symbol .rightParen) ∧
    StopsAt rest offset

theorem StartsAt.opens (starts : StartsAt tokens offset) : Opens tokens offset :=
  ⟨[], tokens, rfl, fun _ member => absurd member List.not_mem_nil, starts⟩

theorem StopsAt.closes (stops : StopsAt tokens offset) : Closes tokens offset :=
  ⟨tokens, [], (List.append_nil tokens).symm, fun _ member => absurd member List.not_mem_nil, stops⟩

theorem closes_bracketed (opening closing : Located Token) (tokens : Tokens) :
    Closes (opening :: (tokens ++ [closing])) closing.span.stop :=
  (stopsAt_concat (opening :: tokens) closing).closes

theorem Opens.parenthesized (opens : Opens tokens offset) (left : Span) (others : Tokens) :
    Opens (⟨.symbol .leftParen, left⟩ :: (tokens ++ others)) offset := by
  obtain ⟨opened, rest, rfl, each, starts⟩ := opens
  refine ⟨⟨.symbol .leftParen, left⟩ :: opened, rest ++ others, ?_, ?_, starts.append others⟩
  · rw [List.cons_append, List.append_assoc]
  · exact List.forall_mem_cons.mpr ⟨rfl, each⟩

theorem Closes.append (closes : Closes tokens offset) (others : Tokens) :
    Closes (others ++ tokens) offset := by
  obtain ⟨rest, closed, rfl, each, stops⟩ := closes
  exact ⟨others ++ rest, closed, (List.append_assoc others rest closed).symm, each, stops.append others⟩

theorem Closes.parenthesized (closes : Closes tokens offset) (right : Span) :
    Closes (tokens ++ [⟨.symbol .rightParen, right⟩]) offset := by
  obtain ⟨rest, closed, rfl, each, stops⟩ := closes
  refine ⟨rest, closed ++ [⟨.symbol .rightParen, right⟩], List.append_assoc rest closed _, ?_, stops⟩
  exact List.forall_mem_append.mpr ⟨each, List.forall_mem_singleton.mpr rfl⟩

end Edges

/-! ### Tokens of a node -/

theorem items_append (first second : Tokens) : items (first ++ second) = items first ++ items second :=
  List.map_append

theorem surplus_of_opened {tokens : Tokens} (each : ∀ token ∈ tokens, token.item = .symbol .leftParen) :
    surplus (items tokens) = tokens.length := by
  have same : items tokens = List.replicate tokens.length (.symbol .leftParen) :=
    List.eq_replicate_iff.mpr ⟨length_items tokens, List.forall_mem_map.mpr each⟩
  rw [surplus, same, List.count_replicate_self, List.count_replicate]
  exact Int.sub_zero _

theorem surplus_of_closed {tokens : Tokens} (each : ∀ token ∈ tokens, token.item = .symbol .rightParen) :
    surplus (items tokens) = -(tokens.length : Int) := by
  have same : items tokens = List.replicate tokens.length (.symbol .rightParen) :=
    List.eq_replicate_iff.mpr ⟨length_items tokens, List.forall_mem_map.mpr each⟩
  rw [surplus, same, List.count_replicate_self, List.count_replicate]
  exact Int.zero_sub _

/-- Whether some tokens are those of a span with parentheses around them, of which there are none if the
tokens of the span are balanced. -/
def Grouped (tokens : Tokens) (span : Span) : Prop :=
  ∃ opened inside closed, tokens = opened ++ (inside ++ closed) ∧
    (∀ token ∈ opened, token.item = .symbol .leftParen) ∧
    (∀ token ∈ closed, token.item = .symbol .rightParen) ∧
    StartsAt inside span.start ∧ StopsAt inside span.stop ∧
    (Balanced (items inside) → opened = [] ∧ closed = [])

theorem grouped_single (token : Located Token) : Grouped [token] token.span :=
  ⟨[], [token], [], rfl, fun _ member => absurd member List.not_mem_nil,
    fun _ member => absurd member List.not_mem_nil, startsAt_cons token [], stopsAt_concat [] token,
    fun _ => ⟨rfl, rfl⟩⟩

/-- Two balanced parts are the tokens from the start of the first to the end of the second. If parentheses
before the first one were missing, what closes them would be unbalanced. -/
theorem grouped_append {front back : Tokens} {span : Span} (opens : Opens front span.start)
    (closes : Closes back span.stop) (first : Balanced (items front)) (second : Balanced (items back)) :
    Grouped (front ++ back) span := by
  obtain ⟨opened, begun, rfl, eachOpened, starts⟩ := opens
  obtain ⟨ended, closed, rfl, eachClosed, stops⟩ := closes
  refine ⟨opened, begun ++ ended, closed, by simp only [List.append_assoc], eachOpened, eachClosed,
    starts.append _, stops.append begun, fun balanced => ?_⟩
  have firstClosed := first.closed
  have secondClosed := second.closed
  have whole := balanced.closed
  have ordered := balanced.opened (items begun) (by rw [items_append]; exact List.prefix_append _ _)
  simp only [items_append, surplus_append, surplus_of_opened eachOpened, surplus_of_closed eachClosed]
    at firstClosed secondClosed whole
  exact ⟨List.length_eq_zero_iff.mp (by omega), List.length_eq_zero_iff.mp (by omega)⟩

namespace Grouped

variable {tokens : Tokens} {span : Span}

theorem opens (grouped : Grouped tokens span) : Opens tokens span.start := by
  obtain ⟨opened, inside, closed, same, each, -, starts, -⟩ := grouped
  exact ⟨opened, inside ++ closed, same, each, starts.append closed⟩

theorem closes (grouped : Grouped tokens span) : Closes tokens span.stop := by
  obtain ⟨opened, inside, closed, same, -, each, -, stops, -⟩ := grouped
  exact ⟨opened ++ inside, closed, by rw [same, List.append_assoc], each, stops.append opened⟩

/-- The tokens reach from the start of the first to the end of the last of them. -/
theorem exists_edges (grouped : Grouped tokens span) :
    ∃ wide : Span, StartsAt tokens wide.start ∧ StopsAt tokens wide.stop := by
  have some : tokens ≠ [] := by
    obtain ⟨opened, inside, closed, rfl, -, -, ⟨first, isFirst, -⟩, -⟩ := grouped
    obtain ⟨others, rfl⟩ := List.head?_eq_some_iff.mp isFirst
    simp
  obtain ⟨first, others, rfl⟩ := List.exists_cons_of_ne_nil some
  exact ⟨⟨first.span.start, ((first :: others).getLast some).span.stop⟩, startsAt_cons first others,
    _, List.getLast?_eq_some_getLast some, rfl⟩

end Grouped

end Cel.Parser
