import Cel.Proofs.Grammar.Follow
import Cel.Proofs.Grammar.Readers

/-! # What is derived is read

Whatever the grammar derives is taken by the reader of its category, as far as what comes after it does
not go on with it and as long as there are no more tokens than levels of nesting. A loop is entered
with the part of the text that stands to the left of all rounds, so the derivation of a text that is
joined from the left leads to some later round of the loop, from which the rest is read.
-/

namespace Cel.Parser

open Grammar (Category Phrase Derives Callable TypeName Separated Begins Stops Ends entryTokens
  fieldTokens closers ends_cons)

variable {s : Setting}

/-- Whether a reader takes some tokens from the start of a text that goes on with `after`, and makes
a tree of them. -/
def Takes (reader : Reader Tree) (consumed : List Token) (tree : Expr Unit) (after : List Token) :
    Prop :=
  ∀ tokens, items tokens = consumed ++ after →
    ∃ found rest, found.shape = tree ∧ items rest = after ∧ reader tokens = .ok (found, rest)

/-- Whether a reader gets to a loop when it has taken some tokens, with enough fuel for the rest. -/
def Reaches (reader : Reader Tree) (loop : Nat → Tree → Reader Tree) (consumed : List Token)
    (tree : Expr Unit) (after : List Token) : Prop :=
  ∀ tokens, items tokens = consumed ++ after →
    ∃ found rest fuel, found.shape = tree ∧ items rest = after ∧ rest.length ≤ fuel ∧
      reader tokens = loop fuel found rest

/-! ### Sequences -/

/-- Whether a reader takes an item of a kind from the start of a text that goes on with `after`. -/
def ItemKind.Takes {β : Type} (kind : ItemKind β) (reader : Reader β) (piece : kind.Piece)
    (after : List Token) : Prop :=
  ∀ tokens, items tokens = kind.tokens piece ++ after →
    ∃ value rest, kind.forget value = kind.result piece ∧ items rest = after ∧
      reader tokens = .ok (value, rest)

theorem takes_entry {expr : Reader Tree} {entry : Phrase × Phrase} {after : List Token}
    (key : ∀ after, Ends after → Takes expr entry.1.tokens entry.1.tree after)
    (value : ∀ after, Ends after → Takes expr entry.2.tokens entry.2.tree after)
    (ends : Ends after) : entryItems.Takes (Parser.entry s expr) entry after := by
  intro tokens same
  have same : items tokens = entry.1.tokens ++ .symbol .colon :: (entry.2.tokens ++ after) := by
    simpa [entryItems, entryTokens] using same
  obtain ⟨keyTree, rest, keyShape, behindKey, readKey⟩ := key _ (ends_cons (by decide) _) tokens same
  obtain ⟨span, rest, rfl, behindColon⟩ := exists_of_items_eq_cons behindKey
  obtain ⟨valueTree, rest, valueShape, behind, readValue⟩ := value after ends _ behindColon
  refine ⟨(keyTree, valueTree), rest, Prod.ext keyShape valueShape, behind, ?_⟩
  refine bind_eq_ok_iff.mpr ⟨_, readKey, bind_eq_ok_iff.mpr ⟨_, expect_eq_ok_iff.mpr rfl, ?_⟩⟩
  exact bind_eq_ok_iff.mpr ⟨_, readValue, rfl⟩

theorem takes_field {expr : Reader Tree} {field : String × Phrase} {after : List Token}
    (value : ∀ after, Ends after → Takes expr field.2.tokens field.2.tree after)
    (ends : Ends after) : fieldItems.Takes (Parser.field s expr) field after := by
  intro tokens same
  obtain ⟨nameSpan, rest, rfl, behindName⟩ := exists_of_items_eq_cons same
  obtain ⟨span, rest, rfl, behindColon⟩ := exists_of_items_eq_cons behindName
  obtain ⟨valueTree, rest, valueShape, behind, readValue⟩ := value after ends _ behindColon
  refine ⟨(field.1, valueTree), rest, Prod.ext rfl valueShape, behind, ?_⟩
  refine bind_eq_ok_iff.mpr ⟨(⟨field.1, nameSpan⟩, _), expectName_eq_ok_iff.mpr rfl, ?_⟩
  refine bind_eq_ok_iff.mpr ⟨_, expect_eq_ok_iff.mpr rfl, ?_⟩
  exact bind_eq_ok_iff.mpr ⟨_, readValue, rfl⟩

section Sequences

variable {β : Type} {kind : ItemKind β} {item : Reader β} {close : Symbol}

/-- Without a comma there are no further items. -/
theorem further_eq_nil {tokens : Tokens} (noComma : (items tokens).head? ≠ some (.symbol .comma))
    (fuel : Nat) : further close item fuel tokens = .ok ([], tokens) := by
  cases fuel with
  | zero => rfl
  | succ fuel =>
    unfold further
    split
    · exact absurd rfl noComma
    · rfl

/-- Whether each of some items can be read: it begins like an expression, and is taken from the start
of a text if what comes after it ends it. -/
def ItemKind.AllTaken (kind : ItemKind β) (item : Reader β) (pieces : List kind.Piece) : Prop :=
  ∀ piece ∈ pieces, (∃ first rest, kind.tokens piece = first :: rest ∧ Begins first) ∧
    ∀ after, Ends after → kind.Takes item piece after

theorem startsWith_eq_false (closes : close ∈ closers) {piece : kind.Piece}
    (begins : ∃ first rest, kind.tokens piece = first :: rest ∧ Begins first) {tokens : Tokens}
    {after : List Token} (same : items tokens = kind.tokens piece ++ after) :
    startsWith close tokens = false := by
  obtain ⟨first, rest, starts, begins⟩ := begins
  rw [← Bool.not_eq_true, startsWith_eq_true_iff, same, starts]
  rintro ⟨⟩
  exact Grammar.not_begins_of_mem_closers closes begins

theorem length_le_of_items_eq_append {tokens rest : Tokens} {consumed others : List Token}
    (same : items tokens = consumed ++ others) (behind : items rest = others) :
    rest.length ≤ tokens.length := by
  rw [← length_items tokens, same, ← behind, List.length_append, length_items]
  omega

theorem length_le_of_closed {tokens rest : Tokens} {inner others : List Token} {close : Token}
    (same : items tokens = inner ++ close :: others) (behind : items rest = others) :
    rest.length ≤ tokens.length := by
  have joined : items tokens = (inner ++ [close]) ++ others := by
    rw [same, List.append_assoc, List.singleton_append]
  exact length_le_of_items_eq_append joined behind

/-- The first item is taken, and then the further ones. -/
theorem items_complete (closes : close ∈ closers) {after : List Token} {piece : kind.Piece}
    {pieces : List kind.Piece} {listed : List Token}
    (separated : Separated (kind.tokens piece :: pieces.map kind.tokens) listed)
    (taken : kind.AllTaken item (piece :: pieces)) (notComma : close ≠ .comma) {tokens : Tokens}
    (same : items tokens = listed ++ .symbol close :: after) :
    ∃ value rest, kind.forget value = kind.result piece ∧ item tokens = .ok (value, rest) ∧
      rest.length ≤ tokens.length ∧ ∀ fuel, rest.length ≤ fuel → ∃ values closed,
        values.map kind.forget = pieces.map kind.result ∧ items closed = .symbol close :: after ∧
          further close item fuel rest = .ok (values, closed) := by
  induction pieces generalizing piece listed tokens with
  | nil =>
    obtain ⟨-, take⟩ := taken piece List.mem_cons_self
    cases separated with
    | last =>
      obtain ⟨value, rest, made, behind, read⟩ := take _ (ends_cons closes _) tokens same
      refine ⟨value, rest, made, read, length_le_of_items_eq_append same behind, fun fuel _ => ?_⟩
      refine ⟨[], rest, rfl, behind, further_eq_nil ?_ fuel⟩
      rw [behind]
      simpa using notComma
    | lastComma =>
      rw [List.append_assoc] at same
      obtain ⟨value, rest, made, behind, read⟩ := take _ (ends_cons (by decide) _) tokens same
      refine ⟨value, rest, made, read, length_le_of_items_eq_append same behind,
        fun fuel enough => ?_⟩
      obtain ⟨span, rest, rfl, behindComma⟩ := exists_of_items_eq_cons behind
      have closed : startsWith close rest = true := by
        rw [startsWith_eq_true_iff, behindComma]
        rfl
      refine ⟨[], rest, rfl, behindComma, ?_⟩
      cases fuel with
      | zero => cases enough
      | succ fuel => simp only [further, closed, if_true]
  | cons next others ih =>
    obtain ⟨-, take⟩ := taken piece List.mem_cons_self
    have takenOthers : kind.AllTaken item (next :: others) := fun piece member =>
      taken piece (List.mem_cons_of_mem _ member)
    cases separated with
    | @more _ _ _ listedOthers separated =>
      rw [List.append_assoc, List.cons_append] at same
      obtain ⟨value, rest, made, behind, read⟩ := take _ (ends_cons (by decide) _) tokens same
      refine ⟨value, rest, made, read, length_le_of_items_eq_append same behind,
        fun fuel enough => ?_⟩
      obtain ⟨span, rest, rfl, behindComma⟩ := exists_of_items_eq_cons behind
      obtain ⟨nextValue, nextRest, nextMade, nextRead, nextShort, readOthers⟩ :=
        ih separated takenOthers behindComma
      have notClosed : startsWith close rest = false := by
        obtain ⟨more, rfl⟩ := separated.starts
        rw [List.append_assoc] at behindComma
        exact startsWith_eq_false closes (takenOthers next List.mem_cons_self).1 behindComma
      cases fuel with
      | zero => cases enough
      | succ fuel =>
        have enough : nextRest.length ≤ fuel :=
          Nat.le_trans nextShort (Nat.le_of_succ_le_succ enough)
        obtain ⟨values, closed, othersMade, behindOthers, othersRead⟩ := readOthers fuel enough
        refine ⟨nextValue :: values, closed, ?_, behindOthers, ?_⟩
        · rw [List.map_cons, List.map_cons, nextMade, othersMade]
        · simp only [further, notClosed, Bool.false_eq_true, if_false]
          exact bind_eq_ok_iff.mpr ⟨_, nextRead, bind_eq_ok_iff.mpr ⟨_, othersRead, rfl⟩⟩

/-- A sequence up to its closing bracket is taken if each of its items is. -/
theorem sequence_complete (closes : close ∈ closers) (notComma : close ≠ .comma)
    {pieces : List kind.Piece} {listed : List Token}
    (separated : Separated (pieces.map kind.tokens) listed) (taken : kind.AllTaken item pieces)
    {tokens : Tokens} {after : List Token} (same : items tokens = listed ++ .symbol close :: after) :
    ∃ values stop rest, values.map kind.forget = pieces.map kind.result ∧ items rest = after ∧
      sequence s close item tokens = .ok ((values, stop), rest) := by
  unfold sequence
  cases pieces with
  | nil =>
    cases separated
    obtain ⟨span, rest, rfl, behind⟩ := exists_of_items_eq_cons same
    have closed : startsWith close (⟨.symbol close, span⟩ :: rest) = true :=
      startsWith_eq_true_iff.mpr rfl
    refine ⟨[], span, rest, rfl, behind, ?_⟩
    rw [if_pos closed]
    exact bind_eq_ok_iff.mpr ⟨_, expect_eq_ok_iff.mpr rfl, rfl⟩
  | cons piece pieces =>
    have notClosed : startsWith close tokens = false := by
      obtain ⟨more, rfl⟩ := separated.starts
      rw [List.append_assoc] at same
      exact startsWith_eq_false closes (taken piece List.mem_cons_self).1 same
    obtain ⟨value, rest, made, read, -, readOthers⟩ :=
      items_complete closes separated taken notComma same
    obtain ⟨values, closed, othersMade, behind, othersRead⟩ := readOthers rest.length (Nat.le_refl _)
    obtain ⟨span, rest', rfl, behindClose⟩ := exists_of_items_eq_cons behind
    refine ⟨value :: values, span, rest', ?_, behindClose, ?_⟩
    · rw [List.map_cons, List.map_cons, made, othersMade]
    · rw [if_neg (by simp [notClosed])]
      refine bind_eq_ok_iff.mpr ⟨_, read, bind_eq_ok_iff.mpr ⟨_, othersRead, ?_⟩⟩
      exact bind_eq_ok_iff.mpr ⟨_, expect_eq_ok_iff.mpr rfl, rfl⟩

end Sequences

section Kinds

variable {expr : Reader Tree}

/-- Whether each of some phrases is taken by a reader where an expression can end. -/
def PhraseTaken (expr : Reader Tree) (phrase : Phrase) : Prop :=
  Derives .expression phrase.tokens phrase.tree ∧
    ∀ after, Ends after → Takes expr phrase.tokens phrase.tree after

theorem allTaken_exprs {phrases : List Phrase} (each : ∀ phrase ∈ phrases, PhraseTaken expr phrase) :
    exprItems.AllTaken expr phrases :=
  fun phrase member => ⟨(each phrase member).1.begins, (each phrase member).2⟩

theorem allTaken_entries {entries : List (Phrase × Phrase)}
    (keys : ∀ entry ∈ entries, PhraseTaken expr entry.1)
    (values : ∀ entry ∈ entries, PhraseTaken expr entry.2) :
    entryItems.AllTaken (entry s expr) entries := by
  intro entry member
  constructor
  · obtain ⟨first, rest, starts, begins⟩ := (keys entry member).1.begins
    refine ⟨first, rest ++ .symbol .colon :: entry.2.tokens, ?_, begins⟩
    simp only [entryItems, entryTokens, starts, List.cons_append]
  · exact fun after ends => takes_entry (keys entry member).2 (values entry member).2 ends

theorem allTaken_fields {fields : List (String × Phrase)}
    (each : ∀ field ∈ fields, PhraseTaken expr field.2) :
    fieldItems.AllTaken (field s expr) fields :=
  fun field member => ⟨⟨.ident field.1, _, rfl, trivial⟩,
    fun _ ends => takes_field (each field member).2 ends⟩

end Kinds

/-! ### Rounds of the loops -/

section Loops

variable {expr : Reader Tree} {tree : Tree} {rest rest' : Tokens} {fuel : Nat} {span stop : Span}

theorem suffixes_eq_ok (stops : Stops 0 (items rest)) (fuel : Nat) :
    suffixes s expr fuel tree rest = .ok (tree, rest) := by
  cases fuel with
  | zero => rfl
  | succ fuel =>
    unfold suffixes
    split
    · exact absurd trivial (stops _ rfl).1
    · exact absurd trivial (stops _ rfl).1
    · exact absurd trivial (stops _ rfl).1
    · exact absurd trivial (stops _ rfl).1
    · rfl

theorem suffixes_call {values : List Tree} (named : tree.isCallee = true)
    (read : sequence s .rightParen expr rest = .ok ((values, stop), rest'))
    (fits : complete s (.call (tree.note.through stop) tree values) rest' =
      .ok (.call (tree.note.through stop) tree values, rest')) :
    suffixes s expr (fuel + 1) tree (⟨.symbol .leftParen, span⟩ :: rest) =
      suffixes s expr fuel (.call (tree.note.through stop) tree values) rest' := by
  rw [suffixes, if_pos named]
  exact (bind_eq_of_eq_ok read).trans (bind_eq_of_eq_ok fits)

theorem suffixes_index {position : Tree}
    (read : expr rest = .ok (position, ⟨.symbol .rightBracket, stop⟩ :: rest'))
    (fits : complete s (.index (tree.note.through stop) tree position) rest' =
      .ok (.index (tree.note.through stop) tree position, rest')) :
    suffixes s expr (fuel + 1) tree (⟨.symbol .leftBracket, span⟩ :: rest) =
      suffixes s expr fuel (.index (tree.note.through stop) tree position) rest' := by
  rw [suffixes]
  refine (bind_eq_of_eq_ok read).trans ?_
  exact (bind_eq_of_eq_ok (expect_eq_ok_iff.mpr rfl)).trans (bind_eq_of_eq_ok fits)

theorem suffixes_member {name : String}
    (fits : complete s (.member (tree.note.through stop) tree name) rest =
      .ok (.member (tree.note.through stop) tree name, rest)) :
    suffixes s expr (fuel + 1) tree (⟨.symbol .dot, span⟩ :: ⟨.ident name, stop⟩ :: rest) =
      suffixes s expr fuel (.member (tree.note.through stop) tree name) rest := by
  have named : expectName s .member (⟨.ident name, stop⟩ :: rest) = .ok (⟨name, stop⟩, rest) := rfl
  rw [suffixes]
  exact (bind_eq_of_eq_ok named).trans (bind_eq_of_eq_ok fits)

theorem suffixes_struct {values : List (String × Tree)} (named : tree.isTypeName = true)
    (read : sequence s .rightBrace (field s expr) rest = .ok ((values, stop), rest'))
    (fits : complete s (.struct (tree.note.through stop) tree values) rest' =
      .ok (.struct (tree.note.through stop) tree values, rest')) :
    suffixes s expr (fuel + 1) tree (⟨.symbol .leftBrace, span⟩ :: rest) =
      suffixes s expr fuel (.struct (tree.note.through stop) tree values) rest' := by
  rw [suffixes, if_pos named]
  exact (bind_eq_of_eq_ok read).trans (bind_eq_of_eq_ok fits)

theorem joined_eq_ok {tier : Nat} {operand : Reader Tree} (stops : Stops tier (items rest))
    (fuel : Nat) : joined s (opAt tier) operand fuel tree rest = .ok (tree, rest) := by
  cases fuel with
  | zero => rfl
  | succ fuel =>
    unfold joined
    split
    · rfl
    · next token span others =>
      split
      · next op found =>
        obtain ⟨onTier, rfl⟩ := opAt_eq_some_iff.mp found
        exact absurd rfl ((stops _ rfl).2 op (Nat.le_of_eq onTier))
      · rfl

theorem joined_op {tier : Nat} {operand : Reader Tree} {op : BinaryOp} {right : Tree}
    (onTier : op.tier = tier) (read : operand rest = .ok (right, rest'))
    (fits : complete s (.binary (tree.note.through right.note) op tree right) rest' =
      .ok (.binary (tree.note.through right.note) op tree right, rest')) :
    joined s (opAt tier) operand (fuel + 1) tree (⟨op.token, span⟩ :: rest) =
      joined s (opAt tier) operand fuel (.binary (tree.note.through right.note) op tree right)
        rest' := by
  have found : opAt tier op.token = some op := opAt_eq_some_iff.mpr ⟨onTier, rfl⟩
  rw [joined]
  simp only [found]
  exact (bind_eq_of_eq_ok read).trans (bind_eq_of_eq_ok fits)

end Loops

/-! ### Phrases of every category -/

/-- What it means for a category that the parser takes a phrase of it. The depth is the number of
levels of nesting that are left. -/
def Complete (s : Setting) (consumed : List Token) (tree : Expr Unit) : Category → Prop
  | .expression => ∀ depth after, consumed.length < depth → Ends after →
      Takes (expr s depth) consumed tree after
  | .operation 0 => ∀ depth after, consumed.length ≤ depth → Stops 0 after →
      Takes (operand s depth) consumed tree after
  | .operation (tier + 1) => ∀ depth after, consumed.length ≤ depth → Stops tier after →
      Reaches (tierReader s (operand s depth) (tier + 1))
        (joined s (opAt (tier + 1)) (tierReader s (operand s depth) tier)) consumed tree after
  | .primary => ∀ depth after, consumed.length ≤ depth →
      Reaches (primary s (expr s depth)) (suffixes s (expr s depth)) consumed tree after
  | .atom => ∀ depth after, consumed.length ≤ depth →
      Takes (atom s (expr s depth)) consumed tree after

section Phrases

variable {consumed : List Token} {tree : Expr Unit}

/-- The loop over the operators of a tier ends where no operator of the tier comes next. -/
theorem Complete.takes {tier : Nat} (complete : Complete s consumed tree (.operation tier))
    {depth : Nat} (enough : consumed.length ≤ depth) {after : List Token} (stops : Stops tier after) :
    Takes (tierReader s (operand s depth) tier) consumed tree after := by
  cases tier with
  | zero => exact complete depth after enough stops
  | succ tier =>
    intro tokens same
    obtain ⟨found, rest, fuel, shape, behind, -, read⟩ :=
      complete depth after enough (stops.of_le (Nat.le_succ tier)) tokens same
    refine ⟨found, rest, shape, behind, read.trans (joined_eq_ok ?_ fuel)⟩
    rwa [behind]

theorem complete_tighter {tier : Nat} (complete : Complete s consumed tree (.operation tier)) :
    Complete s consumed tree (.operation (tier + 1)) := by
  intro depth after enough stops tokens same
  obtain ⟨found, rest, shape, behind, read⟩ := complete.takes enough stops tokens same
  exact ⟨found, rest, rest.length, shape, behind, Nat.le_refl _, bind_eq_of_eq_ok read⟩

theorem complete_binary {tier : Nat} {op : BinaryOp} {left right : List Token}
    {leftTree rightTree : Expr Unit} (onTier : op.tier = tier + 1)
    (first : Derives (.operation (tier + 1)) left leftTree)
    (second : Derives (.operation tier) right rightTree)
    (short : left.length + (right.length + 1) ≤ s.maxDepth)
    (completeFirst : Complete s left leftTree (.operation (tier + 1)))
    (completeSecond : Complete s right rightTree (.operation tier)) :
    Complete s (left ++ op.token :: right) (.binary () op leftTree rightTree)
      (.operation (tier + 1)) := by
  intro depth after enough stops tokens same
  simp only [List.length_append, List.length_cons] at enough
  rw [List.append_assoc, List.cons_append] at same
  obtain ⟨leftFound, behindLeft, fuel, rfl, isBehind, more, read⟩ :=
    completeFirst depth _ (by omega) (Grammar.stops_op onTier _) tokens same
  obtain ⟨span, behindOp, rfl, isBehindOp⟩ := exists_of_items_eq_cons isBehind
  have enoughRight : right.length ≤ depth := by omega
  obtain ⟨rightFound, rest, rfl, behind, readRight⟩ :=
    completeSecond.takes enoughRight stops behindOp isBehindOp
  let node : Tree := .binary (leftFound.note.through rightFound.note) op leftFound rightFound
  have fits := complete_eq_ok node (.binary onTier first second) (by simpa using short) rest
  cases fuel with
  | zero => cases more
  | succ fuel =>
    refine ⟨node, rest, fuel, rfl, behind, ?_, read.trans (joined_op onTier readRight fits)⟩
    have shorter := length_le_of_items_eq_append isBehindOp behind
    simp only [List.length_cons] at more
    omega

theorem complete_operation (complete : Complete s consumed tree (.operation 5)) :
    Complete s consumed tree .expression := by
  intro depth after enough ends tokens same
  cases depth with
  | zero => cases enough
  | succ depth =>
    obtain ⟨found, rest, shape, behind, read⟩ :=
      complete.takes (Nat.le_of_lt_succ enough) (ends.stops 5) tokens same
    refine ⟨found, rest, shape, behind, ?_⟩
    rw [expr_succ, choice, disjunction_eq]
    refine (bind_eq_of_eq_ok read).trans ?_
    dsimp only
    split
    · -- a question mark would not end the expression
      next span others =>
      rw [← behind] at ends
      obtain ⟨sign, closes, same⟩ := ends _ rfl
      cases same
      simp [closers] at closes
    · rfl

theorem complete_choice {condition yes no : List Token} {conditionTree yesTree noTree : Expr Unit}
    (first : Derives (.operation 5) condition conditionTree)
    (second : Derives (.operation 5) yes yesTree) (third : Derives .expression no noTree)
    (short : condition.length + (yes.length + (no.length + 1) + 1) ≤ s.maxDepth)
    (completeFirst : Complete s condition conditionTree (.operation 5))
    (completeSecond : Complete s yes yesTree (.operation 5))
    (completeThird : Complete s no noTree .expression) :
    Complete s (condition ++ .symbol .question :: (yes ++ .symbol .colon :: no))
      (.ternary () conditionTree yesTree noTree) .expression := by
  intro depth after enough ends tokens same
  simp only [List.length_append, List.length_cons] at enough
  have same : items tokens =
      condition ++ .symbol .question :: (yes ++ .symbol .colon :: (no ++ after)) := by
    simpa using same
  cases depth with
  | zero => cases enough
  | succ depth =>
    have enoughCondition : condition.length ≤ depth := by omega
    have enoughYes : yes.length ≤ depth := by omega
    have enoughNo : no.length < depth := by omega
    obtain ⟨conditionFound, behindCondition, rfl, isBehindCondition, readCondition⟩ :=
      completeFirst.takes enoughCondition (Grammar.stops_question 5 _) tokens same
    obtain ⟨span, behindQuestion, rfl, isBehindQuestion⟩ :=
      exists_of_items_eq_cons isBehindCondition
    obtain ⟨yesFound, behindYes, rfl, isBehindYes, readYes⟩ :=
      completeSecond.takes enoughYes ((ends_cons (by decide) _).stops 5) behindQuestion
        isBehindQuestion
    obtain ⟨colonSpan, behindColon, rfl, isBehindColon⟩ := exists_of_items_eq_cons isBehindYes
    obtain ⟨noFound, rest, rfl, behind, readNo⟩ :=
      completeThird depth after enoughNo ends behindColon isBehindColon
    let node : Tree :=
      .ternary (conditionFound.note.through noFound.note) conditionFound yesFound noFound
    have fits := complete_eq_ok node (.choice first second third) (by simpa using short) rest
    refine ⟨node, rest, rfl, behind, ?_⟩
    rw [expr_succ, choice, disjunction_eq]
    refine (bind_eq_of_eq_ok readCondition).trans ((bind_eq_of_eq_ok readYes).trans ?_)
    refine (bind_eq_of_eq_ok (expect_eq_ok_iff.mpr rfl)).trans ?_
    exact (bind_eq_of_eq_ok readNo).trans fits

theorem complete_unary {op : UnaryOp} (operand : Derives (.operation 0) consumed tree)
    (short : consumed.length + 1 ≤ s.maxDepth)
    (complete : Complete s consumed tree (.operation 0)) :
    Complete s (op.token :: consumed) (.unary () op tree) (.operation 0) := by
  intro depth after enough stops tokens same
  obtain ⟨span, rest, rfl, behindSign⟩ := exists_of_items_eq_cons same
  cases depth with
  | zero => cases enough
  | succ depth =>
    obtain ⟨found, rest, rfl, behind, read⟩ :=
      complete depth after (Nat.le_of_succ_le_succ enough) stops _ behindSign
    have sign : unaryOp? op.token = some op := unaryOp?_eq_some_iff.mpr rfl
    let node : Tree := .unary (span.through found.note) op found
    have fits := complete_eq_ok node (.unary op operand) short rest
    refine ⟨node, rest, rfl, behind, ?_⟩
    rw [operand_eq]
    simp only [signs, sign]
    exact (bind_eq_of_eq_ok read).trans fits

theorem complete_primary (derived : Derives .primary consumed tree)
    (complete : Complete s consumed tree .primary) : Complete s consumed tree (.operation 0) := by
  intro depth after enough stops tokens same
  obtain ⟨found, rest, fuel, shape, behind, -, read⟩ := complete depth after enough tokens same
  refine ⟨found, rest, shape, behind, ?_⟩
  obtain ⟨first, others, rfl, unsigned⟩ := derived.unsigned (.inl rfl)
  obtain ⟨span, behindFirst, rfl, -⟩ := exists_of_items_eq_cons same
  have noSign : unaryOp? first = none := by
    rw [Option.eq_none_iff_forall_ne_some]
    exact fun op found => unsigned op (unaryOp?_eq_some_iff.mp found)
  rw [operand_eq]
  simp only [signs, noSign]
  refine read.trans (suffixes_eq_ok ?_ fuel)
  rwa [behind]

theorem complete_atom (complete : Complete s consumed tree .atom) :
    Complete s consumed tree .primary := by
  intro depth after enough tokens same
  obtain ⟨found, rest, shape, behind, read⟩ := complete depth after enough tokens same
  exact ⟨found, rest, rest.length, shape, behind, Nat.le_refl _, bind_eq_of_eq_ok read⟩

/-- A phrase inside brackets is shorter than the whole, so enough levels are left for it. -/
theorem phraseTaken {phrase : Phrase} (derived : Derives .expression phrase.tokens phrase.tree)
    (complete : Complete s phrase.tokens phrase.tree .expression) {depth : Nat}
    (enough : phrase.tokens.length < depth) : PhraseTaken (expr s depth) phrase :=
  ⟨derived, fun after ends => complete depth after enough ends⟩

/-- Where something follows a primary expression, one more round of the loop begins. -/
theorem Complete.reaches (complete : Complete s consumed tree .primary) {depth : Nat}
    (enough : consumed.length ≤ depth) {token : Token} {others : List Token} {tokens : Tokens}
    (same : items tokens = consumed ++ token :: others) :
    ∃ found span rest fuel, found.shape = tree ∧ items rest = others ∧ rest.length ≤ fuel ∧
      primary s (expr s depth) tokens =
        suffixes s (expr s depth) (fuel + 1) found (⟨token, span⟩ :: rest) := by
  obtain ⟨found, rest, fuel, shape, behind, more, read⟩ := complete depth _ enough tokens same
  obtain ⟨span, rest, rfl, behindToken⟩ := exists_of_items_eq_cons behind
  cases fuel with
  | zero => cases more
  | succ fuel => exact ⟨found, span, rest, fuel, shape, behindToken, Nat.le_of_succ_le_succ more, read⟩

theorem complete_member {name : String} (operand : Derives .primary consumed tree)
    (short : consumed.length + 2 ≤ s.maxDepth) (complete : Complete s consumed tree .primary) :
    Complete s (consumed ++ [.symbol .dot, .ident name]) (.member () tree name) .primary := by
  intro depth after enough tokens same
  simp only [List.length_append, List.length_cons] at enough
  rw [List.append_assoc] at same
  have enoughOperand : consumed.length ≤ depth := by omega
  obtain ⟨found, span, behindDot, fuel, rfl, isBehindDot, more, read⟩ :=
    complete.reaches enoughOperand same
  obtain ⟨stop, rest, rfl, behind⟩ := exists_of_items_eq_cons isBehindDot
  let node : Tree := .member (found.note.through stop) found name
  have fits := complete_eq_ok node (.member operand name) (by simpa using short) rest
  refine ⟨node, rest, fuel, rfl, behind, ?_, read.trans (suffixes_member fits)⟩
  exact Nat.le_trans (Nat.le_succ _) more

theorem complete_index {position : List Token} {positionTree : Expr Unit}
    (operand : Derives .primary consumed tree)
    (inside : Derives .expression position positionTree)
    (short : consumed.length + (position.length + 2) ≤ s.maxDepth)
    (complete : Complete s consumed tree .primary)
    (completeInside : Complete s position positionTree .expression) :
    Complete s (consumed ++ .symbol .leftBracket :: (position ++ [.symbol .rightBracket]))
      (.index () tree positionTree) .primary := by
  intro depth after enough tokens same
  simp only [List.length_append, List.length_cons, List.length_nil] at enough
  have same : items tokens = consumed ++
      .symbol .leftBracket :: (position ++ .symbol .rightBracket :: after) := by
    simpa using same
  have enoughOperand : consumed.length ≤ depth := by omega
  obtain ⟨found, span, behindOpen, fuel, rfl, isBehindOpen, more, read⟩ :=
    complete.reaches enoughOperand same
  obtain ⟨positionFound, behindPosition, rfl, isBehindPosition, readPosition⟩ :=
    completeInside depth _ (by omega) (ends_cons (by decide) _) behindOpen isBehindOpen
  obtain ⟨stop, rest, rfl, behind⟩ := exists_of_items_eq_cons isBehindPosition
  let node : Tree := .index (found.note.through stop) found positionFound
  have fits := complete_eq_ok node (.index operand inside) (by simpa using short) rest
  refine ⟨node, rest, fuel, rfl, behind, ?_, read.trans (suffixes_index readPosition fits)⟩
  exact Nat.le_trans (length_le_of_closed isBehindOpen behind) more

theorem complete_call {listed : List Token} {args : List Phrase}
    (callee : Derives .primary consumed tree) (named : Callable tree)
    (each : ∀ arg ∈ args, Derives .expression arg.tokens arg.tree)
    (separated : Separated (args.map Phrase.tokens) listed)
    (short : consumed.length + (listed.length + 2) ≤ s.maxDepth)
    (complete : Complete s consumed tree .primary)
    (completeEach : ∀ arg ∈ args, Complete s arg.tokens arg.tree .expression) :
    Complete s (consumed ++ .symbol .leftParen :: (listed ++ [.symbol .rightParen]))
      (.call () tree (args.map Phrase.tree)) .primary := by
  intro depth after enough tokens same
  simp only [List.length_append, List.length_cons, List.length_nil] at enough
  have same : items tokens = consumed ++
      .symbol .leftParen :: (listed ++ .symbol .rightParen :: after) := by
    simpa using same
  have enoughOperand : consumed.length ≤ depth := by omega
  obtain ⟨found, span, behindOpen, fuel, rfl, isBehindOpen, more, read⟩ :=
    complete.reaches enoughOperand same
  have taken : exprItems.AllTaken (expr s depth) args := allTaken_exprs fun arg member => by
    have within := separated.length_le _ (List.mem_map_of_mem member)
    exact phraseTaken (each arg member) (completeEach arg member) (by omega)
  obtain ⟨values, stop, rest, made, behind, readArgs⟩ :=
    sequence_complete (by decide) (by decide) separated taken isBehindOpen
  let node : Tree := .call (found.note.through stop) found values
  have shape : node.shape = .call () found.shape (args.map Phrase.tree) := shape_call made
  have derived := Derives.call callee named each separated
  rw [← shape] at derived
  have fits := complete_eq_ok node derived (by simpa using short) rest
  have named := callable_shape_iff.mp named
  refine ⟨node, rest, fuel, shape, behind, ?_, read.trans (suffixes_call named readArgs fits)⟩
  exact Nat.le_trans (length_le_of_closed isBehindOpen behind) more

theorem complete_struct {listed : List Token} {fields : List (String × Phrase)}
    (typeName : Derives .primary consumed tree) (named : TypeName tree)
    (each : ∀ field ∈ fields, Derives .expression field.2.tokens field.2.tree)
    (separated : Separated (fields.map fieldTokens) listed)
    (short : consumed.length + (listed.length + 2) ≤ s.maxDepth)
    (complete : Complete s consumed tree .primary)
    (completeEach : ∀ field ∈ fields, Complete s field.2.tokens field.2.tree .expression) :
    Complete s (consumed ++ .symbol .leftBrace :: (listed ++ [.symbol .rightBrace]))
      (.struct () tree (fields.map fun field => (field.1, field.2.tree))) .primary := by
  intro depth after enough tokens same
  simp only [List.length_append, List.length_cons, List.length_nil] at enough
  have same : items tokens = consumed ++
      .symbol .leftBrace :: (listed ++ .symbol .rightBrace :: after) := by
    simpa using same
  have enoughOperand : consumed.length ≤ depth := by omega
  obtain ⟨found, span, behindOpen, fuel, rfl, isBehindOpen, more, read⟩ :=
    complete.reaches enoughOperand same
  have taken : fieldItems.AllTaken (field s (expr s depth)) fields :=
    allTaken_fields fun field member => by
      have within := separated.length_le _ (List.mem_map_of_mem member)
      simp only [fieldTokens, List.length_cons] at within
      exact phraseTaken (each field member) (completeEach field member) (by omega)
  obtain ⟨values, stop, rest, made, behind, readFields⟩ :=
    sequence_complete (by decide) (by decide) separated taken isBehindOpen
  let node : Tree := .struct (found.note.through stop) found values
  have shape : node.shape =
      .struct () found.shape (fields.map fun field => (field.1, field.2.tree)) := shape_struct made
  have derived := Derives.struct typeName named each separated
  rw [← shape] at derived
  have fits := complete_eq_ok node derived (by simpa using short) rest
  have named := typeName_shape_iff.mp named
  refine ⟨node, rest, fuel, shape, behind, ?_, read.trans (suffixes_struct named readFields fits)⟩
  exact Nat.le_trans (length_le_of_closed isBehindOpen behind) more

/-! ### Atoms -/

theorem complete_constant (value : Constant) (short : 1 ≤ s.maxDepth) :
    Complete s [value.token] (.constant () value) .atom := by
  intro depth after enough tokens same
  obtain ⟨span, rest, rfl, behind⟩ := exists_of_items_eq_cons same
  have found : constant? value.token = some value := constant?_eq_some_iff.mpr rfl
  let node : Tree := .constant span value
  refine ⟨node, rest, rfl, behind, ?_⟩
  simp only [atom, found]
  exact complete_eq_ok node (.constant value) short rest

theorem complete_ident (name : String) (short : 1 ≤ s.maxDepth) :
    Complete s [.ident name] (.ident () name) .atom := by
  intro depth after enough tokens same
  obtain ⟨span, rest, rfl, behind⟩ := exists_of_items_eq_cons same
  let node : Tree := .ident span name
  exact ⟨node, rest, rfl, behind, complete_eq_ok node (.ident name) short rest⟩

theorem complete_rootIdent (name : String) (short : 2 ≤ s.maxDepth) :
    Complete s [.symbol .dot, .ident name] (.rootIdent () name) .atom := by
  intro depth after enough tokens same
  obtain ⟨span, behindDot, rfl, isBehindDot⟩ := exists_of_items_eq_cons same
  obtain ⟨stop, rest, rfl, behind⟩ := exists_of_items_eq_cons isBehindDot
  let node : Tree := .rootIdent (span.through stop) name
  exact ⟨node, rest, rfl, behind, complete_eq_ok node (.rootIdent name) short rest⟩

theorem complete_parenthesized (complete : Complete s consumed tree .expression) :
    Complete s (.symbol .leftParen :: (consumed ++ [.symbol .rightParen])) tree .atom := by
  intro depth after enough tokens same
  simp only [List.length_append, List.length_cons, List.length_nil] at enough
  have same : items tokens = .symbol .leftParen :: (consumed ++ .symbol .rightParen :: after) := by
    simpa using same
  obtain ⟨span, behindOpen, rfl, isBehindOpen⟩ := exists_of_items_eq_cons same
  obtain ⟨found, behindInner, rfl, isBehindInner, read⟩ :=
    complete depth _ (by omega) (ends_cons (by decide) _) behindOpen isBehindOpen
  obtain ⟨stop, rest, rfl, behind⟩ := exists_of_items_eq_cons isBehindInner
  refine ⟨found, rest, rfl, behind, ?_⟩
  exact bind_eq_ok_iff.mpr ⟨_, read, bind_eq_ok_iff.mpr ⟨_, expect_eq_ok_iff.mpr rfl, rfl⟩⟩

theorem complete_list {listed : List Token} {elements : List Phrase}
    (each : ∀ element ∈ elements, Derives .expression element.tokens element.tree)
    (separated : Separated (elements.map Phrase.tokens) listed)
    (short : listed.length + 2 ≤ s.maxDepth)
    (completeEach : ∀ element ∈ elements, Complete s element.tokens element.tree .expression) :
    Complete s (.symbol .leftBracket :: (listed ++ [.symbol .rightBracket]))
      (.list () (elements.map Phrase.tree)) .atom := by
  intro depth after enough tokens same
  simp only [List.length_append, List.length_cons, List.length_nil] at enough
  have same : items tokens = .symbol .leftBracket :: (listed ++ .symbol .rightBracket :: after) := by
    simpa using same
  obtain ⟨span, behindOpen, rfl, isBehindOpen⟩ := exists_of_items_eq_cons same
  have taken : exprItems.AllTaken (expr s depth) elements := allTaken_exprs fun element member => by
    have within := separated.length_le _ (List.mem_map_of_mem member)
    exact phraseTaken (each element member) (completeEach element member) (by omega)
  obtain ⟨values, stop, rest, made, behind, read⟩ :=
    sequence_complete (by decide) (by decide) separated taken isBehindOpen
  let node : Tree := .list (span.through stop) values
  have shape : node.shape = .list () (elements.map Phrase.tree) := shape_list made
  have derived := Derives.list each separated
  rw [← shape] at derived
  have fewTokens :
      (.symbol .leftBracket :: (listed ++ [.symbol .rightBracket])).length ≤ s.maxDepth := by
    simp only [List.length_cons, List.length_append, List.length_nil]
    omega
  have fits := complete_eq_ok node derived fewTokens rest
  exact ⟨node, rest, shape, behind, bind_eq_ok_iff.mpr ⟨_, read, fits⟩⟩

theorem complete_map {listed : List Token} {entries : List (Phrase × Phrase)}
    (keys : ∀ entry ∈ entries, Derives .expression entry.1.tokens entry.1.tree)
    (values : ∀ entry ∈ entries, Derives .expression entry.2.tokens entry.2.tree)
    (separated : Separated (entries.map entryTokens) listed)
    (short : listed.length + 2 ≤ s.maxDepth)
    (completeKeys : ∀ entry ∈ entries, Complete s entry.1.tokens entry.1.tree .expression)
    (completeValues : ∀ entry ∈ entries, Complete s entry.2.tokens entry.2.tree .expression) :
    Complete s (.symbol .leftBrace :: (listed ++ [.symbol .rightBrace]))
      (.map () (entries.map fun entry => (entry.1.tree, entry.2.tree))) .atom := by
  intro depth after enough tokens same
  simp only [List.length_append, List.length_cons, List.length_nil] at enough
  have same : items tokens = .symbol .leftBrace :: (listed ++ .symbol .rightBrace :: after) := by
    simpa using same
  obtain ⟨span, behindOpen, rfl, isBehindOpen⟩ := exists_of_items_eq_cons same
  have within (entry : Phrase × Phrase) (member : entry ∈ entries) :
      entry.1.tokens.length + entry.2.tokens.length < depth := by
    have within := separated.length_le _ (List.mem_map_of_mem member)
    simp only [entryTokens, List.length_append, List.length_cons] at within
    omega
  have taken : entryItems.AllTaken (entry s (expr s depth)) entries := by
    refine allTaken_entries (fun entry member => ?_) fun entry member => ?_
    · have := within entry member
      exact phraseTaken (keys entry member) (completeKeys entry member) (by omega)
    · have := within entry member
      exact phraseTaken (values entry member) (completeValues entry member) (by omega)
  obtain ⟨found, stop, rest, made, behind, read⟩ :=
    sequence_complete (by decide) (by decide) separated taken isBehindOpen
  let node : Tree := .map (span.through stop) found
  have shape : node.shape = .map () (entries.map fun entry => (entry.1.tree, entry.2.tree)) :=
    shape_map made
  have derived := Derives.map keys values separated
  rw [← shape] at derived
  have fewTokens :
      (.symbol .leftBrace :: (listed ++ [.symbol .rightBrace])).length ≤ s.maxDepth := by
    simp only [List.length_cons, List.length_append, List.length_nil]
    omega
  have fits := complete_eq_ok node derived fewTokens rest
  exact ⟨node, rest, shape, behind, bind_eq_ok_iff.mpr ⟨_, read, fits⟩⟩

end Phrases

end Cel.Parser
