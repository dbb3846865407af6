import Cel.Proofs.Grammar.Local
import Cel.Proofs.Grammar.Parse
import Cel.Proofs.Slices
import Cel.Proofs.Token.Cut

/-! # Slices of a source at its nodes

The span of a node reaches from its first operand to its last one, without the parentheses that only group
these. So the slice of a source at a node is the node again, unless such parentheses stand at an end of it:
then they are missing on one side. With all of them around it the slice always is the node.
-/

namespace Cel

open Cel.Parser (Balanced Grouped StartsAt StopsAt Move Alone items)
open Cel.Parser.Movable (moved)

namespace Expr

/-- The nodes of a tree that is numbered from some number on are numbered from there or later. -/
theorem le_of_number_mem_nodes {bare e : Expr Span} {first start : Nat}
    (member : bare.number start ∈ (e.number first).nodes) : first ≤ start := by
  have ids := (nodes_sublist member).map (·.note.id)
  rw [ids_number, ids_number, size_eq bare] at ids
  have isId : start ∈ List.range' start (sizeOfAll bare.children + 1) :=
    List.mem_range'_1.mpr ⟨Nat.le_refl _, by omega⟩
  exact (List.mem_range'_1.mp (ids.subset isId)).1

end Expr

namespace Parser

theorem expr_of_tree_eq_ok {limit : Nat} {tokens : Tokens} {found : Tree}
    (read : tree limit tokens = .ok found) :
    expr ⟨limit, stopOf tokens⟩ limit tokens = .ok (found, []) := by
  unfold tree at read
  split at read
  · cases read
  · obtain ⟨⟨whole, rest⟩, readWhole, read⟩ := bind_eq_ok_iff.mp read
    dsimp only at read
    split at read
    · cases read
      exact readWhole
    · cases read

end Parser

namespace Lexer

/-! ### Tokens of a slice -/

variable {source : String} {before after : Parser.Tokens}

/-- The slice at consecutive tokens is read as these. -/
theorem tokens_slice {phrase : Parser.Tokens} {start stop : Nat}
    (read : tokens source = .ok (before ++ (phrase ++ after))) (starts : StartsAt phrase start)
    (stops : StopsAt phrase stop) : tokens (Span.slice source ⟨start, stop⟩) =
      .ok (phrase.map fun token => ⟨token.item, token.span.back start⟩) := by
  obtain ⟨first, isFirst, rfl⟩ := starts
  obtain ⟨last, isLast, rfl⟩ := stops
  obtain ⟨others, rfl⟩ := List.head?_eq_some_iff.mp isFirst
  obtain ⟨front, isPhrase⟩ := List.getLast?_eq_some_iff.mp isLast
  obtain ⟨n, isStart, readBehind⟩ := exists_tokensFrom_drop read
  have isWhole : first :: (others ++ after) = front ++ last :: after := by
    rw [← List.cons_append, isPhrase, List.append_assoc, List.singleton_append]
  obtain ⟨m, isStop, readPhrase⟩ := exists_tokensFrom_take (readBehind.trans (congrArg Except.ok isWhole))
  rw [← isPhrase] at readPhrase
  have parts : source.toList =
      source.toList.take n ++ ((source.toList.drop n).take m ++ (source.toList.drop n).drop m) := by
    rw [List.take_append_drop, List.take_append_drop]
  have slice := slice_eq parts
  rw [Nat.zero_add] at isStart
  rw [← isStart, ← isStop] at slice
  rw [slice, tokens, String.toList_ofList]
  exact tokensFrom_back (by rwa [Nat.add_zero])

/-- Tokens behind another one do not begin before it. -/
theorem le_of_tokens {first : Located Token} (read : tokens source = .ok (before ++ first :: after)) :
    ∀ token ∈ first :: after,
      first.span.start ≤ token.span.start ∧ token.span.start < token.span.stop := by
  obtain ⟨n, -, readBehind⟩ := exists_tokensFrom_drop read
  have divided := divided_of_tokensFrom readBehind
  exact fun token member => ⟨divided.le_start token member, divided.inOrder.1 token member⟩

end Lexer

namespace Program

variable {limit : Nat} {source : String}

/-! ### Nodes alone -/

/-- Whether the slice of a source at a span, parsed alone under the same nesting limit, is a node up to a
shift of ids and offsets. -/
def StandsAlone (limit : Nat) (source : String) (span : Span) (node : Expr Mark) : Prop :=
  ∃ own ids, parse limit (span.slice source) = .ok own ∧
    own.mapNotes (Mark.moved ids (Span.forth span.start)) = node

/-- Whether a span takes in nothing more than parentheses on both sides of the tokens of another one. -/
def Widens (tokens : Parser.Tokens) (wide span : Span) : Prop :=
  ∃ before phrase after, tokens = before ++ (phrase ++ after) ∧ Grouped phrase span ∧
    StartsAt phrase wide.start ∧ StopsAt phrase wide.stop

section Nodes

variable {before phrase after : Parser.Tokens} {bare : Parser.Tree}

/-- A tree that is read from tokens does not change if these are where they were. -/
theorem mapNotes_of_moved {move : Move} (alone : Alone limit phrase bare) (same : moved move phrase = phrase) :
    bare.mapNotes move.span = bare := by
  have stays : moved ⟨id, fun _ _ => rfl⟩ phrase = phrase := List.map_id phrase
  have read := alone.read 0 move
  have readAgain := alone.read 0 ⟨id, fun _ _ => rfl⟩
  rw [same] at read
  rw [stays] at readAgain
  have sameTree := congrArg Prod.fst (Except.ok.inj (read.symm.trans readAgain))
  exact sameTree.trans (Expr.mapNotes_id bare)

/-- A phrase that is cut out of a source is its node alone, numbered from one on. -/
theorem parse_slice (read : Lexer.tokens source = .ok (before ++ (phrase ++ after)))
    (alone : Alone limit phrase bare) {wide : Span} (starts : StartsAt phrase wide.start)
    (stops : StopsAt phrase wide.stop) :
    parse limit (wide.slice source) = .ok ((bare.mapNotes (Span.back wide.start)).number 1) := by
  have lexed := Lexer.tokens_slice read starts stops
  have some : ¬(phrase.map fun token =>
      (⟨token.item, token.span.back wide.start⟩ : Located Token)).isEmpty := by
    obtain ⟨first, isFirst, -⟩ := starts
    obtain ⟨others, rfl⟩ := List.head?_eq_some_iff.mp isFirst
    exact Bool.false_ne_true
  refine parse_eq_ok_iff.mpr ⟨_, lexed, Parser.parse_eq_ok_iff.mpr ⟨_, ?_, rfl⟩⟩
  rw [Parser.tree, if_neg some]
  exact bind_eq_of_eq_ok (alone.read _ ⟨Span.back wide.start, fun _ _ => rfl⟩)

theorem standsAlone (read : Lexer.tokens source = .ok (before ++ (phrase ++ after)))
    (alone : Alone limit phrase bare) {wide : Span} (starts : StartsAt phrase wide.start)
    (stops : StopsAt phrase wide.stop) {first : Nat} (pos : 1 ≤ first) :
    StandsAlone limit source wide (bare.number first) := by
  refine ⟨_, first - 1, parse_slice read alone starts stops, ?_⟩
  let around : Move := ⟨Span.forth wide.start ∘ Span.back wide.start, fun _ _ => rfl⟩
  have behind : ∀ token ∈ phrase, wide.start ≤ token.span.start ∧ token.span.start < token.span.stop := by
    obtain ⟨token, isFirst, isStart⟩ := starts
    obtain ⟨others, rfl⟩ := List.head?_eq_some_iff.mp isFirst
    rw [← isStart]
    exact fun token member => Lexer.le_of_tokens read token (List.mem_append_left after member)
  have same : moved around phrase = phrase := by
    refine (List.map_congr_left fun token member => ?_).trans (List.map_id phrase)
    have isBehind := behind token member
    have isSpan : (token.span.back wide.start).forth wide.start = token.span := by
      simp only [Span.back, Span.forth]
      rw [Nat.sub_add_cancel (by omega), Nat.sub_add_cancel (by omega)]
    exact congrArg (Located.mk token.item) isSpan
  have isTree := mapNotes_of_moved alone same
  rw [Expr.mapNotes_number, Expr.mapNotes_mapNotes, Nat.add_sub_cancel' pos]
  exact congrArg (Expr.number first) isTree

end Nodes

/-- The tokens of a source that is parsed hold those of every node. -/
theorem exists_yields {tree : Expr Mark} (parsed : parse limit source = .ok tree) :
    ∃ root found, tree = root.number 1 ∧ Lexer.tokens source = .ok found ∧
      Parser.Yields limit found root := by
  obtain ⟨found, lexed, read⟩ := parse_eq_ok_iff.mp parsed
  obtain ⟨root, treeRead, rfl⟩ := Parser.parse_eq_ok_iff.mp read
  have exprRead := Parser.expr_of_tree_eq_ok treeRead
  obtain ⟨consumed, rfl, yields, -⟩ := (Parser.expr_local limit).1 (Nat.le_refl _) exprRead
  rw [List.append_nil] at lexed
  exact ⟨root, consumed, rfl, lexed, yields⟩

theorem balanced_of_parse {tree : Expr Mark} (parsed : parse limit source = .ok tree) {found : Parser.Tokens}
    (lexed : Lexer.tokens source = .ok found) : Balanced (items found) := by
  obtain ⟨root, again, -, lexedAgain, yields⟩ := exists_yields parsed
  cases lexed.symm.trans lexedAgain
  exact yields.balanced

theorem exists_alone {tree node : Expr Mark} (parsed : parse limit source = .ok tree)
    (member : node ∈ tree.nodes) : ∃ bare first before phrase after,
      node = bare.number first ∧ 1 ≤ first ∧
      Lexer.tokens source = .ok (before ++ (phrase ++ after)) ∧ Alone limit phrase bare := by
  obtain ⟨root, found, rfl, lexed, yields⟩ := exists_yields parsed
  obtain ⟨bare, isBare, first, rfl⟩ := Expr.exists_of_mem_nodes_number member
  obtain ⟨before, phrase, after, rfl, alone⟩ := yields.nodes bare isBare
  exact ⟨bare, first, before, phrase, after, rfl, Expr.le_of_number_mem_nodes member, lexed, alone⟩

/-- Every node of a tree that is parsed stands alone: the slice of the source that takes in the parentheses
around its operands is parsed, under the same nesting limit, to the node up to a shift of ids and offsets.
The slice at the node itself can always be read as tokens. If their parentheses are balanced there are no
others to take in and the slice is the node, and otherwise it does not parse. -/
theorem nodes_stand_alone {tree node : Expr Mark} (parsed : parse limit source = .ok tree)
    (member : node ∈ tree.nodes) :
    ∃ found inside, Lexer.tokens source = .ok found ∧
      Lexer.tokens (node.note.span.slice source) = .ok inside ∧
      (∃ wide, Widens found wide node.note.span ∧ StandsAlone limit source wide node) ∧
      (Balanced (items inside) ↔ StandsAlone limit source node.note.span node) ∧
      ((∃ own, parse limit (node.note.span.slice source) = .ok own) ↔
        StandsAlone limit source node.note.span node) := by
  obtain ⟨bare, first, before, phrase, after, rfl, pos, lexed, alone⟩ := exists_alone parsed member
  have grouped := alone.grouped
  obtain ⟨wide, wideStarts, wideStops⟩ := grouped.exists_edges
  have wideAlone := standsAlone lexed alone wideStarts wideStops pos
  have widens : Widens (before ++ (phrase ++ after)) wide bare.note :=
    ⟨before, phrase, after, rfl, grouped, wideStarts, wideStops⟩
  obtain ⟨opened, inside, closed, rfl, -, -, starts, stops, onlyInside⟩ := grouped
  have regrouped : before ++ (opened ++ (inside ++ closed) ++ after) =
      (before ++ opened) ++ (inside ++ (closed ++ after)) := by simp only [List.append_assoc]
  have slice := Lexer.tokens_slice (lexed.trans (congrArg Except.ok regrouped)) starts stops
  have sameItems :
      items (inside.map fun token => ⟨token.item, token.span.back bare.note.start⟩) = items inside :=
    List.map_map
  have isAlone (balanced : Balanced (items inside)) :
      StandsAlone limit source bare.note (bare.number first) := by
    obtain ⟨rfl, rfl⟩ := onlyInside balanced
    rw [List.nil_append, List.append_nil] at lexed alone
    exact standsAlone lexed alone starts stops pos
  have isBalanced (parses : ∃ own, parse limit (bare.note.slice source) = .ok own) :
      Balanced (items inside) := by
    obtain ⟨own, parsedAlone⟩ := parses
    rw [← sameItems]
    exact balanced_of_parse parsedAlone slice
  have parses (isAlone : StandsAlone limit source bare.note (bare.number first)) :
      ∃ own, parse limit (bare.note.slice source) = .ok own := by
    obtain ⟨own, -, parsedAlone, -⟩ := isAlone
    exact ⟨own, parsedAlone⟩
  rw [Expr.span_number]
  refine ⟨_, _, lexed, slice, ⟨wide, widens, wideAlone⟩, ?_, ?_⟩
  · rw [sameItems]
    exact ⟨isAlone, fun alone => isBalanced (parses alone)⟩
  · exact ⟨fun parsedAlone => isAlone (isBalanced parsedAlone), parses⟩

/-- A product whose first factor is a sum: the product begins behind the parenthesis of the sum. -/
theorem nodes_stand_alone_of_product :
    ∃ tree found, parse 250 "(a + b) * c" = .ok tree ∧ Lexer.tokens "(a + b) * c" = .ok found ∧
      tree.note.span = ⟨1, 11⟩ ∧ ∀ node ∈ tree.nodes,
        ∃ wide, Widens found wide node.note.span ∧ StandsAlone 250 "(a + b) * c" wide node := by
  have accepted : (parse 250 "(a + b) * c").toOption.any (fun tree => tree.note.span == ⟨1, 11⟩) = true := by
    decide +kernel
  obtain ⟨tree, parsed, isSpan⟩ := exists_ok_of_any accepted
  obtain ⟨found, lexed, -⟩ := parse_eq_ok_iff.mp parsed
  refine ⟨tree, found, parsed, lexed, eq_of_beq isSpan, fun node member => ?_⟩
  obtain ⟨again, -, lexedAgain, -, isWide, -⟩ := nodes_stand_alone parsed member
  cases lexed.symm.trans lexedAgain
  exact isWide

/-- The slice at that product, `a + b) * c`, does not parse. -/
theorem not_standsAlone_of_product :
    ¬∀ (limit : Nat) (source : String) (tree node : Expr Mark), parse limit source = .ok tree →
      node ∈ tree.nodes → StandsAlone limit source node.note.span node := by
  intro each
  have accepted : (parse 250 "(a + b) * c").toOption.any (fun tree => tree.note.span == ⟨1, 11⟩) = true := by
    decide +kernel
  have refused : (parse 250 (Span.slice "(a + b) * c" ⟨1, 11⟩)).toOption.isNone = true := by decide +kernel
  obtain ⟨tree, parsed, isSpan⟩ := exists_ok_of_any accepted
  obtain ⟨own, -, parsedAlone, -⟩ := each 250 _ tree tree parsed (Expr.self_mem_nodes tree)
  rw [eq_of_beq isSpan] at parsedAlone
  rw [parsedAlone] at refused
  cases refused

end Program

end Cel
