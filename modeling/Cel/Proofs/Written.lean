import Mathlib.Tactic.Choose
import Cel.Engines.Standard
import Cel.Program
import Cel.Proofs.Denotes
import Cel.Proofs.Grammar.Parse
import Cel.Proofs.Token.Literal

/-! # Written values are read back

Null, booleans, integers, bytes, and lists and maps of them are shown the way they are written in
expressions. What is shown is a single expression, which evaluates to exactly the value that was shown,
however deep the value is. The lowest signed integer is the one exception: its magnitude is out of range.
-/

namespace Cel

open Grammar (Phrase Derives Separated)
open Lexer (Reads)
open Value (Everywhere DistinctKeys ofKey)

/-! ### Written phrases -/

/-- Whether a text is read as the tokens of a phrase, whose tree denotes a value. -/
structure Writes [Engines] (text : List Char) (phrase : Phrase) (value : Value) : Prop where
  reads : Reads text phrase.tokens
  derived : Derives .expression phrase.tokens phrase.tree
  denotes : Denotes phrase.tree value

instance : Nonempty Phrase := ⟨[], .constant () .null⟩

theorem Grammar.separated_intercalate (pieces : List (List Token)) :
    Separated pieces (List.intercalate [.symbol .comma] pieces) := by
  induction pieces with
  | nil => exact .empty
  | cons piece rest ih =>
    cases rest with
    | nil =>
      rw [List.intercalate_singleton]
      exact .last piece
    | cons next rest =>
      rw [List.intercalate_cons_cons, List.append_assoc]
      exact .more piece ih

/-- An operand alone is an expression. -/
theorem Grammar.Derives.ofOperand {tokens : List Token} {tree : Expr Unit}
    (operand : Derives (.operation 0) tokens tree) : Derives .expression tokens tree :=
  .operation (.tighter (.tighter (.tighter (.tighter (.tighter operand)))))

/-- An atom alone is an expression. -/
theorem Grammar.Derives.ofAtom {tokens : List Token} {tree : Expr Unit}
    (atom : Derives .atom tokens tree) : Derives .expression tokens tree :=
  .ofOperand (.primary (.atom atom))

namespace Writes

variable [Engines]

theorem constant {text : List Char} (value : Constant) (reads : Reads text [value.token]) :
    Writes text ⟨[value.token], .constant () value⟩ (.ofConstant value) where
  reads := reads
  derived := .ofAtom (.constant value)
  denotes := .constant value

theorem bool (value : Bool) :
    Writes (Value.bool value).text.toList ⟨[(Constant.bool value).token], .constant () (.bool value)⟩
      (.bool value) := by
  cases value with
  | false => exact constant (.bool false) (Reads.keyword .false)
  | true => exact constant (.bool true) (Reads.keyword .true)

theorem uint (value : UInt64) :
    Writes (Value.uint value).text.toList ⟨[.uint value], .constant () (.uint value)⟩ (.uint value) := by
  have text : (Value.uint value).text.toList = Nat.toDigits 10 value.toNat ++ ['u'] := by
    simp [Value.text]
  rw [text]
  exact constant (.uint value) (Reads.uint value)

/-- A signed integer is a literal, or a minus sign before the literal of its magnitude. -/
theorem int {value : Int64} (notLowest : value ≠ Int64.minValue) :
    ∃ phrase, Writes (Value.int value).text.toList phrase (.int value) := by
  by_cases nonneg : 0 ≤ value.toInt
  · obtain ⟨n, same⟩ := Int.eq_ofNat_of_zero_le nonneg
    have text : (Value.int value).text.toList = Nat.toDigits 10 n := by
      simp [Value.text, same, Int.repr_eq_if]
    rw [text]
    exact ⟨_, constant (.int value) (Reads.int same)⟩
  · obtain ⟨n, same⟩ : ∃ n : Nat, value.toInt = -n := ⟨value.toInt.natAbs, by omega⟩
    have text : (Value.int value).text.toList = '-' :: Nat.toDigits 10 n := by
      have notZero : n ≠ 0 := by omega
      simp [Value.text, same, Int.repr_eq_if, notZero]
    have aboveLowest : value.toInt ≠ -2 ^ 63 := by
      intro lowest
      exact notLowest (Int64.toInt_inj.mp (lowest.trans Int64.toInt_minValue.symm))
    have inRange := Int64.le_toInt value
    obtain ⟨word, isWord⟩ : ∃ word : Int64, word.toInt = n :=
      ⟨Int64.ofInt n, Int64.toInt_ofInt_of_le (by omega) (by omega)⟩
    have literal : Derives (.operation 0) [.int word] (.constant () (.int word)) :=
      .primary (.atom (.constant (.int word)))
    refine ⟨⟨[.symbol .minus, .int word], .unary () .neg (.constant () (.int word))⟩, ?_, ?_, ?_⟩
    · rw [text]
      exact Reads.negative isWord
    · exact .ofOperand (.unary .neg literal)
    · exact (Denotes.constant (.int word)).negated (by rw [same, isWord])

end Writes

/-! ### Lists and maps -/

namespace Value

theorem itemTexts_eq_map (items : List Value) : itemTexts items = items.map text := by
  induction items with
  | nil => rfl
  | cons item rest ih => rw [itemTexts, ih, List.map_cons]

theorem entryTexts_eq_map (entries : List (MapKey × Value)) :
    entryTexts entries = entries.map fun entry => keyText entry.1 ++ ": " ++ entry.2.text := by
  induction entries with
  | nil => rfl
  | cons entry rest ih => rw [entryTexts, ih, List.map_cons]

theorem toList_text_list (items : List Value) :
    (list items).text.toList =
      '[' :: (List.intercalate [',', ' '] (items.map (·.text.toList)) ++ [']']) := by
  simp [text, itemTexts_eq_map, String.toList_intercalate, Function.comp_def]

theorem toList_text_map (entries : List (MapKey × Value)) :
    (map entries).text.toList =
      '\x7b' :: (List.intercalate [',', ' '] (entries.map fun entry =>
        (keyText entry.1).toList ++ ':' :: ' ' :: entry.2.text.toList) ++ ['\x7d']) := by
  simp [text, entryTexts_eq_map, String.toList_intercalate, Function.comp_def]

/-- A key is shown like the value that it is. -/
theorem keyText_eq_text (key : MapKey) : keyText key = (ofKey key).text := by
  cases key <;> rfl

end Value

namespace Writes

variable [Engines]

theorem list {items : List Value}
    (each : ∀ item ∈ items, ∃ phrase, Writes item.text.toList phrase item)
    (known : ∀ item ∈ items, item.Known) :
    ∃ phrase, Writes (Value.list items).text.toList phrase (.list items) := by
  choose! phrase writes using each
  let listed := List.intercalate [.symbol .comma] ((items.map phrase).map Phrase.tokens)
  refine ⟨⟨.symbol .leftBracket :: (listed ++ [.symbol .rightBracket]),
    .list () ((items.map phrase).map Phrase.tree)⟩, ?_, ?_, ?_⟩
  · rw [Value.toList_text_list]
    simp only [listed, List.map_map]
    exact Reads.enclosed (by decide) rfl (by decide) rfl (by decide) fun item member =>
      (writes item member).reads
  · refine .ofAtom (.list (List.forall_mem_map.mpr fun item member => ?_)
      (Grammar.separated_intercalate _))
    exact (writes item member).derived
  · have denotes := Denotes.list (fun item member => (writes item member).denotes) known
    rw [List.map_id'] at denotes
    simp only [List.map_map]
    exact denotes

theorem map {entries : List (MapKey × Value)}
    (keys : ∀ entry ∈ entries, ∃ phrase, Writes (Value.keyText entry.1).toList phrase (ofKey entry.1))
    (values : ∀ entry ∈ entries, ∃ phrase, Writes entry.2.text.toList phrase entry.2)
    (known : ∀ entry ∈ entries, entry.2.Known) (ascending : Entries.Ascending entries)
    (distinct : DistinctKeys entries) :
    ∃ phrase, Writes (Value.map entries).text.toList phrase (.map entries) := by
  choose! key writesKey using keys
  choose! phrase writes using values
  let phrases := entries.map fun entry => (key entry, phrase entry)
  let listed := List.intercalate [.symbol .comma] (phrases.map Grammar.entryTokens)
  refine ⟨⟨.symbol .leftBrace :: (listed ++ [.symbol .rightBrace]),
    .map () (phrases.map fun pair => (pair.1.tree, pair.2.tree))⟩, ?_, ?_, ?_⟩
  · rw [Value.toList_text_map]
    simp only [listed, phrases, List.map_map]
    refine Reads.enclosed (by decide) rfl (by decide) rfl (by decide) fun entry member => ?_
    exact (writesKey entry member).reads.separated (by decide) rfl (by decide)
      (writes entry member).reads
  · refine .ofAtom (.map (List.forall_mem_map.mpr fun entry member => ?_)
      (List.forall_mem_map.mpr fun entry member => ?_) (Grammar.separated_intercalate _))
    · exact (writesKey entry member).derived
    · exact (writes entry member).derived
  · have denotes := Denotes.map (fun entry member => (writesKey entry member).denotes)
      (fun entry member => (writes entry member).denotes) known ascending distinct
    simp only [phrases, List.map_map]
    exact denotes

end Writes

/-! ### Plain values -/

/-- Whether a key is a boolean or an integer other than the lowest one. -/
def MapKey.Plain : MapKey → Prop
  | bool _ | uint _ => True
  | int value => value ≠ Int64.minValue
  | string _ => False

namespace Value

/-- Whether a value, regardless of its parts, is null, a boolean, an integer other than the lowest one,
bytes, a list, or a map with such keys in their order, no two of which are equal as numbers. -/
def Plain : Value → Prop
  | null | bool _ | uint _ | bytes _ | list _ => True
  | int value => value ≠ Int64.minValue
  | map entries =>
    Entries.Ascending entries ∧ DistinctKeys entries ∧ ∀ entry ∈ entries, entry.1.Plain
  | _ => False

theorem Plain.known {value : Value} (plain : value.Plain) : value.Known := by
  cases value with
  | unknown names => exact absurd plain id
  | _ => rfl

/-- Keys are written like other values. -/
theorem exists_writes_ofKey [Engines] {key : MapKey} (plain : key.Plain) :
    ∃ phrase, Writes (keyText key).toList phrase (ofKey key) := by
  rw [keyText_eq_text]
  cases key with
  | bool value => exact ⟨_, Writes.bool value⟩
  | int value => exact Writes.int plain
  | uint value => exact ⟨_, Writes.uint value⟩
  | string value => exact absurd plain id

/-- A value that is plain at every depth is written as a phrase that denotes it. -/
theorem exists_writes [Engines] {value : Value} (plain : Everywhere Plain value) :
    ∃ phrase, Writes value.text.toList phrase value := by
  induction plain with
  | @intro value here inside ih =>
    have known : ∀ part ∈ value.parts, part.Known := fun part member =>
      (inside part member).here.known
    cases value with
    | null => exact ⟨_, Writes.constant .null (Reads.keyword .null)⟩
    | bool value => exact ⟨_, Writes.bool value⟩
    | int value => exact Writes.int here
    | uint value => exact ⟨_, Writes.uint value⟩
    | bytes value => exact ⟨_, Writes.constant (.bytes value) (Reads.bytes value)⟩
    | list items => exact Writes.list ih known
    | map entries =>
      obtain ⟨ascending, distinct, keysPlain⟩ := here
      have part {entry : MapKey × Value} (member : entry ∈ entries) :
          entry.2 ∈ (map entries).parts := List.mem_map_of_mem member
      exact Writes.map (fun entry member => exists_writes_ofKey (keysPlain entry member))
        (fun entry member => ih entry.2 (part member))
        (fun entry member => known entry.2 (part member)) ascending distinct
    | _ => exact absurd here id

end Value

namespace Program

/-- What is written for a plain value is read back: with more levels of nesting than tokens it compiles,
and the program evaluates to exactly the value. -/
theorem execute_text [Engines] {value : Value} (plain : Everywhere Value.Plain value) :
    ∃ tokens, Lexer.tokens value.text = .ok tokens ∧
      ∀ settings : Settings, tokens.length < settings.maxDepth →
        ∃ program, compile settings value.text = .ok program ∧
          ∀ activation, program.execute activation = .ok value := by
  obtain ⟨phrase, writes⟩ := Value.exists_writes plain
  obtain ⟨tokens, read, same⟩ := writes.reads.exists_tokens
  refine ⟨tokens, read, fun settings enough => ?_⟩
  have derived : Derives .expression (Parser.items tokens) phrase.tree := by
    have items : Parser.items tokens = phrase.tokens := same
    rw [items]
    exact writes.derived
  obtain ⟨found, sameShape, readTree⟩ := Parser.exists_tree_of_derives derived enough
  have parsed : Parser.parse settings.maxDepth tokens = .ok (found.number 1) :=
    Parser.parse_eq_ok_iff.mpr ⟨found, readTree, rfl⟩
  have shape : (found.number 1).shape = phrase.tree := by rw [Expr.shape_number, sameShape]
  obtain ⟨term, checked, evaluates⟩ := writes.denotes _ shape settings.macros []
  refine ⟨⟨value.text, term⟩, ?_, fun activation => evaluates activation []⟩
  have parsedSource : parse settings.maxDepth value.text = .ok (found.number 1) := by
    simp only [parse, read, parsed]
  refine (bind_eq_of_eq_ok parsedSource).trans ?_
  simp only [Expr.check, checked]

/-- The magnitude of the lowest integer is no literal. -/
example : (compile .standard (Value.int Int64.minValue).text).isOk = false := by decide +kernel

/-- A list and bytes under keys of three kinds. -/
def mixed : Value :=
  .map [(.bool true, .list [.int (-1), .null, .map []]), (.int (-5), .bytes [34, 92, 65, 0, 255]),
    (.uint 7, .bool false)]

theorem execute_text_mixed :
    Everywhere Value.Plain mixed ∧ ∃ program, compile .standard mixed.text = .ok program ∧
      ∀ activation, program.execute activation = .ok mixed := by
  have plain : Everywhere Value.Plain mixed := by
    have negative : Everywhere Value.Plain (.int (-1)) :=
      .of_parts_eq_nil (show (-1 : Int64) ≠ Int64.minValue by decide) rfl
    have null : Everywhere Value.Plain .null := .of_parts_eq_nil trivial rfl
    have empty : Everywhere Value.Plain (.map []) :=
      .of_parts_eq_nil ⟨List.Pairwise.nil, List.nodup_nil, nofun⟩ rfl
    have items : Everywhere Value.Plain (.list [.int (-1), .null, .map []]) :=
      .intro trivial (by simpa [Value.parts] using ⟨negative, null, empty⟩)
    have bytes : Everywhere Value.Plain (.bytes [34, 92, 65, 0, 255]) := .of_parts_eq_nil trivial rfl
    have bool : Everywhere Value.Plain (.bool false) := .of_parts_eq_nil trivial rfl
    refine .intro ⟨?_, ?_, ?_⟩ ?_
    · unfold Entries.Ascending
      decide
    · unfold DistinctKeys
      decide
    · simp [MapKey.Plain]
    · simpa [Value.parts, mixed] using ⟨items, bytes, bool⟩
  obtain ⟨tokens, read, reads⟩ := execute_text plain
  have few : (Lexer.tokens mixed.text).toOption.any (·.length < 50) = true := by decide +kernel
  rw [read] at few
  have enough : tokens.length < 50 := of_decide_eq_true few
  obtain ⟨program, compiled, evaluates⟩ := reads .standard (Nat.lt_trans enough (by decide))
  exact ⟨plain, program, compiled, evaluates⟩

end Program

end Cel
