import Cel.Engines.Standard
import Cel.Proofs.JsonNames
import Cel.Proofs.Number.Rounding
import Cel.Proofs.Slices
import Cel.Proofs.Sound

/-! # JSON through a context

A JSON value that is bound to a name, read under that name and written again is the same JSON value. Signed
and unsigned integers share one range of JSON integers and are told apart by it, doubles stay doubles even if
they have no fraction, and objects come back with their members in ascending order.
-/

namespace Cel

namespace Json

/-- The JSON values that stand directly inside one. -/
def parts : Json → List Json
  | array items => items
  | object members => members.map (·.2)
  | _ => []

/-- Whether a property holds of a JSON value and of everything inside it. -/
inductive Everywhere (p : Json → Prop) : Json → Prop where
  | intro {json : Json} (here : p json) (inside : ∀ part ∈ json.parts, Everywhere p part) :
    Everywhere p json

/-- What holds of a JSON value without parts holds everywhere in it. -/
theorem Everywhere.of_parts_eq_nil {p : Json → Prop} {json : Json} (here : p json)
    (flat : json.parts = []) : Everywhere p json := by
  refine .intro here fun part member => ?_
  rw [flat] at member
  cases member

/-- Whether integers are in the range of words, doubles are finite and members have different names. -/
def Representable : Json → Prop
  | int n => -0x8000000000000000 ≤ n ∧ n < 0x10000000000000000
  | double d => ∃ q, d.rat? = some q
  | object members => (members.map Prod.fst).Nodup
  | _ => True

/-- Whether the members of an object stand in ascending order of their names. -/
def Ascending : Json → Prop
  | object members => Entries.Ascending members
  | _ => True

/-- How two JSON values can be equal: the same one of a kind without parts, where a double has the same bits,
or arrays of equal items, or objects with equal members under the same names in any order. -/
inductive Equal : Json → Json → Prop where
  | null : Equal null null
  | bool (value : Bool) : Equal (bool value) (bool value)
  | int (value : Int) : Equal (int value) (int value)
  | double (value : Double) : Equal (double value) (double value)
  | string (value : String) : Equal (string value) (string value)
  | array {items items' : List Json} (size : items.length = items'.length)
    (each : ∀ pair ∈ items.zip items', Equal pair.1 pair.2) : Equal (array items) (array items')
  | object {members members' : List (String × Json)}
    (names : (members.map Prod.fst).Perm (members'.map Prod.fst))
    (each : ∀ member ∈ members, ∀ member' ∈ members', member.1 = member'.1 → Equal member.2 member'.2) :
    Equal (object members) (object members')

end Json

namespace Value

open Json (Equal)

/-! ### Parts -/

theorem ofJsonMembers_eq_map (members : List (String × Json)) :
    ofJsonMembers members = members.map fun member => (.string member.1, ofJson member.2) := by
  induction members with
  | nil => rfl
  | cons member rest ih => rw [ofJsonMembers, ih, List.map_cons]

/-- Different names are different keys. -/
theorem nodup_keys_ofJsonMembers {members : List (String × Json)} (distinct : (members.map Prod.fst).Nodup) :
    ((ofJsonMembers members).map (·.1)).Nodup := by
  have keys : (ofJsonMembers members).map (·.1) = (members.map Prod.fst).map MapKey.string := by
    rw [ofJsonMembers_eq_map, List.map_map, List.map_map]
    rfl
  rw [keys]
  exact distinct.map fun _ _ same => MapKey.string.inj same

/-- An integer in the range of words is written as itself. -/
theorem toJson_ofJson_int {n : Int} (low : -0x8000000000000000 ≤ n) (high : n < 0x10000000000000000) :
    (ofJson (.int n)).toJson = .ok (.int n) := by
  rw [ofJson]
  cases signed : Number.int64? n with
  | some word =>
    rw [← Number.int64?_eq_some_iff.mp signed]
    rfl
  | none =>
    cases unsigned : Number.uint64? n with
    | some word =>
      rw [← Number.uint64?_eq_some_iff.mp unsigned]
      rfl
    | none =>
      rw [Number.int64?_eq_none_iff] at signed
      rw [Number.uint64?_eq_none_iff] at unsigned
      omega

/-- Items are written one by one. -/
theorem exists_toJsonItems_related {items : List Json} {related : Json → Json → Prop}
    (each : ∀ item ∈ items, ∃ json, (ofJson item).toJson = .ok json ∧ related json item) :
    ∃ jsons, toJsonItems (ofJsonItems items) = .ok jsons ∧ jsons.length = items.length ∧
      ∀ pair ∈ jsons.zip items, related pair.1 pair.2 := by
  induction items with
  | nil => exact ⟨[], rfl, rfl, fun _ member => absurd member List.not_mem_nil⟩
  | cons item rest ih =>
    obtain ⟨first, others⟩ := List.forall_mem_cons.mp each
    obtain ⟨json, written, same⟩ := first
    obtain ⟨jsons, restWritten, size, sameRest⟩ := ih others
    refine ⟨json :: jsons, ?_, congrArg Nat.succ size, List.forall_mem_cons.mpr ⟨same, sameRest⟩⟩
    rw [ofJsonItems, toJsonItems]
    exact bind_eq_ok_iff.mpr ⟨json, written, bind_eq_ok_iff.mpr ⟨jsons, restWritten, rfl⟩⟩

/-! ### Whole values -/

theorem exists_toJson_ofJson {json : Json} (representable : json.Everywhere Json.Representable) :
    ∃ result, (ofJson json).toJson = .ok result ∧ result.Equal json := by
  induction representable with
  | @intro json here inside ih =>
    cases json with
    | null => exact ⟨_, rfl, .null⟩
    | bool value => exact ⟨_, rfl, .bool value⟩
    | int n => exact ⟨_, toJson_ofJson_int here.1 here.2, .int n⟩
    | double d => exact ⟨_, rfl, .double d⟩
    | string text => exact ⟨_, rfl, .string text⟩
    | array items =>
      obtain ⟨jsons, written, size, each⟩ := exists_toJsonItems_related ih
      refine ⟨.array jsons, ?_, .array size each⟩
      rw [ofJson, toJson]
      exact bind_eq_ok_iff.mpr ⟨jsons, written, rfl⟩
    | object members =>
      have kept := Entries.ofList_perm (nodup_keys_ofJsonMembers here)
      have origin : ∀ entry ∈ Entries.ofList (ofJsonMembers members), ∃ member ∈ members,
          (.string member.1, ofJson member.2) = entry := by
        intro entry isEntry
        have isEntry := kept.mem_iff.mp isEntry
        rw [ofJsonMembers_eq_map] at isEntry
        exact List.mem_map.mp isEntry
      have again : ∀ member ∈ members,
          ∃ result, (ofJson member.2).toJson = .ok result ∧ result.Equal member.2 :=
        fun member isMember => ih member.2 (List.mem_map_of_mem isMember)
      obtain ⟨results, written⟩ := exists_toJsonEntries fun entry isEntry => by
        obtain ⟨member, isMember, rfl⟩ := origin entry isEntry
        obtain ⟨result, written, -⟩ := again member isMember
        exact ⟨result, written⟩
      have writtenEach := forall₂_of_toJsonEntries written
      refine ⟨.object results, ?_, .object ?_ ?_⟩
      · rw [ofJson, ofEntries, toJson]
        exact bind_eq_ok_iff.mpr ⟨results, written, rfl⟩
      · have names : members.map Prod.fst = (ofJsonMembers members).map fun entry => entry.1.text := by
          rw [ofJsonMembers_eq_map, List.map_map]
          rfl
        rw [names_of_forall₂ writtenEach, names]
        exact kept.map _
      · intro result isResult member isMember sameName
        obtain ⟨entry, isEntry, name, valueWritten⟩ := (mem_iff_of_forall₂ writtenEach).mp isResult
        obtain ⟨member', isMember', rfl⟩ := origin entry isEntry
        have same : member' = member := List.inj_on_of_nodup_map here isMember' isMember (name.symm.trans sameName)
        obtain ⟨json, jsonWritten, equal⟩ := again member isMember
        rw [same] at valueWritten
        rw [Except.ok.inj (valueWritten.symm.trans jsonWritten)]
        exact equal

/-! ### Ascending members -/

theorem toJsonItems_eq_ok {items : List Json} (each : ∀ item ∈ items, (ofJson item).toJson = .ok item) :
    toJsonItems (ofJsonItems items) = .ok items := by
  induction items with
  | nil => rfl
  | cons item rest ih =>
    obtain ⟨first, others⟩ := List.forall_mem_cons.mp each
    rw [ofJsonItems, toJsonItems]
    exact bind_eq_ok_iff.mpr ⟨item, first, bind_eq_ok_iff.mpr ⟨rest, ih others, rfl⟩⟩

theorem toJsonEntries_eq_ok {members : List (String × Json)}
    (each : ∀ member ∈ members, (ofJson member.2).toJson = .ok member.2) :
    toJsonEntries (ofJsonMembers members) = .ok members := by
  induction members with
  | nil => rfl
  | cons member rest ih =>
    obtain ⟨first, others⟩ := List.forall_mem_cons.mp each
    rw [ofJsonMembers, toJsonEntries]
    exact bind_eq_ok_iff.mpr ⟨member.2, first, bind_eq_ok_iff.mpr ⟨rest, ih others, rfl⟩⟩

/-- Ascending members are stored as they stand. -/
theorem ofList_ofJsonMembers {members : List (String × Json)} (distinct : (members.map Prod.fst).Nodup)
    (ascending : Entries.Ascending members) :
    Entries.ofList (ofJsonMembers members) = ofJsonMembers members := by
  have keysAscending : Entries.Ascending (ofJsonMembers members) := by
    rw [ofJsonMembers_eq_map, Entries.Ascending, List.pairwise_map]
    exact ascending
  exact Entries.eq_of_perm_of_ascending (Entries.ascending_ofList _) keysAscending
    (Entries.ofList_perm (nodup_keys_ofJsonMembers distinct))

/-- If all members stand in ascending order, even the order of the members comes back. -/
theorem toJson_ofJson_of_ascending {json : Json} (representable : json.Everywhere Json.Representable)
    (ascending : json.Everywhere Json.Ascending) : (ofJson json).toJson = .ok json := by
  induction representable with
  | @intro json here inside ih =>
    obtain ⟨ascendingHere, ascendingInside⟩ := ascending
    cases json with
    | null | bool | double | string => rfl
    | int n => exact toJson_ofJson_int here.1 here.2
    | array items =>
      have written := toJsonItems_eq_ok fun item isItem => ih item isItem (ascendingInside item isItem)
      rw [ofJson, toJson]
      exact bind_eq_ok_iff.mpr ⟨items, written, rfl⟩
    | object members =>
      have written := toJsonEntries_eq_ok fun member isMember =>
        ih member.2 (List.mem_map_of_mem isMember) (ascendingInside _ (List.mem_map_of_mem isMember))
      rw [ofJson, ofEntries, toJson, ofList_ofJsonMembers here ascendingHere]
      exact bind_eq_ok_iff.mpr ⟨members, written, rfl⟩

end Value

/-! ### Names -/

/-- Whether a text is a word that may be used as a name. -/
def Lexer.IsName (name : String) : Prop :=
  (∃ c rest, name.toList = c :: rest ∧ isWordStart c = true ∧ rest.all isWordRest = true) ∧
    Token.ofWord name = .ident name

namespace Program

open Lexer (IsName)

variable {name : String}

/-- Letters are neither blanks nor digits. -/
theorem plain_of_isWordStart {c : Char} (starts : Lexer.isWordStart c = true) :
    Lexer.isBlank c = false ∧ c ≠ '/' ∧ Number.isDigit c = false := by
  refine ⟨?_, ?_, ?_⟩
  · rw [Bool.eq_false_iff]
    intro blank
    have other := Lexer.false_of_isBlank (p := Lexer.isWordStart) (by decide) blank
    rw [starts] at other
    cases other
  · rintro rfl
    exact absurd starts (by decide)
  · rw [Bool.eq_false_iff]
    intro digit
    have notDigits : ∀ n : Fin 10, Lexer.isWordStart (.ofNat (48 + n)) = false := by decide
    simp only [Number.isDigit, Bool.and_eq_true, decide_eq_true_eq, Char.le_def, UInt32.le_iff_toNat_le]
      at digit
    have zero : '0'.val.toNat = 48 := rfl
    have nine : '9'.val.toNat = 57 := rfl
    have isDigit : c = .ofNat (48 + (c.toNat - 48)) := by
      rw [Nat.add_sub_cancel' (zero ▸ digit.1), Char.ofNat_toNat]
    have other := notDigits ⟨c.toNat - 48, by have := digit.2; unfold Char.toNat; omega⟩
    rw [← isDigit, starts] at other
    cases other

/-- A name is one token. -/
theorem tokens_of_isName (isName : IsName name) :
    Lexer.tokens name = .ok [⟨.ident name, ⟨0, name.utf8ByteSize⟩⟩] := by
  obtain ⟨⟨c, rest, text, starts, word⟩, isIdent⟩ := isName
  obtain ⟨notBlank, notSlash, notDigit⟩ := plain_of_isWordStart starts
  have isText : name = String.ofList (c :: rest) := by rw [← text, String.ofList_toList]
  have nothing : ∀ c ∈ ([] : List Char).head?, Lexer.isWordRest c = false := fun _ member =>
    absurd member (Option.not_mem_none _)
  have whole := Lexer.takeWhile_append_of_stops word nothing
  have isWord : Lexer.isWordRest c = true := by rw [Lexer.isWordRest, starts, Bool.true_or]
  have isToken := @Lexer.isToken_word c rest notBlank notSlash notDigit starts
  rw [List.append_nil] at whole
  rw [List.takeWhile_cons_of_pos isWord, whole, ← isText, isIdent] at isToken
  have first := isToken.reads [] Lexer.ends_nil
  rw [List.append_nil] at first
  have notSkipped : Lexer.Piece.token (.ident name) ≠ .skipped := fun same => by cases same
  have read := (Lexer.tokensFrom_eq_single_iff first notSkipped (.ident name)).mpr ⟨rfl, Nat.le_refl _⟩
  rw [Lexer.tokens, text, read, isText, Text.Utf8.width_eq]

/-- A name is compiled to a variable. -/
theorem compile_of_isName [Engines] (isName : IsName name) {settings : Settings} (levels : 0 < settings.maxDepth) :
    compile settings name = .ok ⟨name, .free ⟨0, name.utf8ByteSize⟩ name⟩ := by
  obtain ⟨depth, isDepth⟩ : ∃ depth, settings.maxDepth = depth + 1 := ⟨settings.maxDepth - 1, by omega⟩
  let span : Span := ⟨0, name.utf8ByteSize⟩
  have read (s : Parser.Setting) (fits : 1 ≤ s.maxDepth) :
      Parser.expr s (depth + 1) [⟨.ident name, span⟩] = .ok (.ident span name, []) := by
    have atom (expr : Parser.Reader Parser.Tree) :
        Parser.primary s expr [⟨.ident name, span⟩] = .ok (.ident span name, []) := by
      have done : Parser.complete s (.ident span name) [] = .ok (.ident span name, []) :=
        if_neg (Nat.not_lt.mpr fits)
      exact bind_eq_of_eq_ok done
    have operand : Parser.operand s depth [⟨.ident name, span⟩] = .ok (.ident span name, []) := by
      cases depth with
      | zero =>
        rw [Parser.operand]
        exact atom _
      | succ depth =>
        rw [Parser.operand]
        exact atom _
    rw [Parser.expr, Parser.choice, Parser.disjunction]
    simp only [Parser.chain, operand]
    rfl
  have tree : Parser.tree settings.maxDepth [⟨.ident name, span⟩] = .ok (.ident span name) := by
    rw [isDepth]
    exact bind_eq_of_eq_ok (read ⟨depth + 1, span.stop⟩ (Nat.succ_pos depth))
  have parsed : parse settings.maxDepth name = .ok (.ident ⟨1, span⟩ name) := by
    rw [parse, tokens_of_isName isName]
    simp only [Parser.parse, span, tree]
    rfl
  exact bind_eq_of_eq_ok parsed

end Program

/-- A member of a JSON object is what its name reads. -/
theorem Context.get?_of_ofJson {members : List (String × Json)} {name : String} {json : Json}
    (distinct : (members.map Prod.fst).Nodup) (member : (name, json) ∈ members) :
    ∃ context, Context.ofJson (.object members) = .ok context ∧ context.unknowns = .empty ∧
      context.get? name = some (.ofJson json) := by
  refine ⟨_, rfl, rfl, ?_⟩
  let bound := members.map fun member => (member.1, Value.ofJson member.2)
  have isBound : (name, Value.ofJson json) ∈ bound := List.mem_map.mpr ⟨(name, json), member, rfl⟩
  have names : (bound.map (·.1)).Nodup := by
    rw [List.map_map]
    exact distinct
  have kept := Entries.ofList_perm names
  refine Entries.find?_eq_some_of_mem ((kept.map _).nodup_iff.mpr names) ?_
  exact kept.mem_iff.mpr isBound

/-- A member of a JSON object that is bound to its name, read under the name and written again is equal to
what it was, and if its members stand in ascending order it is the same. -/
theorem json_round_trip [Engines] {members : List (String × Json)} {name : String} {json : Json}
    (settings : Settings) (levels : 0 < settings.maxDepth) (isName : Lexer.IsName name)
    (distinct : (members.map Prod.fst).Nodup) (member : (name, json) ∈ members)
    (representable : json.Everywhere Json.Representable) :
    ∃ context program value result, Context.ofJson (.object members) = .ok context ∧
      Program.compile settings name = .ok program ∧
      program.execute context.activation = .ok value ∧ value.toJson = .ok result ∧
      result.Equal json ∧ (json.Everywhere Json.Ascending → result = json) := by
  obtain ⟨context, made, noUnknowns, found⟩ := Context.get?_of_ofJson distinct member
  obtain ⟨result, written, equal⟩ := Value.exists_toJson_ofJson representable
  refine ⟨context, _, .ofJson json, result, made, Program.compile_of_isName isName levels, ?_, written, equal,
    fun ascending => ?_⟩
  · have notUnknown : context.activation.isUnknown name = false := by
      apply decide_eq_false
      rw [noUnknowns, Names.mem_empty]
      exact not_false
    have isValue : context.activation.value? name = some (.ofJson json) := found
    rw [Program.execute, Term.eval, Eval.eval, Eval.readVariable, notUnknown, isValue]
    rfl
  · exact Except.ok.inj (written.symm.trans (Value.toJson_ofJson_of_ascending representable ascending))

/-- The greatest and the least integer and a double without a fraction, in an object whose members do not
stand in ascending order. -/
theorem json_round_trip_of_bounds :
    let ids : Json := .array [.int 0xFFFFFFFFFFFFFFFF, .int (-0x8000000000000000)]
    let user : Json := .object [("ratio", .double ⟨0x4000000000000000⟩), ("ids", ids)]
    let document := [("verbose", .bool true), ("user", user)]
    ∃ context program value result, Context.ofJson (.object document) = .ok context ∧
      Program.compile .standard "user" = .ok program ∧
      program.execute context.activation = .ok value ∧ value.toJson = .ok result ∧ result.Equal user := by
  intro ids user document
  have isName : Lexer.IsName "user" := ⟨⟨'u', ['s', 'e', 'r'], rfl, by decide, by decide⟩, by decide⟩
  have two : Double.form ⟨0x4000000000000000⟩ = .finite false (2 ^ 52) (-51) := by decide
  have ratio : (Json.double ⟨0x4000000000000000⟩).Everywhere Json.Representable :=
    .of_parts_eq_nil ⟨_, Double.rat?_of_form two⟩ rfl
  have greatest : (Json.int 0xFFFFFFFFFFFFFFFF).Everywhere Json.Representable :=
    .of_parts_eq_nil (by unfold Json.Representable; decide) rfl
  have least : (Json.int (-0x8000000000000000)).Everywhere Json.Representable :=
    .of_parts_eq_nil (by unfold Json.Representable; decide) rfl
  have isArray : ids.Everywhere Json.Representable :=
    .intro trivial (List.forall_mem_cons.mpr ⟨greatest, List.forall_mem_singleton.mpr least⟩)
  have names : (["ratio", "ids"] : List String).Nodup := by decide
  have representable : user.Everywhere Json.Representable :=
    .intro names (List.forall_mem_cons.mpr ⟨ratio, List.forall_mem_singleton.mpr isArray⟩)
  have distinct : (document.map Prod.fst).Nodup := (by decide : (["verbose", "user"] : List String).Nodup)
  have member : ("user", user) ∈ document := List.mem_cons_of_mem _ List.mem_cons_self
  obtain ⟨context, program, value, result, made, compiled, executed, written, equal, -⟩ :=
    json_round_trip .standard (by decide) isName distinct member representable
  exact ⟨context, program, value, result, made, compiled, executed, written, equal⟩

end Cel
