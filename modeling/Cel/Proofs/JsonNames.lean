import Cel.Proofs.Except
import Cel.Proofs.Token.Literal
import Cel.Proofs.Value.Keys
import Cel.Value.Json

/-! # Names of JSON members

A map is written as an object with one member for each entry, whose name is the key as plain text. Keys of
one kind, and numbers of both kinds, have the same text only if they stand for the same. But a text may be
the text of a boolean or of a number. So the names are different exactly if no string key spells another key,
and then every entry is found under its name.
-/

namespace Cel

/-! ### Numbers -/

namespace Number

theorem nat?_toDigits (n : Nat) : nat? (Nat.toDigits 10 n) = some n := by
  rw [nat?, if_pos ⟨Nat.toDigits_ne_nil, all_isDigit_toDigits n⟩, natOf_toDigits]

theorem toList_repr (n : Nat) : n.repr.toList = Nat.toDigits 10 n := String.toList_ofList

/-- The text of an integer is read as that integer. -/
theorem integer?_repr (value : Int) : integer? value.repr.toList = some value := by
  cases value with
  | ofNat n =>
    obtain ⟨c, more, digits, isDigit⟩ := exists_toDigits_eq_cons n
    have noSign : sign (Nat.toDigits 10 n) = (false, Nat.toDigits 10 n) := by
      rw [digits]
      unfold sign
      split
      · next same =>
        cases same
        exact absurd isDigit (by decide)
      · next same =>
        cases same
        exact absurd isDigit (by decide)
      · rfl
    have isText : (Int.ofNat n).repr.toList = Nat.toDigits 10 n := toList_repr n
    rw [isText, integer?, noSign]
    simp only [nat?_toDigits]
    rfl
  | negSucc n =>
    have isText : (Int.negSucc n).repr.toList = '-' :: Nat.toDigits 10 (n + 1) := by
      rw [Int.repr, String.toList_append, toList_repr]
      rfl
    rw [isText, integer?, sign]
    simp only [nat?_toDigits]
    rfl

end Number

namespace MapKey

/-! ### Texts of keys -/

/-- What a key stands for as plain text. -/
def Meaning.text : Meaning → String
  | .bool value => if value then "true" else "false"
  | .number value => value.repr
  | .string value => value

theorem text_meaning (key : MapKey) : key.meaning.text = key.text := by
  cases key <;> rfl

theorem eq_string_of_meaning {key : MapKey} {text : String} (same : key.meaning = .string text) :
    key = .string text := by
  cases key <;> cases same
  rfl

/-- The text of a boolean is no number. -/
theorem text_bool_ne (truth : Bool) (value : Int) : (Meaning.bool truth).text ≠ value.repr := by
  intro same
  have isNumber := Number.integer?_repr value
  have noNumber : Number.integer? (Meaning.bool truth).text.toList = none := by
    cases truth <;> decide
  rw [← same, noNumber] at isNumber
  cases isNumber

/-- Two things that keys stand for have the same text only if they are the same, unless one of them is that
text. -/
theorem Meaning.eq_or_of_text {a b : Meaning} (same : a.text = b.text) :
    a = b ∨ a = .string b.text ∨ b = .string a.text := by
  cases a with
  | string x => exact .inr (.inl (congrArg _ same))
  | bool x =>
    cases b with
    | string y => exact .inr (.inr (congrArg _ same.symm))
    | bool y => cases x <;> cases y <;> first | exact .inl rfl | exact absurd same (by decide)
    | number y => exact absurd same (text_bool_ne x y)
  | number x =>
    cases b with
    | string y => exact .inr (.inr (congrArg _ same.symm))
    | bool y => exact absurd same.symm (text_bool_ne y x)
    | number y =>
      have read := Number.integer?_repr x
      rw [show x.repr = y.repr from same, Number.integer?_repr] at read
      exact .inl (congrArg _ (Option.some.inj read).symm)

/-- Two keys have the same text only if they stand for the same, unless one of them is the other one as a
string. -/
theorem meaning_eq_or_of_text {a b : MapKey} (same : a.text = b.text) :
    a.meaning = b.meaning ∨ a = .string b.text ∨ b = .string a.text := by
  rw [← text_meaning a, ← text_meaning b] at same
  rcases Meaning.eq_or_of_text same with equal | left | right
  · exact .inl equal
  · exact .inr (.inl (eq_string_of_meaning (by rw [left, text_meaning])))
  · exact .inr (.inr (eq_string_of_meaning (by rw [right, text_meaning])))

end MapKey

namespace Value

/-! ### Members -/

variable {entries : List (MapKey × Value)} {members : List (String × Json)}

/-- Whether a member is an entry under the text of its key. -/
def IsMember (entry : MapKey × Value) (member : String × Json) : Prop :=
  member.1 = entry.1.text ∧ entry.2.toJson = .ok member.2

/-- Entries are written one by one and in their order. -/
theorem forall₂_of_toJsonEntries (written : toJsonEntries entries = .ok members) :
    List.Forall₂ IsMember entries members := by
  induction entries generalizing members with
  | nil =>
    cases written
    exact .nil
  | cons entry rest ih =>
    obtain ⟨key, value⟩ := entry
    rw [toJsonEntries] at written
    obtain ⟨json, valueWritten, others⟩ := bind_eq_ok_iff.mp written
    obtain ⟨jsons, restWritten, made⟩ := bind_eq_ok_iff.mp others
    cases made
    exact .cons ⟨rfl, valueWritten⟩ (ih restWritten)

theorem names_of_forall₂ (each : List.Forall₂ IsMember entries members) :
    members.map Prod.fst = entries.map fun entry => entry.1.text := by
  induction each with
  | nil => rfl
  | cons head _ ih => rw [List.map_cons, List.map_cons, head.1, ih]

/-- The members are the entries. -/
theorem mem_iff_of_forall₂ (each : List.Forall₂ IsMember entries members) {member : String × Json} :
    member ∈ members ↔ ∃ entry ∈ entries, IsMember entry member := by
  induction each with
  | nil => simp
  | @cons entry first _ _ head _ ih =>
    have same : member = first ↔ IsMember entry member := by
      constructor
      · rintro rfl
        exact head
      · rintro ⟨name, written⟩
        exact Prod.ext (name.trans head.1.symm) (Except.ok.inj (written.symm.trans head.2))
    rw [List.mem_cons, ih, List.exists_mem_cons_iff, same]

/-- Whether one of the string keys is the text of another key. -/
def Ambiguous (entries : List (MapKey × Value)) : Prop :=
  ∃ first ∈ entries, ∃ second ∈ entries, first.1 ≠ second.1 ∧ first.1 = .string second.1.text

instance (entries : List (MapKey × Value)) : Decidable (Ambiguous entries) :=
  inferInstanceAs (Decidable (∃ first ∈ entries, ∃ second ∈ entries, _ ∧ _))

/-- Where no string key spells another key, different entries have different names. -/
theorem DistinctKeys.eq_of_text (distinct : DistinctKeys entries) (clear : ¬Ambiguous entries)
    {first second : MapKey × Value} (here : first ∈ entries) (there : second ∈ entries)
    (same : first.1.text = second.1.text) : first = second := by
  apply distinct.eq_of_meaning here there
  rcases MapKey.meaning_eq_or_of_text same with equal | left | right
  · exact equal
  · by_contra different
    exact clear ⟨first, here, second, there, fun equal => different (congrArg _ equal), left⟩
  · by_contra different
    exact clear ⟨second, there, first, here, fun equal => different (congrArg _ equal.symm), right⟩

theorem DistinctKeys.nodup_text_iff (distinct : DistinctKeys entries) :
    (entries.map fun entry => entry.1.text).Nodup ↔ ¬Ambiguous entries := by
  constructor
  · rintro nodup ⟨first, here, second, there, different, spelled⟩
    have same : first.1.text = second.1.text := by rw [spelled, MapKey.text]
    exact different (congrArg Prod.fst (List.inj_on_of_nodup_map nodup here there same))
  · intro clear
    rw [List.nodup_map_iff_inj_on distinct.of_map]
    exact fun first here second there same => distinct.eq_of_text clear here there same

/-- A map is written with one member for each entry. The names of the members are different exactly if no
string key spells another key, and then the value of every entry is what stands under its name. This is about
the members as they are written one after another. A serializer that collects them in a map of its own keeps
only the last of two members with one name. -/
theorem toJson_map_names_nodup_iff {json : Json} (distinct : DistinctKeys entries)
    (written : (map entries).toJson = .ok json) :
    ∃ members, json = .object members ∧ members.length = entries.length ∧
      List.Forall₂ IsMember entries members ∧
      ((members.map Prod.fst).Nodup ↔ ¬Ambiguous entries) ∧
      (¬Ambiguous entries → ∀ entry ∈ entries, ∀ value,
        (entry.1.text, value) ∈ members ↔ entry.2.toJson = .ok value) := by
  obtain ⟨members, entriesWritten, made⟩ := bind_eq_ok_iff.mp written
  cases made
  have each := forall₂_of_toJsonEntries entriesWritten
  refine ⟨members, rfl, each.length_eq.symm, each, ?_, fun clear entry here value => ?_⟩
  · rw [names_of_forall₂ each]
    exact distinct.nodup_text_iff
  · rw [mem_iff_of_forall₂ each]
    constructor
    · rintro ⟨other, there, name, written⟩
      rwa [distinct.eq_of_text clear here there name]
    · exact fun written => ⟨entry, here, rfl, written⟩

/-- A map with keys of all kinds, among them a string that looks like a number. -/
theorem toJson_map_names_nodup_iff_of_mixed :
    let entries := [(.bool true, int 1), (.int (-1), int 2), (.uint 1, int 3), (.string "01", int 4)]
    DistinctKeys entries ∧ ∃ members, (map entries).toJson = .ok (.object members) ∧
      (members.map Prod.fst).Nodup ∧ (("01", .int 4) ∈ members) := by
  intro entries
  have distinct : DistinctKeys entries := by
    unfold DistinctKeys
    decide
  have clear : ¬Ambiguous entries := by decide
  obtain ⟨members, made, -, -, different, inside⟩ := toJson_map_names_nodup_iff distinct rfl
  refine ⟨distinct, members, congrArg _ made, different.mpr clear, ?_⟩
  exact (inside clear (.string "01", int 4) (by simp [entries]) _).mpr rfl

/-- A string key may spell a number that is a key, too, and then two members have one name. -/
theorem toJson_map_names_not_nodup :
    let entries := [(.int 1, int 1), (.string "1", int 2)]
    let members := [("1", .int 1), ("1", .int 2)]
    DistinctKeys entries ∧ (map entries).toJson = .ok (.object members) ∧
      ¬(members.map Prod.fst).Nodup := by
  intro entries members
  have distinct : DistinctKeys entries := by
    unfold DistinctKeys
    decide
  exact ⟨distinct, rfl, by decide⟩

end Value

end Cel
