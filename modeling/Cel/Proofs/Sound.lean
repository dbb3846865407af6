import Cel.Context
import Cel.Engines.Standard
import Cel.Program
import Cel.Proofs.Results.Eval
import Cel.Proofs.Time.Clock
import Cel.Value.Json

/-! # Well-formed values stay well-formed

Contexts from JSON bind well-formed values without unknown ones inside. Under such bindings a program
evaluates to well-formed values, and a well-formed value without unknown ones inside can be written
as JSON: each of its timestamps has a date.
-/

namespace Cel

namespace Timestamp

/-- A canonical timestamp has a date, and so it can be written. -/
theorem exists_offsetText {t : Timestamp} (canonical : t.Canonical) :
    ∃ text, t.offsetText? = some text := by
  have shown := clock?_of_canonical canonical 0
  rw [offsetText?, shown]
  exact ⟨_, rfl⟩

end Timestamp

namespace Value

/-! ### To JSON -/

theorem exists_toJsonItems {items : List Value}
    (each : ∀ item ∈ items, ∃ json, item.toJson = .ok json) :
    ∃ jsons, toJsonItems items = .ok jsons := by
  induction items with
  | nil => exact ⟨[], rfl⟩
  | cons item rest ih =>
    obtain ⟨⟨json, head⟩, tail⟩ := List.forall_mem_cons.mp each
    obtain ⟨jsons, tail⟩ := ih tail
    exact ⟨json :: jsons, by rw [toJsonItems, head, tail]; rfl⟩

theorem exists_toJsonEntries {entries : List (MapKey × Value)}
    (each : ∀ entry ∈ entries, ∃ json, entry.2.toJson = .ok json) :
    ∃ members, toJsonEntries entries = .ok members := by
  induction entries with
  | nil => exact ⟨[], rfl⟩
  | cons entry rest ih =>
    obtain ⟨⟨json, head⟩, tail⟩ := List.forall_mem_cons.mp each
    obtain ⟨members, tail⟩ := ih tail
    exact ⟨(entry.1.text, json) :: members, by rw [toJsonEntries, head, tail]; rfl⟩

theorem exists_toJsonFields {fields : List (String × Value)}
    (each : ∀ field ∈ fields, ∃ json, field.2.toJson = .ok json) :
    ∃ members, toJsonFields fields = .ok members := by
  induction fields with
  | nil => exact ⟨[], rfl⟩
  | cons field rest ih =>
    obtain ⟨⟨json, head⟩, tail⟩ := List.forall_mem_cons.mp each
    obtain ⟨members, tail⟩ := ih tail
    exact ⟨(field.1, json) :: members, by rw [toJsonFields, head, tail]; rfl⟩

/-- A well-formed value without unknown ones inside can be written as JSON. -/
theorem exists_toJson {value : Value}
    (everywhere : Everywhere (fun value => value.Known ∧ value.Sound) value) :
    ∃ json, value.toJson = .ok json := by
  induction everywhere with
  | @intro value here inside ih =>
    cases value with
    | null | bool | int | uint | double | string | bytes | duration => exact ⟨_, rfl⟩
    | unknown names => exact absurd here.1 not_known_unknown
    | timestamp t =>
      obtain ⟨text, written⟩ := Timestamp.exists_offsetText here.2
      exact ⟨.string text, by simp only [toJson, written]⟩
    | list items =>
      have each : ∀ item ∈ items, ∃ json, item.toJson = .ok json := ih
      obtain ⟨jsons, written⟩ := exists_toJsonItems each
      exact ⟨.array jsons, by rw [toJson, written]; rfl⟩
    | map entries =>
      obtain ⟨members, written⟩ := exists_toJsonEntries fun entry member =>
        ih entry.2 (List.mem_map_of_mem member)
      exact ⟨.object members, by rw [toJson, written]; rfl⟩
    | struct name fields =>
      obtain ⟨members, written⟩ := exists_toJsonFields fun field member =>
        ih field.2 (List.mem_map_of_mem member)
      exact ⟨.object members, by rw [toJson, written]; rfl⟩

/-! ### From JSON -/

theorem keys_ofJsonMembers (members : List (String × Json)) :
    ∀ entry ∈ ofJsonMembers members, ∃ name, entry.1 = .string name := by
  induction members with
  | nil => exact nofun
  | cons first rest ih => exact List.forall_mem_cons.mpr ⟨⟨first.1, rfl⟩, ih⟩

/-- Maps with names as keys have distinct keys, however their entries are given. -/
theorem distinctKeys_ofNames {entries : List (MapKey × Value)}
    (named : ∀ entry ∈ entries, ∃ name, entry.1 = .string name) :
    DistinctKeys (Entries.ofList entries) := by
  have distinct := Entries.nodup_keys_of_ascending (Entries.ascending_ofList entries)
  have same : (Entries.ofList entries).map (·.1.meaning) =
      ((Entries.ofList entries).map (·.1)).map MapKey.meaning := by simp
  unfold DistinctKeys
  rw [same]
  refine List.Nodup.map_on ?_ distinct
  intro key isKey key' isKey' denoted
  obtain ⟨entry, member, rfl⟩ := List.mem_map.mp isKey
  obtain ⟨entry', member', rfl⟩ := List.mem_map.mp isKey'
  obtain ⟨name, isName⟩ := named entry (Entries.mem_of_mem_ofList member)
  obtain ⟨name', isName'⟩ := named entry' (Entries.mem_of_mem_ofList member')
  rw [isName, isName'] at denoted ⊢
  cases denoted
  rfl

variable {p : Value → Prop} {q : Names → Prop}

mutual

/-- A property of sound and known values holds everywhere in what JSON denotes. -/
theorem everywhere_ofJson (kept : Kept p q) : ∀ json, Everywhere p (ofJson json)
  | .null => kept.everywhere_atomic atomic_null
  | .bool value => kept.everywhere_atomic (atomic_bool value)
  | .int n => by
    unfold ofJson
    split
    · exact kept.everywhere_atomic (atomic_int _)
    · exact kept.everywhere_atomic (atomic_uint _)
    · exact kept.everywhere_atomic (atomic_double _)
  | .double value => kept.everywhere_atomic (atomic_double value)
  | .string value => kept.everywhere_atomic (atomic_string value)
  | .array items => .intro (kept.ofSound rfl trivial) (everywhere_ofJsonItems kept items)
  | .object members => by
    have distinct := distinctKeys_ofNames (keys_ofJsonMembers members)
    refine .intro (kept.ofSound rfl distinct) fun part member => ?_
    obtain ⟨entry, isEntry, rfl⟩ := List.mem_map.mp member
    exact everywhere_ofJsonMembers kept members entry (Entries.mem_of_mem_ofList isEntry)

theorem everywhere_ofJsonItems (kept : Kept p q) :
    ∀ items, ∀ value ∈ ofJsonItems items, Everywhere p value
  | [] => nofun
  | item :: rest => List.forall_mem_cons.mpr ⟨everywhere_ofJson kept item, everywhere_ofJsonItems kept rest⟩

theorem everywhere_ofJsonMembers (kept : Kept p q) :
    ∀ members, ∀ entry ∈ ofJsonMembers members, Everywhere p entry.2
  | [] => nofun
  | (_, json) :: rest =>
    List.forall_mem_cons.mpr ⟨everywhere_ofJson kept json, everywhere_ofJsonMembers kept rest⟩

end

/-! ### Well-formed values -/

/-- Evaluation keeps values sound and known at every depth. -/
theorem kept_known_sound : Kept (fun value => value.Known ∧ value.Sound) fun _ => True where
  ofSound known sound := ⟨known, sound⟩
  known := And.left
  union _ _ := trivial

theorem everywhere_known_sound_iff {value : Value} :
    Everywhere (fun value => value.Known ∧ value.Sound) value ↔
      value.WellFormed ∧ value.UnknownFree := by
  constructor
  · exact fun everywhere => ⟨everywhere.mono fun _ => And.right, everywhere.mono fun _ => And.left⟩
  · exact fun ⟨wellFormed, unknownFree⟩ => unknownFree.both wellFormed

end Value

/-- Whether an activation binds only well-formed values without unknown ones inside. -/
def Activation.WellFormed (activation : Activation) : Prop :=
  ∀ name value, activation.value? name = some value → value.WellFormed ∧ value.UnknownFree

theorem Context.wellFormed_ofJson {json : Json} {context : Context}
    (read : ofJson json = .ok context) : context.activation.WellFormed := by
  cases json with
  | object members =>
    cases read
    intro name value found
    obtain ⟨stored, member⟩ := Entries.mem_of_find? found
    obtain ⟨entry, -, same⟩ := List.mem_map.mp (Entries.mem_of_mem_ofList member)
    cases same
    exact Value.everywhere_known_sound_iff.mp
      (Value.everywhere_ofJson Value.kept_known_sound entry.2)
  | _ => cases read

/-- Contexts from JSON are well-formed, and under well-formed bindings a program evaluates, unless to
an unknown value, to a well-formed one that can be written as JSON. -/
theorem Program.execute_wellFormed [Engines] :
    (∀ json context, Context.ofJson json = .ok context → context.activation.WellFormed) ∧
      ∀ (program : Program) (activation : Activation) (value : Value), activation.WellFormed →
        program.execute activation = .ok value → value.Known →
          value.WellFormed ∧ ∃ json, value.toJson = .ok json := by
  refine ⟨fun json context => Context.wellFormed_ofJson, ?_⟩
  intro program activation value wellFormed executed known
  have keeps : activation.Keeps (fun value => value.Known ∧ value.Sound) fun _ => True := by
    refine ⟨fun name value found => ?_, fun _ _ => trivial⟩
    exact Value.everywhere_known_sound_iff.mpr (wellFormed name value found)
  have given := Value.kept_known_sound.eval_givesOnly keeps (List.forall_mem_nil _) value executed
  have everywhere := (Value.keeps_iff_of_known known).mp given
  exact ⟨(Value.everywhere_known_sound_iff.mp everywhere).1, Value.exists_toJson everywhere⟩

/-- A map of a timestamp that is computed from a variable of a JSON context. -/
theorem Program.execute_wellFormed_timestamp :
    ∃ context program value, Context.ofJson (.object [("wait", .string "1h30m")]) = .ok context ∧
      compile .standard "\x7b1: timestamp(0) + duration(wait), 2u: [wait]\x7d" = .ok program ∧
      program.execute context.activation = .ok value ∧ value.Known ∧ value.WellFormed ∧
      ∃ json, value.toJson = .ok json := by
  obtain ⟨context, read⟩ :
      ∃ context, Context.ofJson (.object [("wait", .string "1h30m")]) = .ok context := ⟨_, rfl⟩
  have computed : (compile .standard "\x7b1: timestamp(0) + duration(wait), 2u: [wait]\x7d").toOption.any
      (fun program => (program.execute context.activation).toOption.any (!·.isUnknown)) = true := by
    cases read
    decide +kernel
  obtain ⟨program, compiled, evaluates⟩ := exists_ok_of_any computed
  obtain ⟨value, executed, notUnknown⟩ := exists_ok_of_any evaluates
  have known : value.Known := by simpa [Value.Known] using notUnknown
  have bound := execute_wellFormed.1 _ context read
  exact ⟨context, program, value, read, compiled, executed, known,
    execute_wellFormed.2 program context.activation value bound executed known⟩

end Cel
