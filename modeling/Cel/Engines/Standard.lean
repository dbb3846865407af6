import Cel.Engines
import Cel.Pattern.Reader
import Cel.Time.Rules

/-! # The standard engines

The engines that programs run on: patterns are read and matched as written out here, and the zones are
those of a short table.
-/

namespace Cel

/-- A pattern as a compiled one. -/
def Pattern.regex (pattern : Pattern) : Regex := ⟨pattern.matchesIn⟩

instance Engines.standard : Engines where
  compile source :=
    match Pattern.read source with
    | .ok pattern => .ok pattern.regex
    | .error fault => .error fault.message
  zone? name := (Time.ZoneRules.table.lookup name).map Time.ZoneRules.ahead
  universal := rfl
  noColon := by
    intro name ahead found
    obtain ⟨rules, isListed, -⟩ := Option.map_eq_some_iff.mp found
    obtain ⟨before, after, isTable, -⟩ := List.lookup_eq_some_iff.mp isListed
    have isZone : (name, rules) ∈ Time.ZoneRules.table := by
      rw [isTable]
      exact List.mem_append_right before List.mem_cons_self
    have noColon : ∀ zone ∈ Time.ZoneRules.table, ':' ∉ zone.1.toList := by decide
    exact noColon _ isZone

end Cel
