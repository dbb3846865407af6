/-! # Engines

Patterns and the names of time zones are left to two engines. An engine gives the same answer whenever
it is asked the same, and nothing else is known of how it comes to it.
-/

namespace Cel

/-- A compiled pattern is known by the texts in which it occurs. -/
structure Regex where
  isMatch : String → Bool

instance : Repr Regex := ⟨fun _ _ => "regex"⟩

/-- The engines behind an evaluation. -/
class Engines where
  /-- Compile a pattern, or say why it is none. -/
  compile : String → Except String Regex
  /-- The zone of a name: how many seconds its clocks are ahead of universal time at a moment, which is
  counted in seconds since the first moment of 1970. -/
  zone? : String → Option (Int → Int)
  /-- Universal time is a zone of its own. -/
  universal : zone? "UTC" = some fun _ => 0
  /-- The names of zones are made of letters, digits and the signs `/`, `_`, `-` and `+`. -/
  noColon : ∀ {name : String} {ahead : Int → Int}, zone? name = some ahead → ':' ∉ name.toList

end Cel
