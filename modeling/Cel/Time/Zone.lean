import Cel.Engines
import Cel.Number.Numeral
import Cel.Text.Visible
import Cel.Time.Timestamp

/-! # Time zones

A time zone is a fixed offset from universal time, or a named zone, whose offset may depend on the
moment.
-/

namespace Cel.Time

inductive Zone where
  | named (name : String) (ahead : Int → Int)
  | fixed (offset : Int)

namespace Zone

/-- A field of an offset: one or two digits, at most `most`. -/
def field? (digits : List Char) (most : Nat) : Option Nat :=
  if digits.length ≤ 2 then (Number.nat? digits).filter (· ≤ most) else none

/-- An offset in seconds, written as hours and minutes with an optional sign. -/
def offset? (text : List Char) : Option Int := do
  let (negative, rest) := Number.sign text
  match rest.dropWhile (· ≠ ':') with
  | _ :: minutes =>
    let hours ← field? (rest.takeWhile (· ≠ ':')) 23
    let minutes ← field? minutes 59
    let seconds : Int := hours * 3600 + minutes * 60
    return if negative then -seconds else seconds
  | [] => none

/-- A text without the blanks at both ends. -/
def trim (text : List Char) : List Char :=
  ((text.dropWhile Text.whiteSpace.has).reverse.dropWhile Text.whiteSpace.has).reverse

/-- Read the name of a zone, or else a fixed offset. -/
def read? [Engines] (text : String) : Option Zone :=
  match Engines.zone? text with
  | some ahead => some (.named text ahead)
  | none => (offset? (trim text.toList)).map .fixed

/-- The message about a text that is no time zone. -/
def faultMessage (text : String) : String := s!"invalid time zone '{text}'"

/-- How many seconds the clocks of the zone are ahead of universal time at a moment. -/
def offset (zone : Zone) (seconds : Int) : Int :=
  match zone with
  | fixed offset => offset
  | named _ ahead => ahead seconds

end Zone

end Cel.Time

namespace Cel.Timestamp

/-- What a clock in a zone shows. -/
def clockIn? (t : Timestamp) (zone : Time.Zone) : Option Time.Clock :=
  t.clock? (zone.offset t.seconds.toInt)

end Cel.Timestamp
