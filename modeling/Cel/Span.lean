/-! # Places in a source text

A span is a half-open range of byte offsets into the UTF-8 form of a source text.
-/

namespace Cel

/-- The bytes from `start` up to but not including `stop`. -/
structure Span where
  start : Nat
  stop : Nat
deriving DecidableEq, Repr

namespace Span

/-- From the start of one span to the end of another. -/
def through (first last : Span) : Span := ⟨first.start, last.stop⟩

/-- The empty span at an offset. -/
def point (offset : Nat) : Span := ⟨offset, offset⟩

/-- The span in the form `start..stop`. -/
def text (span : Span) : String := s!"{span.start}..{span.stop}"

end Span

/-- A thing together with where it stands in the source. -/
structure Located (α : Type) where
  item : α
  span : Span
deriving DecidableEq, Repr

end Cel
