/-! # Sets of code points

A set is given by the ascending code points at which membership changes. A code point belongs to
the set exactly when an odd number of those boundaries lie at or below it, so a table of a property
is one flat list and the complement needs no second table.
-/

namespace Cel.Text

/-- A set of code points, listed by the ascending points at which membership flips. -/
structure CodeSet where
  boundaries : List Nat
deriving DecidableEq, Repr

namespace CodeSet

/-- Membership of `point` past the boundaries already passed, the last of which left it `inside`. -/
def after (point : Nat) : Bool → List Nat → Bool
  | inside, [] => inside
  | inside, bound :: rest => if point < bound then inside else after point (!inside) rest

/-- Whether a code point belongs to the set. -/
def contains (set : CodeSet) (point : Nat) : Bool := after point false set.boundaries

/-- Whether a character belongs to the set. -/
def has (set : CodeSet) (c : Char) : Bool := set.contains c.toNat

end CodeSet

end Cel.Text
