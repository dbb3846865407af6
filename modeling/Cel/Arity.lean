/-! # Argument counts

How many arguments a function or a macro takes.
-/

namespace Cel

/-- A set of admissible argument counts. -/
inductive Arity where
  | exactly (count : Nat)
  | between (least most : Nat)
  | atLeast (least : Nat)
deriving DecidableEq, Repr

namespace Arity

/-- Whether a call may have `count` arguments. -/
def admits : Arity → Nat → Bool
  | exactly expected, count => count == expected
  | between least most, count => least ≤ count && count ≤ most
  | atLeast least, count => least ≤ count

/-- The way an argument count is described in messages. -/
def text : Arity → String
  | exactly count => toString count
  | between least most =>
    if most = least + 1 then s!"{least} or {most}" else s!"{least} to {most}"
  | atLeast least => s!"at least {least}"

end Arity

end Cel
