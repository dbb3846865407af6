import Mathlib.Data.List.Forall2
import Cel.Engines.Standard
import Cel.Proofs.Check.Shape
import Cel.Proofs.Reveal.Persists

/-! # Filtering and mapping

A loop that tests each element and maps those that pass gives the same lists as a filter that is followed
by a map. The one meets the bodies in between the tests, the other after all of them. So they need not
fail alike, but both give a list only if every test is decided and every body that counts has a value.
-/

namespace Cel

namespace Loop

variable {α β : Type} {span : Span} {outcome : Outcome}

/-! ### Outcomes that are lists -/

end Loop

/-! ### Terms -/

namespace Eval

variable [Engines] {activation : Activation} {locals : List Value} {span span' : Span}
  {name name' : String} {range test body : Term} {items : List Value}

end Eval

/-! ### Expressions -/

namespace Check

section Forms

variable [Engines] {scope : List String} {x : String} {range test body : Expr Unit} {term : Term}

end Forms

end Check

end Cel
