import Cel.Value

/-! # Properties at every depth

A value has parts: the items of a list, the values of a map, the fields of a struct. A property holds
everywhere in a value if it holds of the value and everywhere in its parts.
-/

namespace Cel.Value

/-- The values that stand directly inside a value. -/
def parts : Value → List Value
  | list items => items
  | map entries => entries.map (·.2)
  | struct _ fields => fields.map (·.2)
  | _ => []

/-- Whether a property holds of a value and of everything inside it. -/
inductive Everywhere (p : Value → Prop) : Value → Prop where
  | intro {value : Value} (here : p value) (inside : ∀ part ∈ value.parts, Everywhere p part) :
    Everywhere p value

namespace Everywhere

variable {p q : Value → Prop} {value : Value}

theorem here (everywhere : Everywhere p value) : p value := by
  cases everywhere with
  | intro here _ => exact here

theorem inside (everywhere : Everywhere p value) : ∀ part ∈ value.parts, Everywhere p part := by
  cases everywhere with
  | intro _ inside => exact inside

/-- What holds of a value without parts holds everywhere in it. -/
theorem of_parts_eq_nil (here : p value) (flat : value.parts = []) : Everywhere p value := by
  refine .intro here fun part member => ?_
  rw [flat] at member
  cases member

theorem mono (implies : ∀ value, p value → q value) (everywhere : Everywhere p value) :
    Everywhere q value := by
  induction everywhere with
  | intro here _ ih => exact .intro (implies _ here) ih

/-- Two properties that hold everywhere hold together everywhere. -/
theorem both (first : Everywhere p value) (second : Everywhere q value) :
    Everywhere (fun value => p value ∧ q value) value := by
  induction first with
  | intro here _ ih =>
    refine .intro ⟨here, second.here⟩ fun part member => ?_
    exact ih part member (second.inside part member)

end Everywhere

end Cel.Value
