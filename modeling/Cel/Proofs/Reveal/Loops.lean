import Cel.Proofs.Reveal.Persists

/-! # Connectives and loops persist

The connectives and the quantifiers `all` and `exists` may be decided by one operand although another
one is withheld or fails, and the remaining loops stop where something is withheld. Each of them
persists if its operands, or its body for every element, do.
-/

namespace Cel

variable {α β : Type}

open Outcome (Persists)

namespace Connective

variable {op : Connective} {left right left' right' : Outcome}

theorem combine_of_unknown (span : Span)
    (undecided : (left.isBool op.decisive || right.isBool op.decisive) = false) {names : Names}
    (withheld : left = .ok (.unknown names) ∨ right = .ok (.unknown names)) :
    ∃ all, op.combine span left right = .ok (.unknown all) := by
  simp only [combine, undecided]
  rcases withheld with rfl | rfl
  · cases right with
    | error error => exact ⟨names, rfl⟩
    | ok value => cases value <;> exact ⟨_, rfl⟩
  · cases left with
    | error error => exact ⟨names, rfl⟩
    | ok value => cases value <;> exact ⟨_, rfl⟩

theorem combine_of_error (span : Span)
    (undecided : (left.isBool op.decisive || right.isBool op.decisive) = false)
    (leftDefinite : left.Definite) (rightDefinite : right.Definite)
    (failed : (∃ error, left = .error error) ∨ ∃ error, right = .error error) :
    ∃ error, op.combine span left right = .error error := by
  simp only [combine, undecided]
  rcases failed with ⟨error, rfl⟩ | ⟨error, rfl⟩
  · cases right with
    | error other => exact ⟨error, rfl⟩
    | ok value =>
      cases value with
      | unknown names => exact absurd rfl (rightDefinite names)
      | _ => exact ⟨error, rfl⟩
  · cases left with
    | error other => exact ⟨other, rfl⟩
    | ok value =>
      cases value with
      | unknown names => exact absurd rfl (leftDefinite names)
      | _ => exact ⟨error, rfl⟩

theorem combine_persists (span : Span) (leftPersists : left.Persists left')
    (rightPersists : right.Persists right') :
    (op.combine span left right).Persists (op.combine span left' right') := by
  cases decided : left.isBool op.decisive || right.isBool op.decisive with
  | true =>
    have decided' : (left'.isBool op.decisive || right'.isBool op.decisive) = true := by
      rcases Bool.or_eq_true_iff.mp decided with byLeft | byRight
      · exact Bool.or_eq_true_iff.mpr (.inl (leftPersists.isBool byLeft))
      · exact Bool.or_eq_true_iff.mpr (.inr (rightPersists.isBool byRight))
    simp only [combine, decided, decided', if_true]
    exact Persists.refl _
  | false =>
    by_cases definite : left.Definite ∧ right.Definite
    · obtain ⟨leftDefinite, rightDefinite⟩ := definite
      have decided' : (left'.isBool op.decisive || right'.isBool op.decisive) = false := by
        rw [leftPersists.isBool_eq leftDefinite, rightPersists.isBool_eq rightDefinite, decided]
      by_cases failed : (∃ error, left = .error error) ∨ ∃ error, right = .error error
      · obtain ⟨error, gives⟩ :=
          combine_of_error span decided leftDefinite rightDefinite failed
        obtain ⟨other, gives'⟩ := combine_of_error span decided'
          (leftPersists.definite leftDefinite) (rightPersists.definite rightDefinite)
          (failed.imp leftPersists.failed rightPersists.failed)
        rw [gives, gives']
        exact Persists.of_error error other
      · obtain ⟨leftSucceeded, rightSucceeded⟩ := not_or.mp failed
        rw [leftPersists.eq_of_not_failed leftDefinite leftSucceeded,
          rightPersists.eq_of_not_failed rightDefinite rightSucceeded]
        exact Persists.refl _
    · -- An operand that is withheld makes the whole withheld, since the other does not decide.
      obtain ⟨names, withheld⟩ :
          ∃ names, left = .ok (.unknown names) ∨ right = .ok (.unknown names) := by
        simpa only [Outcome.Definite, ← not_exists, ← not_or, Classical.not_not, ← exists_or]
          using definite
      obtain ⟨all, gives⟩ := combine_of_unknown span decided withheld
      rw [gives]
      exact Persists.of_unknown all _

end Connective

namespace Loop

/-! ### Quantifiers that go on -/

section Search

variable {decisive : Bool} {span : Span}

/-- With an unknown element behind it, a search is decided or unknown. -/
theorem search_of_pending_unknown {test : α → Outcome} {pending : Pending}
    (withheld : pending.unknown.isSome) (elements : List α) :
    search decisive span test pending elements = .ok (.bool decisive) ∨
      ∃ names, search decisive span test pending elements = .ok (.unknown names) := by
  induction elements generalizing pending with
  | nil =>
    obtain ⟨names, found⟩ := Option.isSome_iff_exists.mp withheld
    exact .inr ⟨names, by simp only [search, Pending.conclude, found]⟩
  | cons element rest ih =>
    unfold search
    split
    · split
      · exact .inl rfl
      · exact ih withheld
    · exact ih rfl
    · exact ih withheld
    · exact ih withheld

/-- A search persists if the test of each element does. As long as nothing withheld has been met,
the two runs have the same reason to fail, or both none. -/
theorem search_persists {test test' : α → Outcome}
    (tests : ∀ element, (test element).Persists (test' element)) {pending pending' : Pending}
    (before : pending.unknown = none →
      pending'.unknown = none ∧ pending'.error.isSome = pending.error.isSome)
    (elements : List α) :
    (search decisive span test pending elements).Persists
      (search decisive span test' pending' elements) := by
  induction elements generalizing pending pending' with
  | nil =>
    simp only [search, Pending.conclude]
    cases unknown : pending.unknown with
    | some names => exact Persists.of_unknown names _
    | none =>
      obtain ⟨noUnknown, sameError⟩ := before unknown
      rw [noUnknown]
      cases failed : pending.error with
      | none =>
        rw [failed] at sameError
        rw [Option.isSome_eq_false_iff.mp sameError |> Option.isNone_iff_eq_none.mp]
        exact Persists.refl _
      | some error =>
        rw [failed] at sameError
        obtain ⟨other, failed'⟩ := Option.isSome_iff_exists.mp sameError
        rw [failed']
        exact Persists.of_error error other
  | cons element rest ih =>
    have failing (error other : EvalError) :
        (search decisive span test (pending.withError error) rest).Persists
          (search decisive span test' (pending'.withError other) rest) :=
      ih fun noUnknown => ⟨(before noUnknown).1, rfl⟩
    rcases (tests element).cases with
      ⟨names, withheld⟩ | ⟨value, known, same, same'⟩ | ⟨error, other, failed, failed'⟩
    · -- From here on the first run can only be decided or unknown. So it does not matter whether
      -- the second run is decided by this element, or what else it remembers of it.
      have later (remembered : Pending) :
          (search decisive span test (pending.withUnknown names) rest).Persists
            (search decisive span test' remembered rest) := ih nofun
      have decides : (search decisive span test (pending.withUnknown names) rest).Persists
          (.ok (.bool decisive)) := by
        have remembered : (pending.withUnknown names).unknown.isSome := rfl
        rcases search_of_pending_unknown remembered rest with decided | ⟨all, unknown⟩
        · rw [decided]
          exact Persists.refl _
        · rw [unknown]
          exact Persists.of_unknown all _
      simp only [search, withheld]
      split
      · split
        · exact decides
        · exact later _
      · exact later _
      · exact later _
      · exact later _
    · simp only [search, same, same']
      cases value with
      | unknown names => exact absurd known Value.not_known_unknown
      | bool b =>
        simp only
        split
        · exact Persists.refl _
        · exact ih before
      | _ => exact failing _ _
    · simp only [search, failed, failed']
      exact failing error other

end Search

/-! ### Loops that stop -/

/-- Whether a loop stops because something is withheld. -/
def Stop.IsUnknown : Stop → Prop
  | .unknown _ => True
  | .error _ => False

/-- The truth of a predicate persists; a predicate that is withheld stops the loop. -/
theorem truth_persists (span : Span) {withheld revealed : Outcome}
    (persists : withheld.Persists revealed) :
    Cel.Persists Stop.IsUnknown (fun _ => True) (truth span withheld) (truth span revealed) := by
  rcases persists.cases with
    ⟨names, rfl⟩ | ⟨value, known, rfl, rfl⟩ | ⟨error, other, rfl, rfl⟩
  · exact Cel.Persists.open_error trivial _
  · cases value with
    | unknown names => exact absurd known Value.not_known_unknown
    | bool b => exact Cel.Persists.ok b
    | _ => exact Cel.Persists.error not_false
  · exact Cel.Persists.error not_false

/-- The value of a body persists, and never stops the loop for being withheld. -/
theorem valueOf_persists {withheld revealed : Outcome} (persists : withheld.Persists revealed) :
    Cel.Persists Stop.IsUnknown Value.Known (valueOf withheld) (valueOf revealed) := by
  have closed (stop : Stop) (failed : valueOf revealed = .error stop) : ¬stop.IsUnknown := by
    cases revealed with
    | ok value => cases failed
    | error error =>
      cases failed
      exact not_false
  rcases persists.cases with
    ⟨names, rfl⟩ | ⟨value, -, rfl, rfl⟩ | ⟨error, other, rfl, rfl⟩
  · exact Cel.Persists.unknown Value.not_known_unknown closed
  · exact Cel.Persists.ok value
  · exact Cel.Persists.error not_false

theorem count_persists {holds holds' : α → Except Stop Bool}
    (persists : ∀ element,
      Cel.Persists Stop.IsUnknown (fun _ => True) (holds element) (holds' element))
    (elements : List α) :
    Cel.Persists Stop.IsUnknown (fun _ => True) (count holds elements) (count holds' elements) := by
  induction elements with
  | nil => exact Cel.Persists.ok 0
  | cons element rest ih =>
    refine (persists element).bind (fun held _ => ?_) fun _ lost => absurd trivial lost
    exact ih.bind (fun others _ => Cel.Persists.ok _) fun _ lost => absurd trivial lost

/-- What is gathered persists if each step does; it is known if all that is made is known. -/
theorem gather_persists {known : β → Prop} {step step' : α → Except Stop (Option β)}
    (persists : ∀ element, Cel.Persists Stop.IsUnknown (fun made => ∀ value ∈ made, known value)
      (step element) (step' element))
    (elements : List α) :
    Cel.Persists Stop.IsUnknown (fun made => ∀ value ∈ made, known value) (gather step elements)
      (gather step' elements) := by
  induction elements with
  | nil => exact Cel.Persists.ok []
  | cons element rest ih =>
    have joined (made : Option β) (others : List β) :
        (∀ value ∈ made.toList ++ others, known value) →
          (∀ value ∈ made, known value) ∧ ∀ value ∈ others, known value := by
      intro all
      refine ⟨fun value member => ?_, fun value member => ?_⟩
      · exact all value (List.mem_append_left others (Option.mem_toList.mpr member))
      · exact all value (List.mem_append_right made.toList member)
    exact (persists element).map₂ ih (fun made others => made.toList ++ others) joined

/-- The element that a filter keeps is the same in both runs. -/
theorem keep_persists {holds holds' : α → Except Stop Bool}
    (persists : ∀ element,
      Cel.Persists Stop.IsUnknown (fun _ => True) (holds element) (holds' element))
    (element : α) :
    Cel.Persists Stop.IsUnknown (fun made => ∀ value ∈ made, True) (keep holds element)
      (keep holds' element) :=
  (persists element).bind (fun _ _ => Cel.Persists.ok _) fun _ lost => absurd trivial lost

theorem some_persists {withheld revealed : Except Stop Value}
    (persists : Cel.Persists Stop.IsUnknown Value.Known withheld revealed) :
    Cel.Persists Stop.IsUnknown (fun made => ∀ value ∈ made, value.Known)
      (do return some (← withheld)) (do return some (← revealed)) := by
  refine persists.bind (fun _ _ => Cel.Persists.ok _) fun value lost => ?_
  refine ⟨⟨some value, rfl, fun known => lost (known value rfl)⟩, fun _ _ failed => nomatch failed⟩

theorem finish_persists {withheld revealed : Except Stop Value}
    (persists : Cel.Persists Stop.IsUnknown Value.Known withheld revealed) :
    (finish withheld).Persists (finish revealed) := by
  cases withheld with
  | ok value =>
    by_cases known : value.Known
    · rw [persists.1 known]
      exact Persists.refl _
    · obtain ⟨names, rfl⟩ := Value.not_known_iff.mp known
      exact Persists.of_unknown names _
  | error stop =>
    cases stop with
    | unknown names => exact Persists.of_unknown names _
    | error error =>
      obtain impossible | ⟨other, rfl, closed⟩ := persists
      · exact impossible.elim
      · cases other with
        | unknown names => exact absurd trivial closed
        | error other => exact Persists.of_error error other

/-- The list of what a loop makes persists; it is unknown if something in it is. -/
theorem listOf_persists {made made' : Except Stop (List Value)}
    (persists : Cel.Persists Stop.IsUnknown (fun values => ∀ value ∈ values, value.Known) made
      made') :
    (finish (do return Value.listOf (← made))).Persists
      (finish (do return Value.listOf (← made'))) := by
  refine finish_persists (persists.bind (fun _ _ => Cel.Persists.ok _) fun values lost => ?_)
  obtain ⟨names, gives⟩ := Value.listOf_of_unknown lost
  refine ⟨⟨.unknown names, ?_, Value.not_known_unknown⟩, fun _ _ failed => nomatch failed⟩
  rw [gives]
  rfl

/-- A loop persists if its range does, and if it does so over the same elements. -/
theorem overRange_persists (span : Span) {range range' : Outcome}
    (ranges : range.Persists range') (elements? : Value → Option (List α))
    {loop loop' : List α → Outcome} (loops : ∀ elements, (loop elements).Persists (loop' elements)) :
    Outcome.Persists (do overRange span (← range) elements? loop)
      (do overRange span (← range') elements? loop') := by
  refine ranges.bind (fun value _ => ?_) fun value lost => ?_
  · unfold overRange
    split
    · exact Persists.refl _
    · split
      · exact loops _
      · exact Persists.refl _
  · obtain ⟨names, rfl⟩ := Value.not_known_iff.mp lost
    exact ⟨⟨.unknown names, rfl, Value.not_known_unknown⟩, fun _ _ _ => not_false⟩

end Loop

end Cel
