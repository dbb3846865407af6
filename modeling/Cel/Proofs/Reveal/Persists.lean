import Cel.Eval

/-! # Results that persist

Two runs of one computation are compared: in the first some inputs are withheld, in the second they
may be revealed. The first result persists if the second run has to repeat it: a known value comes
out again, and a failure stays a failure, possibly another one. A value that is not known, or an end
that only says that something is withheld, binds the second run to nothing, except that the second
run must not give up for want of an input where the first one went on.
-/

namespace Cel

variable {ε α β γ : Type}

/-- Whether the result of a run with withheld inputs persists in another run. `isOpen` holds of the
ends of a run that only say that something is withheld. -/
def Persists (isOpen : ε → Prop) (known : α → Prop) : Except ε α → Except ε α → Prop
  | .ok value, revealed =>
    (known value → revealed = .ok value) ∧ ∀ stop, revealed = .error stop → ¬isOpen stop
  | .error stop, revealed => isOpen stop ∨ ∃ other, revealed = .error other ∧ ¬isOpen other

namespace Persists

variable {isOpen : ε → Prop} {known : α → Prop} {known' : β → Prop}

theorem ok (value : α) : Persists isOpen known (.ok value) (.ok value) :=
  ⟨fun _ => rfl, fun _ failed => nomatch failed⟩

theorem error {stop other : ε} (closed : ¬isOpen other) :
    Persists isOpen known (.error stop) (.error other) :=
  .inr ⟨other, rfl, closed⟩

theorem open_error {stop : ε} (isOpen' : isOpen stop) (revealed : Except ε α) :
    Persists isOpen known (.error stop) revealed := .inl isOpen'

theorem unknown {value : α} (notKnown : ¬known value) {revealed : Except ε α}
    (closed : ∀ stop, revealed = .error stop → ¬isOpen stop) :
    Persists isOpen known (.ok value) revealed :=
  ⟨fun isKnown => absurd isKnown notKnown, closed⟩

/-- What is done with a result persists if it does so for every known value, and gives no known
result for a value that is not known. -/
theorem bind {withheld revealed : Except ε α} {next next' : α → Except ε β}
    (first : Persists isOpen known withheld revealed)
    (step : ∀ value, known value → Persists isOpen known' (next value) (next' value))
    (lost : ∀ value, ¬known value → (∃ result, next value = .ok result ∧ ¬known' result) ∧
      ∀ other stop, next' other = .error stop → ¬isOpen stop) :
    Persists isOpen known' (withheld >>= next) (revealed >>= next') := by
  cases withheld with
  | error stop =>
    rcases first with stopOpen | ⟨other, rfl, closed⟩
    · exact .inl stopOpen
    · exact error closed
  | ok value =>
    by_cases isKnown : known value
    · rw [first.1 isKnown]
      exact step value isKnown
    · obtain ⟨⟨result, gives, notKnown⟩, closed⟩ := lost value isKnown
      change Persists isOpen known' (next value) _
      rw [gives]
      refine unknown notKnown fun stop failed => ?_
      cases revealed with
      | error other => exact first.2 stop (by simpa [Bind.bind, Except.bind] using failed)
      | ok other => exact closed other stop failed

/-- Two computations after each other persist as a pair, which is known if both values are. -/
theorem pair {first first' : Except ε α} {second second' : Except ε β}
    (left : Persists isOpen known first first') (right : Persists isOpen known' second second') :
    Persists isOpen (fun values : α × β => known values.1 ∧ known' values.2)
      (do let a ← first; let b ← second; return (a, b))
      (do let a ← first'; let b ← second'; return (a, b)) := by
  cases first with
  | error stop =>
    rcases left with stopOpen | ⟨other, rfl, closed⟩
    · exact .inl stopOpen
    · exact error closed
  | ok a =>
    cases second with
    | error stop =>
      rcases right with stopOpen | ⟨other, rfl, closed⟩
      · exact .inl stopOpen
      · -- The second computation fails in both runs, unless the first one fails before it.
        cases first' with
        | error before => exact error (left.2 before rfl)
        | ok a' => exact error closed
    | ok b =>
      refine ⟨fun isKnown => ?_, fun stop failed => ?_⟩
      · rw [left.1 isKnown.1, right.1 isKnown.2]
        rfl
      · cases first' with
        | error before => cases failed; exact left.2 _ rfl
        | ok a' =>
          cases second' with
          | error after => cases failed; exact right.2 _ rfl
          | ok b' => cases failed

/-- Two results that are put together persist if the whole is known only when both parts are. -/
theorem map₂ {known'' : γ → Prop} {first first' : Except ε α} {second second' : Except ε β}
    (left : Persists isOpen known first first') (right : Persists isOpen known' second second')
    (join : α → β → γ) (parts : ∀ a b, known'' (join a b) → known a ∧ known' b) :
    Persists isOpen known'' (do let a ← first; let b ← second; return join a b)
      (do let a ← first'; let b ← second'; return join a b) := by
  let joined (values : α × β) : Except ε γ := pure (join values.1 values.2)
  have together : Persists isOpen known'' (_ >>= joined) (_ >>= joined) :=
    (left.pair right).bind (fun values _ => ok _) fun values lost =>
      ⟨⟨_, rfl, mt (parts values.1 values.2) lost⟩, fun _ _ failed => nomatch failed⟩
  simpa only [joined, bind_assoc, pure_bind] using together

end Persists

/-! ### Known values -/

namespace Value

/-- Whether a value is not the unknown one. -/
def Known (value : Value) : Prop := value.isUnknown = false

theorem not_known_iff {value : Value} : ¬value.Known ↔ ∃ names, value = .unknown names := by
  cases value <;> simp [Known, isUnknown]

@[simp] theorem not_known_unknown {names : Names} : ¬(unknown names).Known :=
  not_known_iff.mpr ⟨names, rfl⟩

theorem unknowns?_eq_none_iff {values : List Value} :
    unknowns? values = none ↔ ∀ value ∈ values, value.Known := by
  induction values with
  | nil => simp [unknowns?]
  | cons value rest ih => cases value <;> simp [unknowns?, ih, Known, isUnknown]

/-- An unknown value among others makes them unknown together. -/
theorem exists_unknowns?_eq_some {values : List Value}
    (withheld : ¬∀ value ∈ values, value.Known) : ∃ names, unknowns? values = some names :=
  Option.ne_none_iff_exists'.mp (mt unknowns?_eq_none_iff.mp withheld)

theorem ifKnown_of_unknown {operands : List Value}
    (withheld : ¬∀ value ∈ operands, value.Known) (result : Except EvalError.Cause Value) :
    ∃ names, ifKnown operands result = .ok (.unknown names) := by
  obtain ⟨names, found⟩ := exists_unknowns?_eq_some withheld
  exact ⟨names, by simp only [ifKnown, found]⟩

theorem ifKnown_pair {a b : Value} (known : a.Known) (known' : b.Known)
    (result : Except EvalError.Cause Value) : ifKnown [a, b] result = result := by
  have none : unknowns? [a, b] = none :=
    unknowns?_eq_none_iff.mpr (List.forall_mem_cons.mpr ⟨known, List.forall_mem_singleton.mpr known'⟩)
  simp only [ifKnown, none]

theorem listOf_of_unknown {items : List Value} (withheld : ¬∀ value ∈ items, value.Known) :
    ∃ names, listOf items = .unknown names := by
  obtain ⟨names, found⟩ := exists_unknowns?_eq_some withheld
  exact ⟨names, by simp only [listOf, found]⟩

end Value

/-! ### Outcomes -/

namespace Outcome

/-- Whether an outcome persists when more variables are revealed. -/
def Persists (withheld revealed : Outcome) : Prop :=
  Cel.Persists (fun _ => False) Value.Known withheld revealed

variable {isKnown : α → Prop} {isKnown' : β → Prop}

theorem Persists.refl (outcome : Outcome) : outcome.Persists outcome := by
  cases outcome with
  | ok value => exact Cel.Persists.ok value
  | error error => exact Cel.Persists.error not_false

theorem Persists.of_unknown (names : Names) (revealed : Outcome) :
    Persists (.ok (.unknown names)) revealed :=
  Cel.Persists.unknown Value.not_known_unknown fun _ _ => not_false

theorem Persists.of_error (error other : EvalError) : Persists (.error error) (.error other) :=
  Cel.Persists.error not_false

/-- What an outcome that persists can be, and what it then becomes. -/
theorem Persists.cases {withheld revealed : Outcome} (persists : withheld.Persists revealed) :
    (∃ names, withheld = .ok (.unknown names)) ∨
      (∃ value, value.Known ∧ withheld = .ok value ∧ revealed = .ok value) ∨
      ∃ error other, withheld = .error error ∧ revealed = .error other := by
  cases withheld with
  | error error =>
    rcases persists with impossible | ⟨other, same, -⟩
    · exact impossible.elim
    · exact .inr (.inr ⟨error, other, rfl, same⟩)
  | ok value =>
    by_cases known : value.Known
    · exact .inr (.inl ⟨value, known, rfl, persists.1 known⟩)
    · obtain ⟨names, rfl⟩ := Value.not_known_iff.mp known
      exact .inl ⟨names, rfl⟩

/-- Whether an outcome is a known value or a failure. -/
def Definite (outcome : Outcome) : Prop := ∀ names, outcome ≠ .ok (.unknown names)

theorem Persists.definite {withheld revealed : Outcome} (persists : withheld.Persists revealed)
    (definite : withheld.Definite) : revealed.Definite := by
  rcases persists.cases with ⟨names, same⟩ | ⟨value, -, same, same'⟩ | ⟨error, other, -, same'⟩
  · exact absurd same (definite names)
  · rwa [same', ← same]
  · rw [same']
    exact nofun

theorem Persists.failed {withheld revealed : Outcome} (persists : withheld.Persists revealed)
    (failed : ∃ error, withheld = .error error) : ∃ other, revealed = .error other := by
  obtain ⟨error, rfl⟩ := failed
  obtain impossible | ⟨other, same, -⟩ := persists
  · exact impossible.elim
  · exact ⟨other, same⟩

/-- A definite outcome that is no failure comes out again. -/
theorem Persists.eq_of_not_failed {withheld revealed : Outcome}
    (persists : withheld.Persists revealed) (definite : withheld.Definite)
    (succeeded : ¬∃ error, withheld = .error error) : revealed = withheld := by
  rcases persists.cases with ⟨names, same⟩ | ⟨value, -, same, same'⟩ | ⟨error, other, same, -⟩
  · exact absurd same (definite names)
  · rw [same, same']
  · exact absurd ⟨error, same⟩ succeeded

/-- Whether a definite outcome is a given boolean does not change. -/
theorem Persists.isBool_eq {withheld revealed : Outcome} (persists : withheld.Persists revealed)
    (definite : withheld.Definite) (expected : Bool) :
    revealed.isBool expected = withheld.isBool expected := by
  rcases persists.cases with ⟨names, same⟩ | ⟨value, -, same, same'⟩ | ⟨error, other, same, same'⟩
  · exact absurd same (definite names)
  · rw [same, same']
  · rw [same, same']
    rfl

theorem Persists.isBool {expected : Bool} {withheld revealed : Outcome}
    (persists : withheld.Persists revealed) (decided : withheld.isBool expected = true) :
    revealed.isBool expected = true := by
  have definite : withheld.Definite := by
    rintro names rfl
    cases decided
  rw [persists.isBool_eq definite, decided]

/-- An operation on a result persists if it is unknown wherever the result is not known. -/
theorem Persists.apply {withheld revealed : Except EvalError α}
    (first : Cel.Persists (fun _ => False) isKnown withheld revealed) {next : α → Outcome}
    (lost : ∀ value, ¬isKnown value → ∃ names, next value = .ok (.unknown names)) :
    Persists (withheld >>= next) (revealed >>= next) := by
  refine first.bind (fun value _ => Persists.refl (next value)) fun value notKnown => ?_
  obtain ⟨names, gives⟩ := lost value notKnown
  exact ⟨⟨.unknown names, gives, Value.not_known_unknown⟩, fun _ _ _ => not_false⟩

/-- An operation on two results persists if it is unknown wherever one of them is not known. -/
theorem Persists.apply₂ {first first' : Except EvalError α} {second second' : Except EvalError β}
    (left : Cel.Persists (fun _ => False) isKnown first first')
    (right : Cel.Persists (fun _ => False) isKnown' second second') {next : α → β → Outcome}
    (lost : ∀ a b, ¬(isKnown a ∧ isKnown' b) → ∃ names, next a b = .ok (.unknown names)) :
    Persists (do let a ← first; let b ← second; next a b)
      (do let a ← first'; let b ← second'; next a b) := by
  let applied (values : α × β) : Outcome := next values.1 values.2
  have together : Persists (_ >>= applied) (_ >>= applied) :=
    Persists.apply (left.pair right) fun values notKnown => lost values.1 values.2 notKnown
  simpa only [applied, bind_assoc, pure_bind] using together

end Outcome

end Cel
