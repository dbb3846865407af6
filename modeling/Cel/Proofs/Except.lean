/-! # Computations that may fail -/

namespace Cel

/-- After a success, the next step takes its value. -/
theorem bind_eq_of_eq_ok {ε α β : Type} {first : Except ε α} {next : α → Except ε β} {value : α}
    (succeeds : first = .ok value) : (first >>= next) = next value := by
  rw [succeeds]
  rfl

/-- A computation in two steps succeeds if both do. -/
theorem bind_eq_ok_iff {ε α β : Type} {first : Except ε α} {next : α → Except ε β} {result : β} :
    (first >>= next) = .ok result ↔ ∃ value, first = .ok value ∧ next value = .ok result := by
  cases first with
  | error error => exact ⟨nofun, fun ⟨_, isOk, _⟩ => nomatch isOk⟩
  | ok value =>
    constructor
    · exact fun gives => ⟨value, rfl, gives⟩
    · rintro ⟨_, ⟨⟩, gives⟩
      exact gives

theorem map_eq_ok_iff {ε α β : Type} {f : α → β} {result : Except ε α} {value : β} :
    result.map f = .ok value ↔ ∃ found, result = .ok found ∧ f found = value := by
  cases result with
  | error error => exact ⟨nofun, fun ⟨_, isOk, _⟩ => nomatch isOk⟩
  | ok found =>
    constructor
    · exact fun same => ⟨found, rfl, Except.ok.inj same⟩
    · rintro ⟨_, ⟨⟩, rfl⟩
      rfl

/-- To change the failures of a computation in two steps is to change those of each step. -/
theorem mapError_bind {ε ε' α β : Type} (f : ε → ε') (first : Except ε α) (next : α → Except ε β) :
    (first >>= next).mapError f = first.mapError f >>= fun value => (next value).mapError f := by
  cases first <;> rfl

@[simp] theorem mapError_eq_ok_iff {ε ε' α : Type} {f : ε → ε'} {result : Except ε α} {value : α} :
    result.mapError f = .ok value ↔ result = .ok value := by
  cases result with
  | error error => constructor <;> rintro ⟨⟩
  | ok found =>
    change Except.ok found = .ok value ↔ _
    rw [Except.ok.injEq, Except.ok.injEq]

/-- Two computations in two steps agree if the steps agree, where `g` says how the values between them
correspond. -/
theorem bind_eq_of_corresponds {ε ε' α α' β β' : Type} {f : ε → ε'} {g : α → α'} {h : β → β'}
    {first : Except ε α} {first' : Except ε' α'} {next : α → Except ε β} {next' : α' → Except ε' β'}
    (same : first' = (first.mapError f).map g)
    (sameNext : ∀ value, next' (g value) = ((next value).mapError f).map h) :
    (first' >>= next') = ((first >>= next).mapError f).map h := by
  rw [same]
  cases first with
  | error error => rfl
  | ok value => exact sameNext value

/-- The same where the first steps give equal values. -/
theorem bind_eq_of_mapError {ε ε' α β β' : Type} {f : ε → ε'} {h : β → β'} {first : Except ε α}
    {first' : Except ε' α} {next : α → Except ε β} {next' : α → Except ε' β'}
    (same : first' = first.mapError f)
    (sameNext : ∀ value, next' value = ((next value).mapError f).map h) :
    (first' >>= next') = ((first >>= next).mapError f).map h :=
  bind_eq_of_corresponds (g := id) (by rw [same, Except.map_id, id]) sameNext

/-- That a result is an error can be computed. -/
theorem exists_error_of_isNone {ε α : Type} {result : Except ε α}
    (computed : result.toOption.isNone = true) : ∃ error, result = .error error := by
  cases result with
  | error error => exact ⟨error, rfl⟩
  | ok value => cases computed

end Cel
