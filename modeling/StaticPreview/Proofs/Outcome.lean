/-
# StaticPreview.Proofs.Outcome -- steps that can fail, one after another

A chain of steps succeeds exactly when each step does on what the one before it
gave; `exists_of_bind_eq_ok` takes such a chain apart from the front.
-/
namespace StaticPreview

variable {ε α β : Type} {x : Except ε α} {f : α → Except ε β}

/-- A chain that succeeds has a first step that does. -/
theorem exists_of_bind_eq_ok {b : β} (h : x >>= f = .ok b) : ∃ a, x = .ok a ∧ f a = .ok b := by
  cases x with
  | error e => exact absurd h (by simp [bind, Except.bind])
  | ok a => exact ⟨a, rfl, h⟩

/-- A chain whose first step succeeds goes on with what that gave. -/
theorem bind_of_eq_ok {a : α} (h : x = .ok a) : x >>= f = f a := by
  rw [h]
  rfl

theorem bind_eq_ok_iff {b : β} : x >>= f = .ok b ↔ ∃ a, x = .ok a ∧ f a = .ok b :=
  ⟨exists_of_bind_eq_ok, fun ⟨_, first, rest⟩ => (bind_of_eq_ok first).trans rest⟩

theorem map_eq_ok_iff {g : α → β} {b : β} : x.map g = .ok b ↔ ∃ a, x = .ok a ∧ g a = b := by
  cases x <;> simp [Except.map]

theorem mapError_eq_ok_iff {ε' : Type} {g : ε → ε'} {a : α} : x.mapError g = .ok a ↔ x = .ok a := by
  cases x with
  | error e =>
      constructor
      · intro same
        cases same
      · intro same
        cases same
  | ok b =>
      constructor
      · intro same
        rw [Except.ok.inj same]
      · intro same
        exact congrArg Except.ok (Except.ok.inj same)

/-- What is known of the result of a step is known of a result. -/
theorem exists_of_toOption_map {γ : Type} {g : α → γ} {c : γ} (h : x.toOption.map g = some c) :
    ∃ a, x = .ok a ∧ g a = c := by
  cases x with
  | error e => exact absurd h (by simp [Except.toOption])
  | ok a => exact ⟨a, rfl, Option.some.inj h⟩

/-- A step with a result has succeeded. -/
theorem eq_ok_of_toOption {a : α} (h : x.toOption = some a) : x = .ok a := by
  cases x with
  | error e => cases h
  | ok b => rw [Option.some.inj h]

/-- A step without a result has failed. -/
theorem exists_of_toOption_eq_none (h : x.toOption = none) : ∃ e, x = .error e := by
  cases x with
  | error e => exact ⟨e, rfl⟩
  | ok a => cases h

end StaticPreview
