import EventScript.Fault

/-!
# Results of guarded computations

A guarded computation that comes to a result came to a result at each of its steps; one that runs
into a fault ran into it at one of them.
-/

namespace EventScript.Guarded

/-- The result of one computation after another. -/
theorem bind_eq_ok {α β : Type} {x : Guarded α} {f : α → Guarded β} {b : β} :
    x >>= f = .ok b ↔ ∃ a, x = .ok a ∧ f a = .ok b := by
  cases x with
  | error e => exact ⟨nofun, nofun⟩
  | ok a =>
    constructor
    · intro h
      exact ⟨a, rfl, h⟩
    · rintro ⟨_, ⟨⟩, h⟩
      exact h

/-- The fault of one computation after another is that of the first one that runs into it. -/
theorem bind_eq_error {α β : Type} {x : Guarded α} {f : α → Guarded β} {e : Fault} :
    x >>= f = .error e ↔ x = .error e ∨ ∃ a, x = .ok a ∧ f a = .error e := by
  cases x with
  | error e' =>
    constructor
    · rintro ⟨⟩
      exact .inl rfl
    · rintro (⟨⟨⟩⟩ | ⟨_, h, _⟩)
      · rfl
      · cases h
  | ok a =>
    constructor
    · intro h
      exact .inr ⟨a, rfl, h⟩
    · rintro (h | ⟨_, ⟨⟩, h⟩)
      · cases h
      · exact h

end EventScript.Guarded
