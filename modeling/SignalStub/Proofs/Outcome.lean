/-! # Results that may be faults

    A reader that is made of others succeeds only if they do, and its result is made of theirs.
-/

namespace SignalStub

variable {ε α β : Type} {x : Except ε α} {b : β}

/-- A reader made of two has read both parts. -/
theorem exists_of_bind_eq_ok {f : α → Except ε β} (h : (x >>= f) = .ok b) :
    ∃ a, x = .ok a ∧ f a = .ok b := by
  cases x with
  | error fault => cases h
  | ok a => exact ⟨a, rfl, h⟩

/-- What is made of a result is there exactly if the result is. -/
theorem map_eq_ok_iff {f : α → β} : x.map f = .ok b ↔ ∃ a, x = .ok a ∧ f a = b := by
  cases x with
  | error fault => simp [Except.map]
  | ok a => simp [Except.map]

/-- A fault that is told in other words is still a fault. -/
theorem mapError_eq_ok_iff {φ : Type} {f : ε → φ} {a : α} {x : Except ε α} :
    x.mapError f = .ok a ↔ x = .ok a := by
  cases x with
  | error fault => exact ⟨nofun, nofun⟩
  | ok b =>
    show Except.ok b = .ok a ↔ Except.ok b = .ok a
    rw [Except.ok.injEq, Except.ok.injEq]

end SignalStub
