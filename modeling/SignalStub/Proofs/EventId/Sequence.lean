import SignalStub.EventId.Source

/-! # The sequence of a source

    A source and a state of it determine a sequence: what the first draw of an event id yields,
    what the second yields, and so on. The source need not look at the range it is asked for, so a
    yielded value is any word; moving it into the range of the event ids changes only what lies
    outside.
-/

namespace SignalStub

open Randomness

/-! ## Clamping -/

namespace Randomness.DrawRange

/-- A clamped value lies in the range, if the range is not empty. -/
theorem clamp_mem {range : DrawRange} (h : range.lo ≤ range.hi) (value : UInt32) :
    range.lo ≤ range.clamp value ∧ range.clamp value ≤ range.hi := by
  unfold clamp
  by_cases hlow : value < range.lo
  · simpa [hlow] using h
  · by_cases hhigh : range.hi < value
    · simpa [hlow, hhigh] using h
    · simpa [hlow, hhigh] using ⟨UInt32.not_lt.mp hlow, UInt32.not_lt.mp hhigh⟩

/-- A value of the range stays where it is. -/
theorem clamp_of_mem {range : DrawRange} {value : UInt32} (hlow : range.lo ≤ value)
    (hhigh : value ≤ range.hi) : range.clamp value = value := by
  unfold clamp
  rw [if_neg (UInt32.not_lt.mpr hlow), if_neg (UInt32.not_lt.mpr hhigh)]

end Randomness.DrawRange

theorem eventIds_nonempty : eventIds.lo ≤ eventIds.hi := by
  decide

/-! ## Draws in a row -/

namespace IdSource

variable {σ : Type} (source : IdSource σ)

/-- The state after a number of draws of event ids. -/
def after : Nat → σ → σ
  | 0, state => state
  | n + 1, state => after n (source.draw eventIds state).2

/-- What a draw of an event id yields when a number of them came before it. -/
def yield (k : Nat) (state : σ) : Except DrawFault UInt32 :=
  (source.draw eventIds (source.after k state)).1

theorem after_add (m n : Nat) (state : σ) :
    source.after (m + n) state = source.after n (source.after m state) := by
  induction m generalizing state with
  | zero => rw [Nat.zero_add, after]
  | succ m ih =>
    rw [Nat.succ_add, after, ih, after]

/-- The next event id is the clamped value of the next draw. -/
theorem nextEventId_eq (state : σ) :
    source.nextEventId state =
      ((source.yield 0 state).map eventIds.clamp, source.after 1 state) := by
  unfold nextEventId yield after after
  rcases source.draw eventIds state with ⟨_ | _, _⟩ <;> rfl

/-- One event id more comes behind those before it. -/
theorem nextEventIds_succ {n : Nat} {initial state next : σ} {ids : List UInt32} {id : UInt32}
    (hbefore : source.nextEventIds n initial = (.ok ids, state))
    (hlast : source.nextEventId state = (.ok id, next)) :
    source.nextEventIds (n + 1) initial = (.ok (ids ++ [id]), next) := by
  induction n generalizing initial ids with
  | zero =>
    obtain ⟨hids, hstate⟩ : ids = [] ∧ initial = state := by
      simpa [nextEventIds, eq_comm] using hbefore
    rw [hids, hstate, nextEventIds, hlast]
    rfl
  | succ n ih =>
    rw [nextEventIds] at hbefore ⊢
    rcases hfirst : source.nextEventId initial with ⟨_ | first, second⟩
    · simp [hfirst] at hbefore
    · rcases hrest : source.nextEventIds n second with ⟨_ | rest, _⟩
      · simp [hfirst, hrest] at hbefore
      · obtain ⟨hids, rfl⟩ : first :: rest = ids ∧ _ = state := by
          simpa [hfirst, hrest] using hbefore
        simp [ih hrest, ← hids]

/-- The source that also counts how often it is drawn from. -/
def counted : IdSource (σ × Nat) where
  kind state := source.kind state.1
  draw range state :=
    ((source.draw range state.1).1, (source.draw range state.1).2, state.2 + 1)

theorem after_counted (n : Nat) (state : σ) (count : Nat) :
    source.counted.after n (state, count) = (source.after n state, count + n) := by
  induction n generalizing state count with
  | zero => rfl
  | succ n ih =>
    rw [after, after]
    show source.counted.after n ((source.draw eventIds state).2, count + 1) = _
    rw [ih, Nat.add_assoc, Nat.add_comm 1 n]

/-- A source that draws as another one does, on the same states under another name, has the same
    sequence. -/
theorem nextEventIds_embed {τ : Type} (other : IdSource τ) (embed : σ → τ)
    (hdraw : ∀ range state, other.draw range (embed state) =
      ((source.draw range state).1, embed (source.draw range state).2)) (n : Nat) (state : σ) :
    other.nextEventIds n (embed state) =
      ((source.nextEventIds n state).1, embed (source.nextEventIds n state).2) := by
  have hnext : ∀ state, other.nextEventId (embed state) =
      ((source.nextEventId state).1, embed (source.nextEventId state).2) := by
    intro state
    unfold nextEventId
    rw [hdraw]
    rcases source.draw eventIds state with ⟨_ | _, _⟩ <;> rfl
  induction n generalizing state with
  | zero => rfl
  | succ n ih =>
    rw [nextEventIds, nextEventIds, hnext]
    rcases source.nextEventId state with ⟨_ | id, next⟩
    · rfl
    · dsimp only
      rw [ih]
      rcases source.nextEventIds n next with ⟨_ | ids, last⟩ <;> rfl

end IdSource

end SignalStub
