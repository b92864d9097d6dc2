import SignalStub.Proofs.EventId.Sequence

/-! # The supply of words

    A draw goes through the words of a generator until one is accepted. It fails in two ways only:
    the range is empty, or no word of a whole period is accepted. A generator that supplies a range
    never runs into the second, because an accepted word is always less than a period away.

    For the generators of a service the invariant is that the lock is not poisoned and that the
    words are the ones it began with: a draw from a range that is not empty keeps both.
-/

namespace SignalStub

namespace Randomness

/-! ## Words -/

namespace Words

/-- An accepted word is less than a period away from every place of the stream. -/
def Supplies (range : DrawRange) (words : Words) : Prop :=
  ∀ position, ∃ i, position ≤ i ∧ i < position + period ∧
    (range.accept? (words.word i)).isSome = true

section Draws
variable {range : DrawRange}

/-- A search fails exactly if no word in its reach is accepted. -/
theorem search_eq_none_iff (word : Nat → UInt32) (steps position : Nat) :
    search word range steps position = none ↔
      ∀ i, position ≤ i → i < position + steps → range.accept? (word i) = none := by
  induction steps generalizing position with
  | zero =>
    simp only [search, true_iff]
    intro i hlow hhigh
    omega
  | succ steps ih =>
    rw [search]
    cases hhere : range.accept? (word position) with
    | some value =>
      simp only [reduceCtorEq, false_iff]
      intro hnone
      have hfirst := hnone position (Nat.le_refl _) (by omega)
      rw [hhere] at hfirst
      exact absurd hfirst (by simp)
    | none =>
      simp only [ih]
      constructor
      · intro hnone i hlow hhigh
        by_cases hi : i = position
        · rw [hi, hhere]
        · exact hnone i (by omega) (by omega)
      · intro hnone i hlow hhigh
        exact hnone i (by omega) (by omega)

/-- A search over a period finds a word of a stream that supplies the range. -/
theorem search_isSome_of_supplies {words : Words} (h : words.Supplies range) (position : Nat) :
    (search words.word range period position).isSome = true := by
  rw [← Option.ne_none_iff_isSome]
  intro hnone
  obtain ⟨i, hlow, hhigh, haccept⟩ := h position
  have hreject := (search_eq_none_iff words.word period position).mp hnone i hlow hhigh
  rw [hreject] at haccept
  exact absurd haccept (by simp)

/-- A draw takes words and leaves the stream as it is. -/
@[simp] theorem word_draw (range : DrawRange) (words : Words) :
    (words.draw range).2.word = words.word := by
  unfold draw
  split
  · rfl
  · split <;> rfl

/-- What a stream supplies does not depend on how many words are taken. -/
theorem supplies_draw (range other : DrawRange) (words : Words) :
    (words.draw other).2.Supplies range ↔ words.Supplies range := by
  unfold Supplies
  rw [word_draw]

/-- Only an empty range is noticed as one. -/
theorem draw_ne_emptyRange (hrange : range.lo ≤ range.hi) (words : Words) :
    (words.draw range).1 ≠ .error .emptyRange := by
  unfold draw
  rw [if_neg (UInt32.not_lt.mpr hrange)]
  split <;> simp

theorem draw_isOk_of_supplies (hrange : range.lo ≤ range.hi) {words : Words}
    (h : words.Supplies range) : ∃ value, (words.draw range).1 = .ok value := by
  obtain ⟨⟨value, taken⟩, hfound⟩ :=
    Option.isSome_iff_exists.mp (search_isSome_of_supplies h words.taken)
  refine ⟨value, ?_⟩
  unfold draw
  rw [if_neg (UInt32.not_lt.mpr hrange), hfound]

end Draws

/-! ## The period of a key -/

section Period

/-- The number of a block is kept in two words, which hold no more than its remainder. -/
theorem generate_add (key : Key) (n : Nat) :
    Block.generate key (n + UInt64.size) = Block.generate key n := by
  -- the number of a block wraps around in two words, the lower one and the upper one
  have hlow : UInt32.ofNat (n + UInt64.size) = UInt32.ofNat n := by
    apply UInt32.toNat_inj.mp
    simp only [UInt32.toNat_ofNat', UInt64.size]
    omega
  have hhigh : UInt32.ofNat ((n + UInt64.size) / UInt32.size) = UInt32.ofNat (n / UInt32.size) := by
    apply UInt32.toNat_inj.mp
    simp only [UInt32.toNat_ofNat', UInt32.size, UInt64.size]
    omega
  unfold Block.generate Block.initial
  rw [hlow, hhigh]

theorem word_add_period (key : Key) (i : Nat) :
    (ofKey key).word (i + period) = (ofKey key).word i := by
  have hblock : (i + period) / 16 = i / 16 + UInt64.size := by
    simp only [period, UInt64.size]
    omega
  have hplace : (i + period) % 16 = i % 16 := by
    simp only [period, UInt64.size]
    omega
  unfold ofKey
  simp only [hblock, hplace, generate_add]

theorem word_add_mul_period (key : Key) (i n : Nat) :
    (ofKey key).word (i + n * period) = (ofKey key).word i := by
  induction n with
  | zero => rw [Nat.zero_mul, Nat.add_zero]
  | succ n ih => rw [Nat.succ_mul, ← Nat.add_assoc, word_add_period, ih]

/-- One accepted word is enough, because it comes again. -/
theorem supplies_ofKey_iff (range : DrawRange) (key : Key) :
    (ofKey key).Supplies range ↔ ∃ i, (range.accept? ((ofKey key).word i)).isSome = true := by
  constructor
  · intro h
    obtain ⟨i, -, -, haccept⟩ := h 0
    exact ⟨i, haccept⟩
  · rintro ⟨i, haccept⟩ position
    have hpos : 0 < period := by decide
    -- the first repetition of the place `i` that is not before the position
    have hle := Nat.mod_add_div (position + (period - 1 - i % period)) period
    have hlt := Nat.mod_lt i hpos
    have hrest := Nat.mod_lt (position + (period - 1 - i % period)) hpos
    refine ⟨i % period + (position + (period - 1 - i % period)) / period * period, ?_, ?_, ?_⟩
    · rw [Nat.mul_comm]
      omega
    · rw [Nat.mul_comm]
      omega
    · have hsame : (ofKey key).word (i % period) = (ofKey key).word i := by
        rw [← word_add_mul_period key (i % period) (i / period), Nat.mul_comm, Nat.mod_add_div]
      rw [word_add_mul_period, hsame]
      exact haccept

end Period

end Words

end Randomness

open Randomness

/-! ## Generators -/

namespace Generator

/-- The lock of the generator, if it has one, is poisoned. -/
def IsPoisoned : Generator → Prop
  | .seeded generator => generator.poisoned = true
  | .threadLocal _ | .fixed _ | .cycling _ _ => False

/-- The words of the generator, if it has any, supply a range. -/
def Supplies (range : DrawRange) : Generator → Prop
  | .seeded generator => generator.words.Supplies range
  | .threadLocal words => words.Supplies range
  | .fixed _ | .cycling _ _ => True

section Draws
variable {range : DrawRange} (hrange : range.lo ≤ range.hi)
include hrange

/-- A seeded generator draws from its words, and notices nothing else. -/
theorem seeded_draw (generator : SeededGenerator) :
    generator.draw range = ((generator.words.draw range).1,
      { generator with words := (generator.words.draw range).2 }) := by
  have hnonempty := Words.draw_ne_emptyRange hrange generator.words
  unfold SeededGenerator.draw
  split
  next words hdraw =>
    rw [hdraw] at hnonempty
    exact absurd rfl hnonempty
  next result words _ hdraw =>
    rw [hdraw]

/-- A draw from a range that is not empty leaves the lock as it is. -/
theorem isPoisoned_draw (generator : Generator) :
    (generator.draw range).2.IsPoisoned ↔ generator.IsPoisoned := by
  cases generator with
  | seeded generator =>
    simp only [draw, seeded_draw hrange, IsPoisoned]
  | threadLocal words => exact Iff.rfl
  | fixed value => exact Iff.rfl
  | cycling values next => exact Iff.rfl

/-- What a generator supplies, it goes on to supply. -/
theorem supplies_draw (other : DrawRange) (generator : Generator) :
    (generator.draw range).2.Supplies other ↔ generator.Supplies other := by
  cases generator with
  | seeded generator =>
    simp only [draw, seeded_draw hrange, Supplies, Words.supplies_draw]
  | threadLocal words => exact Words.supplies_draw other range words
  | fixed value => exact Iff.rfl
  | cycling values next => exact Iff.rfl

theorem draw_ne_emptyRange (generator : Generator) :
    (generator.draw range).1 ≠ .error .emptyRange := by
  cases generator with
  | seeded generator =>
    simp only [draw, seeded_draw hrange]
    exact Words.draw_ne_emptyRange hrange generator.words
  | threadLocal words => exact Words.draw_ne_emptyRange hrange words
  | fixed value => simp [draw]
  | cycling values next => simp [draw]

/-- A generator that supplies the range answers the draw. -/
theorem draw_isOk_of_supplies {generator : Generator} (h : generator.Supplies range) :
    ∃ value, (generator.draw range).1 = .ok value := by
  cases generator with
  | seeded generator =>
    simp only [draw, seeded_draw hrange]
    exact Words.draw_isOk_of_supplies hrange h
  | threadLocal words => exact Words.draw_isOk_of_supplies hrange h
  | fixed value => exact ⟨value, rfl⟩
  | cycling values next => exact ⟨_, rfl⟩

end Draws

/-- No service begins with a poisoned lock. -/
theorem not_isPoisoned_ofSeed? (entropy : Words) (seed : Option UInt64) :
    ¬ (ofSeed? entropy seed).IsPoisoned := by
  cases seed with
  | none => exact id
  | some seed => exact Bool.false_ne_true

end Generator

/-! ## Event ids of a seeded generator -/

namespace SeededGenerator

section Draws
variable {range : DrawRange} (hrange : range.lo ≤ range.hi)
include hrange

/-- A seeded generator that supplies the range answers the draw. -/
theorem draw_isOk_of_supplies {generator : SeededGenerator}
    (h : generator.words.Supplies range) : ∃ value, (generator.draw range).1 = .ok value := by
  rw [Generator.seeded_draw hrange]
  exact Words.draw_isOk_of_supplies hrange h

theorem supplies_draw (other : DrawRange) (generator : SeededGenerator) :
    (generator.draw range).2.words.Supplies other ↔ generator.words.Supplies other := by
  rw [Generator.seeded_draw hrange]
  exact Words.supplies_draw other range generator.words

end Draws

/-- Seeded generators as a source draw as they do. -/
theorem source_draw (range : DrawRange) (generator : SeededGenerator) :
    source.draw range generator = generator.draw range := rfl

/-- The next event id is the clamped value of a draw. -/
theorem nextEventId_eq_draw (generator : SeededGenerator) :
    source.nextEventId generator =
      ((generator.draw eventIds).1.map eventIds.clamp, (generator.draw eventIds).2) := by
  -- by rewriting alone: a comparison by evaluation would go through the words of the generator
  rw [IdSource.nextEventId_eq, IdSource.yield, IdSource.after, IdSource.after, IdSource.after,
    source_draw]

/-- A seeded generator that supplies the event ids answers the next draw. -/
theorem nextEventId_isOk_of_supplies {generator : SeededGenerator}
    (h : generator.words.Supplies eventIds) :
    ∃ id next, source.nextEventId generator = (.ok id, next) := by
  obtain ⟨value, hvalue⟩ := draw_isOk_of_supplies eventIds_nonempty h
  rw [nextEventId_eq_draw, hvalue]
  exact ⟨_, _, rfl⟩

/-- What a seeded generator supplies, it supplies behind any number of event ids. -/
theorem supplies_nextEventIds (range : DrawRange) (n : Nat) (generator : SeededGenerator) :
    (source.nextEventIds n generator).2.words.Supplies range ↔
      generator.words.Supplies range := by
  induction n generalizing generator with
  | zero => rfl
  | succ n ih =>
    have hfirst := supplies_draw eventIds_nonempty range generator
    rw [IdSource.nextEventIds, nextEventId_eq_draw, ← hfirst]
    -- what was drawn does not matter, only the generator behind the draw
    rcases (generator.draw eventIds) with ⟨_ | value, next⟩
    · rfl
    · have hrest := ih next
      rcases hothers : source.nextEventIds n next with ⟨_ | ids, last⟩
      · rw [hothers] at hrest
        simpa only [Except.map, hothers] using hrest
      · rw [hothers] at hrest
        simpa only [Except.map, hothers] using hrest

end SeededGenerator

end SignalStub
