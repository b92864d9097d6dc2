import SignalStub.Proofs.EventId.Calls

/-! # Segments of the stream

    All words of a seeded generator come from the one stream of its seed. A draw looks at the next
    word, and at the one behind it if the word is rejected, and so on up to the first that is
    accepted. The next draw begins behind this one, whatever range it draws from.

    So the words that the draws of a history look at are consecutive segments of the stream, and
    together they are the beginning of it: the invariant is that the places looked at so far are
    those below the number of words taken. A draw from an empty range has an empty segment.
-/

namespace SignalStub

open Randomness

/-! ## Places that are looked at -/

namespace Randomness.Words

/-- The places of the words that a search looks at, in order. -/
def searched (word : Nat → UInt32) (range : DrawRange) : Nat → Nat → List Nat
  | 0, _ => []
  | steps + 1, position =>
    position ::
      if (range.accept? (word position)).isSome then []
      else searched word range steps (position + 1)

/-- The places of the words that a draw looks at. An empty range is noticed before any of them. -/
def visited (words : Words) (range : DrawRange) : List Nat :=
  if range.hi < range.lo then [] else searched words.word range period words.taken

/-- A search that finds a word has looked at the words up to it, once each. -/
theorem searched_of_search {word : Nat → UInt32} {range : DrawRange} {steps position : Nat}
    {value : UInt32} {next : Nat} (h : search word range steps position = some (value, next)) :
    position ≤ next ∧ searched word range steps position = List.range' position (next - position) := by
  induction steps generalizing position with
  | zero => cases h
  | succ steps ih =>
    rw [search] at h
    rw [searched]
    cases hhere : range.accept? (word position) with
    | some found =>
      rw [hhere] at h
      obtain ⟨-, rfl⟩ := Prod.mk.inj (Option.some.inj h)
      refine ⟨Nat.le_succ position, ?_⟩
      rw [Nat.add_sub_cancel_left]
      rfl
    | none =>
      rw [hhere] at h
      obtain ⟨hle, hrest⟩ := ih h
      have hlength : next - position = next - (position + 1) + 1 := by omega
      refine ⟨Nat.le_of_succ_le hle, ?_⟩
      rw [hlength, List.range'_succ, ← hrest]
      rfl

/-- A draw that ends has looked at the words that it takes and at no others. -/
theorem visited_eq {words : Words} {range : DrawRange}
    (hends : (words.draw range).1 ≠ .error .endless) :
    words.taken ≤ (words.draw range).2.taken ∧ words.visited range =
      List.range' words.taken ((words.draw range).2.taken - words.taken) := by
  unfold draw at hends ⊢
  unfold visited
  by_cases hempty : range.hi < range.lo
  · rw [if_pos hempty, if_pos hempty, Nat.sub_self]
    exact ⟨Nat.le_refl _, rfl⟩
  · rw [if_neg hempty] at hends
    rw [if_neg hempty, if_neg hempty]
    cases hsearch : search words.word range period words.taken with
    | none =>
      rw [hsearch] at hends
      exact absurd rfl hends
    | some found => exact searched_of_search hsearch

end Randomness.Words

/-! ## Histories -/

/-- The range that a call draws from. -/
def Call.range? : Call → Option DrawRange
  | .draw range => some range
  | .nextEventId => some eventIds
  | .kind => none

namespace SeededGenerator

/-- The places of the words that a call looks at. -/
def visited (generator : SeededGenerator) (call : Call) : List Nat :=
  match call.range? with
  | some range => generator.words.visited range
  | none => []

/-- The places that the calls of a history look at, call by call. -/
def segments : List Call → SeededGenerator → List (List Nat)
  | [], _ => []
  | call :: calls, generator =>
    generator.visited call :: segments calls (source.call call generator).2

/-- What a draw does to the words does not depend on the lock. -/
theorem words_draw (range : DrawRange) (generator : SeededGenerator) :
    (generator.draw range).1 = (generator.words.draw range).1 ∧
      (generator.draw range).2.words = (generator.words.draw range).2 := by
  by_cases hrange : range.lo ≤ range.hi
  · rw [Generator.seeded_draw hrange]
    exact ⟨rfl, rfl⟩
  · have hempty := UInt32.not_le.mp hrange
    have hwords : generator.words.draw range = (.error .emptyRange, generator.words) :=
      if_pos hempty
    rw [draw_of_empty hempty, hwords]
    exact ⟨rfl, rfl⟩

/-- A call that ends takes the words that it looks at. -/
theorem visited_call {call : Call} {generator : SeededGenerator}
    (hends : (source.call call generator).1 ≠ .failed .endless) :
    generator.words.taken ≤ (source.call call generator).2.words.taken ∧
      generator.visited call = List.range' generator.words.taken
        ((source.call call generator).2.words.taken - generator.words.taken) := by
  have hdraw : ∀ range, (source.call (.draw range) generator).1 ≠ .failed .endless →
      generator.words.taken ≤ (source.call (.draw range) generator).2.words.taken ∧
        generator.words.visited range = List.range' generator.words.taken
          ((source.call (.draw range) generator).2.words.taken - generator.words.taken) := by
    intro range hreply
    obtain ⟨hvalue, hwords⟩ := words_draw range generator
    rw [call_draw] at hreply ⊢
    rw [hwords]
    apply Words.visited_eq
    intro hendless
    rw [hvalue, hendless] at hreply
    exact hreply rfl
  cases call with
  | draw range => exact hdraw range hends
  | nextEventId =>
    rw [call_nextEventId] at hends ⊢
    exact hdraw eventIds hends
  | kind =>
    refine ⟨Nat.le_refl _, ?_⟩
    rw [IdSource.call, Nat.sub_self]
    rfl

/-- A drawn value belongs to the first accepted word of those that remain, and the words up to this
    one are what is looked at and taken. -/
theorem exists_first_of_draw {generator : SeededGenerator} {range : DrawRange} {value : UInt32}
    (hrange : range.lo ≤ range.hi) (hvalue : (generator.draw range).1 = .ok value) :
    ∃ i, generator.words.IsFirstAccepted range i ∧
      value.toNat = range.lo.toNat + range.place (generator.words.word i) ∧
      (generator.draw range).2.words.taken = i + 1 ∧
      generator.visited (.draw range) =
        List.range' generator.words.taken (i + 1 - generator.words.taken) := by
  obtain ⟨hsame, hwords⟩ := words_draw range generator
  rw [hsame] at hvalue
  have hended : (generator.words.draw range).1 ≠ .error .endless := by
    rw [hvalue]
    simp
  obtain ⟨i, hfirst, haccept, hafter⟩ := Words.exists_of_draw_eq_ok hrange hvalue
  obtain ⟨-, hplace⟩ := (DrawRange.accept?_eq_some_iff hrange _ _).mp haccept
  obtain ⟨-, hvisited⟩ := Words.visited_eq hended
  have htaken : (generator.draw range).2.words.taken = i + 1 := by rw [hwords, hafter]
  rw [hafter] at hvisited
  exact ⟨i, hfirst, hplace, htaken, hvisited⟩

/-- A draw ends exactly if one of the words that remain is accepted. -/
theorem draw_ends_iff {generator : SeededGenerator} {seed : UInt64}
    (hstream : generator.words.word = (Words.ofSeed seed).word) {range : DrawRange}
    (hrange : range.lo ≤ range.hi) :
    (∃ value, (generator.draw range).1 = .ok value) ↔
      ∃ i, generator.words.taken ≤ i ∧ range.Accepts (generator.words.word i) := by
  constructor
  · rintro ⟨value, hvalue⟩
    obtain ⟨i, hfirst, -⟩ := exists_first_of_draw hrange hvalue
    exact ⟨i, hfirst.remains, hfirst.accepted⟩
  · rintro ⟨i, -, haccepts⟩
    -- the stream repeats itself, so one accepted word is enough for every draw to end
    rw [hstream] at haccepts
    have hsupplies : (Words.ofSeed seed).Supplies range :=
      (Words.supplies_ofKey_iff range (Seed.key seed)).mpr
        ⟨i, (DrawRange.isSome_accept?_iff hrange _).mpr haccepts⟩
    apply draw_isOk_of_supplies hrange
    unfold Words.Supplies at hsupplies ⊢
    rwa [hstream]

/-- Segments that meet make one segment. -/
theorem range'_append_of_le {first second third : Nat} (hfirst : first ≤ second)
    (hsecond : second ≤ third) :
    List.range' first (second - first) ++ List.range' second (third - second) =
      List.range' first (third - first) := by
  have happend := List.range'_append_1 (s := first) (m := second - first) (n := third - second)
  rw [Nat.add_sub_cancel' hfirst] at happend
  rw [happend]
  congr 1
  omega

/-- The segments of calls that end follow one another, up to the number of words taken. -/
theorem segments_flatten {calls : List Call} {generator : SeededGenerator}
    (hends : ∀ exchange ∈ source.transcript calls generator, exchange.2 ≠ .failed .endless) :
    generator.words.taken ≤ (source.afterCalls calls generator).words.taken ∧
      (segments calls generator).flatten = List.range' generator.words.taken
        ((source.afterCalls calls generator).words.taken - generator.words.taken) := by
  induction calls generalizing generator with
  | nil =>
    refine ⟨Nat.le_refl _, ?_⟩
    rw [IdSource.afterCalls, Nat.sub_self]
    rfl
  | cons call calls ih =>
    rw [IdSource.transcript] at hends
    obtain ⟨hfirst, hvisited⟩ := visited_call (hends _ List.mem_cons_self)
    obtain ⟨hrest, hsegments⟩ := ih fun exchange hmem => hends exchange (List.mem_cons_of_mem _ hmem)
    rw [IdSource.afterCalls, segments, List.flatten_cons, hvisited, hsegments]
    exact ⟨Nat.le_trans hfirst hrest, range'_append_of_le hfirst hrest⟩

/-! ## One stream for all draws -/

/-- How draws go on after a history of calls on the generator of a seed. -/
structure DrawsInOrder (seed : UInt64) (calls : List Call) : Prop where
  /-- The words are those of the seed still. -/
  stream : (source.afterCalls calls (.ofSeed seed)).words.word = (Words.ofSeed seed).word
  /-- A drawn value lies in its range. -/
  contained : ∀ (range : DrawRange) (value : UInt32), range.lo ≤ range.hi →
    ((source.afterCalls calls (.ofSeed seed)).draw range).1 = .ok value → range.Contains value
  /-- It stands at the place in the range that belongs to the first accepted word of those that
      remain. The words up to this one are looked at, and are taken. -/
  value : ∀ (range : DrawRange) (value : UInt32), range.lo ≤ range.hi →
    ((source.afterCalls calls (.ofSeed seed)).draw range).1 = .ok value →
      ∃ i, (source.afterCalls calls (.ofSeed seed)).words.IsFirstAccepted range i ∧
        value.toNat = range.lo.toNat + range.place ((Words.ofSeed seed).word i) ∧
        ((source.afterCalls calls (.ofSeed seed)).draw range).2.words.taken = i + 1 ∧
        (source.afterCalls calls (.ofSeed seed)).visited (.draw range) =
          List.range' (source.afterCalls calls (.ofSeed seed)).words.taken
            (i + 1 - (source.afterCalls calls (.ofSeed seed)).words.taken)
  /-- A draw ends exactly if one of the words that remain is accepted. -/
  ends : ∀ range : DrawRange, range.lo ≤ range.hi →
    ((∃ value, ((source.afterCalls calls (.ofSeed seed)).draw range).1 = .ok value) ↔
      ∃ i, (source.afterCalls calls (.ofSeed seed)).words.taken ≤ i ∧
        range.Accepts ((Words.ofSeed seed).word i))
  /-- If all calls of the history ended, the words that they looked at are, one call after the other,
      the first words of the stream: none is skipped and none is looked at twice. -/
  segments : (∀ exchange ∈ source.transcript calls (.ofSeed seed), exchange.2 ≠ .failed .endless) →
    (segments calls (.ofSeed seed)).flatten =
      List.range (source.afterCalls calls (.ofSeed seed)).words.taken

/-- Draws from any ranges use up the one stream of the seed, word after word. -/
theorem draws_use_consecutive_words (seed : UInt64) (calls : List Call) :
    DrawsInOrder seed calls := by
  have hstream : (source.afterCalls calls (.ofSeed seed)).words.word =
      (Words.ofSeed seed).word := word_afterCalls calls (.ofSeed seed)
  constructor
  case stream => exact hstream
  case contained =>
    intro range value hrange hvalue
    exact contains_of_draw hrange hvalue
  case value =>
    intro range value hrange hvalue
    rw [← hstream]
    exact exists_first_of_draw hrange hvalue
  case ends =>
    intro range hrange
    rw [← hstream]
    exact draw_ends_iff hstream hrange
  case segments =>
    intro hends
    obtain ⟨-, hflatten⟩ := segments_flatten hends
    rw [List.range_eq_range', hflatten]
    rfl

/-- Two words as they are, a draw from an empty range, an event id, the only value of a range and
    another event id. A range of one value accepts half of all words, so it may take several. -/
example : segments [.draw ⟨0, 4294967295⟩, .draw ⟨0, 4294967295⟩, .draw ⟨3, 2⟩, .nextEventId,
    .draw ⟨8, 8⟩, .nextEventId] (.ofSeed 42) = [[0], [1], [], [2], [3, 4, 5, 6, 7], [8]] := by
  decide +kernel

end SeededGenerator

end SignalStub
