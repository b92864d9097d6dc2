import SignalStub.Proofs.EventId.Supply
import SignalStub.Proofs.Randomness.Acceptance

/-! # Calls on one source

    A source is called again and again: for values of ranges, for event ids, for its name. An event id
    of a seeded generator is a value of their range, because there is nothing to clamp. A call for a
    value of an empty range fails while the generator holds its lock, and leaves a poisoned lock
    behind. What is behind the lock is not touched.

    So such calls can be left out of a history. The invariant between the two histories is that the
    words behind the lock are the same, those that are taken included; the locks may differ, because
    no call looks at more of a poisoned lock than the words behind it.
-/

namespace SignalStub

open Randomness

/-! ## Calls and replies -/

/-- What a source is called for. -/
inductive Call
  | draw (range : DrawRange)
  | nextEventId
  | kind
  deriving DecidableEq, Repr

/-- What a call gives back: a value, the fault of a draw, or the name of the source. -/
inductive Reply
  | drawn (value : UInt32)
  | failed (fault : DrawFault)
  | named (kind : String)
  deriving DecidableEq, Repr

/-- The reply to a call that draws. -/
def Reply.ofDraw : Except DrawFault UInt32 → Reply
  | .ok value => .drawn value
  | .error fault => .failed fault

namespace Call

/-- A call for a value of an empty range. -/
def IsEmptyDraw : Call → Prop
  | .draw range => range.hi < range.lo
  | .nextEventId | .kind => False

instance : DecidablePred IsEmptyDraw
  | .draw range => inferInstanceAs (Decidable (range.hi < range.lo))
  | .nextEventId | .kind => inferInstanceAs (Decidable False)

end Call

/-- The calls of a history that are not for values of empty ranges. -/
def withoutEmptyDraws (calls : List Call) : List Call :=
  calls.filter fun call => ¬ call.IsEmptyDraw

namespace IdSource

variable {σ : Type} (source : IdSource σ)

/-- Makes one call. -/
def call : Call → σ → Reply × σ
  | .draw range, state => (.ofDraw (source.draw range state).1, (source.draw range state).2)
  | .nextEventId, state => (.ofDraw (source.nextEventId state).1, (source.nextEventId state).2)
  | .kind, state => (.named (source.kind state), state)

/-- The state after a history of calls. -/
def afterCalls : List Call → σ → σ
  | [], state => state
  | call :: calls, state => afterCalls calls (source.call call state).2

/-- A history of calls with their replies. -/
def transcript : List Call → σ → List (Call × Reply)
  | [], _ => []
  | call :: calls, state =>
    (call, (source.call call state).1) :: transcript calls (source.call call state).2

end IdSource

/-! ## One call on a seeded generator -/

namespace SeededGenerator

/-- A draw from an empty range fails and poisons the lock. It takes no word. -/
theorem draw_of_empty {range : DrawRange} (hrange : range.hi < range.lo)
    (generator : SeededGenerator) :
    generator.draw range = (.error .emptyRange, { generator with poisoned := true }) := by
  unfold draw Words.draw
  rw [if_pos hrange]

theorem call_draw (range : DrawRange) (generator : SeededGenerator) :
    source.call (.draw range) generator =
      (.ofDraw (generator.draw range).1, (generator.draw range).2) := by
  rw [IdSource.call, source_draw]

theorem call_emptyDraw {range : DrawRange} (hrange : range.hi < range.lo)
    (generator : SeededGenerator) :
    source.call (.draw range) generator =
      (.failed .emptyRange, { generator with poisoned := true }) := by
  rw [call_draw, draw_of_empty hrange]
  rfl

section Draws
variable {range : DrawRange} (hrange : range.lo ≤ range.hi)
include hrange

/-- What is drawn lies in the range. -/
theorem contains_of_draw {generator : SeededGenerator} {value : UInt32}
    (h : (generator.draw range).1 = .ok value) : range.Contains value := by
  rw [Generator.seeded_draw hrange] at h
  obtain ⟨i, -, haccept, -⟩ := Words.exists_of_draw_eq_ok hrange h
  exact DrawRange.contains_of_accept? hrange haccept

end Draws

/-- Clamping leaves the event ids of a seeded generator as they are drawn. -/
theorem nextEventId_eq (generator : SeededGenerator) :
    source.nextEventId generator = generator.draw eventIds := by
  have hkept : (generator.draw eventIds).1.map eventIds.clamp = (generator.draw eventIds).1 := by
    cases hdraw : (generator.draw eventIds).1 with
    | error fault => rfl
    | ok value =>
      obtain ⟨hlow, hhigh⟩ := contains_of_draw eventIds_nonempty hdraw
      rw [Except.map, DrawRange.clamp_of_mem hlow hhigh]
  rw [nextEventId_eq_draw, hkept, Prod.eta]

theorem call_nextEventId (generator : SeededGenerator) :
    source.call .nextEventId generator = source.call (.draw eventIds) generator := by
  rw [call_draw, IdSource.call, nextEventId_eq]

/-- Any other call goes by the words behind the lock alone, and leaves the lock as it is. -/
theorem call_of_words {call : Call} (hcall : ¬ call.IsEmptyDraw) (generator : SeededGenerator)
    {other : SeededGenerator} (hwords : other.words = generator.words) :
    source.call call other = ((source.call call generator).1,
      { words := (source.call call generator).2.words, poisoned := other.poisoned }) := by
  have hdraw : ∀ range : DrawRange, range.lo ≤ range.hi →
      source.call (.draw range) other = ((source.call (.draw range) generator).1,
        { words := (source.call (.draw range) generator).2.words, poisoned := other.poisoned }) := by
    intro range hrange
    rw [call_draw, call_draw, Generator.seeded_draw hrange, Generator.seeded_draw hrange, hwords]
  cases call with
  | draw range => exact hdraw range (UInt32.not_lt.mp hcall)
  | nextEventId =>
    rw [call_nextEventId, call_nextEventId]
    exact hdraw eventIds eventIds_nonempty
  | kind =>
    rw [IdSource.call, IdSource.call, ← hwords]
    rfl

/-- No call changes the stream that the words come from. -/
theorem word_call (call : Call) (generator : SeededGenerator) :
    (source.call call generator).2.words.word = generator.words.word := by
  have hdraw : ∀ range, (source.call (.draw range) generator).2.words.word =
      generator.words.word := by
    intro range
    by_cases hrange : range.lo ≤ range.hi
    · rw [call_draw, Generator.seeded_draw hrange, Words.word_draw]
    · rw [call_emptyDraw (UInt32.not_le.mp hrange)]
  cases call with
  | draw range => exact hdraw range
  | nextEventId =>
    rw [call_nextEventId]
    exact hdraw eventIds
  | kind => rfl

/-! ## Histories -/

/-- With the calls for values of empty ranges left out, the other calls have the same replies, and
    the same words are behind the lock in the end. -/
theorem transcript_withoutEmptyDraws (calls : List Call) (generator other : SeededGenerator)
    (hwords : other.words = generator.words) :
    ((source.transcript calls generator).filter fun exchange => ¬ exchange.1.IsEmptyDraw) =
        source.transcript (withoutEmptyDraws calls) other ∧
      (source.afterCalls calls generator).words =
        (source.afterCalls (withoutEmptyDraws calls) other).words := by
  induction calls generalizing generator other with
  | nil => exact ⟨rfl, hwords.symm⟩
  | cons call calls ih =>
    by_cases hcall : call.IsEmptyDraw
    -- the call is left out, and the words are still the same
    · have hleft : withoutEmptyDraws (call :: calls) = withoutEmptyDraws calls :=
        List.filter_cons_of_neg (by simpa using hcall)
      have hsame : other.words = (source.call call generator).2.words := by
        cases call with
        | draw range => rw [call_emptyDraw hcall, hwords]
        | nextEventId => exact absurd hcall id
        | kind => exact absurd hcall id
      rw [hleft, IdSource.transcript, IdSource.afterCalls,
        List.filter_cons_of_neg (by simpa using hcall)]
      exact ih _ _ hsame
    -- both histories make the call
    · have hkept : withoutEmptyDraws (call :: calls) = call :: withoutEmptyDraws calls :=
        List.filter_cons_of_pos (by simpa using hcall)
      have hreply := call_of_words hcall generator hwords
      have hsame : (source.call call other).2.words = (source.call call generator).2.words := by
        rw [hreply]
      obtain ⟨hothers, hlast⟩ := ih _ _ hsame
      rw [hkept, IdSource.transcript, IdSource.transcript, IdSource.afterCalls, IdSource.afterCalls,
        List.filter_cons_of_pos (by simpa using hcall), hothers]
      exact ⟨by rw [hreply], hlast⟩

theorem word_afterCalls (calls : List Call) (generator : SeededGenerator) :
    (source.afterCalls calls generator).words.word = generator.words.word := by
  induction calls generalizing generator with
  | nil => rfl
  | cons call calls ih => rw [IdSource.afterCalls, ih, word_call]

/-- The lock is poisoned by calls for values of empty ranges and by no others. -/
theorem poisoned_afterCalls (calls : List Call) (generator : SeededGenerator) :
    (source.afterCalls calls generator).poisoned = true ↔
      generator.poisoned = true ∨ ∃ call ∈ calls, call.IsEmptyDraw := by
  induction calls generalizing generator with
  | nil => simp [IdSource.afterCalls]
  | cons call calls ih =>
    rw [IdSource.afterCalls, ih]
    have hcall : (source.call call generator).2.poisoned = true ↔
        generator.poisoned = true ∨ call.IsEmptyDraw := by
      by_cases hempty : call.IsEmptyDraw
      · cases call with
        | draw range => simp [call_emptyDraw hempty, hempty]
        | nextEventId => exact absurd hempty id
        | kind => exact absurd hempty id
      · rw [call_of_words hempty generator rfl]
        simp [hempty]
    rw [hcall]
    simp [or_assoc]

/-- What calls for values of empty ranges do to the history that they are part of. -/
structure ForgetsEmptyDraws (seed : UInt64) (calls : List Call) : Prop where
  /-- After any history such a call fails, and changes nothing but the flag of the lock. -/
  fails : ∀ range : DrawRange, range.hi < range.lo →
    source.call (.draw range) (source.afterCalls calls (.ofSeed seed)) =
      (.failed .emptyRange,
        { source.afterCalls calls (.ofSeed seed) with poisoned := true })
  /-- All other calls have the replies that they have if such calls are left out. -/
  replies : ((source.transcript calls (.ofSeed seed)).filter fun exchange =>
      ¬ exchange.1.IsEmptyDraw) = source.transcript (withoutEmptyDraws calls) (.ofSeed seed)
  /-- No word is lost or taken twice: the stream is the same, and as many of its words are taken. -/
  words : (source.afterCalls calls (.ofSeed seed)).words =
    (source.afterCalls (withoutEmptyDraws calls) (.ofSeed seed)).words
  /-- The flag of the lock tells whether there was such a call. -/
  flag : (source.afterCalls calls (.ofSeed seed)).poisoned = true ↔
    ∃ call ∈ calls, call.IsEmptyDraw
  /-- The source stays usable: a range with elements is drawn from as if no such call had come
      before, and never fails for the state of the lock. -/
  usable : ∀ range : DrawRange, range.lo ≤ range.hi →
    ((source.afterCalls calls (.ofSeed seed)).draw range).1 =
        ((source.afterCalls (withoutEmptyDraws calls) (.ofSeed seed)).draw range).1 ∧
      ((source.afterCalls calls (.ofSeed seed)).draw range).1 ≠ .error .emptyRange
  /-- If the words of the seed let the draw come to an end, there is a value. -/
  answers : ∀ range : DrawRange, range.lo ≤ range.hi → (ofSeed seed).words.Supplies range →
    ∃ value, ((source.afterCalls calls (.ofSeed seed)).draw range).1 = .ok value

/-- The failing draws of a history leave no trace in it but the poisoned lock. -/
theorem failed_draws_leave_no_trace (seed : UInt64) (calls : List Call) :
    ForgetsEmptyDraws seed calls := by
  obtain ⟨hreplies, hwords⟩ :=
    transcript_withoutEmptyDraws calls (.ofSeed seed) (.ofSeed seed) rfl
  refine ⟨fun range hrange => call_emptyDraw hrange _, hreplies, hwords, ?_, ?_, ?_⟩
  · have hnew : ¬ (ofSeed seed).poisoned = true := Bool.false_ne_true
    rw [poisoned_afterCalls]
    exact or_iff_right hnew
  · intro range hrange
    rw [Generator.seeded_draw hrange, Generator.seeded_draw hrange, ← hwords]
    exact ⟨rfl, Words.draw_ne_emptyRange hrange _⟩
  · intro range hrange hsupplies
    apply draw_isOk_of_supplies hrange
    unfold Words.Supplies at hsupplies ⊢
    rw [word_afterCalls]
    exact hsupplies

/-- Two failing draws between two event ids. The second id is the one that follows the first. -/
example : source.transcript
    [.nextEventId, .draw ⟨9, 1⟩, .draw ⟨1, 0⟩, .nextEventId] (.ofSeed 42) =
      [(.nextEventId, .drawn 220068), (.draw ⟨9, 1⟩, .failed .emptyRange),
        (.draw ⟨1, 0⟩, .failed .emptyRange), (.nextEventId, .drawn 573901)] := by
  decide +kernel

end SeededGenerator

end SignalStub
