import SignalStub.Randomness.Draw

/-! # Sources of event ids

    A service never draws from a generator of its own: it is given a source, which may be a
    reproducible generator, a random one, or anything else that answers a draw. Whatever a source
    answers, an event id has six digits, because it is moved into the range of the event ids.
-/

namespace SignalStub

open Randomness

/-- A source whose states are of type `σ`. -/
structure IdSource (σ : Type) where
  /-- The name that the source is reported by. -/
  kind : σ → String
  /-- Answers a draw from a range, and goes on to the next state. -/
  draw : DrawRange → σ → Except DrawFault UInt32 × σ

/-- The range of the event ids. -/
def eventIds : DrawRange := ⟨100000, 999999⟩

/-- Moves a value into a range. -/
def Randomness.DrawRange.clamp (range : DrawRange) (value : UInt32) : UInt32 :=
  if value < range.lo then range.lo else if range.hi < value then range.hi else value

/-- Draws the next event id. -/
def IdSource.nextEventId {σ : Type} (source : IdSource σ) (state : σ) :
    Except DrawFault UInt32 × σ :=
  match source.draw eventIds state with
  | (.ok value, state) => (.ok (eventIds.clamp value), state)
  | (.error fault, state) => (.error fault, state)

/-- Draws event ids until a number of them are drawn or a draw fails. -/
def IdSource.nextEventIds {σ : Type} (source : IdSource σ) :
    Nat → σ → Except DrawFault (List UInt32) × σ
  | 0, state => (.ok [], state)
  | n + 1, state =>
    match source.nextEventId state with
    | (.error fault, state) => (.error fault, state)
    | (.ok id, state) =>
      match source.nextEventIds n state with
      | (.ok ids, state) => (.ok (id :: ids), state)
      | (.error fault, state) => (.error fault, state)

/-! ## The sources of the service -/

/-- A reproducible generator behind a lock. A draw from an empty range fails while it holds the lock
    and so poisons it; the words behind a poisoned lock stay usable. -/
structure SeededGenerator where
  words : Words
  poisoned : Bool

namespace SeededGenerator

/-- The generator of a seed. -/
def ofSeed (seed : UInt64) : SeededGenerator where
  words := .ofSeed seed
  poisoned := false

/-- Draws from the words, and poisons the lock if the range is empty. -/
def draw (range : DrawRange) (generator : SeededGenerator) :
    Except DrawFault UInt32 × SeededGenerator :=
  match generator.words.draw range with
  | (.error .emptyRange, words) => (.error .emptyRange, { words, poisoned := true })
  | (result, words) => (result, { generator with words })

/-- Seeded generators as a source. -/
def source : IdSource SeededGenerator where
  kind _ := "seeded"
  draw := draw

end SeededGenerator

/-- A source of one of the kinds that services run on. -/
inductive Generator
  /-- A reproducible generator. -/
  | seeded (generator : SeededGenerator)
  /-- The generator of the running thread, whose words nobody can tell beforehand. -/
  | threadLocal (words : Words)
  /-- A source that answers every draw with one value. -/
  | fixed (value : UInt32)
  /-- A source that answers with the values of a list in turn, over and over. -/
  | cycling (values : List UInt32) (next : Nat)

namespace Generator

/-- The name of a kind of generator. -/
def kind : Generator → String
  | .seeded _ => "seeded"
  | .threadLocal _ => "thread_rng"
  | .fixed _ => "fixed"
  | .cycling _ _ => "custom"

/-- Answers a draw. Only the first two kinds look at the range. -/
def draw (range : DrawRange) : Generator → Except DrawFault UInt32 × Generator
  | .seeded generator =>
    let (value, generator) := generator.draw range
    (value, .seeded generator)
  | .threadLocal words =>
    let (value, words) := words.draw range
    (value, .threadLocal words)
  | .fixed value => (.ok value, .fixed value)
  | .cycling values next =>
    (.ok ((values[next % values.length]?).getD 0), .cycling values (next + 1))

/-- Generators as a source. -/
def source : IdSource Generator where
  kind := kind
  draw := draw

/-- The generator of a service: reproducible if there is a seed, else the thread's own. -/
def ofSeed? (entropy : Words) : Option UInt64 → Generator
  | some seed => .seeded (.ofSeed seed)
  | none => .threadLocal entropy

end Generator

end SignalStub
