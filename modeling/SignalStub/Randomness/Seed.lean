/-! # From a seed to a key

    A 64-bit seed is stretched to a 256-bit key by a small congruential generator: its state steps
    first, and each state gives one word, the permuted upper half of the state.
-/

namespace SignalStub.Randomness

/-- The 256-bit key of a generator, as eight words. -/
structure Key where
  k0 : UInt32
  k1 : UInt32
  k2 : UInt32
  k3 : UInt32
  k4 : UInt32
  k5 : UInt32
  k6 : UInt32
  k7 : UInt32
  deriving DecidableEq, Repr

namespace Seed

/-- One step of the congruential generator. -/
def next (state : UInt64) : UInt64 :=
  state * 6364136223846793005 + 11634580027462260723

/-- Rotates a word to the right. -/
def rotateRight (word amount : UInt32) : UInt32 :=
  (word >>> amount) ||| (word <<< ((32 - amount) % 32))

/-- The word of a state: its folded upper bits, rotated by its topmost five. -/
def output (state : UInt64) : UInt32 :=
  rotateRight (((state >>> 18) ^^^ state) >>> 27).toUInt32 (state >>> 59).toUInt32

/-- The key of a seed: the words of the eight states that follow it. -/
def key (seed : UInt64) : Key :=
  let s0 := next seed
  let s1 := next s0
  let s2 := next s1
  let s3 := next s2
  let s4 := next s3
  let s5 := next s4
  let s6 := next s5
  let s7 := next s6
  ⟨output s0, output s1, output s2, output s3, output s4, output s5, output s6, output s7⟩

end Seed

end SignalStub.Randomness
