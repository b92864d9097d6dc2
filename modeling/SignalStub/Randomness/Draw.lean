import SignalStub.Randomness.Words

/-! # Uniform draws

    A draw from a range takes words until one is accepted. The product of a word and the size of the
    range has 64 bits: its upper half says which element the word stands for, and its lower half is
    bounded so that every element keeps the same number of words. The range of all words takes the
    next word as it is.

    An empty range is noticed before any word is taken.
-/

namespace SignalStub.Randomness

/-- A range of words, both ends included. -/
structure DrawRange where
  lo : UInt32
  hi : UInt32
  deriving DecidableEq, Repr

/-- Why a draw gives no value. -/
inductive DrawFault
  /-- The lower end lies above the upper end. -/
  | emptyRange
  /-- No word of a whole period of the stream is accepted, so that none ever will be. -/
  | endless
  deriving DecidableEq, Repr

/-- The text of a fault. -/
def DrawFault.message : DrawFault → String
  | .emptyRange => "cannot sample empty range"
  | .endless => "no word is ever accepted"

namespace DrawRange

/-- The number of elements, which is zero for the range of all words. -/
def size (range : DrawRange) : UInt32 :=
  range.hi - range.lo + 1

/-- The number of zero bits above the highest one bit of a word that is not zero. -/
def leadingZeros (word : UInt32) : Nat :=
  31 - word.toNat.log2

/-- The largest lower half that is accepted. -/
def zone (range : DrawRange) : UInt32 :=
  UInt32.ofNat (range.size.toNat <<< leadingZeros range.size) - 1

/-- The element that a word stands for, if the word is accepted. -/
def accept? (range : DrawRange) (word : UInt32) : Option UInt32 :=
  if range.size = 0 then
    some word
  else
    let product := word.toNat * range.size.toNat
    if UInt32.ofNat product ≤ range.zone then
      some (range.lo + UInt32.ofNat (product / UInt32.size))
    else
      none

end DrawRange

namespace Words

/-- The number of words after which the stream of a key repeats itself. -/
def period : Nat := 16 * UInt64.size

/-- The first of the next `steps` words that is accepted, with the number of words taken then. -/
def search (word : Nat → UInt32) (range : DrawRange) : Nat → Nat → Option (UInt32 × Nat)
  | 0, _ => none
  | steps + 1, position =>
    match range.accept? (word position) with
    | some value => some (value, position + 1)
    | none => search word range steps (position + 1)

/-- Draws an element of a range. -/
def draw (range : DrawRange) (words : Words) : Except DrawFault UInt32 × Words :=
  if range.hi < range.lo then
    (.error .emptyRange, words)
  else
    match search words.word range period words.taken with
    | some (value, taken) => (.ok value, { words with taken })
    | none => (.error .endless, words)

end Words

end SignalStub.Randomness
