/-! # Sets of characters as ranges of code points

    The character properties of the standard are kept as lists of closed ranges.
-/

namespace SignalStub.Text

/-- A set of characters: closed ranges of code points, in ascending order. -/
abbrev CharRanges := List (Nat × Nat)

/-- Whether a character lies in one of the ranges. -/
def CharRanges.has (ranges : CharRanges) (c : Char) : Bool :=
  ranges.any fun (first, last) => first ≤ c.toNat && c.toNat ≤ last

end SignalStub.Text
