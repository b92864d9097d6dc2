/-! # Similar words

    Two words are similar when many of their characters agree at nearly the same places. The measure
    counts the characters of one word that find an equal partner in the other within a window, and
    half of the partners that stand out of order:

    `(matches / |a| + matches / |b| + (matches - swaps) / matches) / 3`.

    It is kept as an exact fraction.
-/

namespace SignalStub.CommandLine

/-- A fraction of natural numbers. -/
structure Ratio where
  num : Nat
  den : Nat
  deriving DecidableEq, Repr

/-- Whether one fraction is at most another. -/
def Ratio.atMost (a b : Ratio) : Bool :=
  a.num * b.den ≤ b.num * a.den

namespace Similarity

/-- The farthest distance at which two characters count as partners. -/
def window (a b : List Char) : Nat :=
  max a.length b.length / 2 - 1

/-- The first position from `low` up to `high` that holds a character and is not taken. -/
def partner? (b : List Char) (taken : List Nat) (c : Char) (low high : Nat) : Option Nat :=
  (List.range b.length).find? fun j =>
    low ≤ j && j < high && b[j]? == some c && !taken.contains j

/-- The positions of the characters with partners, and those of the partners. -/
def partners (reach : Nat) (b : List Char) :
    Nat → List Nat → List Char → List (Nat × Char) × List Nat
  | _, taken, [] => ([], taken)
  | i, taken, c :: rest =>
    match partner? b taken c (i - reach) (i + reach + 1) with
    | some j =>
      let (found, taken) := partners reach b (i + 1) (j :: taken) rest
      ((i, c) :: found, taken)
    | none => partners reach b (i + 1) taken rest

/-- How similar two words are. -/
def measure (a b : List Char) : Ratio :=
  if a.isEmpty && b.isEmpty then ⟨1, 1⟩
  else if a.isEmpty || b.isEmpty then ⟨0, 1⟩
  else
    let (found, taken) := partners (window a b) b 0 [] a
    let others := (List.range b.length).filterMap fun j => if taken.contains j then b[j]? else none
    let swaps := ((found.map (·.2)).zip others |>.countP fun (c, d) => c ≠ d) / 2
    let count := found.length
    if count = 0 then ⟨0, 1⟩
    else
      ⟨count * count * b.length + count * count * a.length + (count - swaps) * a.length * b.length,
        3 * a.length * b.length * count⟩

/-- The least similarity is seven tenths, and more than that is needed. -/
def isSimilar (a b : List Char) : Bool :=
  !(measure a b).atMost ⟨7, 10⟩

/-- Inserts a word behind those that are at most as similar. -/
def insert (word : String) (ratio : Ratio) : List (String × Ratio) → List (String × Ratio)
  | [] => [(word, ratio)]
  | (other, known) :: rest =>
    if known.atMost ratio then (other, known) :: insert word ratio rest
    else (word, ratio) :: (other, known) :: rest

/-- The words that are similar to a given one, the most similar last. -/
def similarTo (given : String) (words : List String) : List String :=
  (words.filter fun word => isSimilar given.toList word.toList).foldl
    (fun known word => insert word (measure given.toList word.toList) known) [] |>.map (·.1)

end Similarity

end SignalStub.CommandLine
