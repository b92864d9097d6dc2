/-! # Patterns of routes

    The path of a route may hold wildcards: `:name` stands for the rest of one segment and `*name`,
    at the end, for the rest of the path. Neither stands for nothing. A path without a colon and a
    star stands for itself alone.
-/

namespace SignalStub.Route

/-- A part of a pattern. -/
inductive Piece
  | literal (c : Char)
  | segment (name : List Char)
  | rest (name : List Char)
  deriving DecidableEq, Repr

/-- Why a path is no pattern. -/
inductive PatternFault
  /-- A second wildcard begins before the segment of the first has ended. -/
  | crowdedSegment
  | unnamed
  /-- A wildcard for the rest of the path is not at its end. -/
  | restNotLast
  deriving DecidableEq, Repr

/-- The text of a fault. -/
def PatternFault.message : PatternFault → String
  | .crowdedSegment => "only one parameter is allowed per path segment"
  | .unnamed => "parameters must be registered with a name"
  | .restNotLast => "catch-all parameters are only allowed at the end of a route"

/-- Whether a character begins a wildcard. -/
def isWildcard (c : Char) : Bool :=
  c = ':' || c = '*'

/-- The wildcard that the reader of a path is inside of. -/
inductive Wildcard
  | outside
  | segment (name : List Char)
  | rest (name : List Char)
  deriving DecidableEq, Repr

/-- Reads on from a place outside or inside a wildcard. -/
def readPieces : Wildcard → List Char → Except PatternFault (List Piece)
  | .outside, [] => .ok []
  | .outside, c :: cs =>
    if c = ':' then readPieces (.segment []) cs
    else if c = '*' then readPieces (.rest []) cs
    else (readPieces .outside cs).map (.literal c :: ·)
  | .segment name, [] => if name.isEmpty then .error .unnamed else .ok [.segment name]
  | .segment name, c :: cs =>
    if isWildcard c then .error .crowdedSegment
    else if c = '/' then
      if name.isEmpty then .error .unnamed
      else (readPieces .outside cs).map fun pieces => .segment name :: .literal c :: pieces
    else readPieces (.segment (name ++ [c])) cs
  | .rest name, [] => if name.isEmpty then .error .unnamed else .ok [.rest name]
  | .rest name, c :: cs =>
    if isWildcard c then .error .crowdedSegment
    else if c = '/' then
      if name.isEmpty then .error .unnamed
      else (readPieces .outside cs).bind fun _ => .error .restNotLast
    else readPieces (.rest (name ++ [c])) cs

/-- Reads the path of a route. -/
def Pattern.read (path : String) : Except PatternFault (List Piece) :=
  readPieces .outside path.toList

/-- Whether a path is an instance of a pattern. -/
def Pattern.fits : List Piece → List Char → Bool
  | [], cs => cs.isEmpty
  | .literal _ :: _, [] => false
  | .literal d :: pieces, c :: cs => c = d && fits pieces cs
  | .segment _ :: pieces, cs =>
    (cs.takeWhile (· ≠ '/')) ≠ [] && fits pieces (cs.dropWhile (· ≠ '/'))
  | .rest _ :: _, cs => !cs.isEmpty

/-- Whether a pattern has no wildcard. -/
def Pattern.isLiteral (pieces : List Piece) : Bool :=
  pieces.all fun
    | .literal _ => true
    | _ => false

end SignalStub.Route
