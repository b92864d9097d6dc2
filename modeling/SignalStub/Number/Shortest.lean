import SignalStub.Number.Binary64

/-! # The shortest decimal of a double

    The decimals that read back as a double fill an interval around it. The shortest of them lie on
    the coarsest decimal grid that meets the interval; of those the nearest to the double is taken,
    and of two the larger. It is written positionally, without an exponent.
-/

namespace SignalStub.Number.Binary64

/-! ## The interval that reads back -/

/-- The interval of a double in quarters of its last place: both ends, the double itself, and
    whether the ends belong to it. -/
structure Interval where
  low : Nat
  value : Nat
  high : Nat
  closed : Bool
  /-- A quarter of the last place is `2 ^ exponent`. -/
  exponent : Int

/-- The interval around `mantissa * 2 ^ exponent`. The gap below a power of two is half as wide as
    the gap above it, except among the smallest doubles. -/
def interval (mantissa : Nat) (exponent : Int) : Interval where
  low := 4 * mantissa - (if mantissa = 1 <<< 52 && minExponent < exponent then 1 else 2)
  value := 4 * mantissa
  high := 4 * mantissa + 2
  closed := mantissa % 2 == 0
  exponent := exponent - 2

/-- The factors `(p, q)` with `2 ^ binary / 10 ^ decimal = p / q`. -/
def gridFactors (binary decimal : Int) : Nat × Nat :=
  (Nat.pow 10 (-decimal).toNat <<< binary.toNat, Nat.pow 10 decimal.toNat <<< (-binary).toNat)

/-- The point of the grid `10 ^ decimal` that lies in the interval and nearest to the double. -/
def gridPoint? (i : Interval) (decimal : Int) : Option Nat :=
  let (p, q) := gridFactors i.exponent decimal
  let inside (d : Nat) : Bool :=
    if i.closed then i.low * p ≤ d * q && d * q ≤ i.high * p
    else i.low * p < d * q && d * q < i.high * p
  let below := i.value * p / q
  let above := below + 1
  match inside below, inside above with
  | true, true => some (if i.value * p - below * q < above * q - i.value * p then below else above)
  | true, false => some below
  | false, true => some above
  | false, false => none

/-- The first grid that has a point in the interval, from the coarsest on, with that point. -/
def coarsest? (i : Interval) : Nat → Int → Option (Nat × Int)
  | 0, _ => none
  | steps + 1, decimal =>
    match gridPoint? i decimal with
    | some point => some (point, decimal)
    | none => coarsest? i steps (decimal - 1)

/-- The shortest decimal of a positive double, as `digits * 10 ^ exponent`. -/
def shortest (mantissa : Nat) (exponent : Int) : Nat × Int :=
  (coarsest? (interval mantissa exponent) 700 310).getD (0, 0)

/-! ## Writing -/

/-- `digits * 10 ^ exponent` in positional notation. -/
def positional (digits : Nat) (exponent : Int) : List Char :=
  let ds := Nat.toDigits 10 digits
  if 0 ≤ exponent then
    ds ++ List.replicate exponent.toNat '0'
  else
    let places := (-exponent).toNat
    if places < ds.length then
      ds.take (ds.length - places) ++ '.' :: ds.drop (ds.length - places)
    else
      '0' :: '.' :: (List.replicate (places - ds.length) '0' ++ ds)

/-- The text of a double. -/
def toText : Binary64 → String
  | .nan => "NaN"
  | .infinite negative => if negative then "-inf" else "inf"
  | .finite negative mantissa exponent =>
    let body := if mantissa = 0 then ['0'] else
      let (digits, exponent) := shortest mantissa exponent
      positional digits exponent
    String.ofList (if negative then '-' :: body else body)

end SignalStub.Number.Binary64
