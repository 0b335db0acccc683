import FeatureFlags.Number.Binary

/-!
# Shortest decimal of a double

Every finite double is the nearest double to many decimals; the one written is the
decimal with the fewest significant digits that reads back to the double, and among
those the nearest to it.

The doubles that round to `m · 2^q` fill the interval between the midpoints to its two
neighbours; the ends belong to it exactly when `m` is even (ties go to the even
significand). For one significant digit, then two, and so on up to seventeen, the two
points of that decimal grid around the value are tested against the interval in exact
natural arithmetic; the first grid with a point inside wins, and of two points the nearer
(a tie goes to the even digit).

* `Decimal`: a decimal `digits · 10^exponent`;
* `BinaryFloat.shortest`: the shortest decimal of a finite nonzero double, with no
  trailing zero digit.
-/

namespace FeatureFlags

/-- The decimal number `digits · 10^exponent`. -/
structure Decimal where
  digits : Nat
  exponent : Int
  deriving Repr, DecidableEq

namespace Decimal

/-- The number of decimal digits of a natural (one for zero). -/
def digitCount (n : Nat) : Nat :=
  (Nat.toDigits 10 n).length

/-- Moves trailing zero digits into the exponent. -/
def normalize (d : Decimal) : Decimal :=
  go d.digits.log2.succ d
where
  /-- At most `fuel` zero digits are moved, one per step. -/
  go : Nat → Decimal → Decimal
    | 0, d => d
    | fuel + 1, d =>
      if d.digits ≠ 0 ∧ d.digits % 10 = 0 then go fuel ⟨d.digits / 10, d.exponent + 1⟩
      else d

end Decimal

/-- Compares `a · 10^i` with `b · 2^j` exactly. -/
def compareScaled (a : Nat) (i : Int) (b : Nat) (j : Int) : Ordering :=
  compare (a * (Nat.pow 10 i.toNat) * (Nat.pow 2 (-j).toNat)) (b * (Nat.pow 2 j.toNat) * (Nat.pow 10 (-i).toNat))

namespace BinaryFloat

/-- The smallest `n` with `|value| < 10^n`, searched near the estimate from the binary
    exponent (`log10 2 ≈ 0.30103`). -/
def decimalPlace (m : Nat) (q : Int) : Int :=
  let e2 : Int := (m.log2 : Int) + q
  let guess : Int := Int.fdiv (e2 * 30103) 100000
  let below (n : Int) : Bool := compareScaled 1 n m q == .gt
  -- the estimate is off by at most one, so the place is between `guess` and `guess + 2`
  if below guess then guess
  else if below (guess + 1) then guess + 1
  else if below (guess + 2) then guess + 2
  else guess + 3

/-- Whether `d · 10^p` lies in the rounding interval of `m · 2^q`, whose lower half-gap
    is `2^q / 4` instead of `2^q / 2` when `halved`; ends count when `m` is even. -/
def inInterval (m : Nat) (q : Int) (halved : Bool) (d : Nat) (p : Int) : Bool :=
  let lowSlack := if halved then 1 else 2
  let inclusive := m % 2 = 0
  -- compare 4 · d · 10^p with (4m ∓ slack) · 2^q
  let aboveLow := compareScaled (4 * d) p (4 * m - lowSlack) q
  let belowHigh := compareScaled (4 * d) p (4 * m + 2) q
  let okLow := aboveLow == .gt || (inclusive && aboveLow == .eq)
  let okHigh := belowHigh == .lt || (inclusive && belowHigh == .eq)
  okLow && okHigh

/-- The point of the grid `10^p` chosen for `m · 2^q`, if either neighbour of the value
    on that grid lies in its rounding interval. -/
def onGrid (m : Nat) (q : Int) (halved : Bool) (p : Int) : Option Nat :=
  let num := m * (Nat.pow 2 q.toNat) * (Nat.pow 10 (-p).toNat)
  let den := (Nat.pow 2 (-q).toNat) * (Nat.pow 10 p.toNat)
  let low := num / den
  let lowIn := inInterval m q halved low p
  let highIn := inInterval m q halved (low + 1) p
  if lowIn && highIn then
    -- nearer of the two: compare 2 · value with (2 · low + 1) · 10^p
    match compare (2 * num) ((2 * low + 1) * den) with
    | .lt => some low
    | .gt => some (low + 1)
    | .eq => some (if low % 2 = 0 then low else low + 1)
  else if lowIn then some low
  else if highIn then some (low + 1)
  else none

/-- The first grid, from `digits` significant digits up to seventeen, with a point in the
    rounding interval. -/
def searchGrids (m : Nat) (q : Int) (halved : Bool) (place : Int) :
    Nat → Nat → Option Decimal
  | 0, _ => none
  | fuel + 1, digits =>
    let p := place - digits
    match onGrid m q halved p with
    | some d => some ⟨d, p⟩
    | none => searchGrids m q halved place fuel (digits + 1)

/-- The shortest decimal that reads back to the magnitude of a finite double, the nearest
    among those, without trailing zeros; zero for a zero. -/
def shortest (b : BinaryFloat) : Decimal :=
  if b.significand = 0 then ⟨0, 0⟩
  else
    let place := decimalPlace b.significand b.exponent
    match searchGrids b.significand b.exponent b.lowerGapHalved place 17 1 with
    | some d => d.normalize
    | none =>
      -- seventeen digits always suffice; this is the value rounded on that grid
      let p := place - 17
      let num := b.significand * (Nat.pow 2 b.exponent.toNat) * (Nat.pow 10 (-p).toNat)
      let den := (Nat.pow 2 (-b.exponent).toNat) * (Nat.pow 10 p.toNat)
      (Decimal.mk (Nat.divRoundEven num den) p).normalize

end BinaryFloat

end FeatureFlags
