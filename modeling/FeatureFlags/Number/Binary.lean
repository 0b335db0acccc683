/-!
# Doubles as exact binary numbers

A finite double is `(-1)^s · m · 2^q` with a natural significand `m`; this module reads
that form off the bits of a `Float` and builds a `Float` back from it, rounding to the
nearest double with ties to an even significand.

* `Float.toBinary?`: the sign, significand and exponent of a finite double (`none` for
  NaN and the infinities);
* `Float.ofRatio`: the double nearest to a ratio of naturals, rounded once, exactly.
-/

namespace FeatureFlags

/-- A finite double: its value is `(-1)^negative · significand · 2^exponent`. -/
structure BinaryFloat where
  negative : Bool
  significand : Nat
  exponent : Int
  deriving Repr, DecidableEq

/-- The fields of a double's bits: sign, biased exponent and fraction. -/
def Float.fields (x : Float) : Bool × Nat × Nat :=
  let bits := x.toBits.toNat
  (bits / (Nat.pow 2 63) = 1, bits / (Nat.pow 2 52) % (Nat.pow 2 11), bits % (Nat.pow 2 52))

/-- The exact binary form of a finite double. The significand of a normal double has its
    leading bit `2^52` made explicit; a subnormal has exponent `-1074`. -/
def Float.toBinary? (x : Float) : Option BinaryFloat :=
  let (negative, biased, fraction) := Float.fields x
  if biased = 2047 then none
  else if biased = 0 then some ⟨negative, fraction, -1074⟩
  else some ⟨negative, fraction + (Nat.pow 2 52), (biased : Int) - 1075⟩

/-- Whether the significand sits at a power of two above the smallest normal exponent,
    where the gap to the next lower double is half the gap to the next higher one. -/
def BinaryFloat.lowerGapHalved (b : BinaryFloat) : Bool :=
  b.significand = (Nat.pow 2 52) && b.exponent > -1074

/-- The double with the given sign and bits below the sign. -/
def Float.ofMagnitudeBits (negative : Bool) (magnitude : Nat) : Float :=
  Float.ofBits (UInt64.ofNat ((if negative then (Nat.pow 2 63) else 0) + magnitude))

/-- Positive infinity. -/
def Float.infinity : Float := Float.ofMagnitudeBits false (2047 * (Nat.pow 2 52))

/-- A quiet NaN. -/
def Float.nan : Float := Float.ofMagnitudeBits false (2047 * (Nat.pow 2 52) + (Nat.pow 2 51))

/-- Division of naturals rounded to the nearest natural, ties to even. -/
def Nat.divRoundEven (num den : Nat) : Nat :=
  let q := num / den
  let r := num % den
  if 2 * r < den then q
  else if 2 * r > den then q + 1
  else if q % 2 = 0 then q else q + 1

/-- The double nearest to `num / den` (for `den > 0`), with the given sign; ties go to an
    even significand, and values beyond the largest double become infinity.

    The ratio is scaled by `2^s` so that its integer part has 53 bits (or fewer, at the
    subnormal quantum `2^-1074`), and that integer part is rounded once. -/
def Float.ofRatio (negative : Bool) (num den : Nat) : Float :=
  if num = 0 then Float.ofMagnitudeBits negative 0
  else
    -- 2^(e) ≤ num/den < 2^(e+1) for e = log2 num - log2 den or one less
    let e0 : Int := (num.log2 : Int) - (den.log2 : Int)
    let e : Int := if num * (Nat.pow 2 (-e0).toNat) < den * (Nat.pow 2 e0.toNat) then e0 - 1 else e0
    -- the quantum: 2^(e - 52), but never below 2^-1074
    let quantum : Int := max (e - 52) (-1074)
    let scaledNum := num * (Nat.pow 2 (-quantum).toNat)
    let scaledDen := den * (Nat.pow 2 quantum.toNat)
    let m := Nat.divRoundEven scaledNum scaledDen
    -- m · 2^quantum, with m ≤ 2^53; a carry to 2^53 moves to the next binade
    let (m, quantum) := if m = (Nat.pow 2 53) then ((Nat.pow 2 52), quantum + 1) else (m, quantum)
    if m < (Nat.pow 2 52) then
      Float.ofMagnitudeBits negative m
    else
      let biased := quantum + 1075
      if biased ≥ 2047 then Float.ofMagnitudeBits negative (2047 * (Nat.pow 2 52))
      else Float.ofMagnitudeBits negative (biased.toNat * (Nat.pow 2 52) + (m - (Nat.pow 2 52)))

end FeatureFlags
