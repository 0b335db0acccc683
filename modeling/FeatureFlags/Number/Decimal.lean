import FeatureFlags.Number.Binary

/-!
# Reading decimals as doubles

Two rules turn a decimal `digits · 10^exponent` into a double.

* `Float.ofDecimal`: the nearest double, rounded once (ties to even); values past the
  largest double are infinite. This is the rule of the standard float syntax read by
  `Float.parseStandard?` (an optional sign, digits with an optional point, an optional
  exponent, or `inf`, `infinity` and `nan` in any case).
* `Float.scaleDecimal?`: the rule of the JSON reader. The significand (below `2^64`) is
  first rounded to a double, which is then multiplied or divided by the double nearest to
  `10^|exponent|` (for `|exponent| ≤ 308`; beyond, it is divided by `10^308` first). Each
  operation rounds, so the result can differ from the nearest double by an ulp. A
  nonzero value pushed to infinity by a multiplication, or a nonzero significand with an
  exponent above 308 after the divisions, is out of range (`none`).
-/

namespace FeatureFlags

/-- The double nearest to `±digits · 10^exponent`. -/
def Float.ofDecimal (negative : Bool) (digits : Nat) (exponent : Int) : Float :=
  if digits = 0 then Float.ofMagnitudeBits negative 0
  else
    let width := (toString digits).length
    -- past the largest double, or below half the smallest one: no need for exact work
    if exponent + width > 310 then Float.ofMagnitudeBits negative (2047 * (Nat.pow 2 52))
    else if exponent + width < -330 then Float.ofMagnitudeBits negative 0
    else if exponent ≥ 0 then Float.ofRatio negative (digits * (Nat.pow 10 exponent.toNat)) 1
    else Float.ofRatio negative digits (Nat.pow 10 (-exponent).toNat)

/-- The double nearest to `10^k`. -/
def Float.powerOfTen (k : Nat) : Float :=
  Float.ofRatio false (Nat.pow 10 k) 1

/-- Scaling by powers of ten in doubles, at most `fuel` rounds; see the module note. -/
def Float.scaleDecimalFrom : Nat → Float → Int → Option Float
  | 0, f, _ => some f
  | fuel + 1, f, exponent =>
    if exponent.natAbs ≤ 308 then
      let pow := Float.powerOfTen exponent.natAbs
      if exponent ≥ 0 then
        let g := f * pow
        if g.isInf then none else some g
      else some (f / pow)
    else if f == 0 then some f
    else if exponent ≥ 0 then none
    else Float.scaleDecimalFrom fuel (f / Float.powerOfTen 308) (exponent + 308)

/-- The JSON reader's double for `±significand · 10^exponent` (`significand < 2^64`),
    or `none` when it is out of range. Three rounds suffice: a significand below `2^64`
    divided twice by `10^308` is zero. -/
def Float.scaleDecimal? (negative : Bool) (significand : Nat) (exponent : Int) :
    Option Float :=
  match Float.scaleDecimalFrom 3 (Float.ofRatio false significand 1) exponent with
  | some f => some (if negative then -f else f)
  | none => none

namespace StandardFloat

/-- The digits at the front of a list, their value and count, and the rest. -/
def digitRun : List Char → Nat → Nat → Nat × Nat × List Char
  | c :: rest, value, count =>
    if c.isDigit then digitRun rest (value * 10 + (c.toNat - 48)) (count + 1)
    else (value, count, c :: rest)
  | [], value, count => (value, count, [])

/-- Lowercase of an ASCII letter. -/
def lower (c : Char) : Char :=
  if 'A' ≤ c ∧ c ≤ 'Z' then Char.ofNat (c.toNat + 32) else c

/-- An unsigned decimal: digits, an optional point and digits, an optional exponent; at
    least one digit before the exponent, and the whole text used. -/
def unsigned? (cs : List Char) : Option (Nat × Int) := do
  let (whole, wholeCount, rest) := digitRun cs 0 0
  let (digits, count, afterPoint, rest) :=
    match rest with
    | '.' :: rest =>
      let (frac, fracCount, rest) := digitRun rest 0 0
      (whole * (Nat.pow 10 fracCount) + frac, wholeCount + fracCount, fracCount, rest)
    | _ => (whole, wholeCount, 0, rest)
  if count = 0 then none
  match rest with
  | [] => some (digits, -(afterPoint : Int))
  | e :: rest =>
    if e = 'e' ∨ e = 'E' then
      let (negExp, rest) :=
        match rest with
        | '-' :: r => (true, r)
        | '+' :: r => (false, r)
        | r => (false, r)
      let (exp, expCount, rest) := digitRun rest 0 0
      if expCount = 0 ∨ rest ≠ [] then none
      else some (digits, (if negExp then -(exp : Int) else exp) - afterPoint)
    else none

end StandardFloat

/-- Reads the standard float syntax: an optional sign, then `inf`, `infinity` or `nan`
    in any case, or a decimal with optional point and exponent; the nearest double. -/
def Float.parseStandard? (s : String) : Option Float :=
  let cs := s.toList
  let (negative, rest) :=
    match cs with
    | '-' :: r => (true, r)
    | '+' :: r => (false, r)
    | r => (false, r)
  let word := String.ofList (rest.map StandardFloat.lower)
  if word = "inf" ∨ word = "infinity" then
    some (if negative then -Float.infinity else Float.infinity)
  else if word = "nan" then some Float.nan
  else
    match StandardFloat.unsigned? rest with
    | some (digits, exponent) => some (Float.ofDecimal negative digits exponent)
    | none => none

end FeatureFlags
