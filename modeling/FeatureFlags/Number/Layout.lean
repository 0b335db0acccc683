import FeatureFlags.Number.Shortest

/-!
# Writing a double

The digits of a double are its shortest decimal (`BinaryFloat.shortest`); a
`FloatLayout` decides how they are laid out: in positional notation or with an exponent,
whether an integral value keeps a `.0`, how the exponent is signed, and the texts of NaN
and the infinities.

With `d` significant digits and the decimal point `point` places after the first digit's
position (the value lies in `[10^(point-1), 10^point)`), positional notation is used when
`minPoint < point ≤ maxPoint`, unless the layout is always positional.

* `FloatLayout.render`: the text of a double under a layout.
-/

namespace FeatureFlags

/-- How a double is written. -/
structure FloatLayout where
  /-- Positional notation for every finite value. -/
  alwaysPositional : Bool
  /-- Positional notation needs the point strictly above this place. -/
  minPoint : Int
  /-- Positional notation needs the point at most at this place. -/
  maxPoint : Int
  /-- An integral value in positional notation ends in `.0`. -/
  pointZero : Bool
  /-- A positive exponent is written with `+`. -/
  plusExponent : Bool
  nanText : String
  infinityText : String
  deriving Repr

namespace FloatLayout

/-- `n` zero digits. -/
def zeros (n : Nat) : String :=
  String.ofList (List.replicate n '0')

/-- The digits of a decimal laid out positionally (no sign). -/
def positional (layout : FloatLayout) (d : Decimal) : String :=
  let digits := toString d.digits
  let len := digits.length
  if d.exponent ≥ 0 then
    digits ++ zeros d.exponent.toNat ++ (if layout.pointZero then ".0" else "")
  else
    let frac := (-d.exponent).toNat
    if len > frac then
      String.ofList (digits.toList.take (len - frac)) ++ "." ++
        String.ofList (digits.toList.drop (len - frac))
    else
      "0." ++ zeros (frac - len) ++ digits

/-- The digits of a decimal with an exponent (no sign). -/
def scientific (layout : FloatLayout) (d : Decimal) : String :=
  let digits := toString d.digits
  let len := digits.length
  let exp : Int := d.exponent + len - 1
  let mantissa :=
    match digits.toList with
    | first :: rest@(_ :: _) => String.ofList (first :: '.' :: rest)
    | _ => digits
  let sign := if exp < 0 then "-" else if layout.plusExponent then "+" else ""
  mantissa ++ "e" ++ sign ++ toString exp.natAbs

/-- The text of a finite magnitude. -/
def magnitude (layout : FloatLayout) (d : Decimal) : String :=
  if d.digits = 0 then
    if layout.pointZero then "0.0" else "0"
  else
    let point : Int := d.exponent + (toString d.digits).length
    if layout.alwaysPositional || (layout.minPoint < point && point ≤ layout.maxPoint) then
      layout.positional d
    else
      layout.scientific d

/-- The text of a double. -/
def render (layout : FloatLayout) (x : Float) : String :=
  match Float.toBinary? x with
  | none =>
    if x.isNaN then layout.nanText
    else if x < 0 then "-" ++ layout.infinityText
    else layout.infinityText
  | some b =>
    (if b.negative then "-" else "") ++ layout.magnitude b.shortest

end FloatLayout

end FeatureFlags
