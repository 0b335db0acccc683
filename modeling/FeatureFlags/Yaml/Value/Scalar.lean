import FeatureFlags.Yaml.Value
import FeatureFlags.Number.Decimal

/-!
# Resolving plain scalars

A plain (unquoted, untagged) scalar is read as the first of these that it is:

* null: empty, `~`, `null`, `Null`, `NULL`;
* a boolean: `true`, `True`, `TRUE`, `false`, `False`, `FALSE`;
* an integer: decimal with an optional sign, or `0x`, `0o`, `0b` with digits of that base
  (after an optional `+`, or `-` right before the prefix); a decimal of two or more
  digits that starts with `0` is no number. Integers beyond 64 bits but within 128 are
  refused (`IntegerRange`);
* a double: `.inf`, `.Inf`, `.INF` with an optional sign, `.nan`, `.NaN`, `.NAN`, or the
  standard decimal syntax when it gives a finite value;
* a string, otherwise.

The scalars tagged `!!bool`, `!!int`, `!!float` and `!!null` are read by one rule only and
refused when they do not follow it.
-/

namespace FeatureFlags

namespace Yaml

namespace PlainScalar

/-- Whether a scalar is null. -/
def isNull (s : String) : Bool := s.isEmpty || ["null", "Null", "NULL", "~"].contains s

/-- The boolean of a scalar. -/
def bool? : String → Option Bool
  | "true" | "True" | "TRUE" => some true
  | "false" | "False" | "FALSE" => some false
  | _ => none

/-- The value of a digit in a base. -/
def digitIn (base : Nat) (c : Char) : Option Nat :=
  let v :=
    if '0' ≤ c && c ≤ '9' then c.toNat - '0'.toNat
    else if 'a' ≤ c && c ≤ 'z' then c.toNat - 'a'.toNat + 10
    else if 'A' ≤ c && c ≤ 'Z' then c.toNat - 'A'.toNat + 10
    else 36
  if v < base then some v else none

/-- The value of one or more digits of a base. -/
def digits? (base : Nat) (cs : List Char) : Option Nat :=
  if cs.isEmpty then none
  else cs.foldlM (fun acc c => (digitIn base c).map (acc * base + ·)) 0

/-- An integer with an optional sign and digits of a base; a `-` only when `signed`. -/
def integer? (signed : Bool) (base : Nat) (s : String) : Option Int :=
  match s.toList with
  | '+' :: rest => (digits? base rest).map Int.ofNat
  | '-' :: rest => if signed then (digits? base rest).map fun n => -(n : Int) else none
  | cs => (digits? base cs).map Int.ofNat

/-- Whether a scalar is digits with a leading zero (after an optional sign), which is
    no number. -/
def zeroPadded (s : String) : Bool :=
  let cs := match s.toList with
    | '+' :: rest => rest
    | '-' :: rest => rest
    | cs => cs
  cs.length > 1 && cs.head? == some '0' && cs.tail.all Char.isDigit

/-- The text after a prefix. -/
def after? (pfx s : String) : Option String :=
  if s.startsWith pfx then some (String.ofList (s.toList.drop pfx.length)) else none

/-- Whether a text starts with a sign. -/
def signed (s : String) : Bool := s.startsWith "+" || s.startsWith "-"

/-- A non-negative integer of a scalar within a bound. -/
def unsigned? (bound : Nat) (s : String) : Option Nat :=
  let fits (v : Option Int) : Option Nat :=
    match v with
    | some n => if 0 ≤ n && n.toNat < bound then some n.toNat else none
    | none => none
  let body := (after? "+" s).getD s
  let based (pfx : String) (base : Nat) : Option (Option Nat) :=
    match after? pfx body with
    | some rest => if signed rest then some none else (fits (integer? false base rest)).map some
    | none => none
  match based "0x" 16 with
  | some r => r
  | none =>
  match based "0o" 8 with
  | some r => r
  | none =>
  match based "0b" 2 with
  | some r => r
  | none =>
  if signed body || zeroPadded s then none else fits (integer? false 10 body)

/-- A negative (or zero) integer of a scalar within a bound on its magnitude. -/
def negative? (bound : Nat) (s : String) : Option Int :=
  let fits (v : Option Int) : Option Int :=
    match v with
    | some n => if -(bound : Int) ≤ n && n < bound then some n else none
    | none => none
  let based (pfx : String) (base : Nat) : Option Int :=
    match after? pfx s with
    | some rest => fits (integer? true base ("-" ++ rest))
    | none => none
  match based "-0x" 16 with
  | some n => some n
  | none =>
  match based "-0o" 8 with
  | some n => some n
  | none =>
  match based "-0b" 2 with
  | some n => some n
  | none => if zeroPadded s then none else fits (integer? true 10 s)

/-- Why a scalar is refused. -/
inductive Refusal where
  /-- An integer beyond 64 bits: unsigned, or signed. -/
  | integerRange (n : Int) (isUnsigned : Bool)
  deriving Repr

/-- The integer of a scalar, if it is one. -/
def integerValue? (s : String) : Option (Except Refusal YamlNumber) :=
  match unsigned? (Nat.pow 2 64) s with
  | some n => some (.ok (.natural n))
  | none =>
  match negative? (Nat.pow 2 63) s with
  | some n => some (.ok (YamlNumber.ofInt n))
  | none =>
  match unsigned? (Nat.pow 2 128) s with
  | some n => some (.error (.integerRange n true))
  | none =>
  match negative? (Nat.pow 2 127) s with
  | some n => some (.error (.integerRange n false))
  | none => none

/-- The finite double of a scalar, or an infinity or NaN written the YAML way. -/
def float? (s : String) : Option Float :=
  let body? : Option String :=
    match after? "+" s with
    | some rest => if signed rest then none else some rest
    | none => some s
  match body? with
  | none => none
  | some body =>
    if [".inf", ".Inf", ".INF"].contains body then some Float.infinity
    else if ["-.inf", "-.Inf", "-.INF"].contains s then some (-Float.infinity)
    else if [".nan", ".NaN", ".NAN"].contains s then some Float.nan
    else
      match Float.parseStandard? body with
      | some x => if x.isNaN || x.isInf then none else some x
      | none => none

/-- The value of a plain scalar. -/
def resolve (s : String) : Except Refusal YamlValue :=
  if isNull s then .ok .null
  else match bool? s with
  | some b => .ok (.bool b)
  | none =>
  match integerValue? s with
  | some (.ok n) => .ok (.number n)
  | some (.error e) => .error e
  | none =>
  if zeroPadded s then .ok (.string s)
  else match float? s with
  | some x => .ok (.number (.real x))
  | none => .ok (.string s)

end PlainScalar

end Yaml

end FeatureFlags
