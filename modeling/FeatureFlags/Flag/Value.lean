import FeatureFlags.Json.Shape

/-!
# Flag values

The value of a flag or a trait is a string, a boolean or a number (a double). Read from
JSON, any value is accepted: a number becomes its nearest double, `null`, arrays and
objects become the string of their compact JSON text (objects with sorted keys).

* `FlagValue.ofJson`: the value of any JSON value;
* `FlagValue.display`: its plain text, numbers always positional and without a
  trailing `.0` (`7`, `-0`, `1000000000000000000000`, `NaN`, `inf`);
* `FlagValue.toJson`: its JSON value (a NaN or infinite number is written `null`).
-/

namespace FeatureFlags

/-- The value of a flag or trait. -/
inductive FlagValue where
  | text (s : String)
  | bool (b : Bool)
  | number (x : Float)
  deriving Inhabited

/-- Doubles in plain text: always positional, no `.0`. -/
def FloatLayout.plain : FloatLayout where
  alwaysPositional := true
  minPoint := 0
  maxPoint := 0
  pointZero := false
  plusExponent := false
  nanText := "NaN"
  infinityText := "inf"

namespace FlagValue

/-- The string, if the value is one. -/
def asText? : FlagValue → Option String
  | .text s => some s
  | _ => none

/-- The boolean, if the value is one. -/
def asBool? : FlagValue → Option Bool
  | .bool b => some b
  | _ => none

/-- The number, if the value is one. -/
def asNumber? : FlagValue → Option Float
  | .number x => some x
  | _ => none

/-- The number value nearest to an integer. -/
def ofInt (n : Int) : FlagValue :=
  .number (Float.ofRatio (n < 0) n.natAbs 1)

/-- The value of any JSON value. -/
def ofJson : Json → FlagValue
  | .string s => .text s
  | .bool b => .bool b
  | .number n => .number n.toFloat
  | other => .text (Json.render other)

/-- The plain text of a value. -/
def display : FlagValue → String
  | .text s => s
  | .bool true => "true"
  | .bool false => "false"
  | .number x => FloatLayout.plain.render x

/-- The JSON value of a value. -/
def toJson : FlagValue → Json
  | .text s => .string s
  | .bool b => .bool b
  | .number x => .number (.float x)

/-- Reads a value from JSON text. -/
def parse (text : String) : Except JsonError FlagValue :=
  (JsonShape.parse .dynamic text).map ofJson

end FlagValue

end FeatureFlags
