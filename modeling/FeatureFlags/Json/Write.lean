import FeatureFlags.Json.Value
import FeatureFlags.Number.Layout
import FeatureFlags.Text.Hex

/-!
# Writing JSON

Compact JSON text: no blanks, fields in the order of the value, strings quoted with the
short escapes `\"`, `\\`, `\b`, `\f`, `\n`, `\r`, `\t` and `\u00xx` (lowercase digits) for
the other control characters; every other character is written as itself.

Numbers: integers in decimal; a double by its shortest decimal, positional from `1e-5`
up to below `1e16` with `.0` on an integral value, otherwise with an exponent carrying its
sign (`1e+21`, `1e-7`). A NaN or an infinity has no JSON text and is written `null`.

* `Json.render`: the text of a value;
* `Json.quote`: the text of a string.
-/

namespace FeatureFlags

/-- Doubles in JSON text. -/
def FloatLayout.json : FloatLayout where
  alwaysPositional := false
  minPoint := -5
  maxPoint := 16
  pointZero := true
  plusExponent := true
  nanText := "null"
  infinityText := "null"

namespace Json

/-- The escape of one character inside a JSON string. -/
def escapeChar (c : Char) : String :=
  match c with
  | '"' => "\\\""
  | '\\' => "\\\\"
  | '\n' => "\\n"
  | '\r' => "\\r"
  | '\t' => "\\t"
  | '\x08' => "\\b"
  | '\x0c' => "\\f"
  | c =>
    if c.toNat < 0x20 then
      "\\u00" ++ String.ofList [Hex.digit (c.toNat / 16), Hex.digit (c.toNat % 16)]
    else String.singleton c

/-- The quoted text of a string. -/
def quote (s : String) : String :=
  (s.foldl (fun acc c => acc ++ escapeChar c) "\"") ++ "\""

/-- The text of a double: `null` when it is not finite. -/
def floatText (f : Float) : String :=
  if f.isNaN || f.isInf then "null" else FloatLayout.json.render f

/-- The text of a number. -/
def numberText : JsonNumber → String
  | .unsigned n => toString n
  | .negative n => toString n
  | .float f => floatText f

mutual

/-- The compact text of a value. -/
def render : Json → String
  | .null => "null"
  | .bool true => "true"
  | .bool false => "false"
  | .number n => numberText n
  | .string s => quote s
  | .array items => "[" ++ renderItems items ++ "]"
  | .object fields => "\x7b" ++ renderFields fields ++ "\x7d"

/-- The texts of array items, separated by commas. -/
def renderItems : List Json → String
  | [] => ""
  | [x] => render x
  | x :: rest => render x ++ "," ++ renderItems rest

/-- The texts of object fields, separated by commas. -/
def renderFields : List (String × Json) → String
  | [] => ""
  | [(k, v)] => quote k ++ ":" ++ render v
  | (k, v) :: rest => quote k ++ ":" ++ render v ++ "," ++ renderFields rest

end

end Json

end FeatureFlags
