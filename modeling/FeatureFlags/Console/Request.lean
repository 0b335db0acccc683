import FeatureFlags.Json.Shape
import FeatureFlags.Text.Hex

/-!
# Reading console requests

A console request is one JSON object. Besides plain fields it carries bytes in one of
these forms: a string (its UTF-8 bytes), `{"hex": "00ff"}`, `{"repeat": bytes, "times":
n}`, `{"concat": [bytes, …]}`, or `null` for none.
-/

namespace FeatureFlags

namespace Console

/-- A field of a request, `null` when missing. -/
def field (j : Json) (key : String) : Json :=
  (j.get? key).getD .null

/-- A string field, or a default. -/
def stringOr (j : Json) (key : String) (default : String) : String :=
  ((j.get? key).bind Json.getString?).getD default

/-- A natural number field, or a default. -/
def natOr (j : Json) (key : String) (default : Nat) : Nat :=
  ((j.get? key).bind Json.getNat?).getD default

/-- An integer field, or a default. -/
def intOr (j : Json) (key : String) (default : Int) : Int :=
  ((j.get? key).bind Json.getInt?).getD default

/-- A boolean field, or a default. -/
def boolOr (j : Json) (key : String) (default : Bool) : Bool :=
  ((j.get? key).bind Json.getBool?).getD default

/-- An array field, or none. -/
def arrayOf (j : Json) (key : String) : List Json :=
  ((j.get? key).bind Json.getArray?).getD []

/-- A double given as a number or as one of `"NaN"`, `"inf"`, `"-inf"`, `"-0"`. -/
def floatOf : Json → Option Float
  | .number n => some n.toFloat
  | .string "NaN" => some Float.nan
  | .string "inf" => some Float.infinity
  | .string "-inf" => some (-Float.infinity)
  | .string "-0" => some (-0.0)
  | _ => none

/-- The bytes of a value in one of the byte forms; `fuel` bounds the nesting. -/
def bytesFrom : Nat → Json → Option (List UInt8)
  | 0, _ => none
  | _ + 1, .null => some []
  | _ + 1, .string s => some (Utf8.encode s)
  | fuel + 1, j@(.object _) =>
    match j.get? "hex", j.get? "repeat", j.get? "concat" with
    | some (.string h), _, _ => Hex.decode? h
    | _, some r, _ => do
      let unit ← bytesFrom fuel r
      let times := natOr j "times" 0
      pure (List.replicate times unit).flatten
    | _, _, some (.array parts) => do
      let pieces ← parts.mapM (bytesFrom fuel)
      pure pieces.flatten
    | _, _, _ => none
  | _ + 1, _ => none

/-- The bytes of a value in one of the byte forms. -/
def bytesOf (j : Json) : List UInt8 :=
  (bytesFrom 64 j).getD []

end Console

end FeatureFlags
