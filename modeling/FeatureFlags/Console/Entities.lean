import FeatureFlags.Console.Request
import FeatureFlags.Console.Render

/-!
# Console commands on flags and traits

* `parse`: reads a JSON text as one of the service's bodies and shows what was read, with
  the text it writes back, or the reading error;
* `flag_value`: builds a value from a string, boolean, integer or double and shows it
  with the text of a trait holding it;
* `identity_body`: writes an identity request, and the flag of a plain named feature.
-/

namespace FeatureFlags

namespace Console

/-- A reading error in an answer. -/
def decodeError (e : JsonError) : Json :=
  error "Decode" e.message

/-- Reads a text by a shape and shows the value read. -/
def readAs (shape : JsonShape) (text : String) (view : Json → Json) : Json :=
  match JsonShape.parse shape text with
  | .ok j => view j
  | .error e => decodeError e

/-- The items of a value read as a list. -/
def items (j : Json) : List Json := (Json.getArray? j).getD []

/-- The answer to `parse`. -/
def parseCommand (req : Json) : Json :=
  let text := stringOr req "json" ""
  let textOf (j : Json) : Json := .string (Json.render j)
  match stringOr req "type" "" with
  | "flags" => readAs (.list Flag.shape) text fun j => flagsView ((items j).map Flag.ofJson)
  | "flag" => readAs Flag.shape text fun j =>
      let f := Flag.ofJson j
      .object [("text", textOf f.toJson), ("flag", flagView f)]
  | "feature" => readAs Feature.shape text fun j =>
      .object [("text", textOf (Feature.ofJson j).toJson)]
  | "identity" => readAs Identity.shape text fun j =>
      .object [("text", textOf (Identity.ofJson j).toJson)]
  | "identity_and_traits" => readAs IdentityRequest.shape text fun j =>
      .object [("text", textOf (IdentityRequest.ofJson j).toJson)]
  | "flag_value" => readAs .dynamic text fun j => valueView (FlagValue.ofJson j)
  | "trait" => readAs Trait.shape text fun j =>
      let t := Trait.ofJson j
      .object [("text", textOf t.toJson), ("trait", traitView t)]
  | "traits" => readAs (.list Trait.shape) text fun j =>
      let ts := (items j).map Trait.ofJson
      .object [("text", textOf (.array (ts.map Trait.toJson))), ("traits", .array (ts.map traitView))]
  | "trait_with_identity" => readAs IdentityTrait.shape text fun j =>
      let t := IdentityTrait.ofJson j
      .object [("key", .string t.key), ("value", valueView t.value),
        ("identifier", .string t.identity.identifier), ("text", textOf t.toJson)]
  | "identity_response" => readAs IdentityState.shape text fun j =>
      let s := IdentityState.ofJson j
      .object [("flags", flagsView s.flags), ("traits", .array (s.traits.map traitView)),
        ("text", textOf s.toJson)]
  | "flag_event" => readAs FlagEvent.shape text fun j =>
      .object [("updated_at", float (FlagEvent.ofJson j).updatedAt)]
  | other => error "DriverInput" s!"unknown type {other}"

/-- The value a `flag_value` request builds. -/
def requestedValue (req : Json) : FlagValue :=
  match req.get? "str", req.get? "string", req.get? "bool", req.get? "i64", req.get? "f64" with
  | some (.string s), _, _, _, _ => .text s
  | _, some (.string s), _, _, _ => .text s
  | _, _, some (.bool b), _, _ => .bool b
  | _, _, _, some n, _ => FlagValue.ofInt ((Json.getInt? n).getD 0)
  | _, _, _, _, some x => .number ((floatOf x).getD 0)
  | _, _, _, _, _ => .text ""

/-- The answer to `flag_value`. -/
def flagValueCommand (req : Json) : Json :=
  let v := requestedValue req
  let t : Trait := ⟨stringOr req "key" "k", v⟩
  .object [("value", valueView v), ("trait_text", .string (Json.render t.toJson))]

/-- The answer to `identity_body`. -/
def identityBodyCommand (req : Json) : Json :=
  let traits := (arrayOf req "traits").map fun t =>
    ({ key := stringOr t "key" "", value := FlagValue.ofJson (field t "value") } : Trait)
  let body : IdentityRequest :=
    { identifier := stringOr req "identifier" "", traits,
      transient := (req.get? "transient").bind Json.getBool? }
  let flag : Flag := ⟨Feature.named (intOr req "feature_id" 1) "f", none, true⟩
  .object [("text", .string (Json.render body.toJson)),
    ("named_feature_flag", .string (Json.render flag.toJson))]

end Console

end FeatureFlags
