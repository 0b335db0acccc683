import FeatureFlags.Flag.Value

/-!
# Flags, traits and identities

The bodies exchanged with the flag service: a feature and its flag in an environment,
the traits of an identity, the identity request and response, and the push event that
announces new flags. Each has a JSON shape, by which it is read, and a JSON value, by
which it is written; fields are written in declaration order, and the optional fields of
a feature and of an identity request are left out when they are not set.

* `Flag.value`: `null` or missing in JSON is `none`; any other JSON value is kept
  (`FlagValue.ofJson`);
* `Feature.named`: the plain standard feature with an id and a name.

The freshness of the flags is the update time (seconds since the epoch, as the server
reports it) of the newest flag data seen, from a fetched response or a push event. It
starts at zero and never moves back: `Freshness.observe` moves it only to a finite,
strictly greater time.
-/

namespace FeatureFlags

/-- A JSON integer. -/
def Json.ofInt (n : Int) : Json :=
  if n < 0 then .number (.negative n) else .number (.unsigned n.toNat)

/-- A feature of the service. -/
structure Feature where
  id : Int
  name : String
  createdDate : Option String := none
  description : Option String := none
  initialValue : Option String := none
  defaultEnabled : Option Bool := none
  /-- The kind of feature, `STANDARD` or `MULTIVARIATE`. -/
  kind : String
  deriving Inhabited

/-- A feature's state in an environment: on or off, and its value. -/
structure Flag where
  feature : Feature
  value : Option FlagValue
  enabled : Bool
  deriving Inhabited

/-- A trait of an identity. -/
structure Trait where
  key : String
  value : FlagValue
  deriving Inhabited

/-- A user of the service, by identifier. -/
structure Identity where
  identifier : String

/-- A trait with the identity it belongs to. -/
structure IdentityTrait where
  key : String
  value : FlagValue
  identity : Identity

/-- What the service answers for an identity: its flags and traits. -/
structure IdentityState where
  flags : List Flag := []
  traits : List Trait := []
  deriving Inhabited

/-- What is sent for an identity: its traits, and whether they are to be forgotten. -/
structure IdentityRequest where
  identifier : String
  traits : List Trait
  transient : Option Bool := none

/-- A push event: the time of the latest change of the flags. -/
structure FlagEvent where
  updatedAt : Float

namespace Json

/-- The string of a field, or the empty one. -/
def stringField (j : Json) (key : String) : String :=
  ((j.get? key).bind getString?).getD ""

/-- The optional string of a field. -/
def optionalString (j : Json) (key : String) : Option String :=
  (j.get? key).bind getString?

/-- The boolean of a field, or `false`. -/
def boolField (j : Json) (key : String) : Bool :=
  ((j.get? key).bind getBool?).getD false

/-- The items of an array field. -/
def arrayField (j : Json) (key : String) : List Json :=
  ((j.get? key).bind getArray?).getD []

/-- Leaves out the fields without a value. -/
def someFields (fields : List (String × Option Json)) : List (String × Json) :=
  fields.filterMap fun (k, v) => v.map (k, ·)

end Json

namespace Feature

/-- The standard feature with an id and a name. -/
def named (id : Int) (name : String) : Feature :=
  { id, name, kind := "STANDARD" }

/-- The JSON shape of a feature. -/
def shape : JsonShape :=
  .record "Feature" [("id", false, .integer), ("name", false, .text),
    ("created_date", true, .optional .text), ("description", true, .optional .text),
    ("initial_value", true, .optional .text), ("default_enabled", true, .optional .boolean),
    ("type", false, .text)]

/-- A feature from a value of its shape. -/
def ofJson (j : Json) : Feature where
  id := ((j.get? "id").bind Json.getInt?).getD 0
  name := j.stringField "name"
  createdDate := j.optionalString "created_date"
  description := j.optionalString "description"
  initialValue := j.optionalString "initial_value"
  defaultEnabled := (j.get? "default_enabled").bind Json.getBool?
  kind := j.stringField "type"

/-- The JSON value of a feature. -/
def toJson (f : Feature) : Json :=
  .object <| Json.someFields [("id", some (Json.ofInt f.id)), ("name", some (.string f.name)),
    ("created_date", f.createdDate.map .string), ("description", f.description.map .string),
    ("initial_value", f.initialValue.map .string),
    ("default_enabled", f.defaultEnabled.map .bool), ("type", some (.string f.kind))]

end Feature

namespace Flag

/-- The name of the flag's feature. -/
def name (f : Flag) : String := f.feature.name

/-- The JSON shape of a flag. -/
def shape : JsonShape :=
  .record "Flag" [("feature", false, Feature.shape),
    ("feature_state_value", true, .optional .dynamic), ("enabled", false, .boolean)]

/-- A flag from a value of its shape. -/
def ofJson (j : Json) : Flag where
  feature := Feature.ofJson ((j.get? "feature").getD .null)
  value :=
    match j.get? "feature_state_value" with
    | none | some .null => none
    | some v => some (FlagValue.ofJson v)
  enabled := j.boolField "enabled"

/-- The JSON value of a flag; a missing value is written `null`. -/
def toJson (f : Flag) : Json :=
  .object [("feature", f.feature.toJson),
    ("feature_state_value", (f.value.map FlagValue.toJson).getD .null),
    ("enabled", .bool f.enabled)]

end Flag

namespace Trait

/-- The JSON shape of a trait. -/
def shape : JsonShape :=
  .record "Trait" [("trait_key", false, .text), ("trait_value", false, .dynamic)]

/-- A trait from a value of its shape. -/
def ofJson (j : Json) : Trait where
  key := j.stringField "trait_key"
  value := FlagValue.ofJson ((j.get? "trait_value").getD .null)

/-- The JSON value of a trait. -/
def toJson (t : Trait) : Json :=
  .object [("trait_key", .string t.key), ("trait_value", t.value.toJson)]

end Trait

namespace Identity

/-- The JSON shape of an identity. -/
def shape : JsonShape :=
  .record "Identity" [("identifier", false, .text)]

/-- An identity from a value of its shape. -/
def ofJson (j : Json) : Identity := ⟨j.stringField "identifier"⟩

/-- The JSON value of an identity. -/
def toJson (i : Identity) : Json :=
  .object [("identifier", .string i.identifier)]

end Identity

namespace IdentityTrait

/-- The JSON shape of a trait with its identity. -/
def shape : JsonShape :=
  .record "TraitWithIdentity" [("trait_key", false, .text), ("trait_value", false, .dynamic),
    ("identity", false, Identity.shape)]

/-- A trait with its identity from a value of its shape. -/
def ofJson (j : Json) : IdentityTrait where
  key := j.stringField "trait_key"
  value := FlagValue.ofJson ((j.get? "trait_value").getD .null)
  identity := Identity.ofJson ((j.get? "identity").getD .null)

/-- The JSON value of a trait with its identity. -/
def toJson (t : IdentityTrait) : Json :=
  .object [("trait_key", .string t.key), ("trait_value", t.value.toJson),
    ("identity", t.identity.toJson)]

end IdentityTrait

namespace IdentityState

/-- The JSON shape of an identity's flags and traits. -/
def shape : JsonShape :=
  .record "IdentityFlagsAndTraits" [("flags", true, .list Flag.shape),
    ("traits", true, .list Trait.shape)]

/-- An identity's flags and traits from a value of their shape. -/
def ofJson (j : Json) : IdentityState where
  flags := (j.arrayField "flags").map Flag.ofJson
  traits := (j.arrayField "traits").map Trait.ofJson

/-- The JSON value of an identity's flags and traits. -/
def toJson (s : IdentityState) : Json :=
  .object [("flags", .array (s.flags.map Flag.toJson)),
    ("traits", .array (s.traits.map Trait.toJson))]

end IdentityState

namespace IdentityRequest

/-- The JSON shape of an identity request. -/
def shape : JsonShape :=
  .record "IdentityAndTraits" [("identifier", false, .text),
    ("traits", false, .list Trait.shape), ("transient", true, .optional .boolean)]

/-- An identity request from a value of its shape. -/
def ofJson (j : Json) : IdentityRequest where
  identifier := j.stringField "identifier"
  traits := (j.arrayField "traits").map Trait.ofJson
  transient := (j.get? "transient").bind Json.getBool?

/-- The JSON value of an identity request; `transient` is left out when not set. -/
def toJson (r : IdentityRequest) : Json :=
  .object <| Json.someFields [("identifier", some (.string r.identifier)),
    ("traits", some (.array (r.traits.map Trait.toJson))),
    ("transient", r.transient.map .bool)]

end IdentityRequest

namespace FlagEvent

/-- The JSON shape of a push event. -/
def shape : JsonShape :=
  .record "FlagEvent" [("updated_at", false, .real)]

/-- A push event from a value of its shape. -/
def ofJson (j : Json) : FlagEvent :=
  ⟨((j.get? "updated_at").bind Json.getFloat?).getD 0⟩

/-- Reads a push event from JSON text. -/
def parse (text : String) : Except JsonError FlagEvent :=
  (JsonShape.parse shape text).map ofJson

end FlagEvent

/-! ### Freshness of the flags -/

/-- The update time of the newest flag data seen. -/
structure Freshness where
  latest : Float := 0.0
  deriving Inhabited

namespace Freshness

/-- Nothing seen yet. -/
def initial : Freshness := {}

/-- Whether a time moves the freshness: finite and strictly newer. -/
def moves (f : Freshness) (t : Float) : Bool :=
  !t.isNaN && !t.isInf && t > f.latest

/-- Observes a time; the new freshness and whether it moved. -/
def observe (f : Freshness) (t : Float) : Freshness × Bool :=
  if f.moves t then (⟨t⟩, true) else (f, false)

end Freshness

end FeatureFlags
