import FeatureFlags.Flag.Entity
import FeatureFlags.Time.Duration

/-!
# Writing console answers

Answers are JSON values. A double is a JSON number when finite and otherwise one of the
strings `"NaN"`, `"inf"`, `"-inf"`; bytes are a string when they are UTF-8 and otherwise
`{"hex": …}`; a duration is `{"secs", "nanos"}`. Entities are shown by views: a value
with its plain text, accessors and JSON text, a flag with its name, state and value.
-/

namespace FeatureFlags

namespace Console

/-- A double in an answer. -/
def float (x : Float) : Json :=
  if x.isNaN then .string "NaN"
  else if x.isInf then .string (if x < 0 then "-inf" else "inf")
  else .number (.float x)

/-- Some bytes in an answer. -/
def bytes (bs : List UInt8) : Json :=
  match Utf8.validate bs with
  | .ok s => .string s
  | .error _ => .object [("hex", .string (Hex.encode bs))]

/-- A duration in an answer. -/
def duration (d : Duration) : Json :=
  .object [("secs", .number (.unsigned d.secs)), ("nanos", .number (.unsigned d.nanos))]

/-- A natural number in an answer. -/
def nat (n : Nat) : Json := .number (.unsigned n)

/-- An optional value in an answer, `null` for none. -/
def optional (f : α → Json) : Option α → Json
  | some a => f a
  | none => .null

/-- An error in an answer: its kind and text. -/
def error (kind message : String) : Json :=
  .object [("error", .string kind), ("message", .string message)]

/-- The view of a flag value. -/
def valueView (v : FlagValue) : Json :=
  .object [("display", .string v.display), ("as_str", optional .string v.asText?),
    ("as_bool", optional .bool v.asBool?), ("as_f64", optional float v.asNumber?),
    ("text", .string (Json.render v.toJson))]

/-- The view of a flag. -/
def flagView (f : Flag) : Json :=
  .object [("name", .string f.name), ("enabled", .bool f.enabled),
    ("value", optional valueView f.value)]

/-- The view of a trait. -/
def traitView (t : Trait) : Json :=
  .object [("key", .string t.key), ("value", valueView t.value)]

/-- A list of flags with its JSON text. -/
def flagsView (flags : List Flag) : Json :=
  .object [("text", .string (Json.render (.array (flags.map Flag.toJson)))),
    ("flags", .array (flags.map flagView))]

end Console

end FeatureFlags
