import FeatureFlags.Config.Settings
import FeatureFlags.Yaml.Value
import FeatureFlags.Flag.Value

/-!
# Settings from YAML values

Reading `ClientSettings` from a loaded YAML value. A section is a mapping (or null, for
all defaults) whose keys name settings; a setting not named keeps its default, and a key
that names no setting is passed over. Tags are looked through. Each setting accepts one
kind of value:

* texts accept strings, and the user agent also null (no user agent);
* counts accept non-negative integers;
* factors accept any number;
* switches accept booleans;
* `cache` and `reconnect` are sections of their own.

The first key in document order that fails decides the error, in the words
`invalid type: <what was found>, expected <what was wanted>`, or `invalid value: …` for a
negative count.
-/

namespace FeatureFlags

namespace Yaml

/-- A value without its tags. -/
def YamlValue.untag : YamlValue → YamlValue
  | .tagged _ v => v.untag
  | v => v

/-- Doubles in messages: always positional, `.0` on integral values. -/
def FloatLayout.message : FloatLayout := { FloatLayout.plain with pointZero := true }

/-- What a value is, for messages. -/
def YamlValue.found : YamlValue → String
  | .null => "unit value"
  | .bool b => "boolean " ++ "\x60" ++ toString b ++ "\x60"
  | .number (.natural n) => "integer " ++ "\x60" ++ toString n ++ "\x60"
  | .number (.negative n) => "integer " ++ "\x60" ++ toString n ++ "\x60"
  | .number (.real x) => "floating point " ++ "\x60" ++ FloatLayout.message.render x ++ "\x60"
  | .string s => "string " ++ Escaped.quote s
  | .sequence _ => "sequence"
  | .mapping _ => "map"
  | .tagged _ _ => "enum"

/-- A value of the wrong kind. -/
def invalidType (v : YamlValue) (expected : String) : String :=
  s!"invalid type: {v.found}, expected {expected}"

/-- A value of the right kind out of range. -/
def invalidValue (v : YamlValue) (expected : String) : String :=
  s!"invalid value: {v.found}, expected {expected}"

namespace Decode

/-- A string. -/
def text (expected : String) (v : YamlValue) : Except String String :=
  match v.untag with
  | .string s => .ok s
  | other => .error (invalidType other expected)

/-- A string, or none for null. -/
def optionalText (v : YamlValue) : Except String (Option String) :=
  match v with
  | .null => .ok none
  | other => (text "a string" other).map some

/-- A non-negative integer below `2^64`. -/
def count (v : YamlValue) : Except String Nat :=
  match v.untag with
  | .number (.natural n) => .ok n
  | other@(.number (.negative _)) => .error (invalidValue other "u64")
  | other => .error (invalidType other "u64")

/-- Any number, as a double. -/
def factor (v : YamlValue) : Except String Float :=
  match v.untag with
  | .number (.natural n) => .ok (Float.ofRatio false n 1)
  | .number (.negative n) => .ok (Float.ofRatio true n.natAbs 1)
  | .number (.real x) => .ok x
  | other => .error (invalidType other "f64")

/-- A boolean. -/
def switch (v : YamlValue) : Except String Bool :=
  match v.untag with
  | .bool b => .ok b
  | other => .error (invalidType other "a boolean")

/-- Reads the pairs of a section onto a start value: `step` reads a known key, and
    keys not in `known` are passed over. A known key may come once. -/
def fields (name : String) (known : List String) (step : σ → String → YamlValue → Except String σ)
    (start : σ) (v : YamlValue) : Except String σ := do
  let entries ←
    match v.untag with
    | .mapping entries => pure entries
    | .null => pure []
    | other => throw (invalidType other s!"struct {name}")
  let mut acc := start
  let mut seen : List String := []
  for (k, value) in entries do
    let key ←
      match k.untag with
      | .string s => pure s
      | other => throw (invalidType other "field identifier")
    if known.contains key then
      if seen.contains key then throw ("duplicate field " ++ "\x60" ++ key ++ "\x60")
      seen := key :: seen
      acc ← step acc key value
  return acc

end Decode

end Yaml

open Yaml

/-- Cache settings from a YAML value. -/
def CacheSettings.ofYaml (v : YamlValue) : Except String CacheSettings :=
  Decode.fields "CacheConfig"
    ["enable_cache", "cache_directory", "cache_size_bytes", "cache_ttl_secs", "accept_stale_on_error"]
    (fun c key value =>
      match key with
      | "enable_cache" => (Decode.switch value).map fun b => { c with enabled := b }
      | "cache_directory" => (Decode.text "path string" value).map fun s => { c with directory := s }
      | "cache_size_bytes" => (Decode.count value).map fun n => { c with sizeBytes := n }
      | "cache_ttl_secs" => (Decode.count value).map fun n => { c with ttlSecs := n }
      | _ => (Decode.switch value).map fun b => { c with acceptStaleOnError := b })
    {} v

/-- Reconnect settings from a YAML value. -/
def ReconnectSettings.ofYaml (v : YamlValue) : Except String ReconnectSettings :=
  Decode.fields "ReconnectConfig"
    ["initial_interval_ms", "max_interval_secs", "multiplier", "randomization_factor"]
    (fun r key value =>
      match key with
      | "initial_interval_ms" => (Decode.count value).map fun n => { r with initialIntervalMs := n }
      | "max_interval_secs" => (Decode.count value).map fun n => { r with maxIntervalSecs := n }
      | "multiplier" => (Decode.factor value).map fun x => { r with multiplier := x }
      | _ => (Decode.factor value).map fun x => { r with randomizationFactor := x })
    {} v

/-- Client settings from a YAML value. -/
def ClientSettings.ofYaml (v : YamlValue) : Except String ClientSettings :=
  Decode.fields "FlagsmithConfig"
    ["environment_key", "base_url", "event_source_base_url", "user_agent", "enable_analytics",
      "analytics_flush_period_secs", "enable_realtime_updates", "request_timeout_secs",
      "read_timeout_secs", "write_timeout_secs", "connect_timeout_secs", "cache", "reconnect"]
    (fun c key value =>
      match key with
      | "environment_key" => (Decode.text "a string" value).map fun s => { c with environmentKey := s }
      | "base_url" => (Decode.text "a string" value).map fun s => { c with baseUrl := s }
      | "event_source_base_url" =>
        (Decode.text "a string" value).map fun s => { c with eventSourceBaseUrl := s }
      | "user_agent" => (Decode.optionalText value).map fun s => { c with userAgent := s }
      | "enable_analytics" => (Decode.switch value).map fun b => { c with enableAnalytics := b }
      | "analytics_flush_period_secs" =>
        (Decode.count value).map fun n => { c with analyticsFlushPeriodSecs := n }
      | "enable_realtime_updates" =>
        (Decode.switch value).map fun b => { c with enableRealtimeUpdates := b }
      | "request_timeout_secs" => (Decode.count value).map fun n => { c with requestTimeoutSecs := n }
      | "read_timeout_secs" => (Decode.count value).map fun n => { c with readTimeoutSecs := n }
      | "write_timeout_secs" => (Decode.count value).map fun n => { c with writeTimeoutSecs := n }
      | "connect_timeout_secs" => (Decode.count value).map fun n => { c with connectTimeoutSecs := n }
      | "cache" => (CacheSettings.ofYaml value).map fun s => { c with cache := s }
      | _ => (ReconnectSettings.ofYaml value).map fun s => { c with reconnect := s })
    {} v

end FeatureFlags
