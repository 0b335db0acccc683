import FeatureFlags.Console.Request
import FeatureFlags.Console.Render
import FeatureFlags.Config.File

/-!
# Console commands on configuration

* `config`: loads client settings from YAML text, from a section or from the whole
  document, and shows them validated (`loaded`) and as read (`unvalidated`), with the URLs,
  durations and HTTP parameters derived from them;
* `config_value`: looks up dot paths in YAML text.

A loaded YAML value is shown as JSON: mappings as `{"$map": [[key, value], …]}` in
document order, tagged values as `{"$tag": tag, "value": value}`.
-/

namespace FeatureFlags

namespace Console

open Yaml

/-- A configuration error in an answer. -/
def configError (e : ConfigError) : Json := error e.kind e.message

/-- Cache settings in an answer. -/
def cacheSettingsView (c : CacheSettings) : Json :=
  .object [("accept_stale_on_error", .bool c.acceptStaleOnError),
    ("cache_directory", .string c.directory), ("cache_size_bytes", nat c.sizeBytes),
    ("cache_ttl_secs", nat c.ttlSecs), ("enable_cache", .bool c.enabled)]

/-- Reconnect settings in an answer. -/
def reconnectView (r : ReconnectSettings) : Json :=
  .object [("initial_interval_ms", nat r.initialIntervalMs),
    ("max_interval_secs", nat r.maxIntervalSecs), ("multiplier", float r.multiplier),
    ("randomization_factor", float r.randomizationFactor)]

/-- Client settings in an answer. -/
def settingsView (c : ClientSettings) : Json :=
  .object [("analytics_flush_period_secs", nat c.analyticsFlushPeriodSecs),
    ("base_url", .string c.baseUrl), ("cache", cacheSettingsView c.cache),
    ("connect_timeout_secs", nat c.connectTimeoutSecs),
    ("enable_analytics", .bool c.enableAnalytics),
    ("enable_realtime_updates", .bool c.enableRealtimeUpdates),
    ("environment_key", .string c.environmentKey),
    ("event_source_base_url", .string c.eventSourceBaseUrl),
    ("read_timeout_secs", nat c.readTimeoutSecs), ("reconnect", reconnectView c.reconnect),
    ("request_timeout_secs", nat c.requestTimeoutSecs),
    ("user_agent", optional .string c.userAgent),
    ("write_timeout_secs", nat c.writeTimeoutSecs)]

/-- HTTP parameters in an answer. -/
def paramsView (p : HttpParams) : Json :=
  .object [("request_timeout", duration p.requestTimeout), ("read_timeout", duration p.readTimeout),
    ("connect_timeout", duration p.connectTimeout), ("user_agent", .string p.userAgent)]

/-- A URL or its error in an answer. -/
def urlOrError (r : Except ConfigError Url) : Json :=
  match r with
  | .ok u => .string u.text
  | .error e => configError e

/-- Settings as read, before validation, with what is derived from them. -/
def unvalidatedView (c : ClientSettings) : Json :=
  .object [("config", settingsView c),
    ("validate", match c.validate with
      | .ok () => .string "ok"
      | .error e => configError e),
    ("api_url", urlOrError c.apiUrl), ("event_stream_url", urlOrError c.eventStreamUrl),
    ("cache_ttl", duration (Duration.ofSecs c.cache.ttlSecs)),
    ("analytics_flush_period", duration (Duration.ofSecs c.analyticsFlushPeriodSecs)),
    ("http_params", paramsView (HttpParams.ofSettings c)),
    ("event_stream_params", paramsView (HttpParams.forEventStream c))]

/-- The answer to `config`. -/
def configCommand (req : Json) : Json :=
  if boolOr req "missing_file" false then
    .object [("loaded", configError (.io "No such file or directory (os error 2)"))]
  else
    match ConfigFile.load (stringOr req "yaml" "") with
    | .error e => .object [("loaded", configError e)]
    | .ok file =>
      let found :=
        match req.get? "section" with
        | some (.string path) => (file.lookup path).elim (Except.error path) Except.ok
        | _ => .ok file.value
      match found with
      | .error path => .object [("loaded", configError (.missingSection path))]
      | .ok v =>
        let loaded :=
          match ClientSettings.fromValue v with
          | .ok c => settingsView c
          | .error e => configError e
        let unvalidated :=
          match ClientSettings.ofYaml v with
          | .ok c => unvalidatedView c
          | .error m => error "YamlParse" m
        .object [("loaded", loaded), ("unvalidated", unvalidated)]

/-- The number of a YAML value in an answer. -/
def yamlNumberView : YamlNumber → Json
  | .natural n => .number (.unsigned n)
  | .negative n => .number (.negative n)
  | .real x => float x

/-- A YAML value in an answer; `fuel` bounds the depth shown. -/
def yamlView : Nat → YamlValue → Json
  | 0, _ => .null
  | _ + 1, .null => .null
  | _ + 1, .bool b => .bool b
  | _ + 1, .number n => yamlNumberView n
  | _ + 1, .string s => .string s
  | fuel + 1, .sequence items => .array (items.map (yamlView fuel))
  | fuel + 1, .mapping entries =>
    .object [("$map", .array (entries.map fun (k, v) => .array [yamlView fuel k, yamlView fuel v]))]
  | fuel + 1, .tagged tag v => .object [("$tag", .string tag), ("value", yamlView fuel v)]

/-- The answer to `config_value`. -/
def configValueCommand (req : Json) : Json :=
  match ConfigFile.load (stringOr req "yaml" "") with
  | .error e => configError e
  | .ok file =>
    .object [("results", .array ((arrayOf req "keys").map fun k =>
      match file.lookup ((Json.getString? k).getD "") with
      | some v => .object [("found", .bool true), ("value", yamlView 1024 v)]
      | none => .object [("found", .bool false)]))]

end Console

end FeatureFlags
