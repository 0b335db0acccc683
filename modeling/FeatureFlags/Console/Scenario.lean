import FeatureFlags.Console.Stores
import FeatureFlags.Console.Config
import FeatureFlags.Client.Basic

/-!
# Network scenarios: what they share

A scenario runs the service client or the flag client against a service address that
cannot be reached from where the scenarios run: every connection is refused
(`Transport.refusing`), so no request reaches the scripted service and every step's
`requests` is empty; the scripted answers are never read. Time stands still at
`scenarioTime`. A wait for something that never comes gives up after `unmetWait`
seconds, and a scenario whose waits add up to more than `scenarioLimit` seconds is cut
off.

A scenario's settings are a JSON object read as the settings of a configuration file,
with these defaults: environment key `ser.test`, API URL `http://mock/api/v1/`, push
base URL `http://mock/`, analytics off, and reconnect waits of 10 ms up to 1 s, doubling,
without jitter. The store is `memory`, `file` (a folder under a fresh directory) or none.
-/

namespace FeatureFlags

namespace Console

open Yaml

/-- The instant at which scenarios run. -/
def scenarioTime : Instant := ⟨1700000000 * 1000000000⟩

/-- How long a wait that is never met lasts, in seconds. -/
def unmetWait : Nat := 3

/-- How long a scenario may run, in seconds. -/
def scenarioLimit : Nat := 10

/-- Whether a scenario with this many waits that are never met runs out of time. -/
def outOfTime (unmet : Nat) : Bool := unmet * unmetWait > scenarioLimit

/-- The answer of a scenario cut off for running out of time. -/
def timedOut : Json := .object [("error", .string "DriverTimeout")]

/-- A JSON value as a YAML value; `fuel` bounds the nesting. -/
def yamlOfJson : Nat → Json → YamlValue
  | 0, _ => .null
  | _ + 1, .null => .null
  | _ + 1, .bool b => .bool b
  | _ + 1, .number (.unsigned n) => .number (.natural n)
  | _ + 1, .number (.negative n) => .number (.negative n)
  | _ + 1, .number (.float x) => .number (.real x)
  | _ + 1, .string s => .string s
  | fuel + 1, .array items => .sequence (items.map (yamlOfJson fuel))
  | fuel + 1, .object fields => .mapping (fields.map fun (k, v) => (.string k, yamlOfJson fuel v))

/-- The settings fields a scenario has unless it gives them. -/
def scenarioDefaults : List (String × Json) :=
  [("environment_key", .string "ser.test"), ("base_url", .string "http://mock/api/v1/"),
   ("event_source_base_url", .string "http://mock/"), ("enable_analytics", .bool false),
   ("reconnect", .object [("initial_interval_ms", .number (.unsigned 10)),
     ("max_interval_secs", .number (.unsigned 1)), ("multiplier", .number (.float 2.0)),
     ("randomization_factor", .number (.float 0.0))])]

/-- The fields of an object with defaults for those it lacks. -/
def withDefaults (defaults : List (String × Json)) (j : Json) : Json :=
  match j with
  | .object fields =>
    .object (fields ++ defaults.filter fun (k, _) => !fields.any (·.1 == k))
  | _ => .object defaults

/-- The settings of a scenario. -/
def scenarioSettings (req : Json) : Except String ClientSettings :=
  ClientSettings.ofYaml (yamlOfJson 256 (withDefaults scenarioDefaults (field req "config")))

/-- The store a scenario asks for, with the byte budget of its settings. -/
def scenarioStore (req : Json) (settings : ClientSettings) : Option ResponseStore :=
  match stringOr req "store" "" with
  | "memory" => some (.memory (MemoryStore.empty settings.cache.sizeBytes))
  | "file" => some (.file { maxSize := settings.cache.sizeBytes })
  | _ => none

/-- A client error in an answer; a network error is shown without its text. -/
def clientError (e : ClientError) : Json :=
  match e with
  | .network _ => .object [("error", .string "Network")]
  | _ => error e.kind e.message

/-- A result or its client error. -/
def clientResult (view : α → Json) : Except ClientError α → Json
  | .ok a => view a
  | .error e => clientError e

/-- One step's answer: its result, and the requests the service saw, of which there are
    none. -/
def stepAnswer (result : Json) : Json :=
  .object [("result", result), ("requests", .array [])]

/-- Query pairs given as a list of pairs. -/
def queryOf (j : Json) : List (String × String) :=
  (arrayOf j "query").map fun p =>
    match p with
    | .array [k, v] => ((Json.getString? k).getD "", (Json.getString? v).getD "")
    | _ => ("", "")

/-- The request of a step: its method, path, query and body. -/
def apiRequestOf (j : Json) : ApiRequest where
  method := stringOr j "method" "GET"
  path := stringOr j "path" ""
  query := queryOf j
  body := match j.get? "json" with
    | some v => some v
    | none => none

/-- The cache options of a step. -/
def optionsOf (j : Json) : RequestOptions :=
  { forceRefresh := boolOr j "force_refresh" false, acceptStale := boolOr j "accept_stale" false }

/-- Traits given as `{"key", "value"}` objects. -/
def traitsOf (j : Json) : List Trait :=
  ((Json.getArray? j).getD []).map fun t =>
    { key := stringOr t "key" "", value := FlagValue.ofJson (field t "value") }

/-- An identity's flags and traits in an answer. -/
def identityStateView (s : IdentityState) : Json :=
  .object [("flags", flagsView s.flags), ("traits", .array (s.traits.map traitView))]

/-- A trait with its identity in an answer. -/
def identityTraitView (t : IdentityTrait) : Json :=
  .object [("key", .string t.key), ("value", valueView t.value),
    ("identity", .string t.identity.identifier)]

/-- A cached record in an answer. -/
def cachedView (r : CacheRecord) : Json :=
  .object [("status", nat r.status),
    ("headers", .array (r.headers.map fun (k, v) => .array [.string k, .string v])),
    ("body", bytes r.body), ("vary", .object (r.vary.pairs.map fun (k, v) => (k, .string v)))]

/-- An answer of the service client in an answer. -/
def responseView (r : ApiResponse) (lookups : List Json) : Json :=
  let lookup :=
    if lookups.isEmpty then []
    else [("lookup", .array (lookups.map fun n =>
      optional .string (r.header? ((Json.getString? n).getD ""))))]
  .object ([("status", nat r.status),
    ("headers", .array (r.headers.map fun (k, v) => .array [.string k, .string v])),
    ("body", bytes r.body), ("source", .string r.source.name)] ++ lookup)

/-- The key of the `GET` of a step's path and query. -/
def pathKey (c : ServiceClient) (op : Json) : Except ClientError CacheKey :=
  (c.urlFor { path := stringOr op "path" "", query := queryOf op }).map (CacheKey.ofRequest "GET")

/-- Commands on the response store of a service client: `cached`, `force_stale`,
    `block_key` and `block_tmp`; `none` for any other command. -/
def storeCommand (c : ServiceClient) (op : Json) : Option (Json × ServiceClient) :=
  let name := stringOr op "op" ""
  if !(name == "cached" || name == "force_stale" || name == "block_key" || name == "block_tmp") then none
  else some <|
    match pathKey c op with
    | .error e => (clientError e, c)
    | .ok key =>
      match name, c.store with
      | "cached", some store =>
        let (result, store) := store.findAll key
        (resultOr (fun rs => .array (rs.map cachedView)) result, { c with store := some store })
      | "force_stale", some store =>
        match store.findAll key with
        | (.error e, store) => (cacheError e, { c with store := some store })
        | (.ok records, store) =>
          let (result, store) := records.foldl (fun (acc : Except CacheError Unit × ResponseStore) r =>
            match acc with
            | (.ok (), s) => s.store key r.forceStale scenarioTime.seconds
            | failed => failed) (.ok (), store)
          (resultOr (fun _ => nat records.length) result, { c with store := some store })
      | "block_key", some (.file s) =>
        let folder := (s.folder.makeDir (FileStore.fileName key)).toOption.getD s.folder
        (.string "ok", { c with store := some (.file { s with folder }) })
      | "block_tmp", some (.file s) =>
        let folder := (s.folder.makeDir (FileStore.tempName key)).toOption.getD s.folder
        (.string "ok", { c with store := some (.file { s with folder }) })
      | "block_key", _ => (.string "ok", c)
      | "block_tmp", _ => (.string "ok", c)
      | _, _ => (.string "no cache", c)

end Console

end FeatureFlags
