import FeatureFlags.Console.Scenario
import FeatureFlags.Watch

/-!
# The `demo` scenario

Runs the flag watcher on a configuration file: the `flagsmith` section of these
defaults with the request's `config` fields in place of theirs, or the request's own
`yaml` text (`@mock` standing for the service's address), or, without an argument, a file
`demos/flagsmith.yml` that does not exist. The environment key is `env_key` when given.

The scenario waits for things the unreachable service never sees: the first push
connect (when realtime updates are on and no `yaml` is given), the `expect_requests`
first requests (one by default), and one push connect per round. Each such wait gives up
after 3 s, and a scenario that runs past 10 s is cut off (`DriverTimeout`).
-/

namespace FeatureFlags

namespace Console

/-- The settings of the watcher's configuration file unless the request gives others. -/
def demoDefaults : List (String × Json) :=
  [("environment_key", .string "ser.demo"), ("base_url", .string "http://mock/api/v1/"),
   ("event_source_base_url", .string "http://mock/"), ("enable_analytics", .bool true),
   ("analytics_flush_period_secs", .number (.unsigned 10)),
   ("enable_realtime_updates", .bool true),
   ("cache", .object [("enable_cache", .bool true), ("cache_directory", .string "@tmp/cache"),
     ("cache_ttl_secs", .number (.unsigned 60))]),
   ("reconnect", .object [("initial_interval_ms", .number (.unsigned 10)),
     ("max_interval_secs", .number (.unsigned 1)), ("multiplier", .number (.float 2.0)),
     ("randomization_factor", .number (.float 0.0))])]

/-- Fields with some of them given anew. -/
def overriding (defaults : List (String × Json)) (given : Json) : List (String × Json) :=
  let fields := match given with
    | .object fields => fields
    | _ => []
  defaults.map (fun (k, v) => (k, (fields.find? (·.1 == k)).elim v (·.2))) ++
    fields.filter fun (k, _) => !defaults.any (·.1 == k)

/-- The answer to `demo`. -/
def demoCommand (req : Json) : Json :=
  let noArg := boolOr req "no_arg" false
  let yaml := (req.get? "yaml").bind Json.getString?
  let given := overriding demoDefaults (field req "config")
  let path := if noArg then "demos/flagsmith.yml" else "@tmp/flagsmith.yml"
  let file : Except String String :=
    if noArg then .error "No such file or directory (os error 2)"
    else
      match yaml with
      | some text => .ok (text.replace "@mock" "http://mock")
      | none => .ok (Json.render (.object [("flagsmith", .object given)]))
  let report := watchFlags path file ((req.get? "env_key").bind Json.getString?)
    Transport.refusing scenarioTime
  let realtime :=
    yaml.isNone && ((given.find? (·.1 == "enable_realtime_updates")).bind (Json.getBool? ·.2)).getD true
  let rounds := arrayOf req "rounds"
  let unmet := (if realtime then 1 else 0) + (if natOr req "expect_requests" 1 > 0 then 1 else 0) +
    rounds.length
  if report.exitCode == 0 && outOfTime unmet then timedOut
  else
    .object [("first_connect", .bool false), ("initial", .array []),
      ("rounds", .array (rounds.map fun _ => .object [("reached", .bool false), ("requests", .array [])])),
      ("stdout", .array (report.stdout.map .string)), ("stderr", .string report.stderr),
      ("exit", nat report.exitCode), ("sse_connects", nat 0)]

end Console

end FeatureFlags
