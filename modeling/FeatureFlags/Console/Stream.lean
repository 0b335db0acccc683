import FeatureFlags.Console.Request
import FeatureFlags.Console.Render
import FeatureFlags.Flag.Entity
import FeatureFlags.Push.Framing
import FeatureFlags.Config.Reconnect

/-!
# Console commands on push streams and timing

* `sse`: feeds chunks to one framer and shows the events of each chunk or its error;
* `freshness`: observes times in order and shows each move;
* `backoff`: steps reconnect waits (`next` or `reset`).
-/

namespace FeatureFlags

namespace Console

/-- A push event in an answer. -/
def pushEvent (e : PushEvent) : Json :=
  .object [("event", optional .string e.kind), ("data", .string e.data),
    ("id", optional .string e.id), ("retry", optional nat e.retry)]

/-- The steps of feeding chunks to a framer. -/
def framerSteps : Framer → List (List UInt8) → List Json
  | _, [] => []
  | f, chunk :: rest =>
    let (out, f) := f.push chunk
    let step := match out with
      | .ok events => .object [("events", .array (events.map pushEvent))]
      | .error e => error "Stream" ("Event stream error: " ++ e.message)
    step :: framerSteps f rest

/-- The answer to `sse`. -/
def sseCommand (req : Json) : Json :=
  .object [("steps", .array (framerSteps {} ((arrayOf req "chunks").map bytesOf)))]

/-- The steps of observing times. -/
def freshnessSteps : Freshness → List Float → List Json
  | _, [] => []
  | f, t :: rest =>
    let (f, moved) := f.observe t
    .object [("moved", .bool moved), ("value", float f.latest)] :: freshnessSteps f rest

/-- The answer to `freshness`. -/
def freshnessCommand (req : Json) : Json :=
  let times := (arrayOf req "observe").map fun j => (floatOf j).getD Float.nan
  .object [("initial", float Freshness.initial.latest),
    ("steps", .array (freshnessSteps Freshness.initial times))]

/-- Reconnect settings from JSON; missing fields take their defaults. -/
def reconnectOf (j : Json) : ReconnectSettings where
  initialIntervalMs := natOr j "initial_interval_ms" 500
  maxIntervalSecs := natOr j "max_interval_secs" 30
  multiplier := ((j.get? "multiplier").bind Json.getFloat?).getD 2.0
  randomizationFactor := ((j.get? "randomization_factor").bind Json.getFloat?).getD 0.5

/-- The steps of reconnect waits. -/
def backoffSteps : Backoff → List Json → List Json
  | _, [] => []
  | b, .string "reset" :: rest => .string "reset" :: backoffSteps b.reset rest
  | b, _ :: rest =>
    let (wait, b) := b.next
    duration wait :: backoffSteps b rest

/-- The answer to `backoff`. -/
def backoffCommand (req : Json) : Json :=
  let settings := reconnectOf (field req "reconnect")
  if settings.randomizationFactor != 0 then
    error "DriverInput" "randomization_factor must be 0"
  else
    .object [("steps", .array (backoffSteps (Backoff.ofSettings settings) (arrayOf req "steps")))]

end Console

end FeatureFlags
