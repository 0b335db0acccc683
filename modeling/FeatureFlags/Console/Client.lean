import FeatureFlags.Console.Scenario

/-!
# The `client` scenario

Builds a flag client from the scenario's settings, default flags, store and scripted
feed of push events, and steps it. A watcher of the published flags is taken right after
building; `current_flags` shows what it sees.

The waiting steps stand for waits on the running client: `await_sse` waits for the
service to see push connections (it sees none, the service being out of reach),
`await_connects` for connects to the scripted feed, and `await_state` for a subscription
state. A scenario whose unmet waits run past its time is cut off (`outOfTime`).
-/

namespace FeatureFlags

namespace Console

/-- A push event given as `{"event"?, "data", "id"?, "retry"?}`. -/
def pushEventOf (j : Json) : PushEvent where
  kind := (j.get? "event").bind Json.getString?
  data := stringOr j "data" ""
  id := (j.get? "id").bind Json.getString?
  retry := (j.get? "retry").bind Json.getNat?

/-- A script of the scripted feed. -/
def feedScriptOf (j : Json) : FeedScript :=
  match (j.get? "connect_error").bind Json.getString? with
  | some reason => .refused reason
  | none =>
    .items ((arrayOf j "items").map fun item =>
      match (item.get? "error").bind Json.getString? with
      | some reason => .failure reason
      | none => .event (pushEventOf item))

/-- The parts a scenario builds its client with. -/
def clientPartsOf (req : Json) (settings : ClientSettings) : ClientParts where
  defaultFlags := (arrayOf req "default_flags").map Flag.ofJson
  store := scenarioStore req settings
  feed := (req.get? "events").map fun j => .scripted (((Json.getArray? j).getD []).map feedScriptOf)
  withRuntime := !boolOr req "build_outside_runtime" false

/-- The state of the subscription in an answer. -/
def stateView (c : FlagClient) : Json :=
  optional (fun (s : SubscriptionState) => .string s.name) c.subscriptionState

/-- The query of a `get_feature_flags` step. -/
def flagQueryOf (op : Json) : FlagQuery where
  identity := (op.get? "identity").bind Json.getString?
  traits := (op.get? "traits").map traitsOf
  transient := boolOr op "transient" false
  forceRefresh := boolOr op "force_refresh" false

/-- The connects made to the scripted feed. -/
def scriptedConnects (c : FlagClient) : Nat :=
  match c.subscription with
  | some { feed := .scripted _, connects, .. } => connects
  | _ => 0

/-- Whether the wait of a waiting step is met; `none` for a step that does not wait. -/
def waitMet? (c : FlagClient) (op : Json) : Option Bool :=
  match stringOr op "op" "" with
  | "await_sse" => some (natOr op "connects" 0 == 0)
  | "await_connects" => some (natOr op "connects" 0 ≤ scriptedConnects c)
  | "await_state" => some (c.subscriptionState.map (·.name) == some (stringOr op "state" ""))
  | _ => none

/-- One step: its result and the client after it. -/
def clientStep (c : FlagClient) (op : Json) : Json × FlagClient :=
  let t := Transport.refusing
  let now := scenarioTime
  let identity := stringOr op "identity" ""
  match storeCommand c.service op with
  | some (result, service) => (result, { c with service })
  | none =>
    match stringOr op "op" "" with
    | "get_feature_flags" =>
      let (result, c) := c.getFeatureFlags t now (flagQueryOf op)
      (clientResult flagsView result, c)
    | "get_feature_flag" =>
      let (result, c) := c.getFeatureFlag t now (stringOr op "feature" "") ((op.get? "identity").bind Json.getString?)
      (clientResult (optional flagView) result, c)
    | "has_feature_flag" =>
      let (result, c) := c.getFeatureFlag t now (stringOr op "feature" "") ((op.get? "identity").bind Json.getString?)
      (clientResult (fun f => .bool f.isSome) result, c)
    | "get_value_for_feature" =>
      let (result, c) := c.getFeatureFlag t now (stringOr op "feature" "") ((op.get? "identity").bind Json.getString?)
      (clientResult (fun f => optional valueView (f.bind (·.value))) result, c)
    | "get_trait" =>
      let (result, c) := c.getTrait t now (stringOr op "key" "") identity
      (clientResult (optional traitView) result, c)
    | "get_traits" =>
      let (result, c) := c.getTraits t now identity
      (clientResult (fun ts => .array (ts.map traitView)) result, c)
    | "set_trait" =>
      let trait := field op "trait"
      let (result, c) := c.setTrait t now
        { key := stringOr trait "key" "", value := FlagValue.ofJson (field trait "value") } identity
      (clientResult identityTraitView result, c)
    | "set_traits" =>
      let (result, c) := c.setTraits t now (traitsOf (field op "traits")) identity
      (clientResult (fun ts => .array (ts.map identityTraitView)) result, c)
    | "get_identity" =>
      let (result, c) := c.getIdentity t now identity (boolOr op "transient" false)
      (clientResult identityStateView result, c)
    | "clear_cache" => (.string "ok", c.clearCache)
    | "current_flags" =>
      let ((changed, watched), c') := c.watchFlags
      (.object [("current", flagsView c.watch.current), ("changed", .bool changed),
        ("watched", flagsView watched)], c')
    | "last_used_identity" => (optional .string c.lastIdentity, c)
    | "last_flag_fetch_time" => (float c.lastFetchTime, c)
    | "subscription_state" => (stateView c, c)
    | "restart_realtime_updates" =>
      let (result, c) := c.restartUpdates t now
      (clientResult (fun _ => .string "ok") result, c)
    | "close" => let c := c.close; (.object [("state", stateView c)], c)
    | "shutdown" => let c := c.shutdown; (.object [("state", stateView c)], c)
    | "config" => (settingsView c.settings, c)
    | "await_sse" =>
      (.object [("reached", .bool ((waitMet? c op).getD false)), ("sse_requests", .array []),
        ("state", stateView c), ("last_flag_fetch_time", float c.lastFetchTime),
        ("current", flagsView c.watch.current)], c)
    | "await_connects" =>
      (.object [("reached", .bool ((waitMet? c op).getD false)),
        ("state", stateView c), ("last_flag_fetch_time", float c.lastFetchTime),
        ("current", flagsView c.watch.current)], c)
    | "await_state" =>
      (.object [("reached", .bool ((waitMet? c op).getD false)), ("state", stateView c)], c)
    | other => (error "DriverInput" s!"unknown client op {other}", c)

/-- The answers of the steps, and how many of them wait in vain. -/
def clientSteps : FlagClient → List Json → List Json × Nat
  | _, [] => ([], 0)
  | c, op :: rest =>
    let unmet := if waitMet? c op == some false then 1 else 0
    let (result, c') := clientStep c op
    let (answers, more) := clientSteps c' rest
    (stepAnswer result :: answers, unmet + more)

/-- The answer to `client`. -/
def clientCommand (req : Json) : Json :=
  match scenarioSettings req with
  | .error m => error "DriverInput" m
  | .ok settings =>
    match FlagClient.build settings (clientPartsOf req settings) Transport.refusing scenarioTime with
    | .error e => .object [("build", clientError e)]
    | .ok c =>
      let (answers, unmet) := clientSteps c (arrayOf req "steps")
      if outOfTime unmet then timedOut
      else .object [("build", .string "ok"), ("steps", .array answers)]

end Console

end FeatureFlags
