import FeatureFlags.Console.Scenario

/-!
# The `http` scenario

Steps on a service client with evaluation counts: raw requests through the cache
(`execute`), URLs (`url_for`), the typed endpoints, counting and flushing evaluations,
the freshness, and the response store itself. The client is built from the scenario's
settings without validating them: a user agent that is not a header value fails like a
transport that cannot be built, and an API URL that does not read is a configuration
error.
-/

namespace FeatureFlags

namespace Console

/-- A service client with evaluation counts. -/
structure HttpBench where
  client : ServiceClient
  analytics : Analytics

namespace HttpBench

/-- Evaluation counts in an answer. -/
def countsView (counts : List (String × Nat)) : Json :=
  .object (counts.map fun (name, n) => (name, nat n))

/-- Counts given as an object of numbers. -/
def countsOf (j : Json) : List (String × Nat) :=
  match j with
  | .object fields => fields.map fun (k, v) => (k, (Json.getNat? v).getD 0)
  | _ => []

/-- One step: its result and the bench after it. -/
def step (b : HttpBench) (op : Json) : Json × HttpBench :=
  let c := b.client
  let t := Transport.refusing
  let now := scenarioTime
  match storeCommand c op with
  | some (result, c) => (result, { b with client := c })
  | none =>
    match stringOr op "op" "" with
    | "execute" =>
      let e := c.execute t now (apiRequestOf op) (optionsOf op)
      (clientResult (responseView · (arrayOf op "header_lookup")) e.result, { b with client := e.client })
    | "url_for" =>
      (clientResult (fun (u : Url) => .string u.text) (c.urlFor (apiRequestOf op)), b)
    | "get_flags" =>
      let e := c.getFlags t now (optionsOf op)
      (clientResult flagsView e.result, { b with client := e.client })
    | "get_identity" =>
      let e := c.getIdentity t now (stringOr op "identity" "") (boolOr op "transient" false) (optionsOf op)
      (clientResult identityStateView e.result, { b with client := e.client })
    | "post_traits" =>
      let body : IdentityRequest :=
        { identifier := stringOr op "identity" "", traits := traitsOf (field op "traits"),
          transient := (op.get? "transient").bind Json.getBool? }
      let e := c.postTraits t now body
      (clientResult identityStateView e.result, { b with client := e.client })
    | "post_analytics" =>
      let e := c.postAnalytics t now (countsOf (field op "counts"))
      (clientResult (fun _ => .string "ok") e.result, { b with client := e.client })
    | "track" => (.string "ok", { b with analytics := b.analytics.track (stringOr op "feature" "") })
    | "counts" => (countsView b.analytics.counts, b)
    | "flush" =>
      let (result, analytics, client) := b.analytics.flush c t now
      let view :=
        match result with
        | .ok () => .object [("ok", countsView analytics.counts)]
        | .error e => .object [("err", clientError e), ("counts", countsView analytics.counts)]
      (view, { client, analytics })
    | "invalidate" => (.string "ok", { b with client := c.invalidate })
    | "freshness" => (float c.freshness.latest, b)
    | other => (error "DriverInput" s!"unknown http op {other}", b)

/-- The answers of the steps. -/
def steps : HttpBench → List Json → List Json
  | _, [] => []
  | b, op :: rest =>
    let (result, b) := b.step op
    stepAnswer result :: steps b rest

end HttpBench

/-- The answer to `http`. -/
def httpCommand (req : Json) : Json :=
  match scenarioSettings req with
  | .error m => error "DriverInput" m
  | .ok settings =>
    if !isHeaderValue (settings.userAgent.getD defaultUserAgent) then clientError .badUserAgent
    else
      match ServiceClient.ofSettings settings (scenarioStore req settings) with
      | .error e => clientError e
      | .ok client =>
        let bench : HttpBench :=
          { client, analytics := { flushPeriod := Duration.ofSecs settings.analyticsFlushPeriodSecs } }
        .object [("steps", .array (HttpBench.steps bench (arrayOf req "steps")))]

end Console

end FeatureFlags
