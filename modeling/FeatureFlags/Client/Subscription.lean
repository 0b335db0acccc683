import FeatureFlags.Push.Framing
import FeatureFlags.Config.Reconnect
import FeatureFlags.Flag.Entity
import FeatureFlags.Text.CodeTable

/-!
# The push subscription

While realtime updates are on, the client keeps a connection to a feed of push events,
and connects again whenever it fails or ends:

```text
Disconnected -> Connecting -> Streaming -> (error | end) -> Connecting ...
                     any state --stop--> Stopped
```

A run of the subscription connects, streams the events of the connection, waits the
next reconnect wait (`Backoff`, reset by every connection that opens) and connects
again, until it is stopped. A feed is either a place that cannot be reached, where every
connect fails, or a list of scripts, each the outcome of one connect; when the scripts
are used up, a connect waits for ever.

An event announces new flags when its name is absent, `message` or
`environment_updated`, its data is not blank and is a JSON push event, and its update
time is strictly later than the freshness of the flags (`PushEvent.newerThan?`).
-/

namespace FeatureFlags

/-- The state of the push subscription. -/
inductive SubscriptionState where
  | disconnected
  | connecting
  | streaming
  | stopped
  deriving DecidableEq, Inhabited

/-- The name of a state. -/
def SubscriptionState.name : SubscriptionState → String
  | .disconnected => "Disconnected"
  | .connecting => "Connecting"
  | .streaming => "Streaming"
  | .stopped => "Stopped"

/-- What a connection of a scripted feed brings. -/
inductive FeedItem where
  | event (e : PushEvent)
  /-- The stream breaks with an error. -/
  | failure (reason : String)

/-- The outcome of one connect to a scripted feed. -/
inductive FeedScript where
  /-- The connect fails. -/
  | refused (reason : String)
  /-- The connection brings these items, then ends. -/
  | items (items : List FeedItem)

/-- Where push events come from. -/
inductive EventFeed where
  /-- A feed that cannot be reached: every connect fails. -/
  | unreachable
  /-- The outcomes of the next connects, in order; then connects wait for ever. -/
  | scripted (scripts : List FeedScript)

/-- The push subscription of a client. -/
structure Subscription where
  feed : EventFeed
  state : SubscriptionState := .disconnected
  /-- Whether a run is going on. -/
  running : Bool := false
  /-- The connects made to a scripted feed. -/
  connects : Nat := 0
  backoff : Backoff

namespace Subscription

/-- A subscription that has not started, with its reconnect waits. -/
def create (feed : EventFeed) (reconnect : ReconnectSettings) : Subscription :=
  { feed, backoff := Backoff.ofSettings reconnect }

/-- Stops the run, if one is going on: the state is then `stopped`. -/
def stop (s : Subscription) : Subscription :=
  if s.running then { s with running := false, state := .stopped } else s

end Subscription

/-- Whether an event may announce new flags, by its name. -/
def PushEvent.isFlagUpdate (e : PushEvent) : Bool :=
  match e.kind with
  | none => true
  | some "message" => true
  | some "environment_updated" => true
  | some _ => false

/-- The update time an event announces, when it announces flags newer than `known`. -/
def PushEvent.newerThan? (e : PushEvent) (known : Freshness) : Option Float :=
  if !e.isFlagUpdate || (String.trimSpace e.data).isEmpty then none
  else
    match FlagEvent.parse e.data with
    | .ok update => if update.updatedAt <= known.latest then none else some update.updatedAt
    | .error _ => none

/-- What the subscription asks of the client on newer flags: drop every cached answer,
    then fetch the flags again. -/
structure FlagRefresher (σ : Type) where
  invalidate : σ → σ
  refresh : σ → σ

/-- Where a state keeps the freshness of its flags: read, and replaced. -/
structure FreshnessCell (σ : Type) where
  get : σ → Freshness
  set : σ → Freshness → σ
  /-- The freshness set is the one then read. -/
  get_set : ∀ s f, get (set s f) = f

/-- Handles a push event. When it announces newer flags and the refresher is still there
    (the subscription holds it weakly: the client may be gone), the cache is dropped, the
    freshness moves to the event's time, and the flags are fetched again. -/
def PushEvent.handle {σ : Type} (cell : FreshnessCell σ) (refresher : Option (FlagRefresher σ))
    (s : σ) (e : PushEvent) : σ :=
  match e.newerThan? (cell.get s), refresher with
  | some updatedAt, some r =>
    let s := r.invalidate s
    r.refresh (cell.set s ((cell.get s).observe updatedAt).1)
  | _, _ => s

end FeatureFlags
