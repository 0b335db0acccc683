import FeatureFlags.Client.Analytics
import FeatureFlags.Client.Subscription

/-!
# The flag client

A `FlagClient` ties the service client, the evaluation counts and the push subscription
together for one environment. It publishes every flag list it fetches to its watchers,
and remembers the identity of the latest read, for which a push update refetches.

* An anonymous fetch never fails: when the service cannot give the flags, the default
  flags stand in for them, and are published.
* Traits need an identity; with one, they are sent (`POST identities/`) and never cached.
* A push event with newer flags drops every cached answer, moves the freshness to the
  event's time, and refetches the flags of the latest identity.
* `close` stops the subscription and the periodic flush, `restartUpdates` starts them
  again, and `shutdown` closes for good.

Calls take the transport to the service and the instant they are made. A run of the
subscription is taken to its end at once: it handles every scripted connection and
waits in the connect that finds no script, or, at a feed that cannot be reached, keeps
connecting.
-/

namespace FeatureFlags

/-- Which flags to fetch. -/
structure FlagQuery where
  identity : Option String := none
  traits : Option (List Trait) := none
  /-- Asks the service not to keep the identity. -/
  transient : Bool := false
  forceRefresh : Bool := false

/-- The flags published to watchers: the latest list, and whether it came after the
    watcher last looked. -/
structure FlagWatch where
  current : List Flag := []
  unseen : Bool := false
  deriving Inhabited

/-- What a client is built with besides its settings. -/
structure ClientParts where
  /-- The flags that stand in for a failed anonymous fetch. -/
  defaultFlags : List Flag := []
  /-- A response store; caching is then on whatever the settings say. -/
  store : Option ResponseStore := none
  /-- The feed of push events; the service's own by default. -/
  feed : Option EventFeed := none
  /-- Whether the client is built where background tasks can run. -/
  withRuntime : Bool := true

/-- A client of the flag service for one environment. -/
structure FlagClient where
  settings : ClientSettings
  service : ServiceClient
  defaultFlags : List Flag
  analytics : Option Analytics
  subscription : Option Subscription
  watch : FlagWatch := {}
  lastIdentity : Option String := none
  shutDown : Bool := false
  deriving Inhabited

namespace FlagClient

/-- How requests treat the cache. -/
def options (c : FlagClient) (forceRefresh : Bool) : RequestOptions :=
  { forceRefresh, acceptStale := c.settings.cache.acceptStaleOnError }

/-- Publishes a flag list to the watchers. -/
def publish (c : FlagClient) (flags : List Flag) : FlagClient :=
  { c with watch := { current := flags, unseen := true } }

/-- Remembers the identity of a read. -/
def remember (c : FlagClient) (identity : Option String) : FlagClient :=
  { c with lastIdentity := identity }

/-- Takes over the service client after a call. -/
def withService (c : FlagClient) (e : Exchange α) : FlagClient :=
  { c with service := e.client }

/-- Fetches flags and publishes them. -/
def getFeatureFlags (c : FlagClient) (transport : Transport) (now : Instant) (q : FlagQuery) :
    Except ClientError (List Flag) × FlagClient :=
  let c := c.remember q.identity
  match q.identity, q.traits with
  | some identifier, some traits =>
    let e := c.service.postTraits transport now { identifier, traits, transient := some q.transient }
    match e.result with
    | .ok state => (.ok state.flags, (c.withService e).publish state.flags)
    | .error err => (.error err, c.withService e)
  | some identifier, none =>
    let e := c.service.getIdentity transport now identifier q.transient (c.options q.forceRefresh)
    match e.result with
    | .ok state => (.ok state.flags, (c.withService e).publish state.flags)
    | .error err => (.error err, c.withService e)
  | none, some _ => (.error (.invalidArgument "traits require an identity"), c)
  | none, none =>
    let e := c.service.getFlags transport now (c.options q.forceRefresh)
    match e.result with
    | .ok flags => (.ok flags, (c.withService e).publish flags)
    | .error _ => (.ok c.defaultFlags, (c.withService e).publish c.defaultFlags)

/-- The enabled flag of a feature, for an identity or anonymously; counts an
    evaluation of the feature. -/
def getFeatureFlag (c : FlagClient) (transport : Transport) (now : Instant) (feature : String)
    (identity : Option String) : Except ClientError (Option Flag) × FlagClient :=
  match c.getFeatureFlags transport now { identity } with
  | (.ok flags, c) =>
    let c := { c with analytics := c.analytics.map (·.track feature) }
    (.ok (flags.find? fun f => f.enabled && f.name == feature), c)
  | (.error e, c) => (.error e, c)

/-- An identity's flags and traits. -/
def getIdentity (c : FlagClient) (transport : Transport) (now : Instant) (identity : String)
    (transient : Bool) : Except ClientError IdentityState × FlagClient :=
  let c := c.remember (some identity)
  let e := c.service.getIdentity transport now identity transient (c.options false)
  (e.result, c.withService e)

/-- An identity's traits. -/
def getTraits (c : FlagClient) (transport : Transport) (now : Instant) (identity : String) :
    Except ClientError (List Trait) × FlagClient :=
  let (result, c) := c.getIdentity transport now identity false
  (result.map (·.traits), c)

/-- An identity's trait of a key. -/
def getTrait (c : FlagClient) (transport : Transport) (now : Instant) (key identity : String) :
    Except ClientError (Option Trait) × FlagClient :=
  let (result, c) := c.getTraits transport now identity
  (result.map (·.find? (·.key == key)), c)

/-- Sets traits of an identity; the traits the service then has. -/
def setTraits (c : FlagClient) (transport : Transport) (now : Instant) (traits : List Trait)
    (identity : String) : Except ClientError (List IdentityTrait) × FlagClient :=
  let e := c.service.postTraits transport now { identifier := identity, traits }
  let withIdentity (t : Trait) : IdentityTrait := { key := t.key, value := t.value, identity := ⟨identity⟩ }
  (e.result.map fun state => state.traits.map withIdentity, c.withService e)

/-- Sets one trait of an identity; the trait as the service keeps it, or as sent. -/
def setTrait (c : FlagClient) (transport : Transport) (now : Instant) (t : Trait)
    (identity : String) : Except ClientError IdentityTrait × FlagClient :=
  let (result, c) := c.setTraits transport now [t] identity
  (result.map fun stored => (stored.find? (·.key == t.key)).getD
    { key := t.key, value := t.value, identity := ⟨identity⟩ }, c)

/-- Drops every cached answer. -/
def clearCache (c : FlagClient) : FlagClient :=
  { c with service := c.service.invalidate }

/-- What a watcher sees: whether the flags came after it last looked, and the flags;
    it has then looked. -/
def watchFlags (c : FlagClient) : (Bool × List Flag) × FlagClient :=
  ((c.watch.unseen, c.watch.current), { c with watch := { c.watch with unseen := false } })

/-- The update time of the newest flag data seen. -/
def lastFetchTime (c : FlagClient) : Float := c.service.freshness.latest

/-- The state of the push subscription, when realtime updates are on. -/
def subscriptionState (c : FlagClient) : Option SubscriptionState :=
  c.subscription.map (·.state)

/-! ## Push updates -/

/-- What a push update asks of the client: drop the cache, and fetch the flags of the
    latest identity. -/
def refresher (transport : Transport) (now : Instant) : FlagRefresher FlagClient where
  invalidate c := c.clearCache
  refresh c := (c.getFeatureFlags transport now { identity := c.lastIdentity }).2

/-- The freshness of the client's flags, kept by its service client. -/
def freshnessCell : FreshnessCell FlagClient where
  get c := c.service.freshness
  set c f := { c with service := { c.service with freshness := f } }
  get_set _ _ := rfl

/-- Handles a push event: newer flags drop the cache, move the freshness and refetch
    the flags of the latest identity. -/
def handleEvent (c : FlagClient) (transport : Transport) (now : Instant) (e : PushEvent) :
    FlagClient :=
  e.handle freshnessCell (some (refresher transport now)) c

/-- Streams the items of a connection until it breaks or ends. -/
def streamItems (c : FlagClient) (transport : Transport) (now : Instant) :
    List FeedItem → FlagClient
  | [] => c
  | .event e :: rest => streamItems (c.handleEvent transport now e) transport now rest
  | .failure _ :: _ => c

/-- Connects once for every script: a refused connect waits the next reconnect wait; an
    opened one resets the waits, streams its items, and then waits. -/
def runScripts (c : FlagClient) (transport : Transport) (now : Instant) (backoff : Backoff) :
    List FeedScript → FlagClient × Backoff
  | [] => (c, backoff)
  | .refused _ :: rest => c.runScripts transport now backoff.next.2 rest
  | .items items :: rest =>
    (c.streamItems transport now items).runScripts transport now backoff.reset.next.2 rest

/-- Starts a run of the subscription and takes it to where it waits. -/
def startSubscription (c : FlagClient) (transport : Transport) (now : Instant) : FlagClient :=
  match c.subscription with
  | none => c
  | some s =>
    let fresh := Backoff.ofSettings c.settings.reconnect
    match s.feed with
    | .unreachable =>
      { c with subscription := some { s with running := true, state := .connecting, backoff := fresh } }
    | .scripted scripts =>
      let (c, backoff) := c.runScripts transport now fresh scripts
      let s := { s with feed := .scripted [], running := true, state := .connecting,
                        connects := s.connects + scripts.length + 1, backoff }
      { c with subscription := some s }

/-- Starts the subscription and the periodic flush. -/
def start (c : FlagClient) (transport : Transport) (now : Instant) : FlagClient :=
  let c := c.startSubscription transport now
  { c with analytics := c.analytics.map fun a => { a with running := true } }

/-- Starts push updates and the periodic flush again after `close`. -/
def restartUpdates (c : FlagClient) (transport : Transport) (now : Instant) :
    Except ClientError Unit × FlagClient :=
  if c.shutDown then (.error (.invalidState "client was shut down"), c)
  else if c.subscription.isNone then (.error (.invalidState "realtime updates were not enabled"), c)
  else (.ok (), c.start transport now)

/-- Stops push updates and the periodic flush; cached data stays. -/
def close (c : FlagClient) : FlagClient :=
  { c with subscription := c.subscription.map (·.stop),
           analytics := c.analytics.map fun a => { a with running := false } }

/-- Closes for good: updates can no longer be started again. -/
def shutdown (c : FlagClient) : FlagClient :=
  { c with shutDown := true }.close

/-! ## Building -/

/-- Builds a client from settings: they must be valid, background tasks must be able to
    run when analytics or realtime updates are on, and the user agent must be a header
    value. With caching on and no store given, answers are kept in files under the cache
    directory. The subscription and the flush are started. -/
def build (settings : ClientSettings) (parts : ClientParts) (transport : Transport)
    (now : Instant) : Except ClientError FlagClient := do
  match settings.validate with
  | .error e => throw (.ofConfig e)
  | .ok () => pure ()
  if (settings.enableAnalytics || settings.enableRealtimeUpdates) && !parts.withRuntime then
    throw (.configuration "analytics and realtime updates require a tokio runtime")
  let store : Option ResponseStore :=
    match parts.store with
    | some s => some s
    | none =>
      if settings.cache.enabled then
        some (.file { folder := .present [], maxSize := settings.cache.sizeBytes })
      else none
  if !isHeaderValue (settings.userAgent.getD defaultUserAgent) then throw ClientError.badUserAgent
  let service ← ServiceClient.ofSettings settings store
  let client : FlagClient := {
    settings, service, defaultFlags := parts.defaultFlags
    analytics :=
      if settings.enableAnalytics then
        some { flushPeriod := Duration.ofSecs settings.analyticsFlushPeriodSecs }
      else none
    subscription :=
      if settings.enableRealtimeUpdates then
        some (Subscription.create (parts.feed.getD .unreachable) settings.reconnect)
      else none }
  pure (client.start transport now)

end FlagClient

end FeatureFlags
