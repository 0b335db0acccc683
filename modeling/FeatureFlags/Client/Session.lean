import FeatureFlags.Client.Basic

/-!
# Sessions of a client

A session is the calls made on a client one after another, each through a transport and at
an instant of its own: its operations, and the push events its subscription hands it while
realtime updates run. `has_feature_flag` and `get_value_for_feature` are `getFeatureFlag`
with another view of its result, so they are not calls of their own.
-/

namespace FeatureFlags

/-- A call on a client: one of its operations, or a push event handed to it. -/
inductive ClientCall where
  | getFeatureFlags (q : FlagQuery)
  | getFeatureFlag (feature : String) (identity : Option String)
  | getIdentity (identity : String) (transient : Bool)
  | getTraits (identity : String)
  | getTrait (key identity : String)
  | setTraits (traits : List Trait) (identity : String)
  | setTrait (t : Trait) (identity : String)
  | clearCache
  | watchFlags
  | restartUpdates
  | close
  | shutdown
  | push (e : PushEvent)

namespace FlagClient

/-- The client after a call. -/
def perform (c : FlagClient) (transport : Transport) (now : Instant) : ClientCall → FlagClient
  | .getFeatureFlags q => (c.getFeatureFlags transport now q).2
  | .getFeatureFlag feature identity => (c.getFeatureFlag transport now feature identity).2
  | .getIdentity identity transient => (c.getIdentity transport now identity transient).2
  | .getTraits identity => (c.getTraits transport now identity).2
  | .getTrait key identity => (c.getTrait transport now key identity).2
  | .setTraits traits identity => (c.setTraits transport now traits identity).2
  | .setTrait t identity => (c.setTrait transport now t identity).2
  | .clearCache => c.clearCache
  | .watchFlags => c.watchFlags.2
  | .restartUpdates => (c.restartUpdates transport now).2
  | .close => c.close
  | .shutdown => c.shutdown
  | .push e => c.handleEvent transport now e

/-- The client after a session: each call with its transport and instant, in order. -/
def performAll (c : FlagClient) (session : List (Transport × Instant × ClientCall)) :
    FlagClient :=
  session.foldl (fun c (transport, now, call) => c.perform transport now call) c

end FlagClient

end FeatureFlags
