import FeatureFlags.Service.Client

/-!
# The endpoints of the flag service

The service's API as typed calls of the `ServiceClient`:

* `flags/` (`GET`): the environment's flags;
* `identities/?identifier=…&transient=…` (`GET`): an identity's flags and traits;
* `identities/` (`POST`): sets an identity's traits and answers with its flags and
  traits; never cached;
* `analytics/flags/` (`POST`): how often each feature was evaluated.

An answer that is not the JSON expected is a decode error.
-/

namespace FeatureFlags

/-- The path of the environment's flags. -/
def flagsPath : String := "flags/"

/-- The path of identities. -/
def identitiesPath : String := "identities/"

/-- The path of evaluation counts. -/
def analyticsPath : String := "analytics/flags/"

/-- The text of a boolean in a query. -/
def boolText (b : Bool) : String := if b then "true" else "false"

namespace ServiceClient

/-- The environment's flags. -/
def getFlags (c : ServiceClient) (transport : Transport) (now : Instant)
    (options : RequestOptions) : Exchange (List Flag) :=
  (c.execute transport now (.get flagsPath) options).andThen fun r =>
    (r.decode (.list Flag.shape)).map fun j => ((Json.getArray? j).getD []).map Flag.ofJson

/-- The request for an identity's flags and traits. -/
def identityRequest (identity : String) (transient : Bool) : ApiRequest :=
  ((ApiRequest.get identitiesPath).withQuery "identifier" identity).withQuery "transient"
    (boolText transient)

/-- An identity's flags and traits. -/
def getIdentity (c : ServiceClient) (transport : Transport) (now : Instant) (identity : String)
    (transient : Bool) (options : RequestOptions) : Exchange IdentityState :=
  (c.execute transport now (identityRequest identity transient) options).andThen fun r =>
    (r.decode IdentityState.shape).map IdentityState.ofJson

/-- Sets an identity's traits; its flags and traits as the service then has them. -/
def postTraits (c : ServiceClient) (transport : Transport) (now : Instant)
    (body : IdentityRequest) : Exchange IdentityState :=
  (c.execute transport now (.post identitiesPath body.toJson) {}).andThen fun r =>
    (r.decode IdentityState.shape).map IdentityState.ofJson

/-- The JSON object of evaluation counts. -/
def countsJson (counts : List (String × Nat)) : Json :=
  .object (counts.map fun (name, n) => (name, .number (.unsigned n)))

/-- Sends evaluation counts. -/
def postAnalytics (c : ServiceClient) (transport : Transport) (now : Instant)
    (counts : List (String × Nat)) : Exchange Unit :=
  (c.execute transport now (.post analyticsPath (countsJson counts)) {}).map fun _ => ()

end ServiceClient

end FeatureFlags
