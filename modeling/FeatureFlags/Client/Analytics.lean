import FeatureFlags.Service.Endpoints

/-!
# Evaluation counts

The client counts how often each feature is evaluated and sends the counts to the
service now and then. A flush sends the counts held; when the service takes them, the
counts sent are taken off (a count that reaches zero is dropped), so evaluations made
meanwhile are kept for the next flush. Nothing to send is a flush that succeeds at once.

The periodic flush runs while the counter is started; stopping it sends nothing.
-/

namespace FeatureFlags

/-- Evaluation counts by feature, and whether the periodic flush runs. -/
structure Analytics where
  /-- Counts by feature name, in the order the features were first counted. -/
  counts : List (String × Nat) := []
  flushPeriod : Duration
  running : Bool := false
  deriving Inhabited

namespace Analytics

/-- A count added to a list of counts. -/
def bump (name : String) : List (String × Nat) → List (String × Nat)
  | [] => [(name, 1)]
  | (k, n) :: rest => if k == name then (k, n + 1) :: rest else (k, n) :: bump name rest

/-- Counts one evaluation of a feature. -/
def track (a : Analytics) (feature : String) : Analytics :=
  { a with counts := bump feature a.counts }

/-- Takes sent counts off held ones, dropping counts that reach zero. -/
def subtract (held sent : List (String × Nat)) : List (String × Nat) :=
  held.filterMap fun (k, n) =>
    let left := n - ((sent.find? (·.1 == k)).map (·.2)).getD 0
    if left == 0 then none else some (k, left)

/-- Sends the counts held to the service. -/
def flush (a : Analytics) (c : ServiceClient) (transport : Transport) (now : Instant) :
    Except ClientError Unit × Analytics × ServiceClient :=
  if a.counts.isEmpty then (.ok (), a, c)
  else
    let sent := c.postAnalytics transport now a.counts
    match sent.result with
    | .ok () => (.ok (), { a with counts := subtract a.counts a.counts }, sent.client)
    | .error e => (.error e, a, sent.client)

end Analytics

end FeatureFlags
