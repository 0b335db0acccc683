import FeatureFlags.Client.Session
import FeatureFlags.Proofs.Client.FlagFetch

/-!
# Whose flags a push update refetches

A push update with newer flags refetches the flags of the identity the client remembers
(`FlagClient.refresher`). A call *names* an identity for it when it is a flag read or an
identity read: `getFeatureFlags`, `getFeatureFlag`, `getIdentity`, `getTraits` and
`getTrait`, naming none for an anonymous read (`ClientCall.names`). A flag query with traits
and no identity names none as well: the client remembers the query's identity before it
looks at the query's shape, so the query that it then refuses still takes effect here.

* `FlagClient.lastIdentity_perform`: a call that names an identity makes it the one
  remembered, and every other call keeps the one remembered, push events included (their
  refetch names the identity already remembered);
* `FlagClient.refresh_after_session`: after every session, the identity remembered is the
  one named by the latest call that names one, and a push update fetches its flags;
* `FlagClient.refused_query_retargets_refetch`: a refused query after the read of an
  identity sends the next refetch to the anonymous flags.
-/

namespace FeatureFlags

/-- The identity a call names for the refetch of a push update: that of a flag or identity
    read, none for an anonymous one, and none for a flag query with traits and no identity,
    which is refused. -/
def ClientCall.names : ClientCall → Option (Option String)
  | .getFeatureFlags q => some q.identity
  | .getFeatureFlag _ identity => some identity
  | .getIdentity identity _ => some (some identity)
  | .getTraits identity => some (some identity)
  | .getTrait _ identity => some (some identity)
  | .setTraits .. | .setTrait .. | .clearCache | .watchFlags | .restartUpdates | .close
  | .shutdown | .push _ => none

namespace FlagClient

variable (c : FlagClient) (transport : Transport) (now : Instant)

/-! ## What each operation does to the identity remembered -/

@[simp] theorem lastIdentity_publish (flags : List Flag) :
    (c.publish flags).lastIdentity = c.lastIdentity := rfl

@[simp] theorem lastIdentity_withService {α : Type} (e : Exchange α) :
    (c.withService e).lastIdentity = c.lastIdentity := rfl

@[simp] theorem lastIdentity_clearCache : c.clearCache.lastIdentity = c.lastIdentity := rfl

@[simp] theorem lastIdentity_settle {α : Type} (e : Exchange α) (flags : α → List Flag) :
    (c.settle e flags).2.lastIdentity = c.lastIdentity := by
  unfold settle
  split <;> rfl

/-- A flag query remembers its identity, whatever its shape and whatever the service does. -/
@[simp] theorem lastIdentity_getFeatureFlags (q : FlagQuery) :
    (c.getFeatureFlags transport now q).2.lastIdentity = q.identity := by
  -- the four kinds of query, each remembering the query's identity before anything else
  rcases hid : q.identity with _ | identifier <;> rcases htr : q.traits with _ | traits
  · unfold getFeatureFlags
    simp only [hid, htr]
    split <;> rfl
  · rw [c.getFeatureFlags_of_traits_without_identity hid (by simp [htr])]
    rfl
  · rw [c.getFeatureFlags_of_identity hid htr, lastIdentity_settle]
    exact hid
  · rw [c.getFeatureFlags_of_identity_traits hid htr, lastIdentity_settle]
    exact hid

@[simp] theorem lastIdentity_getFeatureFlag (feature : String) (identity : Option String) :
    (c.getFeatureFlag transport now feature identity).2.lastIdentity = identity := by
  have h := c.lastIdentity_getFeatureFlags transport now { identity }
  unfold getFeatureFlag
  split <;> rename_i heq <;> rw [heq] at h <;> exact h

@[simp] theorem lastIdentity_getIdentity (identity : String) (transient : Bool) :
    (c.getIdentity transport now identity transient).2.lastIdentity = some identity := rfl

@[simp] theorem lastIdentity_getTraits (identity : String) :
    (c.getTraits transport now identity).2.lastIdentity = some identity := rfl

@[simp] theorem lastIdentity_getTrait (key identity : String) :
    (c.getTrait transport now key identity).2.lastIdentity = some identity := rfl

/-- A push event keeps the identity remembered: its refetch reads the flags of that one. -/
@[simp] theorem lastIdentity_handleEvent (e : PushEvent) :
    (c.handleEvent transport now e).lastIdentity = c.lastIdentity := by
  unfold handleEvent PushEvent.handle
  split
  · rename_i hr
    cases Option.some.inj hr
    simp [refresher, freshnessCell]
  · rfl

theorem lastIdentity_streamItems (items : List FeedItem) :
    (c.streamItems transport now items).lastIdentity = c.lastIdentity := by
  induction items generalizing c with
  | nil => rfl
  | cons item items ih =>
    cases item with
    | event e => simp [streamItems, ih]
    | failure _ => rfl

theorem lastIdentity_runScripts (backoff : Backoff) (scripts : List FeedScript) :
    (c.runScripts transport now backoff scripts).1.lastIdentity = c.lastIdentity := by
  induction scripts generalizing c backoff with
  | nil => rfl
  | cons script scripts ih =>
    cases script with
    | refused _ => exact ih c _
    | items items => simp [runScripts, ih, lastIdentity_streamItems]

/-- Restarting updates handles the events of the connections it makes, each keeping the
    identity remembered. -/
@[simp] theorem lastIdentity_restartUpdates :
    (c.restartUpdates transport now).2.lastIdentity = c.lastIdentity := by
  unfold restartUpdates start startSubscription
  split
  · rfl
  split
  · rfl
  split
  · rfl
  · split
    · rfl
    · simp [lastIdentity_runScripts]

/-! ## Sessions -/

/-- A call that names an identity makes it the one remembered; any other call keeps the
    one remembered. -/
theorem lastIdentity_perform (call : ClientCall) :
    (c.perform transport now call).lastIdentity = call.names.getD c.lastIdentity := by
  cases call <;> simp [perform, ClientCall.names, setTrait, setTraits, watchFlags, close,
    shutdown]

theorem getLast?_filterMap_cons_getD {α β : Type} (f : α → Option β) (a : α) (as : List α)
    (d : β) : ((a :: as).filterMap f).getLast?.getD d = (as.filterMap f).getLast?.getD ((f a).getD d) := by
  cases h : f a with
  | none => simp [h]
  | some b => simp [h, List.getLast?_cons]

/-- After a session, the identity remembered is the one named by the latest call that
    names one. -/
theorem lastIdentity_performAll (session : List (Transport × Instant × ClientCall)) :
    (c.performAll session).lastIdentity =
      (session.filterMap (·.2.2.names)).getLast?.getD c.lastIdentity := by
  -- a run of the step lemma: the identity remembered is the last one named so far
  induction session generalizing c with
  | nil => rfl
  | cons entry session ih =>
    obtain ⟨transport, now, call⟩ := entry
    rw [getLast?_filterMap_cons_getD, ← lastIdentity_perform]
    exact ih _

/-- After every session, a push update refetches the flags of the identity named by the
    latest call that names one: the latest flag or identity read, or a later flag query
    refused for traits without an identity, which names none. -/
theorem refresh_after_session (session : List (Transport × Instant × ClientCall)) :
    (c.performAll session).lastIdentity =
        (session.filterMap (·.2.2.names)).getLast?.getD c.lastIdentity ∧
      (refresher transport now).refresh (c.performAll session) =
        ((c.performAll session).getFeatureFlags transport now
          { identity := (session.filterMap (·.2.2.names)).getLast?.getD c.lastIdentity }).2 := by
  have h := c.lastIdentity_performAll session
  refine ⟨h, ?_⟩
  rw [← h]
  rfl

/-! ## A refused query -/

/-- The read of an identity, then a flag query with traits and no identity. -/
def readThenRefused : List (Transport × Instant × ClientCall) :=
  [(.refusing, ⟨0⟩, .getFeatureFlags { identity := some "bob" }),
   (.refusing, ⟨0⟩, .getFeatureFlags { traits := some [{ key := "age", value := .number 42 }] })]

/-- The query refused for traits without an identity is no read, yet after it a push update
    refetches the anonymous flags, not those of `bob`, the identity last read. -/
theorem refused_query_retargets_refetch :
    ((default : FlagClient).performAll readThenRefused).lastIdentity = none ∧
      (refresher .refusing ⟨0⟩).refresh ((default : FlagClient).performAll readThenRefused) =
        (((default : FlagClient).performAll readThenRefused).getFeatureFlags .refusing ⟨0⟩
          {}).2 := by
  have h : ((default : FlagClient).performAll readThenRefused).lastIdentity = none := by
    simp [readThenRefused, performAll, lastIdentity_perform, ClientCall.names]
  refine ⟨h, ?_⟩
  change (((default : FlagClient).performAll readThenRefused).getFeatureFlags .refusing ⟨0⟩
    { identity := ((default : FlagClient).performAll readThenRefused).lastIdentity }).2 = _
  rw [h]

end FlagClient

end FeatureFlags
