import FeatureFlags.Proofs.Service.Call

/-!
# What a call does besides its answer

A call of `ServiceClient.execute` changes two things of the client: its freshness and its
store. A call that fails changes neither: it leaves the freshness, and every key of the
store holds what it held (a look-up may make a key the most recently used, or remove a
file that does not decode, but no record is written). A call that succeeds moves the
freshness to the update time its answer reports, when that is later (`latestAfter`), and
writes at most one record, into the store as it found it: an answer from the network with
a success status that may be cached, or a record renewed by "not modified", either one
expiring a time to live after its reply arrived.

`CallEffects` states this for one call, and `callEffects_execute` proves it of every call:
every request, store, clock, transport and options. It is assembled from one lemma per
step of the call: serving an answer, failing, the fallback, the request sent through the
cache, the look-up, and the request sent past it.
-/

namespace FeatureFlags

/-- The update time reported in some headers is finite. -/
theorem updatedAt?_finite {headers : List (String × String)} {t : Float}
    (h : updatedAt? headers = some t) : t.isNaN = false ∧ t.isInf = false := by
  simp only [updatedAt?, Option.bind_eq_some_iff, Option.filter_eq_some_iff] at h
  obtain ⟨v, -, -, hfin⟩ := h
  simpa using hfin

/-- A finite time moves the freshness exactly when it is later. -/
theorem Freshness.observe_latest (f : Freshness) {t : Float} (hnan : t.isNaN = false)
    (hinf : t.isInf = false) : (f.observe t).1.latest = if t > f.latest then t else f.latest := by
  unfold observe moves
  by_cases h : t > f.latest
  · simp only [hnan, hinf, h, Bool.not_false, decide_true, Bool.and_self, if_true]
  · simp only [hnan, hinf, h, Bool.not_false, decide_false, Bool.and_false, Bool.false_eq_true,
      if_false]

/-- The latest update time after an answer with some headers: the time they report, when it
    is later than `latest`, else `latest`. -/
def latestAfter (latest : Float) (headers : List (String × String)) : Float :=
  match updatedAt? headers with
  | some t => if t > latest then t else latest
  | none => latest

/-- The store after a call holds, under every key, what the store before held; no store
    stays no store. -/
def StoreKept : Option ResponseStore → Option ResponseStore → Prop
  | some s, some t => ResponseStore.SameRecords t s
  | none, none => True
  | _, _ => False

theorem StoreKept.refl : ∀ s, StoreKept s s
  | some s => ResponseStore.SameRecords.refl s
  | none => trivial

theorem StoreKept.trans : ∀ {s t u : Option ResponseStore}, StoreKept s t → StoreKept t u →
    StoreKept s u
  | some _, some _, some _, h₁, h₂ => ResponseStore.SameRecords.trans h₂ h₁
  | none, none, none, _, _ => trivial

namespace ServiceClient

variable (c : ServiceClient) {transport : Transport} {now : Instant} {r : ApiRequest}
  {options : RequestOptions}

/-- The store after a call holds one record written by the call into the store as the call
    found it: an answer from the network with a success status that may be cached, or a
    record renewed by "not modified". Either expires a time to live after its reply
    arrived. -/
def Written (resp : ApiResponse) (after : Option ResponseStore) : Prop :=
  ∃ store key record, StoreKept c.store (some store) ∧
    after = some (keep store key record record.responseTime) ∧
    record.expiresAt = record.responseTime.addSpan c.ttl ∧
    ((resp.source = .network ∧ isSuccessStatus resp.status = true ∧
        varyKeys? c.sentHeaders resp.headers {} = some record.vary ∧
        resp = .ofRecord record .network) ∨
      (resp.source = .revalidated ∧ resp = .ofRecord record .revalidated))

/-- What a call `e` of the client `c` does besides its result. -/
structure CallEffects (e : Exchange ApiResponse) : Prop where
  /-- A failed call leaves the freshness as it was, -/
  error_freshness : ∀ err, e.result = .error err → e.client.freshness = c.freshness
  /-- and writes no record. -/
  error_store : ∀ err, e.result = .error err → StoreKept c.store e.client.store
  /-- A call that succeeded moves the freshness to the update time of its answer, if later. -/
  ok_freshness : ∀ resp, e.result = .ok resp →
    e.client.freshness.latest = latestAfter c.freshness.latest resp.headers
  /-- It writes no record, or the one record of its answer. -/
  ok_store : ∀ resp, e.result = .ok resp → StoreKept c.store e.client.store ∨ c.Written resp e.client.store

/-- Observing headers moves the freshness to the update time they report, if later. -/
theorem observe_latest (headers : List (String × String)) :
    (c.observe headers).freshness.latest = latestAfter c.freshness.latest headers := by
  unfold observe latestAfter
  rcases h : updatedAt? headers with _ | t
  · rfl
  · obtain ⟨hnan, hinf⟩ := updatedAt?_finite h
    exact Freshness.observe_latest c.freshness hnan hinf

/-! ### One lemma per step of a call -/

/-- Serving an answer, with a store that keeps the records or holds the answer's record. -/
theorem callEffects_serve {after : Option ResponseStore} {resp : ApiResponse}
    {sent : Option OutgoingRequest}
    (hafter : StoreKept c.store after ∨ c.Written resp after) :
    c.CallEffects ({ c with store := after }.serve resp sent) := by
  refine ⟨fun err h => (by cases h), fun err h => (by cases h), fun resp' h => ?_,
    fun resp' h => ?_⟩
  · cases h
    exact observe_latest _ _
  · cases h
    rwa [serve_client, observe_store]

/-- Failing, with a store that keeps the records. -/
theorem callEffects_fail {after : Option ResponseStore} {err : ClientError}
    {sent : Option OutgoingRequest} (hafter : StoreKept c.store after) :
    c.CallEffects { result := .error err, sent, client := { c with store := after } } :=
  ⟨fun _ _ => rfl, fun _ _ => hafter, fun _ h => (by cases h), fun _ h => (by cases h)⟩

variable {c}

/-- The fallback looks the key up again: whether it serves a stale record or fails, the
    store keeps the records. -/
theorem callEffects_fallback {store : ResponseStore} (hkept : StoreKept c.store (some store))
    (key : CacheKey) (out : OutgoingRequest) (err : ClientError) :
    c.CallEffects ({ c with store := some store }.fallback store key options out err) := by
  have hlookup : StoreKept c.store
      (some (lookup store key { c with store := some store }.sentHeaders).2) :=
    hkept.trans (lookup_snd store key _)
  unfold fallback
  split
  · split
    · rename_i record store' heq
      rw [heq] at hlookup
      exact callEffects_serve c (.inl hlookup)
    · rename_i store' heq
      rw [heq] at hlookup
      exact callEffects_fail c hlookup
  · exact callEffects_fail c hkept

/-- The request sent through the cache: its failure falls back, "not modified" writes the
    renewed record, and any other answer writes its record when it may be cached. -/
theorem callEffects_sendRevalidating {store : ResponseStore}
    (hkept : StoreKept c.store (some store)) (url : Url) (key : CacheKey)
    (cached : Option CacheRecord) :
    c.CallEffects ({ c with store := some store }.sendRevalidating transport now store r url
      options key cached) := by
  rcases hf : roundTripFailure cached (transport (c.conditionalRequest r url options cached))
    with _ | err
  · obtain ⟨reply, answer, hd, ha, hnm⟩ := roundTripFailure_eq_none hf
    rw [← conditionalRequest_store c (some store)] at hd
    by_cases hs : answer.status = notModified
    · -- "Not modified" renews the record looked up, and writes it.
      obtain ⟨record, rfl⟩ := hnm hs
      rw [sendRevalidating_of_notModified _ hd ha hs]
      refine callEffects_serve c (.inr ⟨store, key, _, hkept, rfl, rfl, .inr ⟨rfl, rfl⟩⟩)
    · rw [sendRevalidating_of_answer _ hd ha hs]
      obtain ⟨-, -, -, hnet⟩ := Reply.accept_eq_ok ha
      rcases hv : varyKeys? c.sentHeaders answer.headers {} with _ | vary
      · -- An answer that may not be cached leaves the store.
        rw [keepAnswer_of_none { c with store := some store } hv]
        exact callEffects_serve c (.inl hkept)
      · -- Any other answer is written as a record of itself.
        rw [keepAnswer_of_varyKeys { c with store := some store } hv]
        refine callEffects_serve c (.inr ⟨store, key, _, hkept, rfl, rfl, .inl ⟨hnet,
          Reply.isSuccessStatus_of_accept ha hs, hv, ?_⟩⟩)
        cases answer
        cases hnet
        rfl
  · rw [sendRevalidating_of_failure _ (by rwa [conditionalRequest_store])]
    exact callEffects_fallback hkept key _ err

/-- A request through the cache: the look-up keeps the records, then the fresh record is
    served, or the request is sent. -/
theorem callEffects_sendCached {store : ResponseStore} (hstore : c.store = some store)
    (url : Url) : c.CallEffects (c.sendCached transport now store r url options) := by
  rcases hl : c.lookupUnlessForced store (CacheKey.ofRequest r.method url) options
    with ⟨cached, store₁⟩
  have hkept : StoreKept c.store (some store₁) := by
    rw [hstore]
    have := c.lookupUnlessForced_snd store (CacheKey.ofRequest r.method url) options
    rwa [hl] at this
  by_cases hit : ∃ record, cached = some record ∧ record.isFresh now = true
  · obtain ⟨record, rfl, hfresh⟩ := hit
    rw [sendCached_of_fresh c hl hfresh]
    exact callEffects_serve c (.inl hkept)
  · rw [sendCached_of_not_fresh c hl (isFresh_eq_false_of_not_hit hit)]
    exact callEffects_sendRevalidating hkept url _ cached

/-- A request sent past the cache leaves the store. -/
theorem callEffects_sendDirect (url : Url) : c.CallEffects (c.sendDirect transport r url) := by
  unfold sendDirect
  dsimp only
  split
  · exact callEffects_serve c (.inl (.refl c.store))
  · exact callEffects_fail c (.refl c.store)

/-- Every call fails without changing the freshness or writing a record, or succeeds, moves
    the freshness to the update time of its answer if later, and writes at most the one
    record of its answer: an answer from the network with a success status that may be
    cached, or a record renewed by "not modified". -/
theorem callEffects_execute (c : ServiceClient) (transport : Transport) (now : Instant)
    (r : ApiRequest) (options : RequestOptions) :
    c.CallEffects (c.execute transport now r options) := by
  unfold execute
  split
  · exact callEffects_fail c (.refl c.store)
  · split
    · rename_i store hstore
      split
      · exact callEffects_sendCached hstore _
      · exact callEffects_sendDirect _
    · exact callEffects_sendDirect _

end ServiceClient

end FeatureFlags
