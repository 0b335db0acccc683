import FeatureFlags.Proofs.Cache.Holding
import FeatureFlags.Service.Client

/-!
# One call through the cache, step by step

A call of `ServiceClient.execute` for a cacheable request goes through the steps of the
cache: the look-up (`lookupUnlessForced`), then either the fresh record, or the request
sent with the record's validators (`sendRevalidating`), whose answer ends the call, or,
when it failed, falls back to a stale record (`fallback`).

A request through the cache *fails* (`roundTripFailure`) when the transport fails, when
the service answers with a status other than success or "not modified", or when it
answers "not modified" although no record was looked up. Every such failure may be
covered by a stale record.

This module states what each step does, once, so that the statements about whole calls
cite these lemmas and never unfold the client:

* `execute_eq_sendCached`: a cacheable call with a store goes through the cache;
* `sendCached_of_fresh`, `sendCached_of_not_fresh`: a fresh record is served, else the
  request is sent;
* `sendRevalidating_of_failure`, `sendRevalidating_of_notModified`,
  `sendRevalidating_of_answer`: the three ends of a request, by its answer;
* `fallback_result`: a failure is covered by a stale record exactly when stale answers
  are accepted and a record is found again;
* `lookup_fst`, `lookup_snd`: a look-up finds the first record held under the key that
  fits the headers sent, and changes what the store holds under no key;
* `execute_of_fresh`, `execute_of_not_fresh`, `execute_of_answer`, `execute_stale`: the
  whole call, by the record looked up and the answer.
-/

namespace FeatureFlags

/-- How a request sent through the cache failed, if it did: the transport failed (no
    connection, or no answer in time), the service answered with an error status, or it
    answered "not modified" when no record was looked up. -/
def roundTripFailure (cached : Option CacheRecord) : Delivery → Option ClientError
  | .error e => some e.toClientError
  | .ok reply =>
    match reply.accept with
    | .error e => some e
    | .ok answer =>
      if answer.status = notModified ∧ cached = none then
        some (.server answer.status "not modified without a cached response")
      else none

/-- An accepted reply is an answer from the network, with the reply's status, headers
    and body. -/
theorem Reply.accept_eq_ok {reply : Reply} {answer : ApiResponse}
    (h : reply.accept = .ok answer) :
    answer.status = reply.status ∧ answer.headers = reply.headers ∧ answer.body = reply.body ∧
      answer.source = .network := by
  unfold Reply.accept at h
  split at h
  · cases h
    exact ⟨rfl, rfl, rfl, rfl⟩
  · cases h

/-- A reply that is not accepted is a server error. -/
theorem Reply.accept_eq_error {reply : Reply} {err : ClientError}
    (h : reply.accept = .error err) : err.isTransportOrServer = true := by
  unfold Reply.accept at h
  split at h
  · cases h
  · cases h
    rfl

/-- A success status other than "not modified" is a success. -/
theorem Reply.isSuccessStatus_of_accept {reply : Reply} {answer : ApiResponse}
    (h : reply.accept = .ok answer) (hs : answer.status ≠ notModified) :
    isSuccessStatus answer.status = true := by
  obtain ⟨hstatus, -⟩ := Reply.accept_eq_ok h
  unfold Reply.accept at h
  split at h
  · rename_i hok
    rw [hstatus] at hs ⊢
    simpa [hs] using hok
  · cases h

/-- Every failure of a request through the cache is one a stale record may cover. -/
theorem roundTripFailure_isTransportOrServer {cached : Option CacheRecord} {d : Delivery}
    {err : ClientError} (h : roundTripFailure cached d = some err) :
    err.isTransportOrServer = true := by
  rcases d with e | reply
  · cases e <;> cases h <;> rfl
  · simp only [roundTripFailure] at h
    rcases ha : reply.accept with e | answer
    · rw [ha] at h
      cases h
      exact Reply.accept_eq_error ha
    · rw [ha] at h
      dsimp only at h
      split at h
      · cases h
        rfl
      · cases h

/-- A request through the cache that did not fail was answered: with a success, or with
    "not modified" for a record looked up. -/
theorem roundTripFailure_eq_none {cached : Option CacheRecord} {d : Delivery}
    (h : roundTripFailure cached d = none) :
    ∃ reply answer, d = .ok reply ∧ reply.accept = .ok answer ∧
      (answer.status = notModified → ∃ record, cached = some record) := by
  rcases d with e | reply
  · cases h
  · simp only [roundTripFailure] at h
    rcases ha : reply.accept with e | answer
    · rw [ha] at h; cases h
    · rw [ha] at h
      refine ⟨reply, answer, rfl, ha, fun hs => ?_⟩
      rcases cached with _ | record
      · simp [hs] at h
      · exact ⟨record, rfl⟩

namespace ServiceClient

variable (c : ServiceClient) {transport : Transport} {now : Instant} {r : ApiRequest}
  {options : RequestOptions}

/-! ### Serving an answer -/

@[simp] theorem serve_result (resp : ApiResponse) (sent : Option OutgoingRequest) :
    (c.serve resp sent).result = .ok resp := rfl

@[simp] theorem serve_sent (resp : ApiResponse) (sent : Option OutgoingRequest) :
    (c.serve resp sent).sent = sent := rfl

@[simp] theorem serve_client (resp : ApiResponse) (sent : Option OutgoingRequest) :
    (c.serve resp sent).client = c.observe resp.headers := rfl

@[simp] theorem observe_store (headers : List (String × String)) :
    (c.observe headers).store = c.store := by
  unfold observe
  split <;> rfl

/-! ### The fallback to a stale record -/

/-- The fallback ends a call whose request was sent. -/
theorem fallback_sent (store : ResponseStore) (key : CacheKey) (out : OutgoingRequest)
    (err : ClientError) : (c.fallback store key options out err).sent = some out := by
  unfold fallback
  split
  · split <;> rfl
  · rfl

/-- A failure is covered by a stale record when stale answers are accepted, the failure
    is one a record may cover, and a record of the key fits the headers sent; otherwise
    the call fails with it. -/
theorem fallback_result (store : ResponseStore) (key : CacheKey) (out : OutgoingRequest)
    (err : ClientError) :
    (c.fallback store key options out err).result =
      if options.acceptStale && err.isTransportOrServer then
        match (lookup store key c.sentHeaders).1 with
        | some record => .ok (.ofRecord record .stale)
        | none => .error err
      else .error err := by
  unfold fallback
  split
  · rcases lookup store key c.sentHeaders with ⟨_ | record, store'⟩ <;> rfl
  · rfl

/-! ### The request sent through the cache -/

/-- A request through the cache is sent once, with the directive and the validators of
    the record looked up. -/
theorem sendRevalidating_sent (store : ResponseStore) (url : Url) (key : CacheKey)
    (cached : Option CacheRecord) :
    (c.sendRevalidating transport now store r url options key cached).sent =
      some (c.conditionalRequest r url options cached) := by
  unfold sendRevalidating
  simp only
  rcases transport (c.conditionalRequest r url options cached) with e | reply
  · exact fallback_sent ..
  · dsimp only
    rcases reply.accept with e | answer
    · exact fallback_sent ..
    · dsimp only
      split
      · rcases cached with _ | record
        · exact fallback_sent ..
        · rfl
      · rfl

/-- A request that failed ends in the fallback. -/
theorem sendRevalidating_of_failure {store : ResponseStore} {url : Url} {key : CacheKey}
    {cached : Option CacheRecord} {err : ClientError}
    (h : roundTripFailure cached (transport (c.conditionalRequest r url options cached)) =
      some err) :
    c.sendRevalidating transport now store r url options key cached =
      c.fallback store key options (c.conditionalRequest r url options cached) err := by
  unfold sendRevalidating
  simp only
  revert h
  rcases transport (c.conditionalRequest r url options cached) with e | reply
  · intro h
    cases h
    rfl
  · simp only [roundTripFailure]
    rcases reply.accept with e | answer
    · intro h
      cases h
      rfl
    · dsimp only
      by_cases hs : answer.status = notModified
      · -- "Not modified" fails only when no record was looked up.
        rcases cached with _ | record
        · simp only [hs, and_self, if_true, beq_self_eq_true, Option.some.injEq]
          intro h
          subst h
          rfl
        · simp [hs]
      · simp [hs]

/-- "Not modified" for the record looked up renews the record, stores it, and serves
    it as revalidated. -/
theorem sendRevalidating_of_notModified {store : ResponseStore} {url : Url} {key : CacheKey}
    {record : CacheRecord} {reply : Reply} {answer : ApiResponse}
    (h : transport (c.conditionalRequest r url options (some record)) = .ok reply)
    (ha : reply.accept = .ok answer) (hs : answer.status = notModified) :
    c.sendRevalidating transport now store r url options key (some record) =
      { c with store := some (keep store key (c.renewed record now reply answer)
          reply.receivedAt) }.serve
        (.ofRecord (c.renewed record now reply answer) .revalidated)
        (some (c.conditionalRequest r url options (some record))) := by
  simp [sendRevalidating, h, ha, hs]

/-- Any other answer is kept, when it may be cached, and served as it came. -/
theorem sendRevalidating_of_answer {store : ResponseStore} {url : Url} {key : CacheKey}
    {cached : Option CacheRecord} {reply : Reply} {answer : ApiResponse}
    (h : transport (c.conditionalRequest r url options cached) = .ok reply)
    (ha : reply.accept = .ok answer) (hs : answer.status ≠ notModified) :
    c.sendRevalidating transport now store r url options key cached =
      { c with store := some (c.keepAnswer store key url now reply answer) }.serve answer
        (some (c.conditionalRequest r url options cached)) := by
  simp [sendRevalidating, h, ha, hs]

/-- A request that did not fail is served from the network or as revalidated. -/
theorem sendRevalidating_of_success {store : ResponseStore} {url : Url} {key : CacheKey}
    {cached : Option CacheRecord}
    (h : roundTripFailure cached (transport (c.conditionalRequest r url options cached)) =
      none) :
    ∃ resp, (c.sendRevalidating transport now store r url options key cached).result =
      .ok resp ∧ (resp.source = .network ∨ resp.source = .revalidated) := by
  obtain ⟨reply, answer, hd, ha, hnm⟩ := roundTripFailure_eq_none h
  by_cases hs : answer.status = notModified
  · obtain ⟨record, rfl⟩ := hnm hs
    rw [sendRevalidating_of_notModified c hd ha hs]
    exact ⟨_, rfl, .inr rfl⟩
  · rw [sendRevalidating_of_answer c hd ha hs]
    exact ⟨answer, rfl, .inl (Reply.accept_eq_ok ha).2.2.2⟩

/-! ### The look-up, and the whole call -/

/-- A fresh record looked up is served from the cache, and nothing is sent. -/
theorem sendCached_of_fresh {store store₁ : ResponseStore} {url : Url} {record : CacheRecord}
    (h : c.lookupUnlessForced store (CacheKey.ofRequest r.method url) options =
      (some record, store₁))
    (hfresh : record.isFresh now = true) :
    c.sendCached transport now store r url options =
      { c with store := some store₁ }.serve (.ofRecord record .cache) none := by
  simp [sendCached, h, hfresh]

/-- Without a fresh record, the request is sent with the record looked up. -/
theorem sendCached_of_not_fresh {store store₁ : ResponseStore} {url : Url}
    {cached : Option CacheRecord}
    (h : c.lookupUnlessForced store (CacheKey.ofRequest r.method url) options = (cached, store₁))
    (hstale : ∀ record, cached = some record → record.isFresh now = false) :
    c.sendCached transport now store r url options =
      { c with store := some store₁ }.sendRevalidating transport now store₁ r url options
        (CacheKey.ofRequest r.method url) cached := by
  rcases cached with _ | record
  · simp [sendCached, h]
  · simp [sendCached, h, hstale record rfl]

/-- A forced refresh looks up nothing and leaves the store as it is. -/
theorem lookupUnlessForced_of_force {store : ResponseStore} {key : CacheKey}
    {options : RequestOptions} (h : options.forceRefresh = true) :
    c.lookupUnlessForced store key options = (none, store) := by
  simp [lookupUnlessForced, h]

/-- A look-up finds the first record held under the key whose vary keys fit the headers
    sent. -/
theorem lookup_fst (store : ResponseStore) (key : CacheKey) (sent : VaryKeys) :
    (lookup store key sent).1 = (store.held key).find? (·.vary.fits sent) := by
  unfold lookup ResponseStore.held
  rcases store.findAll key with ⟨_ | records, store'⟩ <;> rfl

/-- A record a look-up finds is one the store holds. -/
theorem mem_held_of_lookup {store : ResponseStore} {key : CacheKey} {sent : VaryKeys}
    {record : CacheRecord} (h : (lookup store key sent).1 = some record) :
    record ∈ store.held key := by
  rw [lookup_fst] at h
  exact List.mem_of_find?_eq_some h

/-- A look-up changes what the store holds under no key. -/
theorem lookup_snd (store : ResponseStore) (key : CacheKey) (sent : VaryKeys) :
    ResponseStore.SameRecords (lookup store key sent).2 store := by
  have hsame := ResponseStore.held_findAll store key
  unfold lookup
  rcases h : store.findAll key with ⟨_ | records, store'⟩ <;> rw [h] at hsame <;> exact hsame

/-- Nor does the look-up of a call, forced or not. -/
theorem lookupUnlessForced_snd (store : ResponseStore) (key : CacheKey) (options : RequestOptions) :
    ResponseStore.SameRecords (c.lookupUnlessForced store key options).2 store := by
  unfold lookupUnlessForced
  split
  · exact .refl _
  · exact lookup_snd store key c.sentHeaders

/-- The look-up of a call through a memory store leaves a memory store. -/
theorem lookupUnlessForced_memory (c : ServiceClient) (s : MemoryStore) (key : CacheKey)
    (options : RequestOptions) : ∃ m, (c.lookupUnlessForced (.memory s) key options).2 = .memory m := by
  unfold lookupUnlessForced
  split
  · exact ⟨s, rfl⟩
  · exact ⟨_, rfl⟩

/-- Stores that hold the same records look up the same record. -/
theorem lookup_fst_of_sameRecords {s t : ResponseStore} (h : ResponseStore.SameRecords s t)
    (key : CacheKey) (sent : VaryKeys) : (lookup s key sent).1 = (lookup t key sent).1 := by
  rw [lookup_fst, lookup_fst, h key]

/-- An answer that may be cached is kept as a record that expires a time to live after
    the reply arrived. -/
theorem keepAnswer_of_varyKeys {store : ResponseStore} {key : CacheKey} {url : Url}
    {reply : Reply} {answer : ApiResponse} {vary : VaryKeys}
    (h : varyKeys? c.sentHeaders answer.headers {} = some vary) :
    c.keepAnswer store key url now reply answer =
      keep store key (.create key url.text answer.status answer.headers answer.body now
        reply.receivedAt c.ttl vary) reply.receivedAt := by
  simp [keepAnswer, h]

/-- An answer that may not be cached leaves the store as it is. -/
theorem keepAnswer_of_none {store : ResponseStore} {key : CacheKey} {url : Url}
    {reply : Reply} {answer : ApiResponse} (h : varyKeys? c.sentHeaders answer.headers {} = none) :
    c.keepAnswer store key url now reply answer = store := by
  simp [keepAnswer, h]

/-- A record looked up that is not a fresh one is none, or expired. -/
theorem isFresh_eq_false_of_not_hit {cached : Option CacheRecord}
    (hit : ¬ ∃ record, cached = some record ∧ record.isFresh now = true) :
    ∀ record, cached = some record → record.isFresh now = false := by
  intro record hrec
  simpa using fun h => hit ⟨record, hrec, h⟩

/-- A cacheable request is a `GET`. -/
theorem method_eq_of_isCacheable (h : r.isCacheable = true) : r.method = "GET" := by
  simpa [ApiRequest.isCacheable] using h

/-- A cacheable call with a store goes through the cache. -/
theorem execute_eq_sendCached {url : Url} {store : ResponseStore}
    (hurl : c.urlFor r = .ok url) (hstore : c.store = some store) (hget : r.isCacheable = true) :
    c.execute transport now r options = c.sendCached transport now store r url options := by
  simp [execute, hurl, hstore, hget]

/-- A call with no store, or of a request that is not cacheable, sends it once, past
    the cache. -/
theorem execute_eq_sendDirect {url : Url} (hurl : c.urlFor r = .ok url)
    (hdirect : c.store = none ∨ r.isCacheable = false) :
    c.execute transport now r options = c.sendDirect transport r url := by
  rcases hdirect with h | h
  · simp [execute, hurl, h]
  · unfold execute
    rw [hurl]
    dsimp only
    split <;> simp [h]

/-- The directive and the validators do not depend on the store. -/
@[simp] theorem conditionalRequest_store (s : Option ResponseStore) :
    { c with store := s }.conditionalRequest = c.conditionalRequest := rfl

@[simp] theorem sentHeaders_store (s : Option ResponseStore) :
    { c with store := s }.sentHeaders = c.sentHeaders := rfl

/-! ### A whole call through the cache -/

section Cached

variable {c} (transport) {url : Url} {store : ResponseStore}
  (hurl : c.urlFor r = .ok url) (hstore : c.store = some store) (hget : r.isCacheable = true)
include hurl hstore hget

/-- A call that looks up a fresh record serves it, and sends nothing. -/
theorem execute_of_fresh {record : CacheRecord} {store₁ : ResponseStore}
    (h : c.lookupUnlessForced store (.ofRequest "GET" url) options = (some record, store₁))
    (hfresh : record.isFresh now = true) :
    c.execute transport now r options =
      { c with store := some store₁ }.serve (.ofRecord record .cache) none := by
  rw [execute_eq_sendCached c hurl hstore hget]
  exact c.sendCached_of_fresh (by rwa [method_eq_of_isCacheable hget]) hfresh

/-- A call that looks up no fresh record sends the request with the record looked up. -/
theorem execute_of_not_fresh {cached : Option CacheRecord} {store₁ : ResponseStore}
    (h : c.lookupUnlessForced store (.ofRequest "GET" url) options = (cached, store₁))
    (hstale : ∀ record, cached = some record → record.isFresh now = false) :
    c.execute transport now r options =
      { c with store := some store₁ }.sendRevalidating transport now store₁ r url options
        (.ofRequest "GET" url) cached := by
  rw [execute_eq_sendCached c hurl hstore hget, ← method_eq_of_isCacheable hget]
  exact c.sendCached_of_not_fresh (by rwa [method_eq_of_isCacheable hget]) hstale

/-- Without a fresh record, the call's exchange is the request's, and what it sent is
    the request with the record's validators. -/
theorem execute_sent_of_not_fresh {cached : Option CacheRecord} {store₁ : ResponseStore}
    (h : c.lookupUnlessForced store (.ofRequest "GET" url) options = (cached, store₁))
    (hstale : ∀ record, cached = some record → record.isFresh now = false) :
    (c.execute transport now r options).sent = some (c.conditionalRequest r url options cached) := by
  rw [execute_of_not_fresh transport hurl hstore hget h hstale, sendRevalidating_sent,
    conditionalRequest_store]

/-- Without a fresh record, the call ends as the request does: after a failure, with a
    stale record when stale answers are accepted and one is found, else with the failure;
    without a failure, with an answer from the network or revalidated. -/
theorem execute_result_of_not_fresh {cached : Option CacheRecord} {store₁ : ResponseStore}
    (h : c.lookupUnlessForced store (.ofRequest "GET" url) options = (cached, store₁))
    (hstale : ∀ record, cached = some record → record.isFresh now = false) :
    (∀ err, roundTripFailure cached (transport (c.conditionalRequest r url options cached)) =
        some err →
      (c.execute transport now r options).result =
        if options.acceptStale then
          match (lookup store₁ (.ofRequest "GET" url) c.sentHeaders).1 with
          | some record => .ok (.ofRecord record .stale)
          | none => .error err
        else .error err) ∧
    (roundTripFailure cached (transport (c.conditionalRequest r url options cached)) = none →
      ∃ resp, (c.execute transport now r options).result = .ok resp ∧
        (resp.source = .network ∨ resp.source = .revalidated)) := by
  rw [execute_of_not_fresh transport hurl hstore hget h hstale]
  refine ⟨fun err hf => ?_, fun hf => ?_⟩
  · rw [sendRevalidating_of_failure _ (by rwa [conditionalRequest_store]), fallback_result,
      roundTripFailure_isTransportOrServer hf, Bool.and_true]
    rfl
  · exact sendRevalidating_of_success _ (by rwa [conditionalRequest_store])

/-- A call that sent its request and had an answer other than "not modified" serves the
    answer, and keeps it, when it may be cached, in the store after the look-up. -/
theorem execute_of_answer {out : OutgoingRequest} {reply : Reply} {answer : ApiResponse}
    (hsent : (c.execute transport now r options).sent = some out)
    (hreply : transport out = .ok reply) (ha : reply.accept = .ok answer)
    (hs : answer.status ≠ notModified) :
    c.execute transport now r options =
      { c with store := some (c.keepAnswer
          (c.lookupUnlessForced store (.ofRequest "GET" url) options).2 (.ofRequest "GET" url)
          url now reply answer) }.serve answer (some out) := by
  rcases hl : c.lookupUnlessForced store (.ofRequest "GET" url) options with ⟨cached, store₁⟩
  -- A fresh record would have been served, and nothing sent.
  have hstale : ∀ record, cached = some record → record.isFresh now = false := by
    intro record hrec
    subst hrec
    cases hfresh : record.isFresh now
    · rfl
    · rw [execute_of_fresh transport hurl hstore hget hl hfresh] at hsent
      cases hsent
  have hout := execute_sent_of_not_fresh transport hurl hstore hget hl hstale
  rw [hsent, Option.some.injEq] at hout
  subst hout
  rw [execute_of_not_fresh transport hurl hstore hget hl hstale,
    sendRevalidating_of_answer _ (by rwa [conditionalRequest_store]) ha hs]
  rfl

/-- A stale answer is a record found again, after the look-up, for the headers sent. -/
theorem execute_stale {resp : ApiResponse}
    (h : (c.execute transport now r options).result = .ok resp) (hsrc : resp.source = .stale) :
    ∃ record, (lookup (c.lookupUnlessForced store (.ofRequest "GET" url) options).2
      (.ofRequest "GET" url) c.sentHeaders).1 = some record ∧ resp = .ofRecord record .stale := by
  rcases hl : c.lookupUnlessForced store (.ofRequest "GET" url) options with ⟨cached, store₁⟩
  by_cases hit : ∃ record, cached = some record ∧ record.isFresh now = true
  · -- A fresh record is served from the cache, not as stale.
    obtain ⟨record, rfl, hfresh⟩ := hit
    rw [execute_of_fresh transport hurl hstore hget hl hfresh] at h
    cases h
    cases hsrc
  · have hstale := isFresh_eq_false_of_not_hit hit
    obtain ⟨hfail, hsucc⟩ := execute_result_of_not_fresh transport hurl hstore hget hl hstale
    rcases hf : roundTripFailure cached (transport (c.conditionalRequest r url options cached))
      with _ | err
    · -- A request that did not fail is served from the network or revalidated.
      obtain ⟨resp', hr, hsrc'⟩ := hsucc hf
      rw [hr, Except.ok.injEq] at h
      subst h
      rcases hsrc' with h' | h' <;> rw [h'] at hsrc <;> cases hsrc
    · rw [hfail err hf] at h
      split at h
      · split at h
        · rename_i record hrec
          cases h
          exact ⟨record, hrec, rfl⟩
        · cases h
      · cases h

end Cached

/-! ### What a call leaves as it is -/

/-- Two clients of one service: the same API URL, environment key and time to live; their
    stores and freshness may differ. -/
structure SameService (c c' : ServiceClient) : Prop where
  baseUrl : c'.baseUrl = c.baseUrl
  environmentKey : c'.environmentKey = c.environmentKey
  ttl : c'.ttl = c.ttl

theorem SameService.refl : SameService c c := ⟨rfl, rfl, rfl⟩

theorem SameService.trans {c₁ c₂ c₃ : ServiceClient} (h₁ : SameService c₁ c₂)
    (h₂ : SameService c₂ c₃) : SameService c₁ c₃ :=
  ⟨h₂.baseUrl.trans h₁.baseUrl, h₂.environmentKey.trans h₁.environmentKey, h₂.ttl.trans h₁.ttl⟩

/-- Clients of one service read a request's path to the same URL. -/
theorem SameService.urlFor_eq {c' : ServiceClient} (h : SameService c c') : c'.urlFor = c.urlFor := by
  funext r
  simp only [urlFor, h.baseUrl]

/-- Clients of one service send the same headers. -/
theorem SameService.sentHeaders_eq {c' : ServiceClient} (h : SameService c c') :
    c'.sentHeaders = c.sentHeaders := by
  simp only [sentHeaders, h.environmentKey]

theorem sameService_with_store (s : Option ResponseStore) : SameService c { c with store := s } :=
  ⟨rfl, rfl, rfl⟩

theorem sameService_observe (headers : List (String × String)) :
    SameService c (c.observe headers) := by
  unfold observe
  split
  · exact ⟨rfl, rfl, rfl⟩
  · exact .refl c

theorem sameService_fallback (store : ResponseStore) (key : CacheKey) (out : OutgoingRequest)
    (err : ClientError) : SameService c (c.fallback store key options out err).client := by
  unfold fallback
  split
  · split
    · exact (sameService_with_store c _).trans (sameService_observe _ _)
    · exact sameService_with_store c _
  · exact sameService_with_store c _

theorem sameService_sendRevalidating (store : ResponseStore) (url : Url) (key : CacheKey)
    (cached : Option CacheRecord) :
    SameService c (c.sendRevalidating transport now store r url options key cached).client := by
  unfold sendRevalidating
  dsimp only
  split
  · exact sameService_fallback c ..
  · split
    · exact sameService_fallback c ..
    · split
      · split
        · exact (sameService_with_store c _).trans (sameService_observe _ _)
        · exact sameService_fallback c ..
      · exact (sameService_with_store c _).trans (sameService_observe _ _)

theorem sameService_sendCached (store : ResponseStore) (url : Url) :
    SameService c (c.sendCached transport now store r url options).client := by
  unfold sendCached
  dsimp only
  -- Every end is a call of the client with the store after the look-up.
  have hwith := sameService_with_store c (some (c.lookupUnlessForced store
    (CacheKey.ofRequest r.method url) options).2)
  split
  · split
    · exact hwith.trans (sameService_observe _ _)
    · exact hwith.trans (sameService_sendRevalidating _ ..)
  · exact hwith.trans (sameService_sendRevalidating _ ..)

theorem sameService_sendDirect (url : Url) :
    SameService c (c.sendDirect transport r url).client := by
  unfold sendDirect
  dsimp only
  split
  · exact sameService_observe c _
  · exact .refl c

/-- A call changes the client's store and freshness only. -/
theorem sameService_execute : SameService c (c.execute transport now r options).client := by
  unfold execute
  split
  · exact .refl c
  · split
    · split
      · exact sameService_sendCached c ..
      · exact sameService_sendDirect c ..
    · exact sameService_sendDirect c ..

end ServiceClient

end FeatureFlags
