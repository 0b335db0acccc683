import FeatureFlags.Proofs.Service.Call

/-!
# The decision table of a call through the cache

For a `GET` request whose path reads against the API URL, with a store, a call of
`ServiceClient.execute` is decided by the record it looks up (the first record of the
request's key whose vary keys fit the headers sent; none when a refresh is forced), by
the clock and by the answer of the one request it may send:

* it serves the record from the cache, and sends nothing, exactly when the record is
  fresh;
* otherwise it sends one request, to the request's URL, with `cache-control: no-cache`
  when forced and `max-age=<ttl>` else, and with `if-none-match` and `if-modified-since`
  taken from the record's `etag` and `last-modified` (so never when forced);
* it serves a stale record exactly when that request failed, stale answers are
  accepted, and a record is found again at that point;
* every other failure is the call's error, and a request that did not fail is served
  from the network or as revalidated.

`CacheDecision` states the table, and `cacheDecision_execute` proves that every such
call follows it, for every store, clock, transport and options, from one lemma per row:
`cacheDecision_of_fresh`, `cacheDecision_of_delivered` and `cacheDecision_of_failure`.
-/

namespace FeatureFlags

/-! ### Headers of the request sent -/

/-- The first header of a name in two lists is the first list's, else the second's. -/
theorem findHeader_append (l₁ l₂ : List (String × String)) (name : String) :
    findHeader (l₁ ++ l₂) name = (findHeader l₁ name).or (findHeader l₂ name) := by
  simp only [findHeader, List.find?_append]
  cases List.find? _ l₁ <;> rfl

@[simp] theorem findHeader_nil (name : String) : findHeader [] name = none := rfl

@[simp] theorem findHeader_cons (k v name : String) (l : List (String × String)) :
    findHeader ((k, v) :: l) name =
      if sameHeaderName k name then some v else findHeader l name := by
  by_cases h : sameHeaderName k name <;> simp [findHeader, h]

/-- Every header name is its own, up to ASCII case. -/
@[simp] theorem sameHeaderName_self (name : String) : sameHeaderName name name = true := by
  simp [sameHeaderName]

/-- The validators of a record: its `etag` as `if-none-match` and its `last-modified` as
    `if-modified-since`, each when it is a valid header value, and no directive. -/
theorem findHeader_conditionalHeaders (record : CacheRecord) :
    findHeader (conditionalHeaders record) "if-none-match" =
        (record.header? "etag").filter isHeaderValue ∧
      findHeader (conditionalHeaders record) "if-modified-since" =
        (record.header? "last-modified").filter isHeaderValue ∧
      findHeader (conditionalHeaders record) "cache-control" = none := by
  have h₁ : sameHeaderName "if-none-match" "if-modified-since" = false := by decide
  have h₂ : sameHeaderName "if-modified-since" "if-none-match" = false := by decide
  have h₃ : sameHeaderName "if-none-match" "cache-control" = false := by decide
  have h₄ : sameHeaderName "if-modified-since" "cache-control" = false := by decide
  unfold conditionalHeaders
  dsimp only
  rcases (record.header? "etag").filter isHeaderValue with _ | etag <;>
    rcases (record.header? "last-modified").filter isHeaderValue with _ | lm <;>
    simp [h₁, h₂, h₃, h₄]

namespace ServiceClient

variable (c : ServiceClient)

/-- The request sent through the cache carries the directive, and the validators of the
    record looked up, and of no other. -/
theorem conditionalRequest_headers (r : ApiRequest) (url : Url) (options : RequestOptions)
    (cached : Option CacheRecord) :
    let out := c.conditionalRequest r url options cached
    out.url = url ∧
      findHeader out.headers "cache-control" = some (c.directive options) ∧
      findHeader out.headers "if-none-match" =
        cached.bind (fun record => (record.header? "etag").filter isHeaderValue) ∧
      findHeader out.headers "if-modified-since" =
        cached.bind (fun record => (record.header? "last-modified").filter isHeaderValue) := by
  have henv : ∀ name ∈ ["cache-control", "if-none-match", "if-modified-since"],
      sameHeaderName environmentKeyHeader name = false ∧ sameHeaderName "accept" name = false := by
    decide
  simp only [List.mem_cons, List.not_mem_nil, or_false, forall_eq_or_imp, forall_eq] at henv
  refine ⟨rfl, ?_⟩
  simp only [conditionalRequest, outgoing, Option.map_some, Option.getD_some, List.cons_append,
    findHeader_cons, henv, findHeader_append]
  rcases cached with _ | record
  · simp [show sameHeaderName "cache-control" "if-none-match" = false by decide,
      show sameHeaderName "cache-control" "if-modified-since" = false by decide]
  · obtain ⟨hinm, hims, hcc⟩ := findHeader_conditionalHeaders record
    simp only [Option.map_some, Option.getD_some, hinm, hims, hcc, Option.bind_some]
    rcases (record.header? "etag").filter isHeaderValue with _ | etag <;>
      rcases (record.header? "last-modified").filter isHeaderValue with _ | lm <;>
      simp [show sameHeaderName "cache-control" "if-none-match" = false by decide,
        show sameHeaderName "cache-control" "if-modified-since" = false by decide]

/-! ### The table -/

/-- The decision table of a call through the cache of a request to `url`, whose key is
    `key`, that looked up `looked` (the record found, and the store after the look-up) and
    made the exchange `e`. -/
structure CacheDecision (transport : Transport) (now : Instant) (options : RequestOptions)
    (url : Url) (key : CacheKey) (looked : Option CacheRecord × ResponseStore)
    (e : Exchange ApiResponse) : Prop where
  /-- Nothing is sent exactly when the record looked up is fresh. -/
  sent_eq_none_iff : e.sent = none ↔ ∃ record, looked.1 = some record ∧ record.isFresh now
  /-- The cache serves exactly the fresh record looked up. -/
  cache_iff : ∀ resp, (e.result = .ok resp ∧ resp.source = .cache) ↔
    ∃ record, looked.1 = some record ∧ record.isFresh now ∧ resp = .ofRecord record .cache
  /-- A forced refresh looks nothing up. -/
  forced : options.forceRefresh = true → looked.1 = none
  /-- The request sent goes to the request's URL. -/
  sent_url : ∀ out, e.sent = some out → out.url = url
  /-- It carries `no-cache` when forced, and the time to live otherwise. -/
  sent_directive : ∀ out, e.sent = some out → findHeader out.headers "cache-control" =
    some (if options.forceRefresh then "no-cache" else s!"max-age={c.ttl.secs}")
  /-- It carries the `etag` of the record looked up, and only of it. -/
  sent_ifNoneMatch : ∀ out, e.sent = some out → findHeader out.headers "if-none-match" =
    looked.1.bind fun record => (record.header? "etag").filter isHeaderValue
  /-- It carries the `last-modified` of the record looked up, and only of it. -/
  sent_ifModifiedSince : ∀ out, e.sent = some out →
    findHeader out.headers "if-modified-since" =
      looked.1.bind fun record => (record.header? "last-modified").filter isHeaderValue
  /-- A stale record is served exactly after a failure, when stale answers are accepted
      and a record of the key fits the headers sent at that point. -/
  stale_iff : ∀ out, e.sent = some out → ∀ resp,
    (e.result = .ok resp ∧ resp.source = .stale) ↔
      (roundTripFailure looked.1 (transport out)).isSome ∧ options.acceptStale = true ∧
        ∃ record, (lookup looked.2 key c.sentHeaders).1 = some record ∧
          resp = .ofRecord record .stale
  /-- Every other failure is the call's error. -/
  error_iff : ∀ out, e.sent = some out → ∀ err,
    e.result = .error err ↔
      roundTripFailure looked.1 (transport out) = some err ∧
        ¬ (options.acceptStale = true ∧ ∃ record, (lookup looked.2 key c.sentHeaders).1 = some record)
  /-- A request that did not fail is served from the network or as revalidated. -/
  success : ∀ out, e.sent = some out → roundTripFailure looked.1 (transport out) = none →
    ∃ resp, e.result = .ok resp ∧ (resp.source = .network ∨ resp.source = .revalidated)

variable {c} {now : Instant} {r : ApiRequest} {options : RequestOptions} {url : Url}
  {store : ResponseStore}

/-- A forced refresh looks nothing up. -/
theorem looked_eq_none_of_force {key : CacheKey} {cached : Option CacheRecord}
    {store₁ : ResponseStore} (hl : c.lookupUnlessForced store key options = (cached, store₁))
    (hforce : options.forceRefresh = true) : cached = none := by
  rw [lookupUnlessForced_of_force c hforce] at hl
  exact (Prod.mk.inj hl).1.symm

section Cached

variable (transport : Transport) (hurl : c.urlFor r = .ok url) (hstore : c.store = some store)
  (hget : r.isCacheable = true)
include hurl hstore hget

/-- A call that looks up a fresh record serves it from the cache and sends nothing. -/
theorem cacheDecision_of_fresh {record : CacheRecord} {store₁ : ResponseStore}
    (hl : c.lookupUnlessForced store (.ofRequest "GET" url) options = (some record, store₁))
    (hfresh : record.isFresh now = true) :
    c.CacheDecision transport now options url (.ofRequest "GET" url) (some record, store₁)
      (c.execute transport now r options) := by
  have he := execute_of_fresh transport hurl hstore hget hl hfresh
  have hsent : (c.execute transport now r options).sent = none := by rw [he]; rfl
  have hres : (c.execute transport now r options).result = .ok (.ofRecord record .cache) := by
    rw [he]; rfl
  -- Nothing was sent: the statements about the request hold of none.
  have hnone : ∀ out, (c.execute transport now r options).sent = some out → False := by
    intro out h
    rw [hsent] at h
    cases h
  refine ⟨⟨fun _ => ⟨record, rfl, hfresh⟩, fun _ => hsent⟩, fun resp => ?_,
    looked_eq_none_of_force hl, fun out h => (hnone out h).elim,
    fun out h => (hnone out h).elim, fun out h => (hnone out h).elim,
    fun out h => (hnone out h).elim, fun out h => (hnone out h).elim,
    fun out h => (hnone out h).elim, fun out h => (hnone out h).elim⟩
  rw [hres]
  constructor
  · rintro ⟨hr, -⟩
    exact ⟨record, rfl, hfresh, (Except.ok.inj hr).symm⟩
  · rintro ⟨_, hrec, -, rfl⟩
    cases hrec
    exact ⟨rfl, rfl⟩

/-- Past a record that is not fresh, the call sends something, and what it sends is the
    conditional request for the record looked up. -/
theorem sent_of_not_fresh {cached : Option CacheRecord} {store₁ : ResponseStore}
    (hl : c.lookupUnlessForced store (.ofRequest "GET" url) options = (cached, store₁))
    (hit : ¬ ∃ record, cached = some record ∧ record.isFresh now = true) :
    ((c.execute transport now r options).sent = none ↔
        ∃ record, cached = some record ∧ record.isFresh now = true) ∧
      ∀ out, (c.execute transport now r options).sent = some out →
        out = c.conditionalRequest r url options cached := by
  have hsent := execute_sent_of_not_fresh transport hurl hstore hget hl
    (isFresh_eq_false_of_not_hit hit)
  refine ⟨by simp [hsent, hit], fun out h => ?_⟩
  rw [hsent] at h
  exact (Option.some.inj h).symm

/-- A call whose request, past a record that is not fresh, did not fail is served from the
    network or as revalidated. -/
theorem cacheDecision_of_delivered {cached : Option CacheRecord} {store₁ : ResponseStore}
    (hl : c.lookupUnlessForced store (.ofRequest "GET" url) options = (cached, store₁))
    (hit : ¬ ∃ record, cached = some record ∧ record.isFresh now = true)
    (hf : roundTripFailure cached (transport (c.conditionalRequest r url options cached)) =
      none) :
    c.CacheDecision transport now options url (.ofRequest "GET" url) (cached, store₁)
      (c.execute transport now r options) := by
  obtain ⟨hsent_iff, hout⟩ := sent_of_not_fresh transport hurl hstore hget hl hit
  obtain ⟨hurl', hcc, hinm, hims⟩ := c.conditionalRequest_headers r url options cached
  obtain ⟨resp, hr, hsrc⟩ := (execute_result_of_not_fresh transport hurl hstore hget hl
    (isFresh_eq_false_of_not_hit hit)).2 hf
  refine ⟨hsent_iff, fun resp' => ?_, looked_eq_none_of_force hl,
    fun out h => hout out h ▸ hurl', fun out h => hout out h ▸ hcc,
    fun out h => hout out h ▸ hinm, fun out h => hout out h ▸ hims, fun out h resp' => ?_,
    fun out h err => ?_, fun _ _ _ => ⟨resp, hr, hsrc⟩⟩
  · -- The answer is from the network or revalidated: never the cache.
    refine ⟨fun ⟨hr', hsrc'⟩ => ?_, fun ⟨record, hrec, hfresh, _⟩ =>
      (hit ⟨record, hrec, hfresh⟩).elim⟩
    rw [hr, Except.ok.injEq] at hr'
    subst hr'
    rcases hsrc with hsrc | hsrc <;> rw [hsrc] at hsrc' <;> cases hsrc'
  · rw [hout out h, hf]
    simp only [Option.isSome_none, Bool.false_eq_true, false_and, iff_false, not_and, hr,
      Except.ok.injEq]
    rintro rfl
    rcases hsrc with hsrc | hsrc <;> rw [hsrc] <;> simp
  · rw [hout out h, hf, hr]
    simp

/-- A call whose request, past a record that is not fresh, failed serves a stale record
    when stale answers are accepted and one is found, and fails otherwise. -/
theorem cacheDecision_of_failure {cached : Option CacheRecord} {store₁ : ResponseStore}
    {err : ClientError}
    (hl : c.lookupUnlessForced store (.ofRequest "GET" url) options = (cached, store₁))
    (hit : ¬ ∃ record, cached = some record ∧ record.isFresh now = true)
    (hf : roundTripFailure cached (transport (c.conditionalRequest r url options cached)) =
      some err) :
    c.CacheDecision transport now options url (.ofRequest "GET" url) (cached, store₁)
      (c.execute transport now r options) := by
  obtain ⟨hsent_iff, hout⟩ := sent_of_not_fresh transport hurl hstore hget hl hit
  obtain ⟨hurl', hcc, hinm, hims⟩ := c.conditionalRequest_headers r url options cached
  have hr := (execute_result_of_not_fresh transport hurl hstore hget hl
    (isFresh_eq_false_of_not_hit hit)).1 err hf
  refine ⟨hsent_iff, fun resp' => ?_, looked_eq_none_of_force hl,
    fun out h => hout out h ▸ hurl', fun out h => hout out h ▸ hcc,
    fun out h => hout out h ▸ hinm, fun out h => hout out h ▸ hims, fun out h resp' => ?_,
    fun out h err' => ?_, fun out h hnone => ?_⟩
  · -- After a failure the call serves a stale record or fails: never the cache.
    refine ⟨fun ⟨hr', hsrc'⟩ => ?_, fun ⟨record, hrec, hfresh, _⟩ =>
      (hit ⟨record, hrec, hfresh⟩).elim⟩
    rw [hr] at hr'
    split at hr'
    · split at hr'
      · cases hr'
        cases hsrc'
      · cases hr'
    · cases hr'
  · rw [hout out h, hf, hr]
    by_cases ha : options.acceptStale = true
    · rcases hfound : (lookup store₁ (.ofRequest "GET" url) c.sentHeaders).1 with _ | record
      · simp [ha]
      · simp only [ha, if_true, Except.ok.injEq, Option.isSome_some, true_and,
          Option.some.injEq, exists_eq_left']
        constructor
        · rintro ⟨rfl, -⟩
          rfl
        · rintro rfl
          exact ⟨rfl, rfl⟩
    · simp [ha]
  · rw [hout out h, hf, hr]
    by_cases ha : options.acceptStale = true
    · rcases hfound : (lookup store₁ (.ofRequest "GET" url) c.sentHeaders).1 with _ | record
      · simp [ha]
      · simp [ha]
    · simp [ha, eq_comm]
  · rw [hout out h, hf] at hnone
    cases hnone

/-- Every call through the cache follows the decision table. -/
theorem cacheDecision_execute :
    c.CacheDecision transport now options url (.ofRequest "GET" url)
      (c.lookupUnlessForced store (.ofRequest "GET" url) options)
      (c.execute transport now r options) := by
  -- The row of the table: a fresh record, else what the request brought.
  rcases hl : c.lookupUnlessForced store (.ofRequest "GET" url) options with ⟨cached, store₁⟩
  by_cases hit : ∃ record, cached = some record ∧ record.isFresh now = true
  · obtain ⟨record, rfl, hfresh⟩ := hit
    exact cacheDecision_of_fresh transport hurl hstore hget hl hfresh
  · rcases hf : roundTripFailure cached (transport (c.conditionalRequest r url options cached))
      with _ | err
    · exact cacheDecision_of_delivered transport hurl hstore hget hl hit hf
    · exact cacheDecision_of_failure transport hurl hstore hget hl hit hf

end Cached

/-- The API URL `http://mock/api/v1/`. -/
def mockApi : Url :=
  { scheme := "http", host := some (.domain "mock"), path := .segments ["api", "v1", ""] }

/-- A client of the service at `mockApi`, keeping answers a minute in an empty memory store
    of a kilobyte. -/
def mockClient : ServiceClient :=
  { baseUrl := mockApi, environmentKey := "ser.test", ttl := .ofSecs 60,
    store := some (.memory (.empty 1024)) }

/-- A call for the API URL itself, through an empty memory store and a transport that
    reaches nothing, follows the table. -/
theorem cacheDecision_execute_mockClient :
    mockClient.urlFor (.get "") = .ok mockApi ∧
      mockClient.store = some (.memory (.empty 1024)) ∧ (ApiRequest.get "").isCacheable = true ∧
      mockClient.CacheDecision .refusing ⟨0⟩ {} mockApi (.ofRequest "GET" mockApi)
        (mockClient.lookupUnlessForced (.memory (.empty 1024)) (.ofRequest "GET" mockApi) {})
        (mockClient.execute .refusing ⟨0⟩ (.get "") {}) :=
  ⟨rfl, rfl, rfl, cacheDecision_execute .refusing rfl rfl rfl⟩

end ServiceClient

/-- A transport that brings back one reply to every request. -/
def Transport.answering (reply : Reply) : Transport := fun _ => .ok reply

end FeatureFlags
