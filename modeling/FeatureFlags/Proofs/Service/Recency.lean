import FeatureFlags.Proofs.Service.Revalidation
import FeatureFlags.Proofs.Cache.KeyText

/-!
# Which record a later call serves

A key holds at most one record per vary keys, and storing a record replaces only the one
with the same vary keys: the records with other vary keys stay, in front of the new one.
A look-up serves the first record that fits the headers sent. So the record a call keeps
is served by the next call exactly when no record the key held before, with other vary
keys, fits those headers too. When an answer starts or stops varying on a header, the
older record that fits goes on being served, fresh from the cache and as the stale answer
after a failure, until it is replaced or dropped.

A call keeps a record in two ways (`ServiceClient.KeepsRecord`): an answer from the network
that may be cached, or "not modified" for a record no longer fresh, renewed. Memory keeps the
record as it is, the folder rounded down to whole milliseconds (`ResponseStore.kept`). What a
key holds stays so along calls that store nothing under it (`ServiceClient.KeepsHeld`), so
every later call of the request is answered as the next one is.

* `varyKeys?_fits`: the vary keys of an answer fit the headers of its request;
* `find?_upsert_eq_some_iff`: among a key's records after an upsert, the new record is the
  first to fit exactly when no older record with other vary keys fits;
* `ServiceClient.serves_of_lookup`: a record found for a request is served fresh from the
  cache and as the stale answer;
* `ServiceClient.newest_served_iff_no_older_fits`: the record a call keeps, in either store
  and either way, is the one the next look-up finds exactly then, and every call after calls
  that leave the key alone then serves it;
* `execute_serves_older_record_after_vary_change`: three calls where the newest record is
  not served: a plain answer, then a forced one that varies on `accept`, then a call that
  gets the plain answer from the cache.
-/

namespace FeatureFlags

namespace VaryKeys

theorem fits_iff {vk sent : VaryKeys} : vk.fits sent = true ↔ ∀ p ∈ vk.pairs, p.2 = sent.sent p.1 := by
  simp [fits, List.all_eq_true]

/-- The value sent for a name fits where vary keys fit. -/
theorem fits_insert {vk sent : VaryKeys} (h : vk.fits sent = true) (name : String) :
    (vk.insert name (sent.sent name)).fits sent = true := by
  rw [fits_iff] at h ⊢
  intro p hp
  rcases mem_insert_go hp with rfl | hp
  · rfl
  · exact h p hp

end VaryKeys

theorem addVaryFields_fits {sent : VaryKeys} {fields : List String} :
    ∀ {keys vary : VaryKeys}, keys.fits sent = true → addVaryFields sent fields keys = some vary →
      vary.fits sent = true := by
  induction fields with
  | nil =>
    intro keys vary hk h
    cases h
    exact hk
  | cons field rest ih =>
    intro keys vary hk h
    simp only [addVaryFields] at h
    split at h
    · exact ih hk h
    · split at h
      · cases h
      · exact ih (VaryKeys.fits_insert hk _) h

/-- The vary keys of an answer fit the headers of its request: each holds the value sent. -/
theorem varyKeys?_fits {sent : VaryKeys} {headers : List (String × String)} :
    ∀ {keys vary : VaryKeys}, keys.fits sent = true → varyKeys? sent headers keys = some vary →
      vary.fits sent = true := by
  induction headers with
  | nil =>
    intro keys vary hk h
    cases h
    exact hk
  | cons header rest ih =>
    obtain ⟨name, value⟩ := header
    intro keys vary hk h
    simp only [varyKeys?] at h
    split at h
    · cases h
    · split at h
      · obtain ⟨keys', hk', h'⟩ := Option.bind_eq_some_iff.1 h
        exact ih (addVaryFields_fits hk hk') h'
      · exact ih hk h

/-- After an upsert of a record that fits the headers sent, the first record that fits is
    the new one exactly when no older record with other vary keys fits. -/
theorem find?_upsert_eq_some_iff {l : List CacheRecord} {record : CacheRecord}
    {sent : VaryKeys} (hfits : record.vary.fits sent = true) :
    (l.filter (·.vary ≠ record.vary) ++ [record]).find? (·.vary.fits sent) = some record ↔
      ∀ older ∈ l, older.vary ≠ record.vary → older.vary.fits sent = false := by
  constructor
  · intro h older hmem hne
    cases hfit : older.vary.fits sent
    · rfl
    · rw [List.find?_append, Option.or_eq_some_iff] at h
      rcases h with h | ⟨hnone, -⟩
      · -- The new record is not among those left from before.
        have := (List.mem_filter.1 (List.mem_of_find?_eq_some h)).2
        simp at this
      · -- A record left from before that fits would have been found first.
        have := List.find?_eq_none.1 hnone older (List.mem_filter.2 ⟨hmem, by simpa using hne⟩)
        rw [hfit] at this
        cases this rfl
  · intro h
    rw [List.find?_append, List.find?_eq_none.2 fun older hmem => ?_]
    · simp [hfits]
    · obtain ⟨hmem, hne⟩ := List.mem_filter.1 hmem
      simpa using h older hmem (by simpa using hne)

namespace ResponseStore

/-- A record as a store keeps it: memory as it is, the folder rounded down to whole
    milliseconds. -/
def kept : ResponseStore → CacheRecord → CacheRecord
  | .memory _, r => r
  | .file _, r => r.floorMillis

@[simp] theorem kept_vary (s : ResponseStore) (r : CacheRecord) : (s.kept r).vary = r.vary := by
  cases s <;> rfl

@[simp] theorem kept_status (s : ResponseStore) (r : CacheRecord) : (s.kept r).status = r.status := by
  cases s <;> rfl

@[simp] theorem kept_body (s : ResponseStore) (r : CacheRecord) : (s.kept r).body = r.body := by
  cases s <;> rfl

/-- Stores of one kind keep a record alike. -/
theorem kept_eq_of_inMemory {s t : ResponseStore} (h : s.inMemory = t.inMemory) (r : CacheRecord) :
    s.kept r = t.kept r := by
  cases s <;> cases t <;> first | rfl | simp [inMemory] at h

end ResponseStore

namespace ServiceClient

variable {c : ServiceClient} {transport : Transport} {now : Instant} {r : ApiRequest}
  {options : RequestOptions} {url : Url}

/-- The look-up of a call leaves a store of the kind it found. -/
theorem inMemory_lookupUnlessForced (c : ServiceClient) (store : ResponseStore) (key : CacheKey)
    (options : RequestOptions) : (c.lookupUnlessForced store key options).2.inMemory = store.inMemory := by
  cases store with
  | memory m =>
    obtain ⟨m₁, hm₁⟩ := lookupUnlessForced_memory c m key options
    rw [hm₁]
    rfl
  | file s =>
    obtain ⟨s₁, hs₁⟩ := lookupUnlessForced_file c s key options
    rw [hs₁]
    rfl

/-- A record a call looks up fits the headers it sends. -/
theorem fits_of_lookupUnlessForced {store : ResponseStore} {key : CacheKey} {record : CacheRecord}
    (h : (c.lookupUnlessForced store key options).1 = some record) :
    record.vary.fits c.sentHeaders = true := by
  unfold lookupUnlessForced at h
  split at h
  · cases h
  · rw [lookup_fst] at h
    simpa using List.find?_some h

/-- How a call of `r` keeps a record under its key, in the store `store₁` that its look-up
    left of `store`: an answer from the network other than "not modified" that may be cached,
    or "not modified" for a record looked up that was no longer fresh, renewed. -/
inductive KeepsRecord (c : ServiceClient) (transport : Transport) (now : Instant)
    (r : ApiRequest) (options : RequestOptions) (store : ResponseStore) (url : Url) :
    ResponseStore → CacheRecord → Prop
  | answer {out : OutgoingRequest} {reply : Reply} {answer : ApiResponse} {vary : VaryKeys}
      (hsent : (c.execute transport now r options).sent = some out)
      (hreply : transport out = .ok reply) (haccept : reply.accept = .ok answer)
      (hstatus : answer.status ≠ notModified)
      (hvary : varyKeys? c.sentHeaders answer.headers {} = some vary) :
      KeepsRecord c transport now r options store url
        (c.lookupUnlessForced store (.ofRequest "GET" url) options).2
        (.create (.ofRequest "GET" url) url.text answer.status answer.headers answer.body now
          reply.receivedAt c.ttl vary)
  | notModified {record : CacheRecord} {store₁ : ResponseStore} {reply : Reply}
      (hlook : c.lookupUnlessForced store (.ofRequest "GET" url) options = (some record, store₁))
      (hstale : record.isFresh now = false)
      (hreply : transport (c.conditionalRequest r url options (some record)) = .ok reply)
      (hnm : reply.status = notModified) :
      KeepsRecord c transport now r options store url store₁
        (c.renewed record now reply ⟨reply.status, reply.headers, reply.body, .network⟩)

/-- A call that keeps a record stores it, at its response time, in the store its look-up
    left, which holds what the store it found held; the record fits the headers sent, and the
    call answers with the record's status and body. -/
theorem KeepsRecord.execute {store store₁ : ResponseStore} {record : CacheRecord}
    (hurl : c.urlFor r = .ok url) (hstore : c.store = some store) (hget : r.isCacheable = true)
    (h : c.KeepsRecord transport now r options store url store₁ record) :
    (c.execute transport now r options).client.store =
        some (keep store₁ (.ofRequest "GET" url) record record.responseTime) ∧
      ResponseStore.SameRecords store₁ store ∧ store₁.inMemory = store.inMemory ∧
      record.vary.fits c.sentHeaders = true ∧
      ∃ resp, (c.execute transport now r options).result = .ok resp ∧
        resp.status = record.status ∧ resp.body = record.body := by
  cases h with
  | @answer out reply answer vary hsent hreply haccept hstatus hvary =>
    have hexec := execute_of_answer transport hurl hstore hget hsent hreply haccept hstatus
    refine ⟨?_, c.lookupUnlessForced_snd _ _ _, c.inMemory_lookupUnlessForced _ _ _,
      varyKeys?_fits rfl hvary, answer, by rw [hexec]; rfl, rfl, rfl⟩
    rw [hexec, serve_client, observe_store, keepAnswer_of_varyKeys c hvary]
    rfl
  | @notModified looked _ reply hlook hstale hreply hnm =>
    have hexec := execute_of_notModified transport hurl hstore hget hlook hstale hreply hnm
    have hsame := c.lookupUnlessForced_snd store (.ofRequest "GET" url) options
    have hmem := c.inMemory_lookupUnlessForced store (.ofRequest "GET" url) options
    rw [hlook] at hsame hmem
    refine ⟨?_, hsame, hmem, ?_, .ofRecord (c.renewed looked now reply
      ⟨reply.status, reply.headers, reply.body, .network⟩) .revalidated, ?_, rfl, rfl⟩
    · rw [hexec, serve_client, observe_store]
      rfl
    · -- The renewed record has the vary keys of the one looked up.
      have hfits : looked.vary.fits c.sentHeaders = true :=
        fits_of_lookupUnlessForced (by rw [hlook])
      exact hfits
    · rw [hexec]
      rfl

/-- A store that took a record, and holds it under the key as it keeps records, holds the
    key's records of other vary keys in front of it. -/
theorem held_keep_of_kept {s : ResponseStore} {key : CacheKey} {record : CacheRecord}
    {t : Instant} (hok : (s.store key record t.seconds).1 = .ok ())
    (hwf : s.inMemory = false → record.WellFormed)
    (hkept : s.kept record ∈ (keep s key record t).held key) :
    (keep s key record t).held key =
      (s.held key).filter (·.vary ≠ record.vary) ++ [s.kept record] := by
  cases s with
  | memory m =>
    rcases ResponseStore.held_store_memory m key record with h | h
    · exact h
    · -- Eviction emptied the store, which then holds no record.
      have hkept' : record ∈ ResponseStore.held (.memory (m.store key record)) key := hkept
      rw [h] at hkept'
      cases hkept'
  | file s =>
    rw [ResponseStore.store_file] at hok
    rw [keep, ResponseStore.store_file] at hkept ⊢
    rw [ResponseStore.held_file] at hkept ⊢
    rw [ResponseStore.held_file]
    rcases FileStore.recordsIn_store_self (hwf rfl) hok with h | h
    · exact h
    · rw [h] at hkept
      cases hkept

/-- After a call keeps a record in the store its look-up left, the next look-up finds the
    record, as the store keeps it, exactly when no record the key held before, with other
    vary keys, fits the headers sent. -/
theorem lookup_keep_eq_kept_iff {store store₁ : ResponseStore} {key : CacheKey}
    {record : CacheRecord} {t : Instant} {sent : VaryKeys}
    (hsame : ResponseStore.SameRecords store₁ store) (hmem : store₁.inMemory = store.inMemory)
    (hfits : record.vary.fits sent = true)
    (hok : (store₁.store key record t.seconds).1 = .ok ())
    (hwf : store.inMemory = false → record.WellFormed)
    (hkept : store.kept record ∈ (keep store₁ key record t).held key) :
    (lookup (keep store₁ key record t) key sent).1 = some (store.kept record) ↔
      ∀ older ∈ store.held key, older.vary ≠ record.vary → older.vary.fits sent = false := by
  -- The store the call found and the one its look-up left keep a record alike.
  have hkept₁ : store.kept record = store₁.kept record :=
    ResponseStore.kept_eq_of_inMemory hmem.symm record
  have hupsert := held_keep_of_kept hok (hmem ▸ hwf) (hkept₁ ▸ hkept)
  rw [← hkept₁, hsame] at hupsert
  rw [lookup_fst, hupsert]
  have h := @find?_upsert_eq_some_iff (store.held key) (store.kept record) sent
    (by simpa using hfits)
  simpa only [ResponseStore.kept_vary] using h

/-- A client whose store finds a record for a request serves it: from the cache while it is
    fresh, sending nothing, and as the stale answer after a failure. -/
theorem serves_of_lookup {store : ResponseStore} {record : CacheRecord}
    (hurl : c.urlFor r = .ok url) (hstore : c.store = some store) (hget : r.isCacheable = true)
    (hfound : (lookup store (.ofRequest "GET" url) c.sentHeaders).1 = some record) :
    (∀ transport now options, options.forceRefresh = false → record.isFresh now = true →
      (c.execute transport now r options).sent = none ∧
        (c.execute transport now r options).result = .ok (.ofRecord record .cache)) ∧
    (∀ transport now options resp, (c.execute transport now r options).result = .ok resp →
      resp.source = .stale → resp = .ofRecord record .stale) := by
  refine ⟨fun transport now options hforce hfresh => ?_,
    fun transport now options resp hr hsrc => ?_⟩
  · have hl : c.lookupUnlessForced store (.ofRequest "GET" url) options =
        (some record, (lookup store (.ofRequest "GET" url) c.sentHeaders).2) := by
      rw [← hfound]
      simp [lookupUnlessForced, hforce]
    rw [execute_of_fresh transport hurl hstore hget hl hfresh]
    exact ⟨rfl, rfl⟩
  · -- A stale answer is found again in a store that holds what `store` holds.
    obtain ⟨found, hrec, rfl⟩ := execute_stale transport hurl hstore hget hr hsrc
    rw [lookup_fst_of_sameRecords (c.lookupUnlessForced_snd _ _ _), hfound] at hrec
    cases hrec
    rfl

/-! ### Calls that leave a key alone -/

/-- A call of the client: the transport, the instant, the request and its options. -/
structure Call where
  transport : Transport
  now : Instant
  request : ApiRequest
  options : RequestOptions

/-- The client after calls made in turn. -/
def runCalls : ServiceClient → List Call → ServiceClient
  | c, [] => c
  | c, x :: xs => runCalls (c.execute x.transport x.now x.request x.options).client xs

/-- Calls made in turn, none of which changes what a key holds: none stores under it,
    evicts it or drops it. -/
def KeepsHeld (key : CacheKey) : ServiceClient → List Call → Prop
  | _, [] => True
  | c, x :: xs =>
    (c.execute x.transport x.now x.request x.options).client.store.map (·.held key) =
        c.store.map (·.held key) ∧
      KeepsHeld key (c.execute x.transport x.now x.request x.options).client xs

/-- After calls that leave a key alone, the client is one of the same service whose store
    holds under the key what it held. -/
theorem KeepsHeld.runCalls {key : CacheKey} {c : ServiceClient} {xs : List Call}
    (h : KeepsHeld key c xs) :
    (c.runCalls xs).store.map (·.held key) = c.store.map (·.held key) ∧
      SameService c (c.runCalls xs) := by
  induction xs generalizing c with
  | nil => exact ⟨rfl, .refl c⟩
  | cons x xs ih =>
    -- The first call leaves the key alone, and so do the rest, from the client it leaves.
    obtain ⟨hx, hrest⟩ := h
    obtain ⟨hheld, hsvc⟩ := ih hrest
    -- Through the unfolding lemma: building the equation lemmas that rw needs takes seconds.
    unfold ServiceClient.runCalls
    exact ⟨hheld.trans hx, SameService.trans (sameService_execute c) hsvc⟩

/-- A client whose store finds a record for a request goes on serving it after calls that
    leave the key alone. -/
theorem KeepsHeld.serves {store : ResponseStore} {record : CacheRecord} {calls : List Call}
    (hcalls : KeepsHeld (.ofRequest "GET" url) c calls) (hurl : c.urlFor r = .ok url)
    (hstore : c.store = some store) (hget : r.isCacheable = true)
    (hfound : (lookup store (.ofRequest "GET" url) c.sentHeaders).1 = some record) :
    (∀ transport now options, options.forceRefresh = false → record.isFresh now = true →
      ((c.runCalls calls).execute transport now r options).sent = none ∧
        ((c.runCalls calls).execute transport now r options).result =
          .ok (.ofRecord record .cache)) ∧
    (∀ transport now options resp,
      ((c.runCalls calls).execute transport now r options).result = .ok resp →
        resp.source = .stale → resp = .ofRecord record .stale) := by
  -- After the calls, the client is one of the same service, holding the same records.
  obtain ⟨hheld, hsvc⟩ := hcalls.runCalls
  rw [hstore, Option.map_some] at hheld
  obtain ⟨later, hlater, hlaterHeld⟩ := Option.map_eq_some_iff.1 hheld
  have hurl' : (c.runCalls calls).urlFor r = .ok url := by
    rw [hsvc.urlFor_eq]
    exact hurl
  have hfound' : (lookup later (.ofRequest "GET" url) (c.runCalls calls).sentHeaders).1 =
      some record := by
    rw [hsvc.sentHeaders_eq, lookup_fst, hlaterHeld, ← lookup_fst]
    exact hfound
  exact serves_of_lookup hurl' hlater hget hfound'

/-! ### The record a call keeps -/

/-- A call keeps a record, by an answer that may be cached or by "not modified", and the
    store takes it whole and holds it under the key. The call answers with the record's
    status and body. The next look-up of the request finds the record, as the store keeps it,
    exactly when no record the key held before, with other vary keys, fits the headers sent;
    and then, after any calls that leave the key alone, a call of the request serves it: from
    the cache while it is fresh, sending nothing, and as the stale answer after a failure. -/
theorem newest_served_iff_no_older_fits {store store₁ after : ResponseStore}
    {record : CacheRecord} (hurl : c.urlFor r = .ok url) (hstore : c.store = some store)
    (hget : r.isCacheable = true)
    (hkeeps : c.KeepsRecord transport now r options store url store₁ record)
    (hok : (store₁.store (.ofRequest "GET" url) record record.responseTime.seconds).1 = .ok ())
    (hwf : store.inMemory = false → record.WellFormed)
    (hafter : (c.execute transport now r options).client.store = some after)
    (hkept : store.kept record ∈ after.held (.ofRequest "GET" url)) :
    let key := CacheKey.ofRequest "GET" url
    let kept := store.kept record
    let next := (c.execute transport now r options).client
    (∃ resp, (c.execute transport now r options).result = .ok resp ∧
      resp.status = kept.status ∧ resp.body = kept.body) ∧
    ((lookup after key c.sentHeaders).1 = some kept ↔
      ∀ older ∈ store.held key, older.vary ≠ record.vary →
        older.vary.fits c.sentHeaders = false) ∧
    ((∀ older ∈ store.held key, older.vary ≠ record.vary →
        older.vary.fits c.sentHeaders = false) →
      ∀ calls, KeepsHeld key next calls →
        (∀ transport' now' options', options'.forceRefresh = false → kept.isFresh now' = true →
          ((next.runCalls calls).execute transport' now' r options').sent = none ∧
            ((next.runCalls calls).execute transport' now' r options').result =
              .ok (.ofRecord kept .cache)) ∧
        (∀ transport' now' options' resp,
          ((next.runCalls calls).execute transport' now' r options').result = .ok resp →
            resp.source = .stale → resp = .ofRecord kept .stale)) := by
  dsimp only
  obtain ⟨hexec, hsame, hmem, hfits, resp, hres, hstatus, hbody⟩ :=
    hkeeps.execute hurl hstore hget
  obtain rfl : after = keep store₁ (.ofRequest "GET" url) record record.responseTime :=
    Option.some.inj (hafter.symm.trans hexec)
  have hfind := lookup_keep_eq_kept_iff hsame hmem hfits hok hwf hkept
  refine ⟨⟨resp, hres, by simpa using hstatus, by simpa using hbody⟩, hfind,
    fun hno calls hcalls => hcalls.serves ?_ hafter hget ?_⟩
  -- The client the call leaves is of the same service, and finds the kept record.
  · rw [(sameService_execute c).urlFor_eq]
    exact hurl
  · rw [(sameService_execute c).sentHeaders_eq]
    exact hfind.2 hno

end ServiceClient


/-- The reply `200` with the body `one` and no header. -/
def plainReply : Reply := { status := 200, headers := [], body := [111, 110, 101], receivedAt := ⟨0⟩ }

/-- The reply `200` with the body `two`, which varies on `accept`. -/
def varyingReply : Reply :=
  { status := 200, headers := [("vary", "accept")], body := [116, 119, 111], receivedAt := ⟨0⟩ }

namespace ServiceClient

/-- The record a call of `mockClient` keeps of the plain reply. -/
def plainRecord : CacheRecord :=
  .create (.ofRequest "GET" mockApi) mockApi.text 200 [] plainReply.body ⟨0⟩ ⟨0⟩ (.ofSecs 60) {}

theorem byteLength_mockApi : Utf8.byteLength mockApi.text = 19 := by decide

/-- The plain record fits in the empty store of `mockClient`, and is all it holds. -/
theorem store_empty_plainRecord :
    (MemoryStore.empty 1024).store (.ofRequest "GET" mockApi) plainRecord =
      ⟨[(.ofRequest "GET" mockApi, ⟨[plainRecord]⟩)], plainRecord.byteSize, 1024⟩ := by
  rw [MemoryStore.store_of_le]
  · simp [MemoryStore.entry?, MemoryStore.empty, CacheEntry.upsert, CacheEntry.byteSize, natSum]
  · simp [MemoryStore.entry?, MemoryStore.empty, CacheEntry.upsert, CacheEntry.byteSize,
      CacheRecord.byteSize, plainRecord, CacheRecord.create, CacheKey.byteLength_ofRequest, natSum,
      byteLength_mockApi, plainReply, VaryKeys.byteSize]

/-- A first call through the empty store keeps the plain reply: no record was there before,
    so the next look-up finds it, and every call after calls that leave the key alone serves
    it. -/
theorem newest_served_plainReply :
    let key := CacheKey.ofRequest "GET" mockApi
    let after : ResponseStore := .memory ((MemoryStore.empty 1024).store key plainRecord)
    let next := (mockClient.execute (.answering plainReply) ⟨0⟩ (.get "") {}).client
    (∃ resp, (mockClient.execute (.answering plainReply) ⟨0⟩ (.get "") {}).result = .ok resp ∧
      resp.status = plainRecord.status ∧ resp.body = plainRecord.body) ∧
    ((lookup after key mockClient.sentHeaders).1 = some plainRecord ↔
      ∀ older ∈ ResponseStore.held (.memory (.empty 1024)) key, older.vary ≠ {} →
        older.vary.fits mockClient.sentHeaders = false) ∧
    ((∀ older ∈ ResponseStore.held (.memory (.empty 1024)) key, older.vary ≠ {} →
        older.vary.fits mockClient.sentHeaders = false) →
      ∀ calls, KeepsHeld key next calls →
        (∀ transport' now' options', options'.forceRefresh = false →
          plainRecord.isFresh now' = true →
          ((next.runCalls calls).execute transport' now' (.get "") options').sent = none ∧
            ((next.runCalls calls).execute transport' now' (.get "") options').result =
              .ok (.ofRecord plainRecord .cache)) ∧
        (∀ transport' now' options' resp,
          ((next.runCalls calls).execute transport' now' (.get "") options').result =
            .ok resp → resp.source = .stale → resp = .ofRecord plainRecord .stale)) := by
  have hurl : mockClient.urlFor (.get "") = .ok mockApi := rfl
  have hstore : mockClient.store = some (.memory (.empty 1024)) := rfl
  have hsent : (mockClient.execute (.answering plainReply) ⟨0⟩ (.get "") {}).sent =
      some (mockClient.conditionalRequest (.get "") mockApi {} none) := rfl
  have hreply : Transport.answering plainReply
      (mockClient.conditionalRequest (.get "") mockApi {} none) = .ok plainReply := rfl
  have haccept : plainReply.accept = .ok ⟨200, [], plainReply.body, .network⟩ := rfl
  have hvary : varyKeys? mockClient.sentHeaders ([] : List (String × String)) {} = some {} := rfl
  have hkeeps : mockClient.KeepsRecord (.answering plainReply) ⟨0⟩ (.get "") {}
      (.memory (.empty 1024)) mockApi
      (mockClient.lookupUnlessForced (.memory (.empty 1024)) (.ofRequest "GET" mockApi) {}).2
      plainRecord :=
    .answer hsent hreply haccept (by decide) hvary
  have hok : ((mockClient.lookupUnlessForced (.memory (.empty 1024)) (.ofRequest "GET" mockApi)
      {}).2.store (.ofRequest "GET" mockApi) plainRecord plainRecord.responseTime.seconds).1 =
      .ok () := rfl
  have hafter : (mockClient.execute (.answering plainReply) ⟨0⟩ (.get "") {}).client.store =
      some (.memory ((MemoryStore.empty 1024).store (.ofRequest "GET" mockApi) plainRecord)) := rfl
  have hkept : (ResponseStore.memory (.empty 1024)).kept plainRecord ∈ ResponseStore.held
      (.memory ((MemoryStore.empty 1024).store (.ofRequest "GET" mockApi) plainRecord))
      (.ofRequest "GET" mockApi) := by
    rw [store_empty_plainRecord]
    simp [ResponseStore.held_memory, MemoryStore.entry?, ResponseStore.kept]
  -- Elaborated on its own first: against the statement above, the unifier would unfold too far.
  have hserved := newest_served_iff_no_older_fits hurl hstore rfl hkeeps hok
    (fun h => absurd h (by decide)) hafter hkept
  exact hserved

/-- An answer kept without vary keys stays in front of a later answer to the same request
    that varies on `accept`, and the next call serves the older one from the cache: the body
    `one`, not the body `two` stored last. -/
theorem execute_serves_older_record_after_vary_change :
    let c₁ := (mockClient.execute (.answering plainReply) ⟨0⟩ (.get "") {}).client
    let c₂ := (c₁.execute (.answering varyingReply) ⟨0⟩ (.get "") { forceRefresh := true }).client
    (c₂.execute .refusing ⟨0⟩ (.get "") {}).sent = none ∧
      (c₂.execute .refusing ⟨0⟩ (.get "") {}).result =
        .ok { status := 200, headers := [], body := plainReply.body, source := .cache } ∧
      plainReply.body ≠ varyingReply.body := by
  intro c₁ c₂
  let key := CacheKey.ofRequest "GET" mockApi
  let varyingRecord := CacheRecord.create key mockApi.text 200 varyingReply.headers
    varyingReply.body ⟨0⟩ ⟨0⟩ (.ofSecs 60) ⟨[("accept", jsonMediaType)]⟩
  -- The first call keeps the plain record.
  have h₁ : c₁.store = some (.memory ((MemoryStore.empty 1024).store key plainRecord)) := rfl
  rw [store_empty_plainRecord] at h₁
  -- The second call is forced: it sends, and keeps the varying record after the plain one.
  have hurl₁ : c₁.urlFor (.get "") = .ok mockApi := by
    rw [(sameService_execute mockClient).urlFor_eq]
    rfl
  have hsent₂ : (c₁.execute (.answering varyingReply) ⟨0⟩ (.get "") { forceRefresh := true }).sent =
      some (c₁.conditionalRequest (.get "") mockApi { forceRefresh := true } none) := rfl
  have haccept₂ : varyingReply.accept =
      .ok ⟨200, varyingReply.headers, varyingReply.body, .network⟩ := rfl
  have hvary₂ : varyKeys? c₁.sentHeaders varyingReply.headers {} =
      some ⟨[("accept", jsonMediaType)]⟩ := by
    rw [(sameService_execute mockClient).sentHeaders_eq]
    decide
  have h₂ : c₂.store = some (.memory ((MemoryStore.mk [(key, ⟨[plainRecord]⟩)]
      plainRecord.byteSize 1024).store key varyingRecord)) := by
    show (c₁.execute (.answering varyingReply) ⟨0⟩ (.get "") { forceRefresh := true }).client.store = _
    rw [execute_of_answer (.answering varyingReply) hurl₁ h₁ rfl hsent₂ rfl haccept₂ (by decide),
      serve_client, observe_store, lookupUnlessForced_of_force c₁ rfl,
      keepAnswer_of_varyKeys c₁ hvary₂]
    rfl
  -- Upserting the varying record keeps the plain one, whose vary keys differ, in front.
  have hm₂ : (MemoryStore.mk [(key, ⟨[plainRecord]⟩)] plainRecord.byteSize 1024).store key
      varyingRecord = ⟨[(key, ⟨[plainRecord, varyingRecord]⟩)],
        plainRecord.byteSize + varyingRecord.byteSize, 1024⟩ := by
    have hsize : plainRecord.byteSize = 86 ∧ varyingRecord.byteSize = 118 := by
      simp [CacheRecord.byteSize, plainRecord, varyingRecord, key, CacheRecord.create,
        CacheKey.byteLength_ofRequest, natSum, byteLength_mockApi, plainReply, varyingReply,
        VaryKeys.byteSize]
      decide
    have hvary : plainRecord.vary ≠ varyingRecord.vary := by decide
    rw [MemoryStore.store_of_le]
    · simp [MemoryStore.entry?, CacheEntry.upsert, CacheEntry.byteSize, natSum, hvary]
    · simp [MemoryStore.entry?, CacheEntry.upsert, CacheEntry.byteSize, natSum, hvary, hsize]
  rw [hm₂] at h₂
  -- The third call looks up the plain record first: without vary keys, it fits.
  have hfound : (lookup (.memory ⟨[(key, ⟨[plainRecord, varyingRecord]⟩)],
      plainRecord.byteSize + varyingRecord.byteSize, 1024⟩) key c₂.sentHeaders).1 =
        some plainRecord := by
    rw [lookup_fst, ResponseStore.held_memory]
    simp only [MemoryStore.entry?, List.find?_cons, decide_true, Option.map_some,
      Option.getD_some]
    rfl
  have hl : c₂.lookupUnlessForced (.memory ⟨[(key, ⟨[plainRecord, varyingRecord]⟩)],
      plainRecord.byteSize + varyingRecord.byteSize, 1024⟩) key {} =
      (some plainRecord, (lookup (.memory ⟨[(key, ⟨[plainRecord, varyingRecord]⟩)],
        plainRecord.byteSize + varyingRecord.byteSize, 1024⟩) key c₂.sentHeaders).2) := by
    rw [← hfound]
    simp [lookupUnlessForced]
  have hurl₂ : c₂.urlFor (.get "") = .ok mockApi := by
    rw [(sameService_execute c₁).urlFor_eq]
    exact hurl₁
  have hfresh : plainRecord.isFresh ⟨0⟩ = true := by decide
  rw [execute_of_fresh .refusing hurl₂ h₂ rfl hl hfresh]
  exact ⟨rfl, rfl, by decide⟩

end ServiceClient

end FeatureFlags
