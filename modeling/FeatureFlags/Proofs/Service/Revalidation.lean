import FeatureFlags.Proofs.Service.Decision
import FeatureFlags.Proofs.Cache.Persistence

/-!
# Revalidation

A call that looks up a record no longer fresh sends the request with the record's
validators. When the service answers "not modified", the record is confirmed: the call
serves the record's status and body as `revalidated`, with the reply's headers merged into
the record's (`mergeHeaders`: the stored pairs whose names the reply carries, other than
`content-length`, give way to the reply's pairs, which come last), and the store keeps the
record with the times of this round trip and a new time to live, in place of the record of
the same vary keys.

What the key holds afterwards depends on the store. Memory keeps the renewed record as it
is, unless its budget evicted the key. The folder keeps it rounded down to whole
milliseconds, as it keeps every record, when the store succeeds and the clock readings lie
in the calendar range, unless trimming removed the key's file.

* `mergeHeaders_eq`: the merged headers, pair by pair;
* `ServiceClient.execute_of_notModified`: the call, step by step;
* `ServiceClient.execute_revalidates`: the whole call, with what the key holds after it.
-/

namespace FeatureFlags

/-- A span added to an instant in range stays in range: the sum stops at the last instant. -/
theorem Instant.inRange_addSpan {t : Instant} (h : t.InRange) (d : Duration) :
    (t.addSpan d).InRange := by
  unfold addSpan
  dsimp only
  split
  · exact last_inRange
  · simp only [InRange] at h ⊢
    constructor <;> omega

/-- The merged headers: the stored pairs whose names no pair of the reply other than
    `content-length` carries, up to ASCII case, then those pairs of the reply, each list in
    its order. -/
theorem mergeHeaders_eq (stored fresh : List (String × String)) :
    mergeHeaders stored fresh =
      stored.filter (fun p => !fresh.any fun q =>
          !sameHeaderName q.1 "content-length" && sameHeaderName q.1 p.1) ++
        fresh.filter fun q => !sameHeaderName q.1 "content-length" := by
  simp [mergeHeaders, List.any_filter]

/-- "Not modified" is accepted, as an answer with the reply's status, headers and body. -/
theorem Reply.accept_of_notModified {reply : Reply} (h : reply.status = notModified) :
    reply.accept =
      .ok { status := reply.status, headers := reply.headers, body := reply.body,
            source := .network } := by
  simp [Reply.accept, h]

namespace ServiceClient

variable {c : ServiceClient} {transport : Transport} {now : Instant} {r : ApiRequest}
  {options : RequestOptions} {url : Url} {store store₁ : ResponseStore} {record : CacheRecord}
  {reply : Reply}

/-- The look-up of a call through a folder store leaves a folder store. -/
theorem lookupUnlessForced_file (c : ServiceClient) (s : FileStore) (key : CacheKey)
    (options : RequestOptions) : ∃ s₁, (c.lookupUnlessForced (.file s) key options).2 = .file s₁ := by
  unfold lookupUnlessForced lookup
  simp only [ResponseStore.findAll]
  split
  · exact ⟨s, rfl⟩
  · rcases s.findAll key with ⟨_ | _, s₁⟩ <;> exact ⟨s₁, rfl⟩

/-- A record looked up is one the store holds under the key. -/
theorem mem_held_of_lookupUnlessForced {store : ResponseStore} {key : CacheKey}
    {record : CacheRecord} (h : (c.lookupUnlessForced store key options).1 = some record) :
    record ∈ store.held key := by
  unfold lookupUnlessForced at h
  split at h
  · cases h
  · exact mem_held_of_lookup h

/-- A well-formed record renewed at clock readings in range stays well-formed. -/
theorem wellFormed_renewed {record : CacheRecord} (h : record.WellFormed) {reply : Reply}
    (hnow : now.InRange) (hreceived : reply.receivedAt.InRange) (answer : ApiResponse) :
    (c.renewed record now reply answer).WellFormed where
  key := h.key
  status := h.status
  requestTime := hnow
  responseTime := hreceived
  expiresAt := Instant.inRange_addSpan hreceived c.ttl
  vary := h.vary

section Revalidated

variable (transport)
  (hurl : c.urlFor r = .ok url) (hstore : c.store = some store) (hget : r.isCacheable = true)
  (hlook : c.lookupUnlessForced store (.ofRequest "GET" url) options = (some record, store₁))
  (hstale : record.isFresh now = false)
  (hreply : transport (c.conditionalRequest r url options (some record)) = .ok reply)
  (hnm : reply.status = notModified)
include hurl hstore hget hlook hstale hreply hnm

/-- A call that looked up a record no longer fresh and had "not modified" for an answer
    keeps the renewed record in the store after the look-up, and serves it as revalidated. -/
theorem execute_of_notModified :
    c.execute transport now r options =
      { c with store := some (keep store₁ (.ofRequest "GET" url)
          (c.renewed record now reply ⟨reply.status, reply.headers, reply.body, .network⟩)
          reply.receivedAt) }.serve
        (.ofRecord (c.renewed record now reply ⟨reply.status, reply.headers, reply.body, .network⟩)
          .revalidated)
        (some (c.conditionalRequest r url options (some record))) := by
  rw [execute_of_not_fresh transport hurl hstore hget hlook fun _ h => by cases h; exact hstale,
    sendRevalidating_of_notModified _ (by rwa [conditionalRequest_store])
      (Reply.accept_of_notModified hnm) hnm]
  rfl

end Revalidated

/-- "Not modified" for a record looked up that is no longer fresh: the call serves the
    record's status and body as revalidated, with the reply's headers merged into the
    record's, and the key then holds the record renewed for this round trip (the request at
    `now`, the reply's arrival, a time to live from it) in place of the one with its vary
    keys, after the others in their order. Memory holds the renewed record, unless its
    budget evicted the key; the folder, when the store succeeds and the clock readings are
    in range, holds it rounded down to whole milliseconds, unless trimming removed the
    key's file. -/
theorem execute_revalidates (transport : Transport) (hurl : c.urlFor r = .ok url)
    (hstore : c.store = some store) (hget : r.isCacheable = true)
    (hlook : c.lookupUnlessForced store (.ofRequest "GET" url) options = (some record, store₁))
    (hstale : record.isFresh now = false)
    (hreply : transport (c.conditionalRequest r url options (some record)) = .ok reply)
    (hnm : reply.status = notModified) :
    let key := CacheKey.ofRequest "GET" url
    let merged := record.headers.filter (fun p => !reply.headers.any fun q =>
        !sameHeaderName q.1 "content-length" && sameHeaderName q.1 p.1) ++
      reply.headers.filter fun q => !sameHeaderName q.1 "content-length"
    let renewed : CacheRecord :=
      { record with
        requestTime := now, responseTime := reply.receivedAt,
        expiresAt := reply.receivedAt.addSpan c.ttl, headers := merged }
    (c.execute transport now r options).result =
        .ok { status := record.status, headers := merged, body := record.body,
              source := .revalidated } ∧
      ∃ after, (c.execute transport now r options).client.store = some after ∧
        (∀ m, store = .memory m →
          after.held key = (store.held key).filter (·.vary ≠ record.vary) ++ [renewed] ∨
            after.held key = []) ∧
        (∀ s, store = .file s → (store₁.store key renewed reply.receivedAt.seconds).1 = .ok () →
          now.InRange → reply.receivedAt.InRange →
          after.held key = (store.held key).filter (·.vary ≠ record.vary) ++ [renewed.floorMillis] ∨
            after.held key = []) := by
  intro key merged renewed
  have hexec := execute_of_notModified transport hurl hstore hget hlook hstale hreply hnm
  have hrenewed : c.renewed record now reply ⟨reply.status, reply.headers, reply.body, .network⟩ =
      renewed := by
    rw [ServiceClient.renewed, mergeHeaders_eq]
    rfl
  rw [hrenewed] at hexec
  -- The look-up changed what no key holds.
  have hsame : store₁.held key = store.held key := by
    have h := c.lookupUnlessForced_snd store key options
    rw [hlook] at h
    exact h key
  refine ⟨by rw [hexec]; rfl, keep store₁ key renewed reply.receivedAt,
    by rw [hexec, serve_client, observe_store], fun m hm => ?_, fun s hs hok hnow hreceived => ?_⟩
  · -- Memory: the renewed record is upserted, unless the budget evicted the key.
    subst hm
    obtain ⟨m₁, hm₁⟩ := lookupUnlessForced_memory c m key options
    rw [hlook] at hm₁
    subst hm₁
    rw [← hsame]
    exact ResponseStore.held_store_memory m₁ key renewed
  · -- The folder: the looked-up record came from the key's file, so it is well-formed,
    -- and so is the renewed one, which reads back rounded down.
    subst hs
    obtain ⟨s₁, hs₁⟩ := lookupUnlessForced_file c s key options
    rw [hlook] at hs₁
    subst hs₁
    have hmem : record ∈ ResponseStore.held (.file s) key :=
      mem_held_of_lookupUnlessForced (by rw [hlook])
    rw [ResponseStore.held_file] at hmem
    have hwf : renewed.WellFormed := hrenewed ▸
      wellFormed_renewed (FileStore.recordsIn_wellFormed s.folder key record hmem).1 hnow hreceived _
    rw [ResponseStore.store_file] at hok
    rw [← hsame, keep, ResponseStore.store_file, ResponseStore.held_file, ResponseStore.held_file]
    exact FileStore.recordsIn_store_self hwf hok

/-- A record of the API URL, stale from the epoch on, with an entity tag, a length and one
    more header. -/
def etagRecord : CacheRecord :=
  .create (.ofRequest "GET" mockApi) mockApi.text 200
    [("etag", "\"v1\""), ("content-length", "2"), ("x-a", "1")] [123, 125] ⟨0⟩ ⟨0⟩ (.ofSecs 0) {}

/-- The memory store of `mockClient`, holding `etagRecord` alone. -/
def etagStore : MemoryStore :=
  ⟨[(.ofRequest "GET" mockApi, ⟨[etagRecord]⟩)], etagRecord.byteSize, 1024⟩

/-- `mockClient` with `etagStore` for its store. -/
def etagClient : ServiceClient := { mockClient with store := some (.memory etagStore) }

/-- "Not modified", with a new entity tag and a length of its own. -/
def notModifiedReply : Reply :=
  { status := 304, headers := [("ETag", "\"v2\""), ("content-length", "0")], body := [],
    receivedAt := ⟨0⟩ }

/-- Revalidating `etagRecord` at the epoch: the reply's `ETag` replaces `etag`, the stored
    `content-length` and `x-a` stay in front of it, and the key holds the record renewed for
    a minute alone, unless the budget evicted it. -/
theorem execute_revalidates_etagRecord :
    let call := etagClient.execute (.answering notModifiedReply) ⟨0⟩ (.get "") {}
    call.result =
        .ok { status := 200,
              headers := [("content-length", "2"), ("x-a", "1"), ("ETag", "\"v2\"")],
              body := [123, 125], source := .revalidated } ∧
      ∃ after, call.client.store = some after ∧
        (after.held (.ofRequest "GET" mockApi) =
            [{ etagRecord with
               headers := [("content-length", "2"), ("x-a", "1"), ("ETag", "\"v2\"")],
               expiresAt := ⟨60000000000⟩ }] ∨
          after.held (.ofRequest "GET" mockApi) = []) := by
  have hheld : ResponseStore.held (.memory etagStore) (.ofRequest "GET" mockApi) = [etagRecord] := by
    rw [ResponseStore.held_memory]
    simp only [etagStore, MemoryStore.entry?, List.find?_cons, decide_true, Option.map_some,
      Option.getD_some]
  have hfound : (lookup (.memory etagStore) (.ofRequest "GET" mockApi) etagClient.sentHeaders).1 =
      some etagRecord := by
    rw [lookup_fst, hheld]
    rfl
  have hlook : etagClient.lookupUnlessForced (.memory etagStore) (.ofRequest "GET" mockApi) {} =
      (some etagRecord,
        (lookup (.memory etagStore) (.ofRequest "GET" mockApi) etagClient.sentHeaders).2) := by
    rw [← hfound]
    simp [lookupUnlessForced]
  have hurl : etagClient.urlFor (.get "") = .ok mockApi := rfl
  have hstore : etagClient.store = some (.memory etagStore) := rfl
  have hreply : Transport.answering notModifiedReply
      (etagClient.conditionalRequest (.get "") mockApi {} (some etagRecord)) =
        .ok notModifiedReply := rfl
  have hstale : etagRecord.isFresh ⟨0⟩ = false := by decide
  obtain ⟨hresult, after, hafter, hmemory, -⟩ :=
    execute_revalidates (.answering notModifiedReply) hurl hstore rfl hlook hstale hreply rfl
  -- The reply's `ETag` takes the place of `etag`; its `content-length` is left out.
  have hmerged : etagRecord.headers.filter (fun p => !notModifiedReply.headers.any fun q =>
        !sameHeaderName q.1 "content-length" && sameHeaderName q.1 p.1) ++
      notModifiedReply.headers.filter (fun q => !sameHeaderName q.1 "content-length") =
      [("content-length", "2"), ("x-a", "1"), ("ETag", "\"v2\"")] := by decide
  rw [hmerged] at hresult hmemory
  rw [hheld] at hmemory
  exact ⟨hresult, after, hafter, hmemory etagStore rfl⟩

end ServiceClient

end FeatureFlags
