import FeatureFlags.Cache.Key
import FeatureFlags.Time.Instant

/-!
# Cached responses

A `CacheRecord` is one response kept for a request key: its URL, status, headers in
arrival order (names may repeat), body, the times of its request and response, the instant
it stops being fresh, and its vary keys (the request header values it was chosen by, by
lowercase name, sorted). A `CacheEntry` holds the records of one key, at most one per set
of vary keys.

* a record is fresh strictly before its expiry, which is the response time plus the time
  to live (`Instant.addSpan`);
* a header is looked up by the first name equal up to ASCII case;
* the size of a record is the byte length of its key, URL, header names and values, vary
  names and values and body, plus 32;
* `CacheEntry.upsert` removes the record with the same vary keys and appends the new one.
-/

namespace FeatureFlags

/-- The sum of a list of natural numbers. -/
def natSum (xs : List Nat) : Nat := xs.foldr (· + ·) 0

theorem natSum_append (xs ys : List Nat) : natSum (xs ++ ys) = natSum xs + natSum ys := by
  induction xs with
  | nil => simp [natSum]
  | cons x xs ih =>
    simp only [natSum, List.cons_append, List.foldr_cons] at ih ⊢
    omega

/-- Request header values a response varies on, by lowercase name, sorted by name. -/
structure VaryKeys where
  pairs : List (String × String) := []
  deriving Repr, DecidableEq, Inhabited

namespace VaryKeys

/-- Adds a pair in name order; a pair with the same name is replaced. -/
def insert (vk : VaryKeys) (name value : String) : VaryKeys :=
  let rec go : List (String × String) → List (String × String)
    | [] => [(name, value)]
    | (k, v) :: rest =>
      if name < k then (name, value) :: (k, v) :: rest
      else if name = k then (name, value) :: rest
      else (k, v) :: go rest
  ⟨go vk.pairs⟩

/-- Vary keys from pairs; of repeated names the last value stays. -/
def ofList (pairs : List (String × String)) : VaryKeys :=
  pairs.foldl (fun vk (k, v) => vk.insert k v) {}

/-- The byte length of the names and values. -/
def byteSize (vk : VaryKeys) : Nat :=
  natSum (vk.pairs.map fun (k, v) => Utf8.byteLength k + Utf8.byteLength v)

end VaryKeys

/-- Whether two header names are equal up to ASCII case. -/
def sameHeaderName (a b : String) : Bool :=
  CacheKey.asciiUpper a = CacheKey.asciiUpper b

/-- One cached response. -/
structure CacheRecord where
  key : CacheKey
  url : String
  status : Nat
  headers : List (String × String)
  body : List UInt8
  requestTime : Instant
  responseTime : Instant
  expiresAt : Instant
  vary : VaryKeys
  deriving Repr, DecidableEq, Inhabited

namespace CacheRecord

/-- A record that expires a time to live after its response. -/
def create (key : CacheKey) (url : String) (status : Nat) (headers : List (String × String))
    (body : List UInt8) (requestTime responseTime : Instant) (ttl : Duration)
    (vary : VaryKeys) : CacheRecord :=
  { key, url, status, headers, body, requestTime, responseTime,
    expiresAt := responseTime.addSpan ttl, vary }

/-- Whether the record is fresh at an instant. -/
def isFresh (r : CacheRecord) (now : Instant) : Bool := now.before r.expiresAt

/-- The first value of a header, by name up to ASCII case. -/
def header? (r : CacheRecord) (name : String) : Option String :=
  (r.headers.find? fun (k, _) => sameHeaderName k name).map (·.2)

/-- Starts a new freshness window after a revalidation. -/
def refresh (r : CacheRecord) (requestTime responseTime : Instant) (ttl : Duration) :
    CacheRecord :=
  { r with requestTime, responseTime, expiresAt := responseTime.addSpan ttl }

/-- Makes the record expired: it expires at its response. -/
def forceStale (r : CacheRecord) : CacheRecord :=
  { r with expiresAt := r.responseTime }

/-- The size of the record, counted for byte budgets. -/
def byteSize (r : CacheRecord) : Nat :=
  Utf8.byteLength r.key.text + Utf8.byteLength r.url +
    natSum (r.headers.map fun (k, v) => Utf8.byteLength k + Utf8.byteLength v) +
    r.vary.byteSize + r.body.length + 32

end CacheRecord

/-- The records of one key. -/
structure CacheEntry where
  records : List CacheRecord := []
  deriving Repr, DecidableEq, Inhabited

namespace CacheEntry

/-- Adds a record, replacing the one with the same vary keys. -/
def upsert (e : CacheEntry) (r : CacheRecord) : CacheEntry :=
  ⟨e.records.filter (·.vary ≠ r.vary) ++ [r]⟩

/-- The record with some vary keys. -/
def find? (e : CacheEntry) (vary : VaryKeys) : Option CacheRecord :=
  e.records.find? (·.vary = vary)

/-- The total size of the records. -/
def byteSize (e : CacheEntry) : Nat := natSum (e.records.map CacheRecord.byteSize)

/-- Whether there are no records. -/
def isEmpty (e : CacheEntry) : Bool := e.records.isEmpty

end CacheEntry

end FeatureFlags
