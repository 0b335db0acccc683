import FeatureFlags.Cache.Policy
import FeatureFlags.Cache.Memory
import FeatureFlags.Cache.FileStore
import FeatureFlags.Flag.Entity

/-!
# The service client and its response cache

`ServiceClient` sends requests to the flag service over a transport, with a response
store in front of it for `GET` requests. Every call is one `ServiceClient.execute`:

1. the request's URL is its path (leading slashes dropped) read against the API URL,
   with the query pairs appended; a path that does not read is an invalid argument;
2. without a store, or for a request that is not a `GET`, the request is sent once and
   the answer returned as it is;
3. otherwise, unless a refresh is forced, the first record of the request's key whose
   vary keys fit the headers sent is looked up (a failing store counts as no record);
   a fresh one is served as `cache`, and no request is sent;
4. else the request is sent with `cache-control: max-age=<ttl>` (`no-cache` when
   forced) and the validators of the record looked up;
5. "not modified" with a record renews the record's time to live, merges the headers,
   stores it and serves it as `revalidated`; without a record it is the server error
   `not modified without a cached response`;
6. any other success is stored, when it may be cached, as a record that expires a time
   to live after the answer arrived; a failing store is passed over;
7. a transport or server failure, when stale answers are accepted, is covered by a
   record found again for the request, served as `stale`.

Every answer served feeds the update time it reports into the client's `Freshness`.

The client keeps its cached answers in one of two stores (`ResponseStore`): in memory, or in
a folder of files. Both find the records of a key, store a record under a key, and drop
everything; only the folder can fail, and a write there is stamped with the time it happens.
-/

namespace FeatureFlags

/-- A store of cached answers. -/
inductive ResponseStore where
  | memory (s : MemoryStore)
  | file (s : FileStore)
  deriving Inhabited

namespace ResponseStore

/-- The records of a key. -/
def findAll : ResponseStore → CacheKey → Except CacheError (List CacheRecord) × ResponseStore
  | .memory s, key => let (records, s) := s.findAll key; (.ok records, .memory s)
  | .file s, key => let (result, s) := s.findAll key; (result, .file s)

/-- Stores a record under a key at a time (seconds since the epoch). -/
def store : ResponseStore → CacheKey → CacheRecord → Nat → Except CacheError Unit × ResponseStore
  | .memory s, key, record, _ => (.ok (), .memory (s.store key record))
  | .file s, key, record, time => let (result, s) := s.store key record time; (result, .file s)

/-- Drops every record. -/
def invalidateAll : ResponseStore → ResponseStore
  | .memory s => .memory s.invalidateAll
  | .file s => .file s.invalidateAll

/-- Whether a store keeps its records in memory, where storing has no await. -/
def inMemory : ResponseStore → Bool
  | .memory _ => true
  | .file _ => false

end ResponseStore

/-- The whole seconds since the epoch of an instant (zero before it). -/
def Instant.seconds (t : Instant) : Nat := (t.nanos / 1000000000).toNat

/-- The client of the flag service: where it sends requests, and its cache. -/
structure ServiceClient where
  /-- The API URL, ending in a slash. -/
  baseUrl : Url
  environmentKey : String
  /-- How long a cached answer stays fresh. -/
  ttl : Duration
  store : Option ResponseStore := none
  freshness : Freshness := {}
  deriving Inhabited

/-- What one call of the client did: its result, the request it sent, and the client
    after it. -/
structure Exchange (α : Type) where
  result : Except ClientError α
  sent : Option OutgoingRequest
  client : ServiceClient

namespace Exchange

/-- Maps the result of a call that succeeded. -/
def map (f : α → β) (e : Exchange α) : Exchange β :=
  { e with result := e.result.map f }

/-- Continues a call that succeeded with a step that may fail. -/
def andThen (f : α → Except ClientError β) (e : Exchange α) : Exchange β :=
  { e with result := e.result.bind f }

end Exchange

namespace ServiceClient

/-- A client of the service at the API URL of some settings, with a store. -/
def ofSettings (settings : ClientSettings) (store : Option ResponseStore) :
    Except ClientError ServiceClient :=
  match settings.apiUrl with
  | .ok baseUrl =>
    .ok { baseUrl, environmentKey := settings.environmentKey,
          ttl := Duration.ofSecs settings.cache.ttlSecs, store }
  | .error e => .error (.ofConfig e)

/-- The URL of a request. -/
def urlFor (c : ServiceClient) (r : ApiRequest) : Except ClientError Url :=
  match c.baseUrl.join (String.ofList (r.path.toList.dropWhile (· = '/'))) with
  | .ok u => .ok (if r.query.isEmpty then u else u.appendPairs r.query)
  | .error e => .error (.invalidArgument (r.path ++ ": " ++ e.message))

/-- The headers that every request sends and answers may vary on. -/
def sentHeaders (c : ServiceClient) : VaryKeys :=
  VaryKeys.ofList [("accept", jsonMediaType), (environmentKeyHeader, c.environmentKey)]

/-- A request as it goes over the wire, with a cache directive and extra headers. -/
def outgoing (c : ServiceClient) (r : ApiRequest) (url : Url) (directive : Option String)
    (extra : List (String × String)) : OutgoingRequest where
  method := r.method
  url := url
  headers := [(environmentKeyHeader, c.environmentKey), ("accept", jsonMediaType)] ++ extra ++
    (directive.map fun d => [("cache-control", d)]).getD []
  body := r.body

/-- Feeds the update time reported in some headers into the freshness. -/
def observe (c : ServiceClient) (headers : List (String × String)) : ServiceClient :=
  match updatedAt? headers with
  | some t => { c with freshness := (c.freshness.observe t).1 }
  | none => c

/-- Serves an answer: the client after feeding its update time, and the answer. -/
def serve (c : ServiceClient) (r : ApiResponse) (sent : Option OutgoingRequest) :
    Exchange ApiResponse :=
  { result := .ok r, sent, client := c.observe r.headers }

/-- The first record of a key that fits the headers sent; a failing store has none. -/
def lookup (store : ResponseStore) (key : CacheKey) (sent : VaryKeys) :
    Option CacheRecord × ResponseStore :=
  match store.findAll key with
  | (.ok records, store) => (records.find? (·.vary.fits sent), store)
  | (.error _, store) => (none, store)

/-- Stores a record, passing over a failure. -/
def keep (store : ResponseStore) (key : CacheKey) (record : CacheRecord) (time : Instant) :
    ResponseStore :=
  (store.store key record time.seconds).2

/-- The end of a failed request: a stale record when one is accepted and found. -/
def fallback (c : ServiceClient) (store : ResponseStore) (key : CacheKey)
    (options : RequestOptions) (sent : OutgoingRequest) (err : ClientError) :
    Exchange ApiResponse :=
  if options.acceptStale && err.isTransportOrServer then
    match lookup store key c.sentHeaders with
    | (some record, store) =>
      { c with store := some store }.serve (.ofRecord record .stale) (some sent)
    | (none, store) => { result := .error err, sent := some sent, client := { c with store := some store } }
  else { result := .error err, sent := some sent, client := { c with store := some store } }

/-- Sends a request once, past the cache. -/
def sendDirect (c : ServiceClient) (transport : Transport) (r : ApiRequest) (url : Url) :
    Exchange ApiResponse :=
  let out := c.outgoing r url none []
  match (transport out).mapError TransportError.toClientError >>= Reply.accept with
  | .ok answer => c.serve answer (some out)
  | .error e => { result := .error e, sent := some out, client := c }

/-- The cache directive of a request through the cache: `no-cache` when a refresh is
    forced, else the time to live in seconds. -/
def directive (c : ServiceClient) (options : RequestOptions) : String :=
  if options.forceRefresh then "no-cache" else s!"max-age={c.ttl.secs}"

/-- The record a call through the cache looks up, and the store after the look-up; none,
    and no look-up, when a refresh is forced. -/
def lookupUnlessForced (c : ServiceClient) (store : ResponseStore) (key : CacheKey)
    (options : RequestOptions) : Option CacheRecord × ResponseStore :=
  if options.forceRefresh then (none, store) else lookup store key c.sentHeaders

/-- The request sent through the cache: the directive, and the validators of the record
    looked up. -/
def conditionalRequest (c : ServiceClient) (r : ApiRequest) (url : Url)
    (options : RequestOptions) (cached : Option CacheRecord) : OutgoingRequest :=
  c.outgoing r url (some (c.directive options)) ((cached.map conditionalHeaders).getD [])

/-- A record confirmed by "not modified": a new time to live from the reply's arrival,
    and the reply's headers merged into its own. -/
def renewed (c : ServiceClient) (record : CacheRecord) (now : Instant) (reply : Reply)
    (answer : ApiResponse) : CacheRecord :=
  { record.refresh now reply.receivedAt c.ttl with
    headers := mergeHeaders record.headers answer.headers }

/-- The store after a success other than "not modified": the answer is kept, when it may
    be cached, as a record that expires a time to live after the reply arrived. -/
def keepAnswer (c : ServiceClient) (store : ResponseStore) (key : CacheKey) (url : Url)
    (now : Instant) (reply : Reply) (answer : ApiResponse) : ResponseStore :=
  match varyKeys? c.sentHeaders answer.headers {} with
  | some vary =>
    keep store key (CacheRecord.create key url.text answer.status answer.headers
      answer.body now reply.receivedAt c.ttl vary) reply.receivedAt
  | none => store

/-- Sends the request, conditional on the record looked up, and handles the answer. -/
def sendRevalidating (c : ServiceClient) (transport : Transport) (now : Instant)
    (store : ResponseStore) (r : ApiRequest) (url : Url) (options : RequestOptions)
    (key : CacheKey) (cached : Option CacheRecord) : Exchange ApiResponse :=
  let out := c.conditionalRequest r url options cached
  match transport out with
  | .error e => c.fallback store key options out e.toClientError
  | .ok reply =>
    match reply.accept with
    | .error e => c.fallback store key options out e
    | .ok answer =>
      if answer.status == notModified then
        match cached with
        | some record =>
          let record := c.renewed record now reply answer
          { c with store := some (keep store key record reply.receivedAt) }.serve
            (.ofRecord record .revalidated) (some out)
        | none =>
          c.fallback store key options out
            (.server answer.status "not modified without a cached response")
      else
        { c with store := some (c.keepAnswer store key url now reply answer) }.serve answer
          (some out)

/-- Sends a cacheable request through the store. -/
def sendCached (c : ServiceClient) (transport : Transport) (now : Instant) (store : ResponseStore)
    (r : ApiRequest) (url : Url) (options : RequestOptions) : Exchange ApiResponse :=
  let key := CacheKey.ofRequest r.method url
  let (cached, store) := c.lookupUnlessForced store key options
  let c := { c with store := some store }
  match cached with
  | some record =>
    if record.isFresh now then c.serve (.ofRecord record .cache) none
    else c.sendRevalidating transport now store r url options key cached
  | none => c.sendRevalidating transport now store r url options key cached

/-- Sends a request through the cache, at the instant `now`. -/
def execute (c : ServiceClient) (transport : Transport) (now : Instant) (r : ApiRequest)
    (options : RequestOptions) : Exchange ApiResponse :=
  match c.urlFor r with
  | .error e => { result := .error e, sent := none, client := c }
  | .ok url =>
    match c.store with
    | some store =>
      if r.isCacheable then c.sendCached transport now store r url options
      else c.sendDirect transport r url
    | none => c.sendDirect transport r url

/-- Drops every cached answer. -/
def invalidate (c : ServiceClient) : ServiceClient :=
  { c with store := c.store.map ResponseStore.invalidateAll }

end ServiceClient

end FeatureFlags
