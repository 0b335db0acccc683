import FeatureFlags.Console.Request
import FeatureFlags.Console.Render
import FeatureFlags.Cache.Codec

/-!
# Console commands on the response cache

* `cache_key`: the key of a request, or the URL error, and the key read from a text;
* `record`: builds a record and steps it (freshness, header look-up, refresh, staleness);
* `entry`: steps an entry (upsert, find, size, stored form and its reading back);
* `decode`: reads an entry from its stored form.

A record is described by its URL (and method), or by a key and a URL taken as it is, its
status, headers, body, request and response times in milliseconds, a time to live in
milliseconds or seconds, and its vary keys.
-/

namespace FeatureFlags

namespace Console

/-- A URL error in an answer. -/
def urlError (e : UrlError) : Json := error "UrlParse" e.message

/-- The answer to `cache_key`. -/
def cacheKeyCommand (req : Json) : Json :=
  let keyPart :=
    match req.get? "url" with
    | some (.string u) =>
      [("key", match Url.parse u with
        | .ok url => .string (CacheKey.ofRequest (stringOr req "method" "GET") url).text
        | .error e => urlError e)]
    | _ => []
  let hexPart :=
    match req.get? "hex" with
    | some (.string h) => [("from_hex", optional (fun (k : CacheKey) => .string k.text) (CacheKey.ofHex? h))]
    | _ => []
  .object (keyPart ++ hexPart)

/-- A cache error in an answer. -/
def cacheError (e : CacheError) : Json := error e.kind e.message

/-- Vary keys from an object or a list of pairs. -/
def varyOf (j : Json) : VaryKeys :=
  match j with
  | .object fields => VaryKeys.ofList (fields.map fun (k, v) => (k, (Json.getString? v).getD ""))
  | .array items => VaryKeys.ofList (items.map fun p =>
      match p with
      | .array [k, v] => ((Json.getString? k).getD "", (Json.getString? v).getD "")
      | _ => ("", ""))
  | _ => {}

/-- An instant given in milliseconds, or a default. -/
def instantOr (j : Json) (key : String) (default : Int) : Instant :=
  ((Instant.ofMillis? (intOr j key default)).getD ⟨default * 1000000⟩)

/-- A time to live given in milliseconds or seconds (sixty by default). -/
def ttlOf (j : Json) : Duration :=
  match (j.get? "ttl_ms").bind Json.getNat? with
  | some ms => Duration.ofMillis ms
  | none => Duration.ofSecs (natOr j "ttl_secs" 60)

/-- Headers given as name and bytes; values are read as UTF-8, ill-formed bytes as
    U+FFFD. -/
def headersOf (j : Json) : List (String × String) :=
  (arrayOf j "headers").map fun p =>
    match p with
    | .array [k, v] => ((Json.getString? k).getD "", Utf8.decodeLossy (bytesOf v))
    | _ => ("", "")

/-- A record from its description, or the error of its URL. -/
def recordOf (j : Json) : Except UrlError CacheRecord := do
  let urlText := stringOr j "url" ""
  let (key, url) ←
    match (j.get? "key").bind Json.getString? |>.bind CacheKey.ofHex? with
    | some k => pure (k, urlText)
    | none =>
      let u ← Url.parse urlText
      pure (CacheKey.ofRequest (stringOr j "method" "GET") u, u.text)
  pure (CacheRecord.create key url (natOr j "status" 200) (headersOf j) (bytesOf (field j "body"))
    (instantOr j "request_time_ms" 1700000000000) (instantOr j "response_time_ms" 1700000000000)
    (ttlOf j) (varyOf (field j "vary")))

/-- A record in an answer. -/
def recordView (r : CacheRecord) : Json :=
  .object [("key", .string r.key.text), ("url", .string r.url), ("status", nat r.status),
    ("headers", .array (r.headers.map fun (k, v) => .array [.string k, .string v])),
    ("body", bytes r.body),
    ("vary", .object (r.vary.pairs.map fun (k, v) => (k, .string v))),
    ("byte_size", nat r.byteSize),
    ("request_time_ms", Json.ofInt r.requestTime.millis),
    ("response_time_ms", Json.ofInt r.responseTime.millis),
    ("expires_at_ms", Json.ofInt r.expiresAt.millis)]

/-- An entry in an answer. -/
def entryView (e : CacheEntry) : Json :=
  .object [("records", .array (e.records.map recordView)), ("byte_size", nat e.byteSize),
    ("is_empty", .bool e.isEmpty)]

/-- One step on a record: its result and the record after it. -/
def recordStep (r : CacheRecord) (op : Json) : Json × CacheRecord :=
  match stringOr op "op" "" with
  | "is_fresh" => (.bool (r.isFresh (instantOr op "now_ms" 0)), r)
  | "header" => (optional .string (r.header? (stringOr op "name" "")), r)
  | "refresh" =>
    (.null, r.refresh (instantOr op "request_time_ms" 1700000000000)
      (instantOr op "response_time_ms" 1700000000000) (ttlOf op))
  | "force_stale" => (.null, r.forceStale)
  | "byte_size" => (nat r.byteSize, r)
  | other => (error "DriverInput" s!"unknown record op {other}", r)

/-- The steps on a record. -/
def recordSteps : CacheRecord → List Json → List Json
  | _, [] => []
  | r, op :: rest =>
    let (result, r) := recordStep r op
    .object [("result", result), ("record", recordView r)] :: recordSteps r rest

/-- The answer to `record`. -/
def recordCommand (req : Json) : Json :=
  match recordOf (field req "record") with
  | .ok r => .object [("initial", recordView r), ("steps", .array (recordSteps r (arrayOf req "ops")))]
  | .error e => urlError e

/-- One step on an entry. -/
def entryStep (e : CacheEntry) (op : Json) : Json × CacheEntry :=
  match stringOr op "op" "" with
  | "upsert" =>
    match recordOf (field op "record") with
    | .ok r => let e := e.upsert r; (nat e.records.length, e)
    | .error err => (urlError err, e)
  | "find" => (optional recordView (e.find? (varyOf (field op "vary"))), e)
  | "byte_size" => (nat e.byteSize, e)
  | "state" => (entryView e, e)
  | "encode" =>
    match Codec.encode e with
    | .ok bytes => (.object [("hex", .string (Hex.encode bytes))], e)
    | .error err => (cacheError err, e)
  | "roundtrip" =>
    match Codec.encode e >>= Codec.decode with
    | .ok d => (.object [("equal", .bool (d == e)), ("decoded", entryView d)], e)
    | .error err => (cacheError err, e)
  | other => (error "DriverInput" s!"unknown entry op {other}", e)

/-- The steps on an entry. -/
def entrySteps : CacheEntry → List Json → List Json
  | _, [] => []
  | e, op :: rest =>
    let (result, e) := entryStep e op
    result :: entrySteps e rest

/-- The answer to `entry`. -/
def entryCommand (req : Json) : Json :=
  .object [("steps", .array (entrySteps {} (arrayOf req "ops")))]

/-- The answer to `decode`. -/
def decodeCommand (req : Json) : Json :=
  let data := bytesOf (field req "data")
  match Codec.decode data with
  | .ok e =>
    let same := match Codec.encode e with
      | .ok bytes => bytes == data
      | .error _ => false
    .object [("entry", entryView e), ("reencoded_equal", .bool same)]
  | .error err => cacheError err

end Console

end FeatureFlags
