import FeatureFlags.Service.Error
import FeatureFlags.Cache.Record
import FeatureFlags.Flag.Entity

/-!
# Requests, answers and the transport

A request to the flag service names a method, a path under the API URL, query pairs and
an optional JSON body (`ApiRequest`). Only `GET` requests are cached. What goes over the
wire is an `OutgoingRequest`: the method, the full URL and the headers. The transport
takes it to the service and brings back a `Reply` with the instant it arrived, or fails
(`Delivery`).

The client answers with an `ApiResponse`: status, headers in arrival order, body, and
where the body came from (`ResponseSource`): the network, a fresh cached record, a cached
record confirmed by "not modified", or a stale record served after a failure.

* `Reply.accept`: a success or "not modified" status is an answer, any other status is a
  server error with the body read as UTF-8 (ill-formed bytes as U+FFFD).
-/

namespace FeatureFlags

/-- The value of the `accept` header of every request. -/
def jsonMediaType : String := "application/json"

/-- The name of the header that carries the environment key. -/
def environmentKeyHeader : String := "x-environment-key"

/-- A request to the flag service, relative to its API URL. -/
structure ApiRequest where
  method : String := "GET"
  path : String
  query : List (String × String) := []
  body : Option Json := none

namespace ApiRequest

/-- A `GET` of a path. -/
def get (path : String) : ApiRequest := { path }

/-- A `POST` of a JSON body to a path. -/
def post (path : String) (body : Json) : ApiRequest := { method := "POST", path, body := some body }

/-- Adds a query pair. -/
def withQuery (r : ApiRequest) (name value : String) : ApiRequest :=
  { r with query := r.query ++ [(name, value)] }

/-- Whether answers to the request may be cached: `GET` only. -/
def isCacheable (r : ApiRequest) : Bool := r.method == "GET"

end ApiRequest

/-- How a request treats the cache. -/
structure RequestOptions where
  /-- Skip the cached records and ask the service; the answer is still cached. -/
  forceRefresh : Bool := false
  /-- Serve a cached record of any age when the request fails. -/
  acceptStale : Bool := false

/-- Where the body of an answer came from. -/
inductive ResponseSource where
  | network
  /-- A fresh cached record; no request was sent. -/
  | cache
  /-- A cached record confirmed by "not modified". -/
  | revalidated
  /-- A cached record served after a failed request. -/
  | stale
  deriving DecidableEq, Inhabited

/-- The name of a source. -/
def ResponseSource.name : ResponseSource → String
  | .network => "Network"
  | .cache => "Cache"
  | .revalidated => "Revalidated"
  | .stale => "Stale"

/-- An answer of the client. -/
structure ApiResponse where
  status : Nat
  headers : List (String × String)
  body : List UInt8
  source : ResponseSource
  deriving Inhabited

/-- The first value of a header in a list, by name up to ASCII case. -/
def findHeader (headers : List (String × String)) (name : String) : Option String :=
  (headers.find? fun (k, _) => sameHeaderName k name).map (·.2)

namespace ApiResponse

/-- The first value of a header, by name up to ASCII case. -/
def header? (r : ApiResponse) (name : String) : Option String := findHeader r.headers name

/-- The answer kept in a record. -/
def ofRecord (record : CacheRecord) (source : ResponseSource) : ApiResponse :=
  { status := record.status, headers := record.headers, body := record.body, source }

/-- The body read as JSON of a shape. -/
def decode (r : ApiResponse) (shape : JsonShape) : Except ClientError Json :=
  match JsonShape.parseBytes shape r.body with
  | .ok j => .ok j
  | .error e => .error (.decode e.message)

end ApiResponse

/-- A request as it goes over the wire. -/
structure OutgoingRequest where
  method : String
  url : Url
  headers : List (String × String)
  body : Option Json

/-- What the service sent back, and when it arrived. -/
structure Reply where
  status : Nat
  headers : List (String × String)
  body : List UInt8
  receivedAt : Instant

/-- Why no reply came. -/
inductive TransportError where
  /-- No connection, or it broke; the texts of the failure and its causes. -/
  | unreachable (causes : List String)
  /-- No reply within the time allowed. -/
  | timedOut (after : Duration)

/-- A transport failure as a client error. -/
def TransportError.toClientError : TransportError → ClientError
  | .unreachable causes => .network causes
  | .timedOut after => .timeout after

/-- The outcome of one round trip. -/
abbrev Delivery := Except TransportError Reply

/-- What takes requests to the service. -/
abbrev Transport := OutgoingRequest → Delivery

/-- The transport of a place from which the service cannot be reached: every connection
    is refused. -/
def Transport.refusing : Transport :=
  fun _ => .error (.unreachable ["error sending request", "client error (Connect)",
    "tcp connect error", "Connection refused (os error 111)"])

/-- Whether a status is a success: `2xx`. -/
def isSuccessStatus (status : Nat) : Bool := 200 ≤ status && status < 300

/-- The status "not modified". -/
def notModified : Nat := 304

/-- A reply as an answer from the network, or the server error it stands for. -/
def Reply.accept (r : Reply) : Except ClientError ApiResponse :=
  if isSuccessStatus r.status || r.status == notModified then
    .ok { status := r.status, headers := r.headers, body := r.body, source := .network }
  else .error (.server r.status (Utf8.decodeLossy r.body))

end FeatureFlags
