import FeatureFlags.Config.Reconnect
import FeatureFlags.Web.Url
import FeatureFlags.Text.CodeTable

/-!
# Client settings

Everything the client needs to talk to one environment of the flag service: its key,
the URLs of the API and of the push stream, the user agent, analytics, timeouts, the
response cache and the reconnect waits. Every setting has a default.

* `ClientSettings.validate`: refuses settings that can never work: a blank environment
  key, an API URL that does not parse, a push-stream URL that does not parse when
  realtime updates are on, a cache without directory, size or time to live, and
  analytics without a flush period;
* `ClientSettings.apiUrl`: the API URL, always ending in `/`;
* `ClientSettings.eventStreamUrl`: the environment's push stream, under the push base URL;
* `HttpParams`: the timeouts and user agent of the API client and of the push-stream
  client, which has no total timeout and a long read timeout.
-/

namespace FeatureFlags

/-- The API URL used when none is given. -/
def defaultApiUrl : String := "https://edge.api.flagsmith.com/api/v1/"

/-- The push-stream base URL used when none is given. -/
def defaultEventSourceUrl : String := "https://realtime.flagsmith.com/"

/-- Settings of the local response cache. -/
structure CacheSettings where
  enabled : Bool := false
  directory : String := ""
  sizeBytes : Nat := 10485760
  ttlSecs : Nat := 180
  acceptStaleOnError : Bool := true
  deriving Inhabited

/-- The settings of the client. -/
structure ClientSettings where
  environmentKey : String := ""
  baseUrl : String := defaultApiUrl
  eventSourceBaseUrl : String := defaultEventSourceUrl
  userAgent : Option String := none
  enableAnalytics : Bool := true
  analyticsFlushPeriodSecs : Nat := 10
  enableRealtimeUpdates : Bool := false
  requestTimeoutSecs : Nat := 4
  readTimeoutSecs : Nat := 6
  writeTimeoutSecs : Nat := 6
  connectTimeoutSecs : Nat := 6
  cache : CacheSettings := {}
  reconnect : ReconnectSettings := {}
  deriving Inhabited

/-- Why settings cannot be used. -/
inductive ConfigError where
  | io (message : String)
  | yamlParse (message : String)
  | missingSection (name : String)
  | invalidUrl (field : String) (error : UrlError)
  | invalidValue (field : String) (reason : String)
  deriving Repr

namespace ConfigError

/-- The kind of an error, as answers name it. -/
def kind : ConfigError → String
  | .io _ => "Io"
  | .yamlParse _ => "YamlParse"
  | .missingSection _ => "MissingSection"
  | .invalidUrl _ _ => "InvalidUrl"
  | .invalidValue _ _ => "InvalidValue"

/-- The text of an error. -/
def message : ConfigError → String
  | .io m => "IO error: " ++ m
  | .yamlParse m => "YAML parsing error: " ++ m
  | .missingSection name => "Missing config section: " ++ name
  | .invalidUrl field e => s!"Invalid url for {field}: {e.message}"
  | .invalidValue field reason => s!"Invalid value for {field}: {reason}"

/-- The texts of the errors that caused this one, outermost first. -/
def causes : ConfigError → List String
  | .io m => [m]
  | .yamlParse m => [m]
  | .missingSection _ => []
  | .invalidUrl _ e => [e.message]
  | .invalidValue _ _ => []

end ConfigError

namespace ClientSettings

/-- Reads a base URL, adding a final `/` when it lacks one. -/
def parseBaseUrl (field raw : String) : Except ConfigError Url :=
  let normalized := if raw.endsWith "/" then raw else raw ++ "/"
  match Url.parse normalized with
  | .ok u => .ok u
  | .error e => .error (.invalidUrl field e)

/-- The API URL. -/
def apiUrl (c : ClientSettings) : Except ConfigError Url :=
  parseBaseUrl "base_url" c.baseUrl

/-- The URL of the environment's push stream. -/
def eventStreamUrl (c : ClientSettings) : Except ConfigError Url := do
  let base ← parseBaseUrl "event_source_base_url" c.eventSourceBaseUrl
  match base.join s!"sse/environments/{c.environmentKey}/stream" with
  | .ok u => pure u
  | .error e => throw (.invalidUrl "event_source_base_url" e)

/-- Refuses settings that can never work. -/
def validate (c : ClientSettings) : Except ConfigError Unit := do
  if (String.trimSpace c.environmentKey).isEmpty then
    throw (.invalidValue "environment_key" "must not be empty")
  discard c.apiUrl
  if c.enableRealtimeUpdates then discard c.eventStreamUrl
  if c.cache.enabled then
    if c.cache.directory.isEmpty then
      throw (.invalidValue "cache.cache_directory" "must be provided when cache is enabled")
    if c.cache.sizeBytes == 0 then
      throw (.invalidValue "cache.cache_size_bytes" "must be greater than zero")
    if c.cache.ttlSecs == 0 then
      throw (.invalidValue "cache.cache_ttl_secs" "must be greater than zero")
  if c.enableAnalytics && c.analyticsFlushPeriodSecs == 0 then
    throw (.invalidValue "analytics_flush_period_secs"
      "must be greater than zero when analytics is enabled")

end ClientSettings

/-- The user agent sent when none is set. -/
def defaultUserAgent : String := "flagsmith-rust-client/0.3.0"

/-- The timeouts and user agent of an HTTP client; a zero request timeout is none. -/
structure HttpParams where
  requestTimeout : Duration
  readTimeout : Duration
  connectTimeout : Duration
  userAgent : String

namespace HttpParams

/-- The parameters of the API client. -/
def ofSettings (c : ClientSettings) : HttpParams where
  requestTimeout := Duration.ofSecs c.requestTimeoutSecs
  readTimeout := Duration.ofSecs c.readTimeoutSecs
  connectTimeout := Duration.ofSecs c.connectTimeoutSecs
  userAgent := c.userAgent.getD defaultUserAgent

/-- The parameters of the push-stream client: no total timeout, ten minutes to read,
    six seconds to connect. -/
def forEventStream (c : ClientSettings) : HttpParams where
  requestTimeout := Duration.zero
  readTimeout := Duration.ofSecs 600
  connectTimeout := Duration.ofSecs 6
  userAgent := c.userAgent.getD defaultUserAgent

end HttpParams

end FeatureFlags
