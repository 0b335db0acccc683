import FeatureFlags.Config.Settings

/-!
# Errors of the flag client

What goes wrong when the client talks to the flag service, or is used wrongly:

* `network`: the request could not be sent or its answer not read;
* `timeout`: no answer within the time allowed;
* `server`: the service answered with a status other than success or "not modified";
* `stream`: the push stream brought something it cannot frame, or could not be opened;
* `decode`: an answer that is not the JSON expected;
* `invalidArgument`, `configuration`, `invalidState`: the caller's mistakes.

`ClientError.message` is the text of an error, and `ClientError.causes` the texts of the
errors that caused it, outermost first. Only transport and server failures may be covered
by a cached answer (`ClientError.isTransportOrServer`).
-/

namespace FeatureFlags

namespace Duration

/-- The decimal digits of a fraction below `10^width`, without trailing zeros. -/
def fractionDigits (value width : Nat) : String :=
  let padded := String.ofList (List.replicate (width - (toString value).length) '0') ++ toString value
  String.ofList ((padded.toList.reverse.dropWhile (· = '0')).reverse)

/-- A whole part and a fraction, with a point only when the fraction is not zero. -/
def decimalText (whole fraction width : Nat) (unit : String) : String :=
  let digits := fractionDigits fraction width
  toString whole ++ (if digits.isEmpty then "" else "." ++ digits) ++ unit

/-- The text of a duration in the largest unit that holds a whole one: seconds,
    milliseconds, microseconds or nanoseconds, with every nonzero digit. -/
def text (d : Duration) : String :=
  if d.secs > 0 then decimalText d.secs d.nanos 9 "s"
  else if d.nanos ≥ 1000000 then decimalText (d.nanos / 1000000) (d.nanos % 1000000) 6 "ms"
  else if d.nanos ≥ 1000 then decimalText (d.nanos / 1000) (d.nanos % 1000) 3 "µs"
  else toString d.nanos ++ "ns"

end Duration

/-- Why a call of the flag client failed. -/
inductive ClientError where
  /-- The request could not be sent or its answer not read; `causes` are the texts of
      the failure and of what caused it, outermost first. -/
  | network (causes : List String)
  | timeout (after : Duration)
  | server (status : Nat) (body : String)
  | stream (reason : String)
  | decode (reason : String)
  | invalidArgument (reason : String)
  | configuration (reason : String)
  | invalidState (reason : String)
  deriving Inhabited

namespace ClientError

/-- The name of the kind of error. -/
def kind : ClientError → String
  | .network _ => "Network"
  | .timeout _ => "Timeout"
  | .server .. => "Server"
  | .stream _ => "Stream"
  | .decode _ => "Decode"
  | .invalidArgument _ => "InvalidArgument"
  | .configuration _ => "Configuration"
  | .invalidState _ => "InvalidState"

/-- The text of an error. -/
def message : ClientError → String
  | .network causes => "Network error: " ++ causes.headD ""
  | .timeout after => "Request timed out after " ++ after.text
  | .server status body => s!"Server responded with {status}: {body}"
  | .stream reason => "Event stream error: " ++ reason
  | .decode reason => "Unexpected response body: " ++ reason
  | .invalidArgument reason => "Invalid argument: " ++ reason
  | .configuration reason => "Configuration error: " ++ reason
  | .invalidState reason => "Invalid state: " ++ reason

/-- The texts of the errors that caused this one, outermost first. -/
def causes : ClientError → List String
  | .network causes => causes
  | .decode reason => [reason]
  | _ => []

/-- Whether a stale cached answer may stand in for the failure. -/
def isTransportOrServer : ClientError → Bool
  | .network _ | .timeout _ | .server .. => true
  | _ => false

/-- A configuration error as a client error. -/
def ofConfig (e : ConfigError) : ClientError := .configuration e.message

/-- The failure of building a transport whose user agent is not a header value. -/
def badUserAgent : ClientError := .network ["builder error", "failed to parse header value"]

end ClientError

end FeatureFlags
