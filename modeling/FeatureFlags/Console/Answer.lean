import FeatureFlags.Console.Entities
import FeatureFlags.Console.Stream
import FeatureFlags.Console.Stores
import FeatureFlags.Console.Config
import FeatureFlags.Console.Http
import FeatureFlags.Console.Client
import FeatureFlags.Console.Demo

/-!
# The console

The console answers one request per line: the request is a JSON object whose `op`
names the command, and the answer is one line of JSON.
-/

namespace FeatureFlags

namespace Console

/-- The answer to a request. -/
def answerJson (req : Json) : Json :=
  match stringOr req "op" "" with
  | "parse" => parseCommand req
  | "flag_value" => flagValueCommand req
  | "identity_body" => identityBodyCommand req
  | "sse" => sseCommand req
  | "freshness" => freshnessCommand req
  | "backoff" => backoffCommand req
  | "cache_key" => cacheKeyCommand req
  | "record" => recordCommand req
  | "entry" => entryCommand req
  | "decode" => decodeCommand req
  | "memory_store" => memoryStoreCommand req
  | "file_store" => fileStoreCommand req
  | "config" => configCommand req
  | "config_value" => configValueCommand req
  | "http" => httpCommand req
  | "client" => clientCommand req
  | "demo" => demoCommand req
  | other => error "DriverInput" s!"unknown op {other}"

/-- The answer line to a request line. -/
def answer (line : String) : String :=
  match JsonShape.parse .dynamic line with
  | .ok req => Json.render (answerJson req)
  | .error e => Json.render (error "DriverInput" e.message)

end Console

end FeatureFlags
