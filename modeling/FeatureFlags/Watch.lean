import FeatureFlags.Client.Basic
import FeatureFlags.Config.File

/-!
# Watching the flags of an environment

The flag watcher reads the `flagsmith` section of a configuration file, takes the
environment key from its environment when one is set there, builds a client, and prints
the environment's flags, then the flags of every update the client publishes, until it
is interrupted; it then shuts the client down and ends with status 0.

Each flag is one line: its name padded to 32 characters, `on` or `off` padded to 8, and
the text of its value (nothing for none); names longer than the padding are not cut.

A failure ends the run with status 1 and a report on the error stream: `Error: ` and the
error's text, then, when other errors caused it, `Caused by:` and their texts, numbered
from 0 when there are several. A configuration file that cannot be read or loaded is
reported under `loading <path>`.
-/

namespace FeatureFlags

namespace Watch

/-- A text padded with spaces to a number of characters. -/
def padRight (s : String) (width : Nat) : String :=
  s ++ String.ofList (List.replicate (width - s.length) ' ')

/-- The line of a flag. -/
def flagLine (f : Flag) : String :=
  padRight f.name 32 ++ " " ++ padRight (if f.enabled then "on" else "off") 8 ++ " " ++
    ((f.value.map FlagValue.display).getD "")

/-- The lines of a cause: the first after its label, the others indented as deep. -/
def causeText (label indent : String) (text : String) : String :=
  match text.splitOn "\n" with
  | [] => "\n" ++ label
  | first :: rest => "\n" ++ label ++ first ++ String.join (rest.map fun l => "\n" ++ indent ++ l)

/-- The report of an error with the texts of its causes, outermost first. -/
def errorReport (message : String) (causes : List String) : String :=
  let caused :=
    match causes with
    | [] => ""
    | [only] => "\n\nCaused by:" ++ causeText "    " "    " only
    | _ => "\n\nCaused by:" ++ String.join (causes.zipIdx.map fun (text, n) =>
        causeText (padRight "" (5 - (toString n).length) ++ toString n ++ ": ") "       " text)
  "Error: " ++ message ++ caused ++ "\n"

end Watch

/-- What a run of the watcher wrote, and its exit status. -/
structure WatchReport where
  stdout : List String := []
  stderr : String := ""
  exitCode : Nat := 0

/-- A run of the flag watcher with the configuration file at `path`, given as its text
    or the reason it could not be read, and the environment key set in its environment.
    The run is interrupted once the client has published everything it will. -/
def watchFlags (path : String) (file : Except String String) (envKey : Option String)
    (transport : Transport) (now : Instant) : WatchReport :=
  let loaded : Except ConfigError ClientSettings := do
    let text ← file.mapError ConfigError.io
    ClientSettings.loadSection text "flagsmith"
  match loaded with
  | .error e => { stderr := Watch.errorReport s!"loading {path}" (e.message :: e.causes), exitCode := 1 }
  | .ok settings =>
    let settings :=
      match envKey with
      | some key => { settings with environmentKey := key }
      | none => settings
    match FlagClient.build settings {} transport now with
    | .error e => { stderr := Watch.errorReport e.message e.causes, exitCode := 1 }
    | .ok client =>
      match client.getFeatureFlags transport now {} with
      | (.ok flags, _) => { stdout := flags.map Watch.flagLine }
      | (.error e, _) => { stderr := Watch.errorReport e.message e.causes, exitCode := 1 }

end FeatureFlags
