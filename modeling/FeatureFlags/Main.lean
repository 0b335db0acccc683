import FeatureFlags.Watch
import Std.Time.DateTime.Timestamp

/-!
# The flag watcher's command line

`flags_watch [path]` watches the flags of the environment configured in the `flagsmith`
section of the file at `path` (`demos/flagsmith.yml` by default), with the environment
key taken from `FLAGSMITH_ENVIRONMENT_KEY` when it is set. It prints what
`watchFlags` prints, on the output and error streams, and ends with its status.

Requests go through `Transport.refusing`: the library has no network stack of its own,
so the service is out of reach and the watcher shows the default flags.
-/

open FeatureFlags

/-- The text of a failure to read a file, as the operating system words it. -/
def readFailure (e : IO.Error) : String :=
  match e with
  | .noFileOrDirectory .. => "No such file or directory (os error 2)"
  | .permissionDenied .. => "Permission denied (os error 13)"
  | .alreadyExists .. => "File exists (os error 17)"
  | other => toString other

/-- Runs the flag watcher. -/
def main (args : List String) : IO UInt32 := do
  let path := args.headD "demos/flagsmith.yml"
  let file ← (IO.FS.readFile path).toBaseIO
  let envKey ← IO.getEnv "FLAGSMITH_ENVIRONMENT_KEY"
  let now ← Std.Time.Timestamp.now
  let report := watchFlags path (file.mapError readFailure) envKey Transport.refusing
    ⟨now.toNanosecondsSinceUnixEpoch.val⟩
  for line in report.stdout do
    IO.println line
  IO.eprint report.stderr
  pure report.exitCode.toUInt32
