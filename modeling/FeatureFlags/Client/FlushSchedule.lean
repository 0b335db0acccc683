import FeatureFlags.Client.Analytics

/-!
# Counting and flushing, step by step

Evaluations are counted, and the counts flushed, from several tasks at once: the periodic
flush, a flush loop that a restart replaced while it was posting, and direct calls. They
interleave at their awaits. Counting has none, so it is one step. A flush takes a snapshot of
the counts and posts it, then awaits the answer; when the service takes the post, the flush
takes the snapshot off the counts held by then (`Analytics.subtract`), so it is two steps.
A flush with nothing to send returns at once, without a post.

Besides the counts, the state holds the snapshots of the flushes awaiting their answer, and a
record of the run: every feature counted, the bodies of the posts the service took, and how
many flushes began while another was awaiting its answer. Any order of these steps is a
schedule (`Flushes.runAll`); `Flushes.Reachable` holds of the states schedules reach.
-/

namespace FeatureFlags

/-- The counts, the flushes awaiting their answer, and a record of the run. -/
structure Flushes where
  counts : List (String × Nat) := []
  /-- What each flush awaiting its answer sent, in the order the flushes began. -/
  inFlight : List (List (String × Nat)) := []
  /-- Every feature counted, in order. -/
  tracked : List String := []
  /-- The bodies of the posts the service took, in order. -/
  posted : List (List (String × Nat)) := []
  /-- How many flushes began while another was awaiting its answer. -/
  overlaps : Nat := 0

/-- One step of a schedule. -/
inductive FlushStep where
  /-- An evaluation of a feature is counted. -/
  | track (feature : String)
  /-- A flush, up to its await: it posts a snapshot of the counts, if there are any. -/
  | flush
  /-- The post of the `k`-th flush awaiting its answer is answered: taken by the service,
      or failed. -/
  | answered (k : Nat) (taken : Bool)

namespace Flushes

/-- Nothing counted, nothing sent. -/
def init : Flushes := {}

/-- Counts an evaluation. -/
def track (s : Flushes) (feature : String) : Flushes :=
  { s with counts := Analytics.bump feature s.counts, tracked := s.tracked ++ [feature] }

/-- A flush posts a snapshot of the counts and awaits the answer; with nothing to send it
    returns at once. -/
def flush (s : Flushes) : Flushes :=
  if s.counts.isEmpty then s
  else
    { s with
      inFlight := s.inFlight ++ [s.counts]
      overlaps := if s.inFlight.isEmpty then s.overlaps else s.overlaps + 1 }

/-- The answer to the `k`-th flush awaiting one: a post the service took has its snapshot
    taken off the counts; a failed one leaves them. None when there is no such flush. -/
def answered (s : Flushes) (k : Nat) (taken : Bool) : Option Flushes :=
  match s.inFlight[k]? with
  | some sent =>
    let s' := { s with inFlight := s.inFlight.eraseIdx k }
    some (if taken then
      { s' with counts := Analytics.subtract s.counts sent, posted := s.posted ++ [sent] }
    else s')
  | none => none

/-- One step, or none when it cannot be taken. -/
def step (s : Flushes) : FlushStep → Option Flushes
  | .track feature => some (s.track feature)
  | .flush => some s.flush
  | .answered k taken => s.answered k taken

/-- The state after a schedule, or none when some step of it cannot be taken. -/
def runAll (s : Flushes) : List FlushStep → Option Flushes
  | [] => some s
  | a :: rest => (s.step a).bind fun s => s.runAll rest

/-- The states that schedules reach from the start. -/
inductive Reachable : Flushes → Prop
  | init : Reachable init
  | step {s s' : Flushes} (a : FlushStep) : Reachable s → s.step a = some s' → Reachable s'

end Flushes

end FeatureFlags
