import FeatureFlags.Client.Subscription

/-!
# Starting and stopping the subscription, step by step

The subscription is driven from two sides at once. The client's handle starts, cancels and
stops it, and every run has a loop, a task of its own, that publishes the state as it
connects, streams and waits. Handle and loops share a generation counter, the slot of the
running loop, a stop channel per loop and the published state.

A call and a loop interleave at their awaits. `start` and `cancel` have none, so each is one
step. `stop` sends its loop the stop, then awaits the loop's end before it publishes
`stopped`, so it is two steps. A loop takes one step each time something it waits for comes:
its first run, the connect, the next event or the end of its stream, the end of an event's
handling, the end of a reconnect wait, or the stop.

Every start and every stop retires the run before it by counting the generation up, and a
loop publishes only while its generation is the current one. Any order of these steps is a
schedule (`Control.runAll`); `Control.Reachable` holds of the states schedules reach.
-/

namespace FeatureFlags

/-- Where a loop is: at one of the awaits of its run, or ended. -/
inductive LoopPoint where
  /-- Spawned, and not yet run. -/
  | spawned
  /-- Waiting for the connect, or the stop. -/
  | connecting
  /-- Waiting for the next event, or the stop. -/
  | streaming
  /-- Waiting for the handling of an event to end, or the stop. -/
  | handling
  /-- Waiting for the reconnect wait to pass, or the stop. -/
  | waiting
  /-- Ended, after publishing `stopped`. -/
  | ended
  deriving DecidableEq, Repr

/-- Whether a loop at a point waits for the stop too: at each of its awaits once it has run. -/
def LoopPoint.awaitsStop : LoopPoint → Bool
  | .connecting | .streaming | .handling | .waiting => true
  | .spawned | .ended => false

/-- One loop of the subscription: the generation of its run, where it is, and whether it was
    sent the stop (its stop channel is closed then as well). -/
structure LoopRun where
  generation : Nat
  point : LoopPoint := .spawned
  stopSent : Bool := false
  deriving DecidableEq, Repr

/-- What the subscription's handle and its loops share. -/
structure Control where
  /-- The generation counter, counted up by every start and every stop. -/
  generation : Nat := 0
  /-- The published state. -/
  state : SubscriptionState := .disconnected
  /-- The running loop, by its place among the loops. -/
  running : Option Nat := none
  /-- Every loop spawned so far, in order. -/
  loops : List LoopRun := []
  /-- The loops that suspended `stop` calls wait for, one per call. -/
  stopping : List Nat := []
  deriving DecidableEq

/-- One step of a schedule: a call of the handle, or a step of a loop. -/
inductive ControlStep where
  /-- `start`: a new run in the slot; the loop it replaces is sent the stop. -/
  | start
  /-- `cancel`: the running loop, if any, is sent the stop, and `stopped` is published. -/
  | cancel
  /-- `stop`, up to its await: the running loop, if any, is sent the stop. -/
  | stopBegin
  /-- The `k`-th suspended `stop` resumes, its loop having ended, and publishes `stopped`. -/
  | stopEnd (k : Nat)
  /-- The first run of loop `i`: it publishes `connecting` and connects. -/
  | poll (i : Nat)
  /-- The connect of loop `i` comes back: opened (it publishes `streaming`) or failed. -/
  | connected (i : Nat) (opened : Bool)
  /-- The stream of loop `i` brings an event, which the loop handles. -/
  | event (i : Nat)
  /-- Loop `i` is done with an event. -/
  | handled (i : Nat)
  /-- The stream of loop `i` fails or ends: the loop waits to reconnect. -/
  | streamEnds (i : Nat)
  /-- The reconnect wait of loop `i` passes: it publishes `connecting` and connects again. -/
  | waited (i : Nat)
  /-- Loop `i` takes the stop, or finds its channel closed: it publishes `stopped` and ends. -/
  | stopTaken (i : Nat)
  deriving DecidableEq, Repr

/-- The loop a step belongs to; none for the calls of the handle. -/
def ControlStep.loop? : ControlStep → Option Nat
  | .poll i | .connected i _ | .event i | .handled i | .streamEnds i | .waited i
  | .stopTaken i => some i
  | .start | .cancel | .stopBegin | .stopEnd _ => none

namespace Control

/-- Before the first start. -/
def init : Control := {}

/-- Where loop `i` is, if it was spawned. -/
def pointOf (c : Control) (i : Nat) : Option LoopPoint := c.loops[i]?.map (·.point)

/-- Publishes a state for a loop of some generation: only the loop of the current run may. -/
def publish (c : Control) (generation : Nat) (s : SubscriptionState) : Control :=
  if generation = c.generation then { c with state := s } else c

/-- Sends the stop to loop `i`. -/
def sendStop (c : Control) (i : Nat) : Control :=
  { c with loops := c.loops.modify i fun l => { l with stopSent := true } }

/-- Moves loop `i` to a point. -/
def setPoint (c : Control) (i : Nat) (p : LoopPoint) : Control :=
  { c with loops := c.loops.modify i fun l => { l with point := p } }

/-- Takes the running loop out of its slot, sends it the stop and retires its run: the loop
    and what is left, or none when no run is going on. -/
def retire (c : Control) : Option (Nat × Control) :=
  c.running.map fun i => (i, { c.sendStop i with generation := c.generation + 1, running := none })

/-- The next generation, and a loop of it spawned into the running slot. -/
def spawn (c : Control) : Control :=
  { c with
    generation := c.generation + 1
    running := some c.loops.length
    loops := c.loops ++ [{ generation := c.generation + 1 }] }

/-- `start`: a new run, and the stop sent to the loop it replaces. -/
def start (c : Control) : Control :=
  match c.running with
  | some i => c.spawn.sendStop i
  | none => c.spawn

/-- `cancel`: retires the run, if one is going on, and publishes `stopped`. -/
def cancel (c : Control) : Control :=
  match c.retire with
  | some (_, c) => { c with state := .stopped }
  | none => c

/-- `stop`, up to its await: retires the run, if one is going on, and waits for its loop. -/
def stopBegin (c : Control) : Control :=
  match c.retire with
  | some (i, c) => { c with stopping := c.stopping ++ [i] }
  | none => c

/-- The `k`-th suspended `stop` resumes once its loop has ended, and publishes `stopped`,
    whatever run is going on by then. -/
def stopEnd (c : Control) (k : Nat) : Option Control :=
  match c.stopping[k]? with
  | some i =>
    if c.pointOf i = some .ended then
      some { c with stopping := c.stopping.eraseIdx k, state := .stopped }
    else none
  | none => none

/-- Loop `i` goes from one await to the next, publishing a state or not; none when it is not
    at the first. -/
def move (c : Control) (i : Nat) (before after : LoopPoint) (s : Option SubscriptionState) :
    Option Control :=
  match c.loops[i]? with
  | some l =>
    if l.point = before then
      some ((s.map ((c.setPoint i after).publish l.generation)).getD (c.setPoint i after))
    else none
  | none => none

/-- Loop `i` takes the stop it was sent, at one of its awaits: it publishes `stopped` and
    ends. -/
def takeStop (c : Control) (i : Nat) : Option Control :=
  match c.loops[i]? with
  | some l =>
    if l.stopSent && l.point.awaitsStop then
      some ((c.setPoint i .ended).publish l.generation .stopped)
    else none
  | none => none

/-- One step, or none when it cannot be taken. -/
def step (c : Control) : ControlStep → Option Control
  | .start => some c.start
  | .cancel => some c.cancel
  | .stopBegin => some c.stopBegin
  | .stopEnd k => c.stopEnd k
  | .poll i => c.move i .spawned .connecting (some .connecting)
  | .connected i true => c.move i .connecting .streaming (some .streaming)
  | .connected i false => c.move i .connecting .waiting none
  | .event i => c.move i .streaming .handling none
  | .handled i => c.move i .handling .streaming none
  | .streamEnds i => c.move i .streaming .waiting none
  | .waited i => c.move i .waiting .connecting (some .connecting)
  | .stopTaken i => c.takeStop i

/-- The state after a schedule, or none when some step of it cannot be taken. -/
def runAll (c : Control) : List ControlStep → Option Control
  | [] => some c
  | a :: rest => (c.step a).bind fun c => c.runAll rest

/-- The states that schedules reach from the start. -/
inductive Reachable : Control → Prop
  | init : Reachable init
  | step {c c' : Control} (a : ControlStep) : Reachable c → c.step a = some c' → Reachable c'

end Control

end FeatureFlags
