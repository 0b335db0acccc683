import FeatureFlags.Time.Duration

/-!
# Reconnect waits

After the push stream breaks, the client waits before it connects again. The waits
grow by a factor from an initial one up to a cap, and go back to the initial wait after
a successful connect; they never stop.

Waits are counted in doubles of nanoseconds: the wait given is the current one,
truncated to whole nanoseconds, and the next one is the cap when the current one is at
least the cap divided by the factor (a comparison that fails when the quotient is NaN),
otherwise the current one times the factor, truncated. No jitter is added.
-/

namespace FeatureFlags

/-- How reconnect waits grow. -/
structure ReconnectSettings where
  initialIntervalMs : Nat := 500
  maxIntervalSecs : Nat := 30
  multiplier : Float := 2.0
  /-- The spread of jitter around each wait (not applied here). -/
  randomizationFactor : Float := 0.5
  deriving Inhabited

/-- The state of the reconnect waits. -/
structure Backoff where
  initial : Duration
  cap : Duration
  multiplier : Float
  current : Duration

namespace Backoff

/-- The waits of some settings, at the start. -/
def ofSettings (s : ReconnectSettings) : Backoff where
  initial := Duration.ofMillis s.initialIntervalMs
  cap := Duration.ofSecs s.maxIntervalSecs
  multiplier := s.multiplier
  current := Duration.ofMillis s.initialIntervalMs

/-- The wait after the current one. -/
def grow (b : Backoff) : Duration :=
  let cur := b.current.toNanos
  if cur >= b.cap.toNanos / b.multiplier then b.cap
  else Duration.ofNanos (cur * b.multiplier)

/-- The next wait, and the state after it. -/
def next (b : Backoff) : Duration × Backoff :=
  (Duration.ofNanos b.current.toNanos, { b with current := b.grow })

/-- Back to the initial wait. -/
def reset (b : Backoff) : Backoff :=
  { b with current := b.initial }

end Backoff

end FeatureFlags
