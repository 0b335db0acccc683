import FeatureFlags.Number.Binary

/-!
# Durations

A duration is whole seconds and a number of nanoseconds below one second. Timers that
grow a duration by a factor compute in doubles of nanoseconds: `Duration.toNanos` rounds
the exact count to the nearest double, and `Duration.ofNanos` truncates a double back,
reading a negative or NaN count as zero and a count past `2^64 - 1` as that bound.
-/

namespace FeatureFlags

/-- A span of time: seconds and nanoseconds below one second. -/
structure Duration where
  secs : Nat
  nanos : Nat
  deriving Repr, DecidableEq, Inhabited

namespace Duration

/-- The duration of zero. -/
def zero : Duration := ⟨0, 0⟩

/-- Whole seconds. -/
def ofSecs (s : Nat) : Duration := ⟨s, 0⟩

/-- Whole milliseconds. -/
def ofMillis (ms : Nat) : Duration := ⟨ms / 1000, ms % 1000 * 1000000⟩

/-- The exact number of nanoseconds. -/
def totalNanos (d : Duration) : Nat := d.secs * 1000000000 + d.nanos

/-- The double nearest to each part, added: the nanoseconds as a timer counts them. -/
def toNanos (d : Duration) : Float :=
  Float.ofRatio false d.secs 1 * 1000000000.0 + Float.ofRatio false d.nanos 1

/-- A double truncated to a count below `2^64`: negative and NaN are zero. -/
def truncate (x : Float) : Nat := x.toUInt64.toNat

/-- A duration from a double of nanoseconds, truncated. -/
def ofNanos (x : Float) : Duration :=
  ⟨truncate (x / 1000000000.0), truncate x % 1000000000⟩

end Duration

end FeatureFlags
