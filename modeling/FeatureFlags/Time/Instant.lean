import FeatureFlags.Time.Duration

/-!
# Instants

An instant is a count of nanoseconds since the Unix epoch, from the first instant of
-262143-01-01 to the last nanosecond of 262142-12-31, the range of calendar dates that
timestamps cover (years numbered astronomically, with a year 0). Adding a span never goes past the last instant: a span longer than
`2^63 - 1` milliseconds counts as that many, and a sum past the end is the last instant.
-/

namespace FeatureFlags

/-- An instant, in nanoseconds since the Unix epoch. -/
structure Instant where
  nanos : Int
  deriving Repr, DecidableEq, Inhabited

namespace Instant

/-- The first instant, in milliseconds. -/
def minMillis : Int := -8334601228800000

/-- The last whole millisecond. -/
def maxMillis : Int := 8210266876799999

/-- The last instant. -/
def last : Instant := ⟨maxMillis * 1000000 + 999999⟩

/-- An instant from milliseconds, if in range. -/
def ofMillis? (ms : Int) : Option Instant :=
  if minMillis ≤ ms && ms ≤ maxMillis then some ⟨ms * 1000000⟩ else none

/-- The whole milliseconds of an instant, rounded down. -/
def millis (t : Instant) : Int := t.nanos / 1000000

/-- The longest span added, in nanoseconds: `2^63 - 1` milliseconds. -/
def maxSpan : Nat := ((Nat.pow 2 63) - 1) * 1000000

/-- An instant plus a span, stopping at the last instant. -/
def addSpan (t : Instant) (d : Duration) : Instant :=
  let span : Int := min d.totalNanos maxSpan
  if t.nanos + span > last.nanos then last else ⟨t.nanos + span⟩

/-- Whether an instant is before another. -/
def before (a b : Instant) : Bool := a.nanos < b.nanos

end Instant

end FeatureFlags
