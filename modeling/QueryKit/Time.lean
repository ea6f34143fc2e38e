/-!
# Time

Spans, monotonic instants and wall-clock timestamps, all counted in whole
nanoseconds. Nothing here reads an operating-system clock: a `Clock` is a value
that its owner moves forward, so every later answer is a function of the clock
it was given.
-/

namespace QueryKit

/-- A span of time. Spans are bounded by `Duration.limit`, and sums stop at the
longest span. -/
structure Duration where
  /-- The length of the span in nanoseconds. -/
  nanoseconds : Nat
  /-- Spans end before `2 ^ 64` seconds. -/
  lt_limit : nanoseconds < 0x1_0000_0000_0000_0000 * 1_000_000_000
  deriving DecidableEq

namespace Duration

/-- The first number of nanoseconds that is too long for a span. -/
def limit : Nat := 0x1_0000_0000_0000_0000 * 1_000_000_000

/-- The span of the given number of nanoseconds, or the longest span. -/
def ofNanoseconds (nanoseconds : Nat) : Duration :=
  ⟨min nanoseconds (0x1_0000_0000_0000_0000 * 1_000_000_000 - 1), by omega⟩

/-- The empty span. -/
def zero : Duration := ofNanoseconds 0

/-- The longest span. -/
def longest : Duration := ofNanoseconds (limit - 1)

/-- The span of the given number of milliseconds, or the longest span. -/
def ofMillis (millis : Nat) : Duration :=
  ofNanoseconds (millis * 1_000_000)

/-- The span of the given seconds and nanoseconds, or the longest span. -/
def ofSeconds (seconds : Nat) (nanoseconds : Nat) : Duration :=
  ofNanoseconds (seconds * 1_000_000_000 + nanoseconds)

/-- The whole seconds of a span. -/
def seconds (duration : Duration) : Nat := duration.nanoseconds / 1_000_000_000

/-- The nanoseconds of a span beyond its whole seconds. -/
def subsecond (duration : Duration) : Nat := duration.nanoseconds % 1_000_000_000

/-- Two spans are one if they are equally long. -/
@[ext] theorem ext {left right : Duration} (same : left.nanoseconds = right.nanoseconds) :
    left = right := by
  cases left
  cases right
  simp_all

/-- A length in range is kept. -/
theorem nanoseconds_ofNanoseconds {nanoseconds : Nat} (inRange : nanoseconds < limit) :
    (ofNanoseconds nanoseconds).nanoseconds = nanoseconds := by
  simp only [limit] at inRange
  simp only [ofNanoseconds]
  omega

/-- The whole milliseconds of a span. -/
def millis (duration : Duration) : Nat := duration.nanoseconds / 1_000_000

/-- The whole milliseconds of a span as a 64-bit word, which is how spans are
written in JSON and in events. -/
def millisWord (duration : Duration) : Nat := duration.millis % 0x1_0000_0000_0000_0000

/-- The sum of two spans, or the longest span. -/
def add (left right : Duration) : Duration :=
  ofNanoseconds (left.nanoseconds + right.nanoseconds)

instance : Add Duration := ⟨add⟩
instance : Inhabited Duration := ⟨zero⟩
instance : LE Duration := ⟨fun left right => left.nanoseconds ≤ right.nanoseconds⟩
instance : LT Duration := ⟨fun left right => left.nanoseconds < right.nanoseconds⟩

instance (left right : Duration) : Decidable (left ≤ right) :=
  inferInstanceAs (Decidable (left.nanoseconds ≤ right.nanoseconds))

instance (left right : Duration) : Decidable (left < right) :=
  inferInstanceAs (Decidable (left.nanoseconds < right.nanoseconds))

/-- The shorter of two spans. -/
def shorter (left right : Duration) : Duration := if left ≤ right then left else right

/-- The longer of two spans. -/
def longer (left right : Duration) : Duration := if left ≤ right then right else left

end Duration

/-- A reading of a monotonic clock, in nanoseconds from a fixed start. -/
structure Instant where
  /-- Nanoseconds since the start of the clock. -/
  nanoseconds : Nat
  deriving DecidableEq

namespace Instant

instance : LE Instant := ⟨fun left right => left.nanoseconds ≤ right.nanoseconds⟩
instance : LT Instant := ⟨fun left right => left.nanoseconds < right.nanoseconds⟩

instance (left right : Instant) : Decidable (left ≤ right) :=
  inferInstanceAs (Decidable (left.nanoseconds ≤ right.nanoseconds))

instance (left right : Instant) : Decidable (left < right) :=
  inferInstanceAs (Decidable (left.nanoseconds < right.nanoseconds))

/-- The instant after a span; none when its seconds leave the signed 64-bit range. -/
def plus? (instant : Instant) (span : Duration) : Option Instant :=
  let total := instant.nanoseconds + span.nanoseconds
  if total < 0x8000_0000_0000_0000 * 1_000_000_000 then some ⟨total⟩ else none

/-- The span from an earlier instant to a later one; empty when they are in the
other order. -/
def since (later : Instant) (earlier : Instant) : Duration :=
  Duration.ofNanoseconds (later.nanoseconds - earlier.nanoseconds)

end Instant

/-- A point of wall-clock time at or after the Unix epoch, within the signed
64-bit range of seconds. -/
structure Timestamp where
  /-- Nanoseconds since the epoch. -/
  nanoseconds : Nat
  /-- Timestamps end before `2 ^ 63` seconds. -/
  lt_limit : nanoseconds < 0x8000_0000_0000_0000 * 1_000_000_000
  deriving DecidableEq

namespace Timestamp

/-- The timestamp of the given seconds and nanoseconds since the epoch, if it is
in range. Nanoseconds beyond a second carry into the seconds. -/
def ofSeconds? (seconds : Nat) (nanoseconds : Nat) : Option Timestamp :=
  let total := seconds * 1_000_000_000 + nanoseconds
  if inRange : total < 0x8000_0000_0000_0000 * 1_000_000_000 then some ⟨total, inRange⟩ else none

/-- The whole seconds since the epoch. -/
def seconds (timestamp : Timestamp) : Nat := timestamp.nanoseconds / 1_000_000_000

/-- The nanoseconds beyond the whole seconds. -/
def subsecond (timestamp : Timestamp) : Nat := timestamp.nanoseconds % 1_000_000_000

/-- The timestamp after a span, or the last timestamp. -/
def plus (timestamp : Timestamp) (span : Duration) : Timestamp :=
  ⟨min (timestamp.nanoseconds + span.nanoseconds) (0x8000_0000_0000_0000 * 1_000_000_000 - 1),
    by omega⟩

end Timestamp

/-- The two clocks of a session: monotonic time for ages and expiry, wall time
for what is reported to people. -/
structure Clock where
  monotonic : Instant
  wall : Timestamp

namespace Clock

/-- Both clocks moved forward by the same span. -/
def advance (clock : Clock) (span : Duration) : Clock where
  monotonic := ⟨clock.monotonic.nanoseconds + span.nanoseconds⟩
  wall := clock.wall.plus span

end Clock

end QueryKit
