/-!
# Durations

A duration is a number of nanoseconds that has at most so many whole seconds as a word of 64 bits
counts.
-/
namespace Standby

/-- The nanoseconds of a second. -/
def nanosPerSecond : Nat := 1000000000

/-- The nanoseconds of a millisecond. -/
def nanosPerMilli : Nat := 1000000

/-- The first number of nanoseconds that no duration has. -/
def durationBound : Nat := UInt64.size * nanosPerSecond

/-- A span of time. -/
structure Duration where
  /-- The length in nanoseconds. -/
  nanos : Nat
  /-- The whole seconds fit into a word. -/
  bounded : nanos < durationBound
  deriving DecidableEq

namespace Duration

/-- No time. -/
def zero : Duration := ⟨0, by decide⟩

instance : Inhabited Duration := ⟨zero⟩

/-- A number of whole seconds. -/
def ofSeconds (count : UInt64) : Duration :=
  ⟨count.toNat * nanosPerSecond, by
    have := count.toNat_lt
    simp only [durationBound, nanosPerSecond, UInt64.size]; omega⟩

/-- A number of whole milliseconds. -/
def ofMillis (count : UInt64) : Duration :=
  ⟨count.toNat * nanosPerMilli, by
    have := count.toNat_lt
    simp only [durationBound, nanosPerSecond, nanosPerMilli, UInt64.size]; omega⟩

/-- The shorter of two durations. -/
def shorter (left right : Duration) : Duration := if right.nanos < left.nanos then right else left

/-- The longer of two durations. -/
def longer (left right : Duration) : Duration := if right.nanos < left.nanos then left else right

/-- Twice a duration, if that is a duration. -/
def double? (span : Duration) : Option Duration :=
  if bounded : 2 * span.nanos < durationBound then some ⟨2 * span.nanos, bounded⟩ else none

/-- The whole seconds of a duration. -/
def seconds (span : Duration) : Nat := span.nanos / nanosPerSecond

/-- The whole milliseconds beside the whole seconds. -/
def restMillis (span : Duration) : Nat := span.nanos % nanosPerSecond / nanosPerMilli

/-- The shorter duration has the smaller length. -/
@[simp] theorem nanos_shorter (left right : Duration) :
    (left.shorter right).nanos = min left.nanos right.nanos := by
  unfold shorter; split <;> omega

/-- Doubling is capped by any duration as exact doubling is. -/
theorem nanos_shorter_double (span cap : Duration) :
    ((span.double?.getD cap).shorter cap).nanos = min (2 * span.nanos) cap.nanos := by
  unfold double?
  split
  · simp
  · have := cap.bounded
    simp; omega

end Duration
end Standby
