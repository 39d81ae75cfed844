import Standby.Duration

/-!
# Back-off

After a failed attempt or a lost link a peer is left alone for a while. The delay doubles from one
attempt to the next up to a longest one, and a link that came up takes it back to the first one.
-/
namespace Standby

/-- The first and the longest delay. -/
structure BackoffPolicy where
  /-- The first delay. -/
  base : Duration
  /-- The longest delay after the first. -/
  max : Duration
  deriving DecidableEq

namespace BackoffPolicy

/-- A quarter of a second, doubling up to ten seconds. -/
def standard : BackoffPolicy := ⟨.ofMillis 250, .ofSeconds 10⟩

instance : Inhabited BackoffPolicy := ⟨standard⟩

end BackoffPolicy

/-- The delays of a peer. -/
structure Backoff where
  /-- The first and the longest delay. -/
  policy : BackoffPolicy
  /-- The next delay. -/
  current : Duration
  deriving DecidableEq

namespace Backoff

/-- The delays of a peer that was never tried. -/
def start (policy : BackoffPolicy) : Backoff := ⟨policy, policy.base⟩

/-- The next delay; where a doubled delay is no duration the longest one takes its place. -/
def next (backoff : Backoff) : Duration × Backoff :=
  let doubled := backoff.current.double?.getD backoff.policy.max
  (backoff.current, { backoff with current := doubled.shorter backoff.policy.max })

/-- Begin again with the first delay. -/
def reset (backoff : Backoff) : Backoff := { backoff with current := backoff.policy.base }

end Backoff
end Standby
