/-!
# Transience

Every fault says whether doing the same thing again may succeed.
-/
namespace Standby

/-- The prospect of a retry. -/
inductive Transience where
  /-- A retry never helps while inputs and state stay the same. -/
  | permanent
  /-- A retry may help: contention or an outage that can pass. -/
  | retryable
  /-- Nothing is known about a retry. -/
  | unknown
  deriving DecidableEq, Repr

namespace Transience

/-- The name of a prospect. -/
def name : Transience → String
  | permanent => "permanent"
  | retryable => "retryable"
  | unknown => "unknown"

/-- A retry is known to be worth while. -/
def isRetryable (prospect : Transience) : Bool := prospect == retryable

end Transience
end Standby
