import Standby.IoFault
import Standby.Transience

/-!
# Faults of the configuration

The configuration file may be out of reach or not be well formed, and a value in it may not be
usable.
-/
namespace Standby

/-- A configuration that could not be read, written or used. -/
inductive ConfigFault where
  /-- The file could not be read. -/
  | read (path : String) (cause : IoFault)
  /-- The file holds no configuration. -/
  | parse (path : String) (reason : String)
  /-- The configuration has no text. -/
  | render (reason : String)
  /-- The file could not be written. -/
  | write (path : String) (cause : IoFault)
  /-- A value cannot be used. -/
  | invalid (field : String) (reason : String)
  deriving DecidableEq

namespace ConfigFault

/-- The text of a fault. -/
def message : ConfigFault → String
  | read path cause => "failed to read " ++ path ++ ": " ++ cause.message
  | parse path reason => "failed to parse " ++ path ++ ": " ++ reason
  | render reason => "failed to render config: " ++ reason
  | write path cause => "failed to write " ++ path ++ ": " ++ cause.message
  | invalid field reason => "invalid " ++ field ++ ": " ++ reason

/-- Files may come back; what is in them stays. -/
def transience : ConfigFault → Transience
  | read .. => .retryable
  | write .. => .retryable
  | parse .. => .permanent
  | render _ => .permanent
  | invalid .. => .permanent

end ConfigFault
end Standby
