import Standby.Identity.Server
import Standby.IoFault

/-!
# Faults of links and of discovery

A link may be out of reach or closed, which is never final; a peer's state may be asked to change
in a way it cannot.
-/
namespace Standby

/-- The state of the link to a peer. -/
inductive PeerState where
  /-- The peer was never tried. -/
  | unknown
  /-- A connection is being made. -/
  | connecting
  /-- The link is up. -/
  | connected
  /-- The link is down. -/
  | disconnected
  deriving DecidableEq, Inhabited, Repr

namespace PeerState

/-- The name of a state. -/
def name : PeerState → String
  | unknown => "unknown"
  | connecting => "connecting"
  | connected => "connected"
  | disconnected => "disconnected"

/-- The inspection of a state. -/
def inspect : PeerState → String
  | unknown => "Unknown"
  | connecting => "Connecting"
  | connected => "Connected"
  | disconnected => "Disconnected"

end PeerState

/-- A message or a connection that did not come through. -/
inductive TransportFault where
  /-- The peer cannot be reached. -/
  | unreachable (peer : ServerId) (reason : String)
  /-- The link is closed. -/
  | closed (peer : ServerId)
  /-- The operating system refused. -/
  | io (cause : IoFault)
  deriving DecidableEq

namespace TransportFault

/-- The text of a fault. -/
def message : TransportFault → String
  | unreachable peer reason => "peer " ++ peer.name ++ " unreachable: " ++ reason
  | closed peer => "link to " ++ peer.name ++ " is closed"
  | io cause => "io error: " ++ cause.message

/-- A link may always come back. -/
def transience (_fault : TransportFault) : Transience := .retryable

end TransportFault

/-- A failure of discovery itself. -/
inductive DiscoveryFault where
  /-- A peer cannot go from one state to another. -/
  | illegalMove (peer : ServerId) (source target : PeerState)
  /-- The work for a peer could not be started. -/
  | spawn (cause : IoFault)
  deriving DecidableEq

namespace DiscoveryFault

/-- The text of a fault. -/
def message : DiscoveryFault → String
  | illegalMove peer source target =>
    "peer " ++ peer.name ++ ": illegal transition " ++ source.name ++ " -> " ++ target.name
  | spawn cause => "failed to spawn discovery thread: " ++ cause.message

/-- Resources may become free; a wrong move stays wrong. -/
def transience : DiscoveryFault → Transience
  | illegalMove .. => .permanent
  | spawn _ => .retryable

end DiscoveryFault
end Standby
