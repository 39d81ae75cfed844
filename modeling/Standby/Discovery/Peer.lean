import Standby.Discovery.Fault

/-!
# Peers

The link to a peer goes through its states in one order only: from unknown to connecting, from
there to connected or disconnected, from connected to disconnected, and from disconnected back to
connecting. A peer counts the links that came up and those of them that were lost.
-/
namespace Standby

open Standby.Text

namespace PeerState

/-- All states. -/
def all : List PeerState := [unknown, connecting, connected, disconnected]

/-- The state of a name. -/
def ofName? (name : String) : Option PeerState :=
  (all.map fun state => (state.name, state)).lookup name

/-- A link may go from one state to the other. -/
def canMoveTo : PeerState → PeerState → Bool
  | unknown, connecting => true
  | connecting, connected => true
  | connecting, disconnected => true
  | connected, disconnected => true
  | disconnected, connecting => true
  | _, _ => false

end PeerState

/-- A peer and its link. The two counts are exact here; they are those of a node as long as neither
passes `2 ^ 64 - 1`, the largest that a node can hold. -/
structure Peer where
  /-- The server. -/
  server : ServerId
  /-- The state of the link. -/
  state : PeerState
  /-- How often the link came up. -/
  connects : Nat
  /-- How often the link was lost. -/
  losses : Nat
  deriving DecidableEq

namespace Peer

/-- A peer that was never tried. -/
def ofServer (server : ServerId) : Peer := ⟨server, .unknown, 0, 0⟩

/-- Let the link go to a state; the result is the state it left. A move that is not allowed
changes nothing. -/
def move (target : PeerState) (peer : Peer) : Except DiscoveryFault PeerState × Peer :=
  if peer.state.canMoveTo target then
    let connects := peer.connects + if target = .connected then 1 else 0
    let losses :=
      peer.losses + if peer.state = .connected ∧ target = .disconnected then 1 else 0
    (.ok peer.state, { peer with state := target, connects, losses })
  else (.error (.illegalMove peer.server peer.state target), peer)

/-- The inspection of a peer. -/
def inspect (peer : Peer) : String :=
  inspectRecord "PeerStateMachine"
    [("peer", peer.server.inspect), ("state", peer.state.inspect),
      ("connects", toString peer.connects), ("losses", toString peer.losses)]

end Peer
end Standby
