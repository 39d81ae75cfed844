import Standby.Discovery.Membership
import Standby.Discovery.PeerLoop

/-!
# Rehearsed links

A script says how each attempt to reach a peer ends and what becomes of a link that comes up. When
the script is used up the next attempt has no outcome until discovery stops, and the peer is
parked; a link that stays up parks the peer too.
-/
namespace Standby

/-- How an attempt ends. -/
inductive AttemptScript where
  /-- A link comes up and stays. -/
  | hold
  /-- A link comes up and is told to be gone. -/
  | sever
  /-- A link comes up and vanishes. -/
  | vanish
  /-- The link is closed. -/
  | closed
  /-- The operating system refuses. -/
  | io
  /-- The peer cannot be reached, for a reason of its own. -/
  | refuse (word : String)
  deriving DecidableEq

namespace AttemptScript

/-- The script of a word. -/
def ofWord : String → AttemptScript
  | "hold" => hold
  | "sever" => sever
  | "vanish" => vanish
  | "closed" => closed
  | "io" => io
  | word => refuse word

/-- The word of a script. -/
def word : AttemptScript → String
  | hold => "hold"
  | sever => "sever"
  | vanish => "vanish"
  | closed => "closed"
  | io => "io"
  | refuse word => word

/-- The outcome of an attempt at a server. -/
def outcome (server : ServerId) : AttemptScript → Except TransportFault Unit
  | hold => .ok ()
  | sever => .ok ()
  | vanish => .ok ()
  | closed => .error (.closed server)
  | io => .error (.io (.other "refused"))
  | refuse word => .error (.unreachable server word)

/-- What the loop of a peer meets after an attempt, until it is about to try again. -/
def inputs (server : ServerId) (script : AttemptScript) : List LoopInput :=
  match script with
  | hold => [.outcome (script.outcome server)]
  | sever | vanish => [.outcome (script.outcome server), .linkLost, .look, .elapsed]
  | closed | io | refuse _ => [.outcome (script.outcome server), .look, .elapsed]

end AttemptScript

/-- Something that is seen of a rehearsed peer. -/
inductive PeerSighting where
  /-- The peer is tried. -/
  | attempt (script : AttemptScript)
  /-- The messaging layer is told something. -/
  | told (event : LinkEvent)
  deriving DecidableEq

/-- A rehearsed peer: its loop and what was seen of it. -/
structure RehearsedPeer where
  /-- The loop. -/
  loop : PeerLoop
  /-- What was seen, the oldest first. -/
  seen : List PeerSighting

namespace RehearsedPeer

/-- Let the loop meet inputs and see what it tells. -/
def meet (peer : RehearsedPeer) (inputs : List LoopInput) : RehearsedPeer :=
  let loop := peer.loop.run inputs
  let told := (loop.events.take (loop.events.length - peer.loop.events.length)).reverse
  { loop, seen := peer.seen ++ told.map PeerSighting.told }

/-- Follow a script from the next attempt until the peer is parked. -/
def follow (peer : RehearsedPeer) : List AttemptScript → RehearsedPeer
  | [] => peer.meet [.look]
  | script :: rest =>
    let tried := peer.meet [.look]
    let tried := { tried with seen := tried.seen ++ [PeerSighting.attempt script] }
    let tried := tried.meet (script.inputs peer.loop.peer.server)
    if script = .hold then tried else tried.follow rest

/-- Tell a parked peer to stop. -/
def stop (peer : RehearsedPeer) : RehearsedPeer :=
  let server := peer.loop.peer.server
  peer.meet [.stop, .outcome (.error (.unreachable server "stopped")), .look, .look]

end RehearsedPeer

/-- What is seen of discovery that follows scripts. -/
structure DiscoveryRehearsal where
  /-- The states when every peer is parked. -/
  parked : List (ServerId × PeerState)
  /-- What was seen of every peer until discovery has stopped. -/
  seen : List (PeerAddress × List PeerSighting)

namespace Membership

/-- Follow the scripts of servers with every peer, and stop. -/
def rehearse (membership : Membership) (script : ServerId → List AttemptScript) :
    DiscoveryRehearsal :=
  let membership := membership.normalize
  let parked := membership.peers.map fun peer =>
    (peer, (RehearsedPeer.mk (.start peer.server membership.backoff) []).follow
      (script peer.server))
  let table : SortedMap ServerId Peer :=
    .ofList (parked.map fun entry => (entry.1.server, entry.2.loop.peer))
  { parked := states table
    seen := parked.map fun entry => (entry.1, entry.2.stop.seen) }

end Membership
end Standby
