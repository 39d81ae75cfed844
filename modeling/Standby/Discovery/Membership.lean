import Standby.Discovery.Backoff
import Standby.Discovery.Peer
import Standby.Ordered.Map
import Standby.Ordered.Set

/-!
# Membership

The members of a stripe are listed with their addresses. Discovery keeps one entry for each server
but its own: the one listed first.
-/
namespace Standby

/-- A server and where it is reached. -/
structure PeerAddress where
  /-- The server. -/
  server : ServerId
  /-- Its address. -/
  address : String
  deriving DecidableEq

/-- What discovery works on. -/
structure Membership where
  /-- The server itself. -/
  own : ServerId
  /-- The listed servers. -/
  peers : List PeerAddress
  /-- The delays between attempts. -/
  backoff : BackoffPolicy
  deriving DecidableEq

namespace Membership

/-- The entries that are kept of a list: none of the server itself and none of a server that was
seen before. -/
def retained (own : ServerId) (seen : SortedSet ServerId) : List PeerAddress → List PeerAddress
  | [] => []
  | peer :: rest =>
    if peer.server = own then retained own seen rest
    else if seen.contains peer.server then retained own seen rest
    else peer :: retained own (seen.insert peer.server) rest

/-- The list without the server itself and with one entry for each other server. -/
def normalize (membership : Membership) : Membership :=
  { membership with peers := retained membership.own .empty membership.peers }

/-- The peers of a normalised membership before discovery begins. -/
def table (membership : Membership) : SortedMap ServerId Peer :=
  .ofList (membership.normalize.peers.map fun peer => (peer.server, .ofServer peer.server))

/-- The state of every peer. -/
def states (peers : SortedMap ServerId Peer) : List (ServerId × PeerState) :=
  peers.toList.map fun entry => (entry.1, entry.2.state)

end Membership
end Standby
