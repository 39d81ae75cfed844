import Standby.Discovery.Rehearsal
import Standby.Document.Build

/-!
# Reports of discovery

What discovery is set up with, which states peers are in, and what was seen of a rehearsed peer.
-/
namespace Standby

open Document

/-- States are reported in pairs with the servers. -/
def reportStates (states : List (ServerId × PeerState)) : Document :=
  listOfValues (fun (server, state) => .list [shown server, state.name]) states

/-- A sighting is reported with the address of the peer. -/
def PeerSighting.report (address : String) : PeerSighting → Document
  | attempt script => .list ["attempt", address, script.word]
  | told .connected => .list ["connected", address]
  | told .lost => .list ["lost"]

/-- A membership is reported with its delays in milliseconds. -/
def Membership.report (membership : Membership) : Document :=
  let millis (span : Duration) : Document := span.nanos / nanosPerMilli
  .table [("local", shown membership.own),
    ("peers", listOfValues (fun peer => .list [shown peer.server, peer.address])
      membership.peers),
    ("backoff_ms", .list [millis membership.backoff.base, millis membership.backoff.max])]

end Standby
