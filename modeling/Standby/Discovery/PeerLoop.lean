import Standby.Discovery.Backoff
import Standby.Discovery.Peer

/-!
# The loop of a peer

Discovery tries a peer, hands a link that comes up to the messaging layer, waits until the link
is gone, leaves the peer alone for a while and tries again, until it is told to stop.

The loop is a machine that is moved on by what it meets: the outcome of an attempt, the end of a
link, the end of a pause, and a look at whether it is to stop. What does not fit its stage leaves
it as it is.
-/
namespace Standby

/-- What the messaging layer is told about a peer. -/
inductive LinkEvent where
  /-- A link came up. -/
  | connected
  /-- The link is gone. -/
  | lost
  deriving DecidableEq, Repr

/-- Where the loop of a peer is. -/
inductive LoopStage where
  /-- It is about to try the peer. -/
  | starting
  /-- It waits for the outcome of an attempt. -/
  | connecting
  /-- It waits for the end of a link. -/
  | linked
  /-- An attempt or a link is over. -/
  | settling
  /-- It leaves the peer alone. -/
  | pausing (delay : Duration)
  /-- It has ended. -/
  | ended
  deriving DecidableEq

/-- What the loop of a peer meets. -/
inductive LoopInput where
  /-- It is told to stop. -/
  | stop
  /-- It looks at whether it is to stop, and goes on if it need not wait. -/
  | look
  /-- An attempt came to an end. -/
  | outcome (result : Except TransportFault Unit)
  /-- The link is gone. -/
  | linkLost
  /-- The pause is over. -/
  | elapsed

/-- The loop of a peer. -/
structure PeerLoop where
  /-- The peer. -/
  peer : Peer
  /-- The delays. -/
  backoff : Backoff
  /-- Where the loop is. -/
  stage : LoopStage
  /-- The loop is to stop. -/
  isStopping : Bool
  /-- What the messaging layer was told, the latest first. -/
  events : List LinkEvent
  /-- The moves of the peer that were refused, the latest first. -/
  refusals : List DiscoveryFault

namespace PeerLoop

/-- The loop of a peer that was never tried. -/
def start (server : ServerId) (policy : BackoffPolicy) : PeerLoop :=
  { peer := .ofServer server, backoff := .start policy, stage := .starting, isStopping := false,
    events := [], refusals := [] }

/-- Let the peer go to a state, or note that it cannot. -/
def move (target : PeerState) (loop : PeerLoop) : PeerLoop :=
  match loop.peer.move target with
  | (.ok _, peer) => { loop with peer }
  | (.error fault, peer) => { loop with peer, refusals := fault :: loop.refusals }

/-- Tell the messaging layer something. -/
def tell (event : LinkEvent) (loop : PeerLoop) : PeerLoop :=
  { loop with events := event :: loop.events }

/-- The attempt succeeded. -/
def connect (loop : PeerLoop) : PeerLoop :=
  { ({ loop with backoff := loop.backoff.reset }.move .connected).tell .connected with
    stage := .linked }

/-- The attempt failed. -/
def miss (loop : PeerLoop) : PeerLoop := { loop.move .disconnected with stage := .settling }

/-- The link is over. -/
def disconnect (loop : PeerLoop) : PeerLoop :=
  { (loop.move .disconnected).tell .lost with stage := .settling }

/-- Leave the peer alone. -/
def pause (loop : PeerLoop) : PeerLoop :=
  let (delay, backoff) := loop.backoff.next
  { loop with backoff, stage := .pausing delay }

/-- The loop after an input. -/
def step (loop : PeerLoop) (input : LoopInput) : PeerLoop :=
  match input, loop.stage with
  | .stop, _ => { loop with isStopping := true }
  | .look, .starting =>
    if loop.isStopping then { loop with stage := .ended }
    else { loop.move .connecting with stage := .connecting }
  | .look, .linked => if loop.isStopping then loop.disconnect else loop
  | .look, .settling => if loop.isStopping then { loop with stage := .ended } else loop.pause
  | .look, .pausing _ => if loop.isStopping then { loop with stage := .starting } else loop
  | .outcome (.ok _), .connecting => loop.connect
  | .outcome (.error _), .connecting => loop.miss
  | .linkLost, .linked => loop.disconnect
  | .elapsed, .pausing _ => { loop with stage := .starting }
  | _, _ => loop

/-- The loop after inputs in order. -/
def run (loop : PeerLoop) (inputs : List LoopInput) : PeerLoop := inputs.foldl step loop

end PeerLoop
end Standby
