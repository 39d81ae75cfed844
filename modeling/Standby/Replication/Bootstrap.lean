import Standby.Cluster.Node
import Standby.Replication.Feed

/-!
# Becoming passive

A standby node adopts the stripe of the active server, follows its stream as a syncing node, and
becomes passive when a whole copy has been accepted. A fault of the stream or of the record ends
that.
-/
namespace Standby

/-- How far a node is on its way to being passive. -/
inductive BootstrapStage where
  /-- The copy is not whole. -/
  | syncing
  /-- The node is passive. -/
  | passive
  /-- A fault has occurred. -/
  | failed
  deriving DecidableEq, Inhabited, Repr

/-- The name of a stage. -/
def BootstrapStage.name : BootstrapStage → String
  | syncing => "Syncing"
  | passive => "Passive"
  | failed => "Failed"

/-- A node on its way to being passive. -/
structure Bootstrap (host : Host) (Store : Type) where
  /-- The node. -/
  node : Node Store
  /-- The session that follows the active server. -/
  session : Session host
  /-- How far the node is. -/
  stage : BootstrapStage

namespace Bootstrap

variable {host : Host} {Store : Type}

/-- Adopt the stripe of the active server and begin to sync; a node of another stripe is refused
before it takes any item. -/
def begin (persistor : Persistor Store) (stripe : StripeId) (session : Session host)
    (node : Node Store) : Except ClusterFault (Bootstrap host Store) × Node Store :=
  match node.setStripeId persistor stripe with
  | (.error fault, node) => (.error fault, node)
  | (.ok _, node) =>
    match node.transitionTo persistor .syncing with
    | (.error fault, node) => (.error fault, node)
    | (.ok _, node) => (.ok { node, session, stage := .syncing }, node)

/-- The node is passive. -/
def isPassive (bootstrap : Bootstrap host Store) : Bool := bootstrap.stage == .passive

/-- Take one item of the stream. The node becomes passive with the end of the first whole copy. -/
def handle (persistor : Persistor Store) (item : StreamItem) (bootstrap : Bootstrap host Store) :
    Except Fault Admission × Bootstrap host Store :=
  match bootstrap.session.handle item with
  | (.error fault, session) =>
    (.error (.replication fault), { bootstrap with session, stage := .failed })
  | (.ok admission, session) =>
    if admission = .syncCompleted ∧ bootstrap.stage = .syncing then
      match bootstrap.node.transitionTo persistor .passive with
      | (.error fault, node) => (.error (.cluster fault), { node, session, stage := .failed })
      | (.ok _, node) => (.ok admission, { node, session, stage := .passive })
    else (.ok admission, { bootstrap with session })

/-- The stream is over; one that ends within a copy has failed. -/
def close (bootstrap : Bootstrap host Store) : Except Fault Unit × Bootstrap host Store :=
  match bootstrap.session.close with
  | (.error fault, session) =>
    (.error (.replication fault), { bootstrap with session, stage := .failed })
  | (.ok _, session) => (.ok (), { bootstrap with session })

/-- A node on its way to being passive takes the items of a stream. -/
def consumer (persistor : Persistor Store) : Consumer (Bootstrap host Store) where
  consume item bootstrap :=
    match bootstrap.handle persistor item with
    | (.ok admission, bootstrap) => (.admitted admission, bootstrap)
    | (.error fault, bootstrap) => (.refused fault, bootstrap)
  close bootstrap := bootstrap.close

end Bootstrap
end Standby
