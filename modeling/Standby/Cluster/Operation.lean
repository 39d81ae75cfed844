import Standby.Cluster.Node

/-!
# Operations of a node

Everything that can be asked of an open node is an operation, so that a history of a node is a list
of operations.
-/
namespace Standby

/-- Something asked of a node. -/
inductive NodeOperation where
  /-- Adopt the stripe that is hinted at, if one is. -/
  | adoptHint (hint : Option StripeId)
  /-- Adopt a stripe. -/
  | setStripeId (id : StripeId)
  /-- Adopt a freshly made stripe unless there is one. -/
  | assignStripe (fresh : StripeId)
  /-- Register the stripe of a group. -/
  | addToStripeMap (group : GroupId) (stripe : StripeId)
  /-- Move to a state. -/
  | transition (state : LifecycleState)
  /-- Say which channel comes next. -/
  | nextChannel
  /-- Hand out a channel. -/
  | allocateChannel
  /-- Learn of a channel. -/
  | observeChannel (channel : ChannelId)
  /-- Move the next channel forward. -/
  | setNextChannel (next : ChannelId)
  /-- A client has connected. -/
  | connect (connection : ConnectionId)
  /-- A client has gone. -/
  | disconnect (connection : ConnectionId)
  /-- Say what the bookkeeping of clients needs to know. -/
  | channelSeed

/-- What a node answers to an operation that it carried out. -/
inductive NodeReply where
  /-- What was asked is written, or was so before. -/
  | written
  /-- The node took notice. -/
  | noted
  /-- The stripe of the node. -/
  | stripe (id : StripeId)
  /-- A channel. -/
  | channel (channel : ChannelId)
  /-- What the bookkeeping of clients needs to know. -/
  | seed (seed : ChannelSeed)

namespace Node

variable {Store : Type}

/-- Carry an operation out. -/
def carryOut (persistor : Persistor Store) (operation : NodeOperation) (node : Node Store) :
    Except ClusterFault NodeReply × Node Store :=
  let write (step : Except ClusterFault Unit × Node Store) :
      Except ClusterFault NodeReply × Node Store :=
    (step.1.map fun _ => .written, step.2)
  match operation with
  | .adoptHint hint => write (node.adoptHint persistor hint)
  | .setStripeId id => write (node.setStripeId persistor id)
  | .assignStripe fresh =>
    let (result, node) := node.assignStripeIfAbsent persistor fresh
    (result.map .stripe, node)
  | .addToStripeMap group stripe => write (node.addToStripeMap persistor group stripe)
  | .transition state => write (node.transitionTo persistor state)
  | .nextChannel => (.ok (.channel node.nextChannel), node)
  | .allocateChannel =>
    let (channel, node) := node.allocateChannel
    (.ok (.channel channel), node)
  | .observeChannel channel => (.ok .noted, node.observeChannel channel)
  | .setNextChannel next => (.ok .noted, node.setNextChannel next)
  | .connect connection => (.ok .noted, node.recordConnection connection)
  | .disconnect connection => (.ok .noted, node.forgetConnection connection)
  | .channelSeed => (node.channelSeed.map .seed, node)

/-- Carry operations out one after the other, whether or not they are refused. -/
def carryOutAll (persistor : Persistor Store) (operations : List NodeOperation)
    (node : Node Store) : Node Store :=
  operations.foldl (fun node operation => (node.carryOut persistor operation).2) node

end Node
end Standby
