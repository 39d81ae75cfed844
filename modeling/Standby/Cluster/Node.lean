import Standby.Cluster.Registry

/-!
# Nodes

A node knows which stripe and group it belongs to, what state it is in, which clients are
connected and which channel comes next. It adopts a stripe once and never changes it. A state is
current only after it was written. The next channel only moves forward.
-/
namespace Standby

/-- What a node hands to the bookkeeping of its clients when it becomes active. -/
structure ChannelSeed where
  /-- The name of the stripe. -/
  stripe : String
  /-- The next channel. -/
  next : ChannelId
  /-- The connected clients. -/
  connections : SortedSet ConnectionId

/-- A node over a store. -/
structure Node (Store : Type) where
  /-- The configured group. -/
  group : GroupId
  /-- The stripe, once it is known. -/
  stripeId : Option StripeId
  /-- The next channel. -/
  nextChannel : ChannelId
  /-- The connected clients. -/
  connections : SortedSet ConnectionId
  /-- The state. -/
  state : LifecycleState
  /-- The stripes of groups. -/
  registry : Registry
  /-- The store of the node's record. -/
  store : Store

namespace Node

variable {Store : Type}

/-- A channel after every known one: the candidate, moved past the given channel if that is not
below it. -/
def past (candidate used : ChannelId) : ChannelId :=
  if candidate ≤ used then used.next else candidate

/-- Adopt the configured group if the record has none, else check that it is the record's. -/
def claimGroup (persistor : Persistor Store) (group : GroupId) (store : Store) :
    Except ClusterFault Unit × Store :=
  match persistor.groupId store with
  | .error fault => (.error (.persist fault), store)
  | .ok persisted =>
    if persisted.isNull then
      if group.isNull then (.ok (), store)
      else
        match persistor.setGroupId group store with
        | (.error fault, store) => (.error (.persist fault), store)
        | (.ok _, store) => (.ok (), store)
    else if persisted = group then (.ok (), store)
    else (.error (.groupMismatch persisted group), store)

/-- Read a node from its record. -/
def load (persistor : Persistor Store) (group : GroupId) (firstChannel : ChannelId)
    (store : Store) : Except PersistFault (Node Store) := do
  let stripeId ← persistor.stripeId store
  let state ← persistor.currentState store
  let connections ← persistor.connections store
  let registry ← Registry.load persistor store
  let nextChannel :=
    connections.toList.foldl (fun next connection => past next connection.channel) firstChannel
  .ok { group, stripeId, nextChannel, connections, state, registry, store }

/-- Open a node for a group. The first channel is the one that the bookkeeping of clients would
hand out. -/
def openNode (persistor : Persistor Store) (group : GroupId) (firstChannel : ChannelId)
    (store : Store) : Except ClusterFault (Node Store) × Store :=
  match claimGroup persistor group store with
  | (.error fault, store) => (.error fault, store)
  | (.ok _, store) =>
    match load persistor group firstChannel store with
    | .error fault => (.error (.persist fault), store)
    | .ok node => (.ok node, store)

/-- The stripe may become the node's: its group is not known to be another one. -/
def checkRegistry (node : Node Store) (id : StripeId) : Except ClusterFault Unit :=
  if node.group.isNull then .ok () else node.registry.admits node.group id

/-- Register a stripe for the node's group; a node without a group registers none. -/
def register (persistor : Persistor Store) (id : StripeId) (node : Node Store) :
    Except ClusterFault Unit × Node Store :=
  if node.group.isNull then (.ok (), node)
  else
    let (result, registry, store) :=
      node.registry.verifyOrSave persistor node.group id node.store
    (result, { node with registry, store })

/-- Write a stripe as the node's, and register it. -/
def adopt (persistor : Persistor Store) (id : StripeId) (node : Node Store) :
    Except ClusterFault Unit × Node Store :=
  match node.checkRegistry id with
  | .error fault => (.error fault, node)
  | .ok _ =>
    match persistor.setStripeId id node.store with
    | (.error fault, store) => (.error (.persist fault), { node with store })
    | (.ok _, store) => register persistor id { node with store, stripeId := some id }

/-- Adopt a stripe. The node's own stripe again changes nothing; another one is refused. -/
def setStripeId (persistor : Persistor Store) (id : StripeId) (node : Node Store) :
    Except ClusterFault Unit × Node Store :=
  match node.stripeId with
  | some current =>
    if current = id then (.ok (), node) else (.error (.stripeMismatch current id), node)
  | none => adopt persistor id node

/-- Adopt the stripe that is hinted at, if one is. -/
def adoptHint (persistor : Persistor Store) (hint : Option StripeId) (node : Node Store) :
    Except ClusterFault Unit × Node Store :=
  match hint with
  | some id => setStripeId persistor id node
  | none => (.ok (), node)

/-- The node's stripe, which is the freshly made one if it never had any. A standby node makes
none: its stripe comes from the active server. -/
def assignStripeIfAbsent (persistor : Persistor Store) (fresh : StripeId) (node : Node Store) :
    Except ClusterFault StripeId × Node Store :=
  if node.state.isStandby then (.error (.stripeAssignment node.state), node)
  else
    match node.stripeId with
    | some id => (.ok id, node)
    | none =>
      match adopt persistor fresh node with
      | (.error fault, node) => (.error fault, node)
      | (.ok _, node) => (.ok fresh, node)

/-- Hand out the next channel. -/
def allocateChannel (node : Node Store) : ChannelId × Node Store :=
  (node.nextChannel, { node with nextChannel := node.nextChannel.next })

/-- Learn of a channel that is in use somewhere. -/
def observeChannel (channel : ChannelId) (node : Node Store) : Node Store :=
  { node with nextChannel := past node.nextChannel channel }

/-- Move the next channel forward; a lower one is ignored. -/
def setNextChannel (next : ChannelId) (node : Node Store) : Node Store :=
  if next < node.nextChannel then node else { node with nextChannel := next }

/-- A client has connected. -/
def recordConnection (connection : ConnectionId) (node : Node Store) : Node Store :=
  { node with
    nextChannel := past node.nextChannel connection.channel
    connections := node.connections.insert connection }

/-- A client has gone. -/
def forgetConnection (connection : ConnectionId) (node : Node Store) : Node Store :=
  { node with connections := node.connections.erase connection }

/-- Write a state, with the connected clients, and make it current. -/
def transitionTo (persistor : Persistor Store) (state : LifecycleState) (node : Node Store) :
    Except ClusterFault Unit × Node Store :=
  match persistor.setCurrentState state node.connections node.store with
  | (.error fault, store) => (.error (.persist fault), { node with store })
  | (.ok _, store) => (.ok (), { node with store, state })

/-- What the bookkeeping of clients needs to know when the node becomes active. -/
def channelSeed (node : Node Store) : Except ClusterFault ChannelSeed :=
  match node.stripeId with
  | none => .error .stripeMissing
  | some stripe => .ok ⟨stripe.name, node.nextChannel, node.connections⟩

/-- Register the stripe of any group. -/
def addToStripeMap (persistor : Persistor Store) (group : GroupId) (stripe : StripeId)
    (node : Node Store) : Except ClusterFault Unit × Node Store :=
  let (result, registry, store) := node.registry.verifyOrSave persistor group stripe node.store
  (result, { node with registry, store })

/-- The description of a node, over several lines. -/
def describe (node : Node Store) : String :=
  let connections := node.connections.toList.map fun connection => "  " ++ toString connection
  let stripe := match node.stripeId with
    | some id => id.name
    | none => "<none>"
  "\n".intercalate (["ClusterState", "Connections:"] ++ connections
    ++ ["Next Available Channel ID: " ++ toString node.nextChannel,
      "Current State: " ++ node.state.name, "Stripe ID: " ++ stripe])

/-- The inspection of a node. -/
def inspect (node : Node Store) : String :=
  Text.inspectRecord "ClusterState"
    [("group_id", node.group.inspect),
      ("inner", Text.inspectRecord "Inner"
        [("stripe_id", Text.inspectOption StripeId.inspect node.stripeId),
          ("next_channel", node.nextChannel.inspect),
          ("connections", Text.inspectSet (node.connections.toList.map ConnectionId.inspect)),
          ("state", node.state.inspect)])]

end Node
end Standby
