import Standby.Cluster.Fault
import Standby.Cluster.Record

/-!
# Stores of a node's record

A persistor reads and writes the parts of a node's record in a store. A write that succeeds is
durable; the state and the connections are written together.
-/
namespace Standby

/-- The result of a write and the store after it. -/
abbrev WriteStep (Store : Type) : Type := Except PersistFault Unit × Store

/-- Access to a node's record in a store. -/
structure Persistor (Store : Type) where
  /-- The stripe of the node. -/
  stripeId : Store → Except PersistFault (Option StripeId)
  /-- Write the stripe of the node. -/
  setStripeId : StripeId → Store → WriteStep Store
  /-- The group of the node, null when it was never written. -/
  groupId : Store → Except PersistFault GroupId
  /-- Write the group of the node. -/
  setGroupId : GroupId → Store → WriteStep Store
  /-- The state of the node. -/
  currentState : Store → Except PersistFault LifecycleState
  /-- The connections when the state was written. -/
  connections : Store → Except PersistFault (SortedSet ConnectionId)
  /-- Write the state together with the connections. -/
  setCurrentState : LifecycleState → SortedSet ConnectionId → Store → WriteStep Store
  /-- The stripes of groups. -/
  stripeMap : Store → Except PersistFault (SortedMap GroupId StripeId)
  /-- Write the stripes of groups. -/
  setStripeMap : SortedMap GroupId StripeId → Store → WriteStep Store

namespace ClusterRecord

/-- A record with another stripe. -/
def withStripeId (record : ClusterRecord) (id : StripeId) : ClusterRecord :=
  { record with stripeId := some id }

/-- A record with another group. -/
def withGroupId (record : ClusterRecord) (group : GroupId) : ClusterRecord :=
  { record with groupId := group }

/-- A record with another state and the connections of the moment. -/
def withState (record : ClusterRecord) (state : LifecycleState)
    (connections : SortedSet ConnectionId) : ClusterRecord :=
  { record with state, connections }

/-- A record with other stripes of groups. -/
def withStripeMap (record : ClusterRecord) (map : SortedMap GroupId StripeId) : ClusterRecord :=
  { record with stripeIds := entriesOf map }

end ClusterRecord

namespace Persistor

/-- Access to a record that is updated as a whole: a change is applied to the record and the
result is put in its place, which may fail. -/
def ofRecord {Store : Type} (record : Store → ClusterRecord)
    (put : ClusterRecord → Store → WriteStep Store) : Persistor Store where
  stripeId store := .ok (record store).stripeId
  setStripeId id store := put ((record store).withStripeId id) store
  groupId store := .ok (record store).groupId
  setGroupId group store := put ((record store).withGroupId group) store
  currentState store := .ok (record store).state
  connections store := .ok (record store).connections
  setCurrentState state connections store :=
    put ((record store).withState state connections) store
  stripeMap store := .ok (record store).stripeMap
  setStripeMap map store := put ((record store).withStripeMap map) store

/-- A record in memory, where no write fails. -/
def memory : Persistor ClusterRecord := ofRecord id fun record _ => (.ok (), record)

/-- Everything that a store holds, read part by part. -/
def snapshot {Store : Type} (persistor : Persistor Store) (store : Store) :
    Except PersistFault ClusterRecord := do
  let stripeId ← persistor.stripeId store
  let groupId ← persistor.groupId store
  let state ← persistor.currentState store
  let connections ← persistor.connections store
  let map ← persistor.stripeMap store
  .ok { stripeId, groupId, state, connections, stripeIds := ClusterRecord.entriesOf map }

/-- An operation of a persistor. -/
inductive Method where
  | stripeId
  | setStripeId
  | groupId
  | setGroupId
  | currentState
  | connections
  | setCurrentState
  | stripeMap
  | setStripeMap
  deriving DecidableEq, Repr

/-- The name of an operation. -/
def Method.name : Method → String
  | stripeId => "stripe_id"
  | setStripeId => "set_stripe_id"
  | groupId => "group_id"
  | setGroupId => "set_group_id"
  | currentState => "current_state"
  | connections => "connections"
  | setCurrentState => "set_current_state"
  | stripeMap => "stripe_id_map"
  | setStripeMap => "set_stripe_id_map"

/-- All operations. -/
def Method.all : List Method :=
  [stripeId, setStripeId, groupId, setGroupId, currentState, connections, setCurrentState,
    stripeMap, setStripeMap]

/-- A store of which some operations are out of order. -/
structure Impaired (Store : Type) where
  /-- The store behind. -/
  store : Store
  /-- The operations that fail before they do anything. -/
  failing : Method → Bool

/-- The fault of an operation that is out of order. -/
def outOfOrder (method : Method) : PersistFault := .unavailable ("injected " ++ method.name)

/-- Access to a store through operations that may be out of order. -/
def impaired {Store : Type} (inner : Persistor Store) : Persistor (Impaired Store) :=
  let get {α : Type} (method : Method) (read : Store → Except PersistFault α)
      (outer : Impaired Store) : Except PersistFault α :=
    if outer.failing method then .error (outOfOrder method) else read outer.store
  let set (method : Method) (write : Store → WriteStep Store) (outer : Impaired Store) :
      WriteStep (Impaired Store) :=
    if outer.failing method then (.error (outOfOrder method), outer)
    else
      let (result, store) := write outer.store
      (result, { outer with store })
  { stripeId := get .stripeId inner.stripeId
    setStripeId := fun id => set .setStripeId (inner.setStripeId id)
    groupId := get .groupId inner.groupId
    setGroupId := fun group => set .setGroupId (inner.setGroupId group)
    currentState := get .currentState inner.currentState
    connections := get .connections inner.connections
    setCurrentState := fun state connections =>
      set .setCurrentState (inner.setCurrentState state connections)
    stripeMap := get .stripeMap inner.stripeMap
    setStripeMap := fun map => set .setStripeMap (inner.setStripeMap map) }

end Persistor
end Standby
