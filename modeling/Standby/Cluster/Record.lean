import Standby.Identity.Record
import Standby.Lifecycle
import Standby.Ordered.Map
import Standby.Ordered.Set

/-!
# The record of a node

What a node keeps across restarts: its identity, its state, the connections of its clients when
the state was last written, and the stripe of every group it has heard of.
-/
namespace Standby

open Document

/-- The stripe of a group, as it is stored. -/
structure StripeEntry where
  /-- The group. -/
  group : GroupId
  /-- Its stripe. -/
  stripe : StripeId
  deriving DecidableEq

namespace StripeEntry

/-- An entry is stored as its two parts. -/
def toDocument (entry : StripeEntry) : Document :=
  .table [("group", entry.group.toDocument), ("stripe", entry.stripe.toDocument)]

/-- A stored entry has both parts. -/
def ofDocument : Decoder StripeEntry := fun document => do
  let [group, stripe] ← fields .whole ["group", "stripe"] document | none
  let group ← required GroupId.ofDocument group
  let stripe ← required StripeId.ofDocument stripe
  some ⟨group, stripe⟩

end StripeEntry

/-- The record of a node. -/
structure ClusterRecord where
  /-- The stripe the node belongs to, once it is known. -/
  stripeId : Option StripeId
  /-- The group the node belongs to. -/
  groupId : GroupId
  /-- The state of the node. -/
  state : LifecycleState
  /-- The connections of clients when the state was written. -/
  connections : SortedSet ConnectionId
  /-- The stripes of groups, in the order in which they are stored. -/
  stripeIds : List StripeEntry

namespace ClusterRecord

/-- The record of a node that has not begun. -/
def fresh : ClusterRecord := ⟨none, .null, .uninitialized, .empty, []⟩

instance : Inhabited ClusterRecord := ⟨fresh⟩

/-- The stripes of groups; of entries for one group the last one holds. -/
def stripeMap (record : ClusterRecord) : SortedMap GroupId StripeId :=
  .ofList (record.stripeIds.map fun entry => (entry.group, entry.stripe))

/-- The entries of a map in the order of the groups. -/
def entriesOf (map : SortedMap GroupId StripeId) : List StripeEntry :=
  map.toList.map fun entry => ⟨entry.1, entry.2⟩

/-- A record is stored as its five parts. -/
def toDocument (record : ClusterRecord) : Document :=
  .table [("stripe_id", ofOption StripeId.toDocument record.stripeId),
    ("group_id", record.groupId.toDocument), ("state", record.state.toDocument),
    ("connections", .list (record.connections.toList.map ConnectionId.toDocument)),
    ("stripe_ids", .list (record.stripeIds.map StripeEntry.toDocument))]

/-- Every part of a stored record may be left out. -/
def ofDocument : Decoder ClusterRecord := fun document => do
  let [stripeId, groupId, state, connections, stripeIds] ← fields .partly
    ["stripe_id", "group_id", "state", "connections", "stripe_ids"] document | none
  let stripeId ← orDefault none (optional StripeId.ofDocument) stripeId
  let groupId ← orDefault .null GroupId.ofDocument groupId
  let state ← orDefault .uninitialized LifecycleState.ofDocument state
  let connections ← orDefault [] (listOf ConnectionId.ofDocument) connections
  let stripeIds ← orDefault [] (listOf StripeEntry.ofDocument) stripeIds
  some ⟨stripeId, groupId, state, .ofList connections, stripeIds⟩

end ClusterRecord
end Standby
