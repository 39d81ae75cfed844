import Standby.Cluster.Persistor

/-!
# The registry of stripes

The registry knows which stripe each group is. A group that has a stripe keeps it: the same
stripe is confirmed and another one is refused. What the registry knows is written before it is
known.
-/
namespace Standby

/-- The stripes of groups as a node knows them. -/
structure Registry where
  /-- The stripe of each group. -/
  map : SortedMap GroupId StripeId

namespace Registry

variable {Store : Type}

/-- Read the registry from a store. -/
def load (persistor : Persistor Store) (store : Store) : Except PersistFault Registry :=
  match persistor.stripeMap store with
  | .error fault => .error fault
  | .ok map => .ok ⟨map⟩

/-- The stripe of a group. -/
def stripeOf (registry : Registry) (group : GroupId) : Option StripeId := registry.map.get? group

/-- The stripe of a group is none or the given one. -/
def admits (registry : Registry) (group : GroupId) (stripe : StripeId) :
    Except ClusterFault Unit :=
  match registry.stripeOf group with
  | some existing =>
    if existing = stripe then .ok () else .error (.stripeConflict group existing stripe)
  | none => .ok ()

/-- Confirm the stripe of a group, or write it if the group has none. -/
def verifyOrSave (persistor : Persistor Store) (group : GroupId) (stripe : StripeId)
    (registry : Registry) (store : Store) : Except ClusterFault Unit × Registry × Store :=
  match registry.stripeOf group with
  | some existing =>
    if existing = stripe then (.ok (), registry, store)
    else (.error (.stripeConflict group existing stripe), registry, store)
  | none =>
    let map := registry.map.insert group stripe
    match persistor.setStripeMap map store with
    | (.error fault, store) => (.error (.persist fault), registry, store)
    | (.ok _, store) => (.ok (), ⟨map⟩, store)

/-- The inspection of a registry. -/
def inspect (registry : Registry) : String :=
  Text.inspectRecord "StripeIdStateManager"
    [("map", Text.inspectMap (registry.map.toList.map fun entry =>
      (entry.1.inspect, entry.2.inspect)))]

end Registry
end Standby
