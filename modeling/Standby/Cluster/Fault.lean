import Standby.FileTree.Lock
import Standby.Lifecycle

/-!
# Faults of the node's record

The record of a node may be out of reach or damaged, and the identity it holds may differ from
the one that is asked for. A node whose identity is at fault must not go on.
-/
namespace Standby

/-- A record that could not be read or written. -/
inductive PersistFault where
  /-- The file system refused. -/
  | io (path : String) (cause : IoFault)
  /-- The file holds no record. -/
  | corrupt (path : String) (reason : String)
  /-- The store is out of reach. -/
  | unavailable (reason : String)
  /-- The directory of the record is not to be had. -/
  | lock (fault : LockFault)
  deriving DecidableEq

namespace PersistFault

/-- The text of a fault. -/
def message : PersistFault → String
  | io path cause => "io error at " ++ Text.quoted path ++ ": " ++ cause.message
  | corrupt path reason =>
    "cluster state record corrupted at " ++ Text.quoted path ++ ": " ++ reason
  | unavailable reason => "persistence unavailable: " ++ reason
  | lock fault => fault.message

/-- A damaged record stays damaged. -/
def transience : PersistFault → Transience
  | corrupt .. => .permanent
  | lock fault => fault.transience
  | io .. => .unknown
  | unavailable _ => .unknown

end PersistFault

/-- An operation on the state of a node that was refused. -/
inductive ClusterFault where
  /-- The node belongs to another stripe. -/
  | stripeMismatch (persisted received : StripeId)
  /-- The node belongs to another group. -/
  | groupMismatch (persisted configured : GroupId)
  /-- A standby node does not make identities. -/
  | stripeAssignment (state : LifecycleState)
  /-- The node has no stripe identity. -/
  | stripeMissing
  /-- The group is known to be another stripe. -/
  | stripeConflict (group : GroupId) (existing stripe : StripeId)
  /-- The record could not be read or written. -/
  | persist (fault : PersistFault)
  deriving DecidableEq

namespace ClusterFault

/-- The text of a fault. -/
def message : ClusterFault → String
  | stripeMismatch persisted received =>
    "stripe id mismatch: persisted " ++ persisted.name ++ ", received " ++ received.name
  | groupMismatch persisted configured =>
    "group id mismatch: persisted " ++ toString persisted ++ ", configured "
      ++ toString configured ++ "; data directory holds data from the incorrect stripe"
  | stripeAssignment state => "cannot generate a stripe id while " ++ state.name
  | stripeMissing => "no stripe id assigned"
  | stripeConflict group existing stripe =>
    "stripe id " ++ stripe.name ++ " for " ++ toString group ++ " conflicts with registered "
      ++ existing.name
  | persist fault => fault.message

/-- The prospect of a retry is that of the store. -/
def transience : ClusterFault → Transience
  | persist fault => fault.transience
  | _ => .permanent

/-- The node holds another identity than it is asked for. -/
def isIdentityFault : ClusterFault → Bool
  | stripeMismatch .. => true
  | groupMismatch .. => true
  | stripeConflict .. => true
  | _ => false

end ClusterFault
end Standby
