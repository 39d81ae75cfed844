import Standby.Cluster.Fault
import Standby.Config.Fault
import Standby.Discovery.Fault
import Standby.Document.Build
import Standby.Replication.Fault

/-!
# Faults

Every part of the node has faults of its own; a fault of the node is one of them. Each kind of fault
has a name, and a fault that wraps another has the name of that one.
-/
namespace Standby

/-- A fault of any part of the node. -/
inductive Fault where
  /-- A refused identifier. -/
  | identifier (refusal : InvalidId)
  /-- A fault of a replication session. -/
  | replication (fault : ReplicationFault)
  /-- A refused operation on the node's state. -/
  | cluster (fault : ClusterFault)
  /-- A record that could not be read or written. -/
  | persist (fault : PersistFault)
  /-- A directory that could not be locked. -/
  | lock (fault : LockFault)
  /-- A failure of discovery. -/
  | discovery (fault : DiscoveryFault)
  /-- A message or a connection that did not come through. -/
  | transport (fault : TransportFault)
  /-- A failure of the configuration. -/
  | config (fault : ConfigFault)
  deriving DecidableEq

namespace ReplicationFault

/-- The name of a kind of fault. -/
def kind : ReplicationFault → String
  | protocol .. => "Protocol"
  | deferralOverflow .. => "DeferralOverflow"
  | payloadTooLarge .. => "SyncPayloadTooLarge"
  | syncDecode .. => "SyncDecode"
  | entityCreate _ => "EntityCreate"
  | syncComplete _ => "SyncComplete"
  | syncInterrupted => "SyncInterrupted"
  | sessionFailed => "SessionFailed"
  | sessionClosed => "SessionClosed"

end ReplicationFault

/-- The name of a kind of refused identifier. -/
def InvalidId.faultKind (refusal : InvalidId) : String :=
  match refusal.kind with
  | .stripe => "InvalidId.Stripe"
  | .server => "InvalidId.Server"
  | .entity => "InvalidId.Entity"
  | .connection => "InvalidId.Connection"

/-- The name of a kind of fault. -/
def LockFault.kind : LockFault → String
  | held .. => "Lock.Held"
  | symlink _ => "Lock.Symlink"
  | corrupt .. => "Lock.MetadataCorrupt"
  | io _ => "Lock.Io"

/-- The name of a kind of fault. -/
def PersistFault.kind : PersistFault → String
  | io .. => "Persist.Io"
  | corrupt .. => "Persist.Corrupt"
  | unavailable _ => "Persist.Unavailable"
  | lock fault => fault.kind

/-- The name of a kind of fault. -/
def ClusterFault.kind : ClusterFault → String
  | stripeMismatch .. => "StripeIdMismatch"
  | groupMismatch .. => "GroupMismatch"
  | stripeAssignment _ => "StripeIdAssignment"
  | stripeMissing => "StripeIdMissing"
  | stripeConflict .. => "StripeIdConflict"
  | persist fault => fault.kind

/-- The name of a kind of fault. -/
def DiscoveryFault.kind : DiscoveryFault → String
  | illegalMove .. => "InvalidTransition"
  | spawn _ => "Spawn"

/-- The name of a kind of fault. -/
def TransportFault.kind : TransportFault → String
  | unreachable .. => "Unreachable"
  | closed _ => "Closed"
  | io _ => "TransportIo"

/-- The name of a kind of fault. -/
def ConfigFault.kind : ConfigFault → String
  | read .. => "Config.Read"
  | parse .. => "Config.Parse"
  | render _ => "Config.Render"
  | write .. => "Config.Write"
  | invalid .. => "Config.Invalid"

namespace Fault

/-- The name of a kind of fault. -/
def kind : Fault → String
  | identifier refusal => refusal.faultKind
  | replication fault => fault.kind
  | cluster fault => fault.kind
  | persist fault => fault.kind
  | lock fault => fault.kind
  | discovery fault => fault.kind
  | transport fault => fault.kind
  | config fault => fault.kind

/-- The text of a fault is that of its part. -/
def message : Fault → String
  | identifier refusal => refusal.message
  | replication fault => fault.message
  | cluster fault => fault.message
  | persist fault => fault.message
  | lock fault => fault.message
  | discovery fault => fault.message
  | transport fault => fault.message
  | config fault => fault.message

/-- The prospect of a retry is that of the part. -/
def transience : Fault → Transience
  | identifier refusal => refusal.transience
  | replication fault => fault.transience
  | cluster fault => fault.transience
  | persist fault => fault.transience
  | lock fault => fault.transience
  | discovery fault => fault.transience
  | transport fault => fault.transience
  | config fault => fault.transience

/-- The whole text of the fault is the node's own. The texts of other faults end in words of the
file system or of the reader of a format. -/
def isOwnText : Fault → Bool
  | identifier refusal => refusal.kind != .stripe || refusal.reason == "empty"
  | replication _ => true
  | cluster (.persist (.unavailable _)) => true
  | cluster (.persist _) => false
  | cluster _ => true
  | persist (.unavailable _) => true
  | discovery (.illegalMove ..) => true
  | transport (.unreachable ..) => true
  | transport (.closed _) => true
  | config (.invalid ..) => true
  | _ => false

/-- What a fault reports: its kind, the prospect of a retry, its text if that is wanted, and whether
it ends a session or is about the identity of the node. -/
def report (withText : Bool) (fault : Fault) : List (String × Document) :=
  let common : List (String × Document) :=
    [("error", fault.kind), ("transience", fault.transience.name)]
  let text : List (String × Document) := if withText then [("message", fault.message)] else []
  let special : List (String × Document) :=
    match fault with
    | replication fault => [("fatal", fault.isFatal)]
    | cluster fault => [("identity_fault", fault.isIdentityFault)]
    | _ => []
  common ++ text ++ special

/-- The report of a fault, with its text where that is the node's own. -/
def toDocument (fault : Fault) : Document := .table (fault.report fault.isOwnText)

end Fault
end Standby
