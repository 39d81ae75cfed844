import Standby.Discovery.Peer
import Standby.Fault
import Standby.Replication.Script

/-!
# The catalogue of faults

The catalogue has an entry for every kind of fault: the fault that is made of parts which a
document gives. Parts that are left out have defaults, and an identifier among them may be refused.
The kinds of wrapped faults have entries of their own, named for the wrapper and the fault within.
-/
namespace Standby.Fault

/-- The parts of which the faults of the catalogue are made. -/
structure Parts where
  /-- A reason in words. -/
  reason : String
  /-- A path. -/
  path : String
  /-- A refused identifier. -/
  raw : String
  /-- An entity. -/
  entity : Except InvalidId EntityId
  /-- A key. -/
  key : ConcurrencyKey
  /-- A server. -/
  server : Except InvalidId ServerId
  /-- Two stripes, the first one before the second. -/
  stripes : Except InvalidId (StripeId × StripeId)
  /-- A group. -/
  group : GroupId
  /-- Another group. -/
  otherGroup : GroupId
  /-- A state of a node. -/
  state : LifecycleState
  /-- The states between which a peer moves. -/
  move : PeerState × PeerState
  /-- The item of a copy that came out of place. -/
  received : String
  /-- What there was too much of. -/
  overflow : OverflowKind
  /-- The limit that was exceeded. -/
  limit : UInt64
  /-- The size of a payload. -/
  size : Nat
  /-- The limit of payloads. -/
  max : UInt64
  /-- The work at the end of a copy failed, and not the making of an entity. -/
  isSyncComplete : Bool

namespace Parts

/-- The parts that a document gives. -/
def ofDocument (document : Document) : Parts :=
  let text (name : String) : String := document.textAt name ""
  let group (name : String) : GroupId := ⟨.ofInt (document.intAt name 0)⟩
  let peerState (name : String) : PeerState := (PeerState.ofName? (text name)).getD .unknown
  { reason := document.textAt "text" "boom"
    path := document.textAt "path" "/x"
    raw := document.textAt "raw" "r"
    entity := Script.entity document
    key := Script.key document
    server := Script.server document "server" "peer-1"
    stripes := do
      let first ← StripeId.parse (text "a")
      let second ← StripeId.parse (text "b")
      return (first, second)
    group := group "ga"
    otherGroup := group "gb"
    state := (LifecycleState.ofName? (text "state")).getD default
    move := (peerState "from", peerState "to")
    received := if text "received" == "start_key" then "start_key" else "end_sync"
    overflow := if document.boolAt "bytes_kind" false then .bytes else .events
    limit := document.wordAt "limit" 0
    size := (document.wordAt "bytes" 0).toNat
    max := document.wordAt "max" 0
    isSyncComplete := document.boolAt "sync_complete" false }

/-- The cause of a failure of the file system. -/
def cause (parts : Parts) : IoFault := .other parts.reason

/-- A failure of an entity. -/
def entityFault (parts : Parts) : Except InvalidId EntityFault :=
  parts.entity.map fun id =>
    if parts.isSyncComplete then .syncComplete parts.reason else .createFailed id parts.reason

end Parts

/-- The entry of a kind of fault. -/
def entry? (parts : Parts) (kind : String) : Option (Except InvalidId Fault) :=
  let plain (fault : Fault) : Option (Except InvalidId Fault) := some (.ok fault)
  let refused (kind : IdentifierKind) : Option (Except InvalidId Fault) :=
    plain (.identifier ⟨kind, parts.raw, parts.reason⟩)
  let aboutEntity (make : EntityId → ReplicationFault) : Option (Except InvalidId Fault) :=
    some (parts.entity.map fun id => .replication (make id))
  let aboutFailure (make : EntityFault → ReplicationFault) : Option (Except InvalidId Fault) :=
    some (parts.entityFault.map fun fault => .replication (make fault))
  let aboutStripes (make : StripeId → StripeId → ClusterFault) : Option (Except InvalidId Fault) :=
    some (parts.stripes.map fun (first, second) => .cluster (make first second))
  let aboutServer (make : ServerId → Fault) : Option (Except InvalidId Fault) :=
    some (parts.server.map make)
  match kind with
  | "InvalidId.Stripe" => refused .stripe
  | "InvalidId.Server" => refused .server
  | "InvalidId.Entity" => refused .entity
  | "InvalidId.Connection" => refused .connection
  | "Protocol" => plain (.replication (.protocol parts.received parts.reason))
  | "DeferralOverflow" =>
    aboutEntity fun id => .deferralOverflow id parts.key parts.overflow parts.limit
  | "SyncPayloadTooLarge" =>
    aboutEntity fun id => .payloadTooLarge id parts.key parts.size parts.max
  | "SyncDecode" => aboutEntity fun id => .syncDecode id parts.key ⟨parts.reason⟩
  | "EntityCreate" => aboutFailure .entityCreate
  | "SyncComplete" => aboutFailure .syncComplete
  | "SyncInterrupted" => plain (.replication .syncInterrupted)
  | "SessionFailed" => plain (.replication .sessionFailed)
  | "SessionClosed" => plain (.replication .sessionClosed)
  | "StripeIdMismatch" => aboutStripes .stripeMismatch
  | "GroupMismatch" => plain (.cluster (.groupMismatch parts.group parts.otherGroup))
  | "StripeIdAssignment" => plain (.cluster (.stripeAssignment parts.state))
  | "StripeIdMissing" => plain (.cluster .stripeMissing)
  | "StripeIdConflict" => aboutStripes (.stripeConflict parts.group)
  | "Cluster.Unavailable" => plain (.cluster (.persist (.unavailable parts.reason)))
  | "Cluster.Lock.Symlink" => plain (.cluster (.persist (.lock (.symlink parts.path))))
  | "Persist.Io" => plain (.persist (.io parts.path parts.cause))
  | "Persist.Corrupt" => plain (.persist (.corrupt parts.path parts.reason))
  | "Persist.Unavailable" => plain (.persist (.unavailable parts.reason))
  | "Persist.Lock.Held" => plain (.persist (.lock (.held parts.path none none)))
  | "Lock.Held" => plain (.lock (.held parts.path none none))
  | "Lock.Symlink" => plain (.lock (.symlink parts.path))
  | "Lock.MetadataCorrupt" => plain (.lock (.corrupt parts.path parts.reason))
  | "Lock.Io" => plain (.lock (.io parts.cause))
  | "InvalidTransition" =>
    aboutServer fun server => .discovery (.illegalMove server parts.move.1 parts.move.2)
  | "Spawn" => plain (.discovery (.spawn parts.cause))
  | "Unreachable" => aboutServer fun server => .transport (.unreachable server parts.reason)
  | "Closed" => aboutServer fun server => .transport (.closed server)
  | "TransportIo" => plain (.transport (.io parts.cause))
  | "Config.Read" => plain (.config (.read parts.path parts.cause))
  | "Config.Parse" => plain (.config (.parse parts.path parts.reason))
  | "Config.Render" => plain (.config (.render parts.reason))
  | "Config.Write" => plain (.config (.write parts.path parts.cause))
  | "Config.Invalid" => plain (.config (.invalid "cluster.server_name" parts.reason))
  | _ => none

end Standby.Fault
