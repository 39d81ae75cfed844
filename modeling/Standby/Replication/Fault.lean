import Standby.Identity.Entity

/-!
# Faults of replication

A fault of the stream ends its session. The causes are kept apart, and each has its text.
-/
namespace Standby

/-- A payload that its entity's codec does not read. -/
structure CodecFault where
  /-- Why it was refused. -/
  reason : String
  deriving DecidableEq, Repr

/-- The text of a refused payload. -/
def CodecFault.message (fault : CodecFault) : String := "payload decode failed: " ++ fault.reason

/-- A failure of the manager of the entities. -/
inductive EntityFault where
  /-- An entity could not be made. -/
  | createFailed (entity : EntityId) (reason : String)
  /-- The work at the end of a copy failed. -/
  | syncComplete (reason : String)
  deriving DecidableEq

namespace EntityFault

/-- The text of a failure. -/
def message : EntityFault → String
  | createFailed entity reason =>
    "entity " ++ entity.display ++ " could not be created: " ++ reason
  | syncComplete reason => "post-sync bookkeeping failed: " ++ reason

/-- What an entity manager will do next time is not known. -/
def transience (_fault : EntityFault) : Transience := .unknown

end EntityFault

/-- The bound that a queue of held-back operations met. -/
inductive OverflowKind where
  /-- The number of operations. -/
  | events
  /-- The sum of their payloads. -/
  | bytes
  deriving DecidableEq, Repr

/-- The name of a bound. -/
def OverflowKind.name : OverflowKind → String
  | events => "events"
  | bytes => "bytes"

/-- A fault of a replication session. -/
inductive ReplicationFault where
  /-- An item of a copy came out of its nesting order. -/
  | protocol (received : String) (reason : String)
  /-- More was to be held back for a key than its bound allows. -/
  | deferralOverflow (entity : EntityId) (key : ConcurrencyKey) (kind : OverflowKind)
      (limit : UInt64)
  /-- A piece of a copy is larger than its bound allows. -/
  | payloadTooLarge (entity : EntityId) (key : ConcurrencyKey) (bytes : Nat) (max : UInt64)
  /-- A piece of a copy is not read by the entity's codec. -/
  | syncDecode (entity : EntityId) (key : ConcurrencyKey) (cause : CodecFault)
  /-- An entity of a copy could not be made. -/
  | entityCreate (cause : EntityFault)
  /-- The work at the end of a copy failed. -/
  | syncComplete (cause : EntityFault)
  /-- The stream ended within a copy. -/
  | syncInterrupted
  /-- The session failed before. -/
  | sessionFailed
  /-- The session is over. -/
  | sessionClosed
  deriving DecidableEq

namespace ReplicationFault

/-- The text of a fault. -/
def message : ReplicationFault → String
  | protocol received reason => "protocol violation at " ++ received ++ ": " ++ reason
  | deferralOverflow entity key kind limit =>
    "deferred queue for " ++ entity.display ++ " key " ++ toString key ++ " exceeded its "
      ++ kind.name ++ " limit (" ++ toString limit.toNat ++ ")"
  | payloadTooLarge entity key bytes max =>
    "sync payload for " ++ entity.display ++ " key " ++ toString key ++ " is " ++ toString bytes
      ++ " bytes (max " ++ toString max.toNat ++ ")"
  | syncDecode entity key cause =>
    "sync payload for " ++ entity.display ++ " key " ++ toString key ++ " could not be decoded: "
      ++ cause.message
  | entityCreate cause => "entity creation during sync failed: " ++ cause.message
  | syncComplete cause => "sync completion failed: " ++ cause.message
  | syncInterrupted => "stream closed mid-sync"
  | sessionFailed => "replication session already failed"
  | sessionClosed => "replication session is closed"

/-- Every fault but the use of a closed session tears the session down. -/
def isFatal : ReplicationFault → Bool
  | sessionClosed => false
  | _ => true

/-- The prospect of a retry is that of the entity manager where it failed. -/
def transience : ReplicationFault → Transience
  | entityCreate cause => cause.transience
  | syncComplete cause => cause.transience
  | _ => .permanent

end ReplicationFault
end Standby
