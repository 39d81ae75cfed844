import Standby.Identity.Entity
import Standby.Identity.Operation
import Standby.Identity.Server

/-!
# The replication stream

The stream of an active server is one sequence of items: the brackets of a copy of its data,
and the live operations that go on meanwhile.
-/
namespace Standby

/-- What a live operation does to its entity. -/
inductive OperationKind where
  | create
  | invoke
  | destroy
  /-- Nothing, but the operation is acknowledged. -/
  | noop
  | reconfigure
  deriving DecidableEq, Inhabited, Repr

/-- The name of a kind of operation. -/
def OperationKind.name : OperationKind → String
  | create => "create"
  | invoke => "invoke"
  | destroy => "destroy"
  | noop => "noop"
  | reconfigure => "reconfigure"

/-- Payloads are compared byte by byte. -/
local instance decidableEqPayload : DecidableEq ByteArray := ByteArray.instDecidableEq

/-- A live operation. -/
structure ReplicationMessage where
  /-- Its place in the stream. -/
  sequence : SequenceNumber
  /-- The entity it is for. -/
  entity : EntityDescriptor
  /-- The key that orders it. -/
  key : ConcurrencyKey
  /-- What it does. -/
  kind : OperationKind
  /-- The server that sent it and waits for acknowledgements. -/
  source : ServerId
  /-- The client that asked for it. -/
  client : ClientId
  /-- The client's transaction. -/
  transaction : TransactionId
  /-- The oldest transaction the client still waits for. -/
  oldestTransaction : TransactionId
  /-- The encoded operation. -/
  payload : ByteArray
  deriving DecidableEq

/-- The slot within which an operation keeps its order. -/
def ReplicationMessage.slot (message : ReplicationMessage) : Slot :=
  ⟨message.entity.id, message.key⟩

/-- An item of a copy. -/
inductive SyncMessage where
  /-- A copy begins. -/
  | startSync
  /-- The copy of an entity begins. -/
  | startEntity (entity : EntityId) (version : UInt64) (config : ByteArray) (isNew : Bool)
  /-- The copy of a key begins. -/
  | startKey (entity : EntityId) (version : UInt64) (key : ConcurrencyKey)
  /-- A piece of the copy of a key. -/
  | payload (entity : EntityId) (version : UInt64) (key : ConcurrencyKey) (bytes : ByteArray)
  /-- The copy of a key is whole. -/
  | endKey (entity : EntityId) (version : UInt64) (key : ConcurrencyKey)
  /-- The copy of an entity is whole. -/
  | endEntity (entity : EntityId) (version : UInt64)
  /-- The copy is whole. -/
  | endSync (finalBytes : ByteArray)
  deriving DecidableEq

namespace SyncMessage

/-- The name of the kind of an item. -/
def kindName : SyncMessage → String
  | startSync => "start_sync"
  | startEntity .. => "start_entity"
  | startKey .. => "start_key"
  | payload .. => "sync_payload"
  | endKey .. => "end_key"
  | endEntity .. => "end_entity"
  | endSync .. => "end_sync"

/-- The entity an item is about. -/
def entity? : SyncMessage → Option EntityId
  | startEntity entity .. => some entity
  | startKey entity .. => some entity
  | payload entity .. => some entity
  | endKey entity .. => some entity
  | endEntity entity .. => some entity
  | startSync => none
  | endSync _ => none

end SyncMessage

/-- An item of the stream. -/
inductive StreamItem where
  /-- An item of a copy. -/
  | sync (message : SyncMessage)
  /-- A live operation. -/
  | replicate (message : ReplicationMessage)
  deriving DecidableEq

/-- An acknowledgement of a live operation to the server that sent it. -/
inductive Ack where
  /-- The operation arrived. -/
  | received (sequence : SequenceNumber)
  /-- The operation was carried out, or failed. -/
  | completed (sequence : SequenceNumber) (success : Bool)
  deriving DecidableEq

/-- The operation that an acknowledgement is about. -/
def Ack.sequence : Ack → SequenceNumber
  | received sequence => sequence
  | completed sequence _ => sequence

end Standby
