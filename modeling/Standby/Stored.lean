import Standby.Cluster.Record
import Standby.FileTree.Lock
import Standby.Json.Dialect
import Standby.Logs.Setup

/-!
# Stored forms

Every type whose values are stored has a form in documents. A form reads a document as a value of
its type and writes the value again, so that equal values have one text.
-/
namespace Standby

/-- A type whose values are stored. -/
inductive StoredForm where
  /-- A stripe. -/
  | stripeId
  /-- A group. -/
  | groupId
  /-- A server. -/
  | serverId
  /-- A channel. -/
  | channelId
  /-- A connection. -/
  | connectionId
  /-- A client. -/
  | clientId
  /-- A transaction. -/
  | transactionId
  /-- An entity. -/
  | entityId
  /-- An entity at a version. -/
  | entityDescriptor
  /-- A key. -/
  | concurrencyKey
  /-- A place in a stream. -/
  | sequenceNumber
  /-- A state. -/
  | lifecycleState
  /-- Limits of a session. -/
  | limits
  /-- The stripe of a group. -/
  | stripeEntry
  /-- The record of a node. -/
  | clusterRecord
  /-- The holder of a lock. -/
  | lockMeta
  /-- A format of logs. -/
  | logFormat
  /-- A rotation of logs. -/
  | logRotation
  deriving DecidableEq, Repr

namespace StoredForm

/-- All forms. -/
def all : List StoredForm :=
  [stripeId, groupId, serverId, channelId, connectionId, clientId, transactionId, entityId,
    entityDescriptor, concurrencyKey, sequenceNumber, lifecycleState, limits, stripeEntry,
    clusterRecord, lockMeta, logFormat, logRotation]

/-- The name of the type of a form. -/
def name : StoredForm → String
  | stripeId => "StripeId"
  | groupId => "GroupId"
  | serverId => "ServerId"
  | channelId => "ChannelId"
  | connectionId => "ConnectionId"
  | clientId => "ClientId"
  | transactionId => "TransactionId"
  | entityId => "EntityId"
  | entityDescriptor => "EntityDescriptor"
  | concurrencyKey => "ConcurrencyKey"
  | sequenceNumber => "SequenceNumber"
  | lifecycleState => "LifecycleState"
  | limits => "Limits"
  | stripeEntry => "StripeEntry"
  | clusterRecord => "ClusterRecord"
  | lockMeta => "LockMeta"
  | logFormat => "LogFormat"
  | logRotation => "LogRotation"

/-- The document of the value that a document holds in a form. -/
def normalize (form : StoredForm) : Document → Option Document :=
  let through {α : Type} (read : Document.Decoder α) (write : α → Document) (document : Document) :
      Option Document := (read document).map write
  match form with
  | stripeId => through StripeId.ofDocument StripeId.toDocument
  | groupId => through GroupId.ofDocument GroupId.toDocument
  | serverId => through ServerId.ofDocument ServerId.toDocument
  | channelId => through ChannelId.ofDocument ChannelId.toDocument
  | connectionId => through ConnectionId.ofDocument ConnectionId.toDocument
  | clientId => through ClientId.ofDocument ClientId.toDocument
  | transactionId => through TransactionId.ofDocument TransactionId.toDocument
  | entityId => through EntityId.ofDocument EntityId.toDocument
  | entityDescriptor => through EntityDescriptor.ofDocument EntityDescriptor.toDocument
  | concurrencyKey => through ConcurrencyKey.ofDocument ConcurrencyKey.toDocument
  | sequenceNumber => through SequenceNumber.ofDocument SequenceNumber.toDocument
  | lifecycleState => through LifecycleState.ofDocument LifecycleState.toDocument
  | limits => through (Limits.ofDocument Json.dialect) Limits.toDocument
  | stripeEntry => through StripeEntry.ofDocument StripeEntry.toDocument
  | clusterRecord => through ClusterRecord.ofDocument ClusterRecord.toDocument
  | lockMeta => through LockMeta.ofDocument LockMeta.toDocument
  | logFormat => through (LogFormat.ofDocument Json.dialect) LogFormat.toDocument
  | logRotation => through (LogRotation.ofDocument Json.dialect) LogRotation.toDocument

end StoredForm
end Standby
