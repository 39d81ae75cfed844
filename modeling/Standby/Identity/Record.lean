import Standby.Document.Decode
import Standby.Identity.Connection
import Standby.Identity.Entity
import Standby.Identity.Operation
import Standby.Identity.Server
import Standby.Identity.Stripe

/-!
# Stored identifiers

An identifier of one part is stored as that part, and one of several parts as a record of them.
The name of a server is checked when it is read; the parts of entities and connections are taken
as they stand.
-/
namespace Standby

open Document

/-- A stripe is stored as its written form. -/
def StripeId.toDocument (id : StripeId) : Document := .text id.name

/-- A stored stripe is a UUID in any of its forms, without blanks around it. -/
def StripeId.ofDocument : Decoder StripeId := fun document =>
  (string document).bind fun text => (Uuid.parse? text).map StripeId.mk

/-- A group is stored as its number. -/
def GroupId.toDocument (group : GroupId) : Document := .integer group.number.toInt

/-- A stored group is a signed word. -/
def GroupId.ofDocument : Decoder GroupId := fun document => (int32 document).map GroupId.mk

/-- A server is stored as its name. -/
def ServerId.toDocument (server : ServerId) : Document := .text server.name

/-- A stored server has a name that is not blank. -/
def ServerId.ofDocument : Decoder ServerId := fun document =>
  (string document).bind fun name => (ServerId.parse name).toOption

/-- A channel is stored as its number. -/
def ChannelId.toDocument (channel : ChannelId) : Document := ofUInt64 channel.number

/-- A stored channel is a word. -/
def ChannelId.ofDocument : Decoder ChannelId := fun document =>
  (uint64 document).map ChannelId.mk

/-- A connection is stored as its machine and its channel. -/
def ConnectionId.toDocument (connection : ConnectionId) : Document :=
  .table [("jvm_id", .text connection.machine), ("channel", connection.channel.toDocument)]

/-- A stored connection has both parts. -/
def ConnectionId.ofDocument : Decoder ConnectionId := fun document => do
  let [machine, channel] ← fields .whole ["jvm_id", "channel"] document | none
  let machine ← required string machine
  let channel ← required ChannelId.ofDocument channel
  some ⟨machine, channel⟩

/-- A client is stored as its number. -/
def ClientId.toDocument (client : ClientId) : Document := ofUInt64 client.number

/-- A stored client is a word. -/
def ClientId.ofDocument : Decoder ClientId := fun document => (uint64 document).map ClientId.mk

/-- A transaction is stored as its number. -/
def TransactionId.toDocument (transaction : TransactionId) : Document :=
  .integer transaction.number.toInt

/-- A stored transaction is a signed word. -/
def TransactionId.ofDocument : Decoder TransactionId := fun document =>
  (int64 document).map TransactionId.mk

/-- A sequence number is stored as its number. -/
def SequenceNumber.toDocument (sequence : SequenceNumber) : Document := ofUInt64 sequence.number

/-- A stored sequence number is a word. -/
def SequenceNumber.ofDocument : Decoder SequenceNumber := fun document =>
  (uint64 document).map SequenceNumber.mk

/-- A key is stored as its number. -/
def ConcurrencyKey.toDocument (key : ConcurrencyKey) : Document := .integer key.number.toInt

/-- A stored key is a signed word. -/
def ConcurrencyKey.ofDocument : Decoder ConcurrencyKey := fun document =>
  (int32 document).map ConcurrencyKey.mk

/-- An entity is stored as its class and its name. -/
def EntityId.toDocument (id : EntityId) : Document :=
  .table [("class_name", .text id.className), ("name", .text id.name)]

/-- A stored entity has both parts. -/
def EntityId.ofDocument : Decoder EntityId := fun document => do
  let [className, name] ← fields .whole ["class_name", "name"] document | none
  let className ← required string className
  let name ← required string name
  some ⟨className, name⟩

/-- A client's view is stored as its number. -/
def ClientInstanceId.toDocument (id : ClientInstanceId) : Document := ofUInt64 id.number

/-- A stored view is a word. -/
def ClientInstanceId.ofDocument : Decoder ClientInstanceId := fun document =>
  (uint64 document).map ClientInstanceId.mk

/-- An address is stored as its three parts. -/
def EntityDescriptor.toDocument (descriptor : EntityDescriptor) : Document :=
  .table [("id", descriptor.id.toDocument),
    ("client_instance", descriptor.clientInstance.toDocument),
    ("version", ofUInt64 descriptor.version)]

/-- A stored address has all parts. -/
def EntityDescriptor.ofDocument : Decoder EntityDescriptor := fun document => do
  let [id, view, version] ← fields .whole ["id", "client_instance", "version"] document | none
  let id ← required EntityId.ofDocument id
  let view ← required ClientInstanceId.ofDocument view
  let version ← required uint64 version
  some ⟨id, view, version⟩

end Standby
