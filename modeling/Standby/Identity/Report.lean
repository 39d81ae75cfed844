import Standby.Document.Build
import Standby.Identity.Connection
import Standby.Identity.Entity
import Standby.Identity.Operation
import Standby.Identity.Record
import Standby.Identity.Server
import Standby.Identity.Stripe
import Standby.Text.Hex

/-!
# Reports of identifiers

An identifier is reported with its parts, with the text that names it and with its inspection.
-/
namespace Standby

open Document

/-- What every identifier reports. -/
def reportTexts {α : Type} [ToString α] (inspect : α → String) (value : α) :
    List (String × Document) :=
  [("display", shown value), ("debug", inspect value)]

/-- A stripe is reported with its bytes. -/
def StripeId.reportParts (id : StripeId) : Document :=
  .table ([("name", (id.name : Document)), ("uuid", Text.hexBytes id.uuid.bytes), ("same", true)]
    ++ reportTexts StripeId.inspect id)

/-- A server is reported by its name. -/
def ServerId.report (id : ServerId) : Document :=
  .table ([("as_str", (id.name : Document)), ("string", id.name)]
    ++ reportTexts ServerId.inspect id)

/-- A connection is reported with its machine and channel. -/
def ConnectionId.report (id : ConnectionId) : Document :=
  .table ([("jvm", (id.machine : Document)), ("ch", id.channel.number)]
    ++ reportTexts ConnectionId.inspect id)

/-- An entity at a version is reported with the class and the name of the entity. -/
def EntityDescriptor.report (descriptor : EntityDescriptor) : Document :=
  let id := descriptor.id
  .table ([("class", (id.className : Document)), ("name", id.name),
      ("descriptor", descriptor.inspect)]
    ++ reportTexts EntityId.inspect id)

/-- A group is reported by its number. -/
def GroupId.reportParts (group : GroupId) : Document :=
  .table ([("get", (group.number : Document)), ("null", group.isNull)]
    ++ reportTexts GroupId.inspect group)

/-- A channel is reported with the one after it. -/
def ChannelId.report (channel : ChannelId) : Document :=
  .list [channel.number, channel.next.number, shown channel, channel.inspect, channel == .zero]

/-- A client is reported by its number. -/
def ClientId.report (client : ClientId) : Document :=
  .list [client.number, shown client, client.inspect]

/-- A transaction is reported by its number. -/
def TransactionId.report (transaction : TransactionId) : Document :=
  .list [transaction.number, transaction.isNull, shown transaction, transaction.inspect]

/-- A key is reported with whether it is one of the two special ones. -/
def ConcurrencyKey.report (key : ConcurrencyKey) : Document :=
  .list [key.number, shown key, key.inspect, key == .management, key == .universal]

/-- A place in a stream is reported by its number. -/
def SequenceNumber.report (sequence : SequenceNumber) : Document :=
  .list [sequence.number, shown sequence, sequence.inspect]

/-- A view of a client is reported by its number. -/
def ClientInstanceId.report (view : ClientInstanceId) : Document :=
  .list [view.number, view == .null, view.inspect]

end Standby
