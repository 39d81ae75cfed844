import Standby.Discovery.Fault
import Standby.Replication.Completion
import Standby.Replication.Fault

/-!
# The host of a replication session

A session asks its host for entities, hands requests to them and sends acknowledgements through
it. A host is a value of functions over a world of its own, so every entity manager, every
behaviour of entities and every pattern of lost acknowledgements is a host, if looking an entity up
and reading a payload leave the world as it is: `find`, `decodeMessage` and `decodeChunk` are
functions of the world and answer alike until it changes. Making an entity, ending a copy and handing
a request on may change it, and so may the entities on their own between two items.
-/
namespace Standby

open Standby.Text

/-- What an entity is asked to do. -/
inductive EntityAction where
  | syncEntityStart
  | syncKeyStart
  | syncPayload
  | syncKeyEnd
  | syncEntityEnd
  | create
  | invoke
  | destroy
  | noop
  | reconfigure
  deriving DecidableEq, Inhabited, Repr

namespace EntityAction

/-- The name of an action. -/
def name : EntityAction → String
  | syncEntityStart => "SyncEntityStart"
  | syncKeyStart => "SyncKeyStart"
  | syncPayload => "SyncPayload"
  | syncKeyEnd => "SyncKeyEnd"
  | syncEntityEnd => "SyncEntityEnd"
  | create => "Create"
  | invoke => "Invoke"
  | destroy => "Destroy"
  | noop => "Noop"
  | reconfigure => "Reconfigure"

/-- All actions. -/
def all : List EntityAction :=
  [syncEntityStart, syncKeyStart, syncPayload, syncKeyEnd, syncEntityEnd, create, invoke, destroy,
    noop, reconfigure]

/-- An action of a copy. -/
def isSync : EntityAction → Bool
  | syncEntityStart => true
  | syncKeyStart => true
  | syncPayload => true
  | syncKeyEnd => true
  | syncEntityEnd => true
  | _ => false

/-- The action of a live operation. -/
def ofKind : OperationKind → EntityAction
  | .create => create
  | .invoke => invoke
  | .destroy => destroy
  | .noop => noop
  | .reconfigure => reconfigure

end EntityAction

/-- A request to an entity. -/
structure EntityRequest where
  /-- What is asked. -/
  action : EntityAction
  /-- The server it comes from. -/
  source : ServerId
  /-- The client it is for. -/
  client : ClientId
  /-- The client's transaction. -/
  transaction : TransactionId
  /-- The key that orders it. -/
  key : ConcurrencyKey
  /-- The place of a live operation in its stream; a copy has none. -/
  sequence : Option SequenceNumber
  deriving DecidableEq

/-- The inspection of a request. -/
def EntityRequest.inspect (request : EntityRequest) : String :=
  inspectRecord "EntityRequest"
    [("action", request.action.name), ("source", request.source.inspect),
      ("client", request.client.inspect), ("transaction", request.transaction.inspect),
      ("key", request.key.inspect),
      ("sequence", inspectOption SequenceNumber.inspect request.sequence)]

/-- What comes with a request: decoded operations and pieces of a copy are values of the host. -/
inductive RequestBody (Message Chunk : Type) where
  /-- Nothing. -/
  | none
  /-- The configuration of an entity. -/
  | config (bytes : ByteArray)
  /-- A decoded live operation. -/
  | message (content : Message)
  /-- A decoded piece of a copy. -/
  | chunk (content : Chunk)

/-- The inspection of what comes with a request. -/
def RequestBody.inspect {Message Chunk : Type} : RequestBody Message Chunk → String
  | none => "None"
  | config bytes => inspectWrapped "Config" (toString bytes.size ++ " bytes")
  | message _ => inspectWrapped "Message" ".."
  | chunk _ => inspectWrapped "Sync" ".."

/-- The number of a delivered request, by which its completion is known until it is given up. -/
abbrev Ticket : Type := Nat

/-- What an entity does with a completion, its latest or one that it held back. -/
inductive CompletionUse where
  /-- It reports the arrival. -/
  | received (ticket : Ticket)
  /-- It gives the completion up. -/
  | settle (ticket : Ticket) (how : Settlement)
  deriving DecidableEq

/-- The completion that is used. -/
def CompletionUse.ticket : CompletionUse → Ticket
  | received ticket => ticket
  | settle ticket _ => ticket

/-- A request on its way to an entity. -/
structure Delivery (Handle Message Chunk : Type) where
  /-- The entity as the manager knows it. -/
  handle : Handle
  /-- What is asked. -/
  request : EntityRequest
  /-- What comes with it. -/
  body : RequestBody Message Chunk
  /-- The number of the delivery. -/
  ticket : Ticket
  /-- The completion reports nothing. -/
  silent : Bool

/-- The entities of a node and the way back to the active server. -/
structure Host where
  /-- What the entities and their manager keep. -/
  World : Type
  /-- An entity as the manager hands it out. -/
  Handle : Type
  /-- A decoded live operation. -/
  Message : Type
  /-- A decoded piece of a copy. -/
  Chunk : Type
  /-- The name of an entity. -/
  entityOf : Handle → EntityId
  /-- The entity of a name at a version. -/
  find : World → EntityId → UInt64 → Option Handle
  /-- Make an entity from a configuration; it may be told apart from those that may be removed. -/
  create : World → EntityId → UInt64 → ByteArray → Bool → Except EntityFault Handle × World
  /-- Read the payload of a live operation. -/
  decodeMessage : World → EntityId → ByteArray → Except CodecFault Message
  /-- Read a piece of a copy. -/
  decodeChunk : World → EntityId → ConcurrencyKey → ByteArray → Except CodecFault Chunk
  /-- Do the work at the end of a copy. -/
  finishSync : World → ByteArray → Except EntityFault Unit × World
  /-- Hand a request to its entity, which then uses completions in some order. One that is left
  unused is held. An entity that breaks down drops its completion. -/
  deliver : World → Delivery Handle Message Chunk → List CompletionUse × World
  /-- The fate of an acknowledgement, by the number of those sent before it. -/
  transmit : Nat → ServerId → Ack → Except TransportFault Unit

end Standby
