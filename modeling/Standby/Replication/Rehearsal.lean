import Standby.Replication.Session

/-!
# Rehearsals

A rehearsal is a host without real entities: a script says which entities there are, which cannot
be made and what an entity does with its completions. Sessions are tried on rehearsals. Operations
and pieces of a copy are texts in UTF-8.
-/
namespace Standby

/-- What a rehearsed entity does with the completion of a request. -/
inductive Behaviour where
  /-- It carries the request out. -/
  | complete
  /-- It fails. -/
  | fail
  /-- It breaks down, and its completion is dropped. -/
  | breakDown
  /-- It drops the completion. -/
  | forget
  /-- It reports the arrival and carries the request out. -/
  | receive
  /-- It reports the arrival and nothing more. -/
  | retire
  /-- It keeps the completion for later. -/
  | hold
  deriving DecidableEq, Inhabited, Repr

namespace Behaviour

/-- How the completion of a delivery is used at once. -/
def uses (behaviour : Behaviour) (ticket : Ticket) : List CompletionUse :=
  match behaviour with
  | complete => [.settle ticket .complete]
  | fail => [.settle ticket .fail]
  | breakDown => [.settle ticket .drop]
  | forget => [.settle ticket .drop]
  | receive => [.received ticket, .settle ticket .complete]
  | retire => [.settle ticket .retire]
  | hold => []

end Behaviour

/-- An entity of a rehearsal. -/
structure RehearsedEntity where
  /-- Its name. -/
  id : EntityId
  /-- Its version. -/
  version : UInt64
  deriving DecidableEq

/-- The script of a rehearsal and what has come of it. -/
structure Rehearsal where
  /-- The entities, the latest first. -/
  entities : List RehearsedEntity
  /-- Versions of an entity are told apart. -/
  isVersioned : Bool
  /-- The entities that cannot be made. -/
  refused : SortedSet String
  /-- What entities do; those left out carry their requests out. -/
  behaviours : SortedMap String Behaviour
  /-- The work at the end of a copy fails. -/
  failsToFinish : Bool
  /-- The completions that entities have kept, in the order of their requests. -/
  held : Array (Option Ticket)

namespace Rehearsal

/-- A rehearsal without entities. -/
def blank (isVersioned : Bool) : Rehearsal :=
  { entities := [], isVersioned, refused := .empty, behaviours := .empty, failsToFinish := false,
    held := #[] }

/-- Two names at versions mean the same entity. -/
def isSame (rehearsal : Rehearsal) (left right : RehearsedEntity) : Bool :=
  left.id == right.id && (!rehearsal.isVersioned || left.version == right.version)

/-- The entity of a name at a version. -/
def find (rehearsal : Rehearsal) (id : EntityId) (version : UInt64) : Option RehearsedEntity :=
  rehearsal.entities.find? (rehearsal.isSame ⟨id, version⟩)

/-- Take an entity away. -/
def remove (rehearsal : Rehearsal) (entity : RehearsedEntity) : Rehearsal :=
  { rehearsal with
    entities := rehearsal.entities.filter fun other => !rehearsal.isSame entity other }

/-- Have an entity. -/
def register (rehearsal : Rehearsal) (entity : RehearsedEntity) : Rehearsal :=
  { rehearsal with entities := entity :: rehearsal.entities }

/-- Let an entity be refused when it is to be made. -/
def refuse (rehearsal : Rehearsal) (display : String) : Rehearsal :=
  { rehearsal with refused := rehearsal.refused.insert display }

/-- Let an entity be made again. -/
def allow (rehearsal : Rehearsal) (display : String) : Rehearsal :=
  { rehearsal with refused := rehearsal.refused.erase display }

/-- Say what an entity does. -/
def direct (rehearsal : Rehearsal) (display : String) (behaviour : Behaviour) : Rehearsal :=
  { rehearsal with behaviours := rehearsal.behaviours.insert display behaviour }

/-- What an entity does. -/
def behaviourOf (rehearsal : Rehearsal) (id : EntityId) : Behaviour :=
  (rehearsal.behaviours.get? id.display).getD .complete

/-- Make an entity, unless it is refused. -/
def create (rehearsal : Rehearsal) (id : EntityId) (version : UInt64) :
    Except EntityFault RehearsedEntity × Rehearsal :=
  if rehearsal.refused.contains id.display then (.error (.createFailed id "refused"), rehearsal)
  else (.ok ⟨id, version⟩, rehearsal.register ⟨id, version⟩)

/-- A text in UTF-8. -/
def decodeText (bytes : ByteArray) : Except CodecFault String :=
  match String.fromUTF8? bytes with
  | some text => .ok text
  | none => .error ⟨"not utf-8"⟩

/-- A piece of the copy of a key, as a text that names the key. -/
def decodeChunk (key : ConcurrencyKey) (bytes : ByteArray) : Except CodecFault String :=
  match decodeText bytes with
  | .ok text => .ok ("sync:" ++ toString key ++ ":" ++ text)
  | .error fault => .error fault

/-- Do the work at the end of a copy. -/
def finishSync (rehearsal : Rehearsal) : Except EntityFault Unit × Rehearsal :=
  if rehearsal.failsToFinish then (.error (.syncComplete "bookkeeping"), rehearsal)
  else (.ok (), rehearsal)

/-- Let an entity act on a request. -/
def deliver (rehearsal : Rehearsal) (delivery : Delivery RehearsedEntity String String) :
    List CompletionUse × Rehearsal :=
  let behaviour := rehearsal.behaviourOf delivery.handle.id
  let held :=
    if behaviour = .hold then rehearsal.held.push (some delivery.ticket) else rehearsal.held
  (behaviour.uses delivery.ticket, { rehearsal with held })

/-- Take a kept completion from its entity, by its place among those that were kept. -/
def takeHeld (rehearsal : Rehearsal) (place : Nat) : Option Ticket × Rehearsal :=
  match rehearsal.held[place]? with
  | some (some ticket) =>
    (some ticket, { rehearsal with held := rehearsal.held.setIfInBounds place none })
  | _ => (none, rehearsal)

/-- The host of a rehearsal, with the fate of every acknowledgement. -/
abbrev host (transmit : Nat → ServerId → Ack → Except TransportFault Unit) : Host where
  World := Rehearsal
  Handle := RehearsedEntity
  Message := String
  Chunk := String
  entityOf entity := entity.id
  find := find
  create rehearsal id version _ _ := rehearsal.create id version
  decodeMessage _ _ bytes := decodeText bytes
  decodeChunk _ _ key bytes := decodeChunk key bytes
  finishSync rehearsal _ := rehearsal.finishSync
  deliver := deliver
  transmit := transmit

/-- Change the script of a session's rehearsal. -/
def redirect {transmit : Nat → ServerId → Ack → Except TransportFault Unit}
    (change : Rehearsal → Rehearsal) (session : Session (host transmit)) :
    Session (host transmit) :=
  { session with around := { session.around with world := change session.around.world } }

/-- Let an entity use the completion that it kept at a place; says whether it had it. -/
def useHeld {transmit : Nat → ServerId → Ack → Except TransportFault Unit} (place : Nat)
    (uses : Ticket → List CompletionUse) (session : Session (host transmit)) :
    Bool × Session (host transmit) :=
  match session.around.world.takeHeld place with
  | (none, _) => (false, session)
  | (some ticket, world) =>
    (true, (uses ticket).foldl Session.useCompletion (redirect (fun _ => world) session))

end Rehearsal
end Standby
