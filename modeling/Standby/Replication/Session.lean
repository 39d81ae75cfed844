import Standby.Ordered.Set
import Standby.Replication.Deferral
import Standby.Replication.Surroundings

/-!
# Replication sessions

A session follows the stream of one active server. It checks the nesting of the brackets of a
copy, holds back the operations of the one key that is being copied, replays them when the copy
of the key is whole, and hands everything else to its entity as it comes. A fault ends the
session: nothing is held back any more and every later item is refused.
-/
namespace Standby

open Standby.Text

variable {host : Host}

/-- The phase of a session. -/
inductive SessionPhase where
  /-- No copy is going on. -/
  | live
  /-- A copy is going on. -/
  | syncing
  /-- A fault ended the session. -/
  | failed
  /-- The session is over. -/
  | closed
  deriving DecidableEq, Inhabited, Repr

/-- The name of a phase. -/
def SessionPhase.name : SessionPhase → String
  | live => "Live"
  | syncing => "Syncing"
  | failed => "Failed"
  | closed => "Closed"

/-- What became of an accepted item. -/
inductive Admission where
  /-- It was handed to its entity, or acknowledged outright. -/
  | applied
  /-- It is held back; the depth counts it. -/
  | deferred (depth : Nat)
  /-- It cannot be carried out: its payload is not read or its entity cannot be made. -/
  | skipped
  /-- A bracket of a copy was accepted. -/
  | syncControl
  /-- The copy is whole. -/
  | syncCompleted
  deriving DecidableEq, Repr

/-- What a session counts. The counts are exact here; they are those of a node as long as none of
them passes `2 ^ 64 - 1`, the largest that a node can hold. -/
structure SessionStats where
  /-- Live operations handed to entities or acknowledged outright. -/
  applied : Nat
  /-- Live operations held back. -/
  deferred : Nat
  /-- Live operations that were held back and then processed. -/
  replayed : Nat
  /-- Pieces of a copy handed to entities. -/
  syncPayloads : Nat
  /-- Live operations skipped because their payloads were not read. -/
  decodeFailures : Nat
  /-- Entities made. -/
  entitiesCreated : Nat
  deriving DecidableEq, Repr

namespace SessionStats

/-- Nothing has happened. -/
def zero : SessionStats := ⟨0, 0, 0, 0, 0, 0⟩

/-- The inspection of the counts. -/
def inspect (stats : SessionStats) : String :=
  inspectRecord "EngineStats"
    [("applied", toString stats.applied), ("deferred", toString stats.deferred),
      ("replayed", toString stats.replayed), ("sync_payloads", toString stats.syncPayloads),
      ("decode_failures", toString stats.decodeFailures),
      ("entities_created", toString stats.entitiesCreated)]

end SessionStats

/-- The entity that is being copied. -/
structure OpenEntity (host : Host) where
  /-- Its name. -/
  id : EntityId
  /-- Its version. -/
  version : UInt64
  /-- The entity as it was found or made when its copy began. -/
  handle : host.Handle
  /-- The key that is being copied. -/
  openKey : Option ConcurrencyKey
  /-- The keys whose copies are whole. -/
  synced : SortedSet ConcurrencyKey

/-- A replication session and what it acts on. -/
structure Session (host : Host) where
  /-- The active server that the stream comes from. -/
  source : ServerId
  /-- The bounds of the stream. -/
  limits : Limits
  /-- How requests get to their entities. -/
  execution : Execution
  /-- The phase. -/
  phase : SessionPhase
  /-- The entity that is being copied. -/
  openEntity : Option (OpenEntity host)
  /-- The operations held back. -/
  deferred : DeferralTable
  /-- The counts. -/
  stats : SessionStats
  /-- Everything around the session. -/
  around : Surroundings host

/-- What a session answers to an item, and the session after it. -/
abbrev SessionStep (host : Host) : Type := Except ReplicationFault Admission × Session host

namespace Session

/-- A new session. -/
def start (source : ServerId) (limits : Limits) (execution : Execution) (world : host.World) :
    Session host :=
  { source, limits, execution, phase := .live, openEntity := none,
    deferred := .ofLimits limits, stats := .zero, around := .ofWorld world }

/-- A copy is going on. -/
def isSyncing (session : Session host) : Bool := session.phase == .syncing

/-- The name of the entity that is being copied. -/
def openId (session : Session host) : Option EntityId := session.openEntity.map (·.id)

/-- The key that is being copied. -/
def openKey (session : Session host) : Option ConcurrencyKey :=
  session.openEntity.bind (·.openKey)

/-- The number of operations held back for a slot. -/
def deferredDepth (session : Session host) (slot : Slot) : Nat := session.deferred.depth slot

/-- An item refused for its nesting; the session stays as it is. -/
def refuse (session : Session host) (received reason : String) : SessionStep host :=
  (.error (.protocol received reason), session)

/-- Hand a request of the copy to its entity. -/
def dispatchSync (session : Session host) (handle : host.Handle) (action : EntityAction)
    (key : ConcurrencyKey) (body : RequestBody host.Message host.Chunk) : Session host :=
  let request : EntityRequest :=
    { action, source := session.source, client := ⟨0⟩, transaction := .null, key,
      sequence := none }
  { session with
    around := session.around.execute session.execution
      { handle, request, body, completion := .silent } }

/-- Begin the copy of an entity, which is found or made from its configuration. -/
def startEntity (session : Session host) (entity : EntityId) (version : UInt64)
    (config : ByteArray) : SessionStep host :=
  match session.openEntity with
  | some current =>
    session.refuse "start_entity" ("entity " ++ current.id.display ++ " still open")
  | none =>
    match session.around.findOrCreate entity version config with
    | (.error fault, around) => (.error (.entityCreate fault), { session with around })
    | (.ok (handle, made), around) =>
      let created := session.stats.entitiesCreated + if made then 1 else 0
      let session := { session with
        around, stats := { session.stats with entitiesCreated := created } }
      let session := session.dispatchSync handle .syncEntityStart .management .none
      (.ok .syncControl, { session with
        openEntity := some { id := entity, version, handle, openKey := none, synced := .empty } })

/-- The entity that is being copied, if an item is about it. It is looked at once to check the item
and then again to be had. -/
def requireOpen (session : Session host) (entity : EntityId) (version : UInt64) :
    Except String (OpenEntity host) :=
  match session.openEntity with
  | none => .error (entity.display ++ " has no open sync")
  | some current =>
    if current.id = entity ∧ current.version = version then
      match session.openEntity with
      | none => .error (entity.display ++ " has no open sync")
      | some current => .ok current
    else .error (entity.display ++ " v" ++ toString version.toNat ++ " is not the open entity ("
      ++ current.id.display ++ " v" ++ toString current.version.toNat ++ ")")

/-- A key of an entity, for the reasons of refusals. -/
def describeKey (key : ConcurrencyKey) (entity : EntityId) : String :=
  "key " ++ toString key ++ " of " ++ entity.display

/-- Begin the copy of a key; from now on its operations are held back. -/
def startKey (session : Session host) (entity : EntityId) (version : UInt64)
    (key : ConcurrencyKey) : SessionStep host :=
  match session.requireOpen entity version with
  | .error reason => session.refuse "start_key" reason
  | .ok current =>
    match current.openKey with
    | some other => session.refuse "start_key" (describeKey other entity ++ " still open")
    | none =>
      if current.synced.contains key then
        session.refuse "start_key" (describeKey key entity ++ " already synced in this pass")
      else
        match session.deferred.openSlot ⟨entity, key⟩ with
        | (false, _) =>
          session.refuse "start_key" (describeKey key entity ++ " already deferring")
        | (true, deferred) =>
          let session := { session with
            deferred, openEntity := some { current with openKey := some key } }
          (.ok .syncControl, session.dispatchSync current.handle .syncKeyStart key .none)

/-- Hand a piece of the copy of the open key to its entity. -/
def syncPayload (session : Session host) (entity : EntityId) (version : UInt64)
    (key : ConcurrencyKey) (bytes : ByteArray) : SessionStep host :=
  match session.requireOpen entity version with
  | .error reason => session.refuse "sync_payload" reason
  | .ok current =>
    if current.openKey ≠ some key then
      session.refuse "sync_payload" (describeKey key entity ++ " is not open")
    else if session.limits.syncPayloadBytes.toNat < bytes.size then
      (.error (.payloadTooLarge entity key bytes.size session.limits.syncPayloadBytes), session)
    else
      match host.decodeChunk session.around.world entity key bytes with
      | .error cause => (.error (.syncDecode entity key cause), session)
      | .ok chunk =>
        let session := { session with
          stats := { session.stats with syncPayloads := session.stats.syncPayloads + 1 } }
        (.ok .syncControl, session.dispatchSync current.handle .syncPayload key (.chunk chunk))

/-- Hand a live operation to its entity, with its completion. -/
def dispatchLive (session : Session host) (message : ReplicationMessage) (handle : host.Handle)
    (body : RequestBody host.Message host.Chunk) : Session host :=
  let (acks, completion) := (Completion.ofSender message.source message.sequence).receive
  let around := session.around.report completion acks
  let request : EntityRequest :=
    { action := .ofKind message.kind, source := message.source, client := message.client,
      transaction := message.transaction, key := message.key, sequence := some message.sequence }
  { session with
    around := around.execute session.execution { handle, request, body, completion }
    stats := { session.stats with applied := session.stats.applied + 1 } }

/-- Process a live operation: acknowledge it outright if it does nothing, skip it if its entity
cannot be made or its payload is not read, and else hand it to its entity. -/
def process (session : Session host) (message : ReplicationMessage) :
    Admission × Session host :=
  let completion := Completion.ofSender message.source message.sequence
  if message.kind = .noop then
    (.applied, { session with
      around := (session.around.note (.processed message false)).settle completion .complete
      stats := { session.stats with applied := session.stats.applied + 1 } })
  else
    let config := if message.kind = .create then message.payload else .empty
    match session.around.findOrCreate message.entity.id message.entity.version config with
    | (.error _, around) =>
      (.skipped, { session with
        around := (around.note (.processed message true)).settle completion .fail })
    | (.ok (handle, made), around) =>
      let created := session.stats.entitiesCreated + if made then 1 else 0
      let session := { session with
        around, stats := { session.stats with entitiesCreated := created } }
      match message.kind with
      | .invoke =>
        match host.decodeMessage session.around.world message.entity.id message.payload with
        | .error _ =>
          (.skipped, { session with
            around :=
              (session.around.note (.processed message true)).settle completion .retire
            stats :=
              { session.stats with decodeFailures := session.stats.decodeFailures + 1 } })
        | .ok content =>
          let session := { session with around := session.around.note (.processed message false) }
          (.applied, session.dispatchLive message handle (.message content))
      | .create | .reconfigure =>
        let session := { session with around := session.around.note (.processed message false) }
        (.applied, session.dispatchLive message handle (.config message.payload))
      | .destroy | .noop =>
        let session := { session with around := session.around.note (.processed message false) }
        (.applied, session.dispatchLive message handle .none)

/-- Process an operation that was held back. -/
def replay (session : Session host) (message : ReplicationMessage) : Session host :=
  let session := { session with
    stats := { session.stats with replayed := session.stats.replayed + 1 } }
  (session.process message).2

/-- The copy of the open key is whole: process what was held back for it, in order. -/
def endKey (session : Session host) (entity : EntityId) (version : UInt64)
    (key : ConcurrencyKey) : SessionStep host :=
  match session.requireOpen entity version with
  | .error reason => session.refuse "end_key" reason
  | .ok current =>
    if current.openKey ≠ some key then
      session.refuse "end_key" (describeKey key entity ++ " is not open")
    else
      let (held, deferred) := session.deferred.closeSlot ⟨entity, key⟩
      let session := { session with
        deferred
        openEntity := some { current with openKey := none, synced := current.synced.insert key } }
      let session := held.foldl replay session
      (.ok .syncControl, session.dispatchSync current.handle .syncKeyEnd key .none)

/-- The copy of the open entity is whole. -/
def endEntity (session : Session host) (entity : EntityId) (version : UInt64) :
    SessionStep host :=
  match session.requireOpen entity version with
  | .error reason => session.refuse "end_entity" reason
  | .ok current =>
    match current.openKey with
    | some key => session.refuse "end_entity" (describeKey key entity ++ " not closed")
    | none =>
      let session := { session with openEntity := none }
      (.ok .syncControl, session.dispatchSync current.handle .syncEntityEnd .management .none)

/-- The copy is whole. -/
def endSync (session : Session host) (finalBytes : ByteArray) : SessionStep host :=
  match session.openEntity with
  | some current =>
    session.refuse "end_sync" ("entity " ++ current.id.display ++ " still open")
  | none =>
    match session.around.finishSync finalBytes with
    | (.error fault, around) => (.error (.syncComplete fault), { session with around })
    | (.ok _, around) => (.ok .syncCompleted, { session with around, phase := .live })

/-- A copy begins. -/
def startSync (session : Session host) : SessionStep host :=
  if session.isSyncing then session.refuse "start_sync" "sync pass already in progress"
  else (.ok .syncControl, { session with phase := .syncing })

/-- Admit an item of a copy. -/
def admitSync (session : Session host) (message : SyncMessage) : SessionStep host :=
  match message with
  | .startSync => session.startSync
  | message =>
    if session.isSyncing then
      match message with
      | .startSync => session.startSync
      | .startEntity entity version config _ => session.startEntity entity version config
      | .startKey entity version key => session.startKey entity version key
      | .payload entity version key bytes => session.syncPayload entity version key bytes
      | .endKey entity version key => session.endKey entity version key
      | .endEntity entity version => session.endEntity entity version
      | .endSync finalBytes => session.endSync finalBytes
    else session.refuse message.kindName "no sync pass in progress"

/-- Admit a live operation: hold it back if its key is being copied, else process it. -/
def admitLive (session : Session host) (message : ReplicationMessage) : SessionStep host :=
  match session.deferred.offer message with
  | (.deferred depth, deferred) =>
    (.ok (.deferred depth), { session with
      deferred, stats := { session.stats with deferred := session.stats.deferred + 1 } })
  | (.overflow kind limit, _) =>
    (.error (.deferralOverflow message.entity.id message.key kind limit), session)
  | (.notDeferring message, _) =>
    let (admission, session) := session.process message
    (.ok admission, session)

/-- End the session after a fault; what is held back is dropped. -/
def fail (session : Session host) : Session host :=
  { session with
    deferred := session.deferred.discardAll.2, openEntity := none, phase := .failed }

/-- Take one item while the session is neither failed nor closed. -/
def accept (session : Session host) : StreamItem → SessionStep host
  | .sync message => session.admitSync message
  | .replicate message => session.admitLive message

/-- Take one item of the stream. A fault ends the session. -/
def handle (session : Session host) (item : StreamItem) : SessionStep host :=
  match session.phase with
  | .failed => (.error .sessionFailed, session)
  | .closed => (.error .sessionClosed, session)
  | .live | .syncing =>
    match session.accept item with
    | (.error fault, session) =>
      (.error fault, if fault.isFatal then session.fail else session)
    | (.ok admission, session) => (.ok admission, session)

/-- End the session. What is held back is dropped, and a copy that is not whole is reported: it
is never taken up again. -/
def close (session : Session host) : Except ReplicationFault Unit × Session host :=
  match session.phase with
  | .closed => (.ok (), session)
  | phase =>
    let session := { session with
      deferred := session.deferred.discardAll.2, openEntity := none, phase := .closed }
    if phase = .syncing then (.error .syncInterrupted, session) else (.ok (), session)

/-- Let an entity use a completion that it holds. -/
def useCompletion (session : Session host) (action : CompletionUse) : Session host :=
  { session with around := session.around.use action }

/-- The inspection of a session. -/
def inspect (session : Session host) : String :=
  inspectRecord "ReplicationSyncEngine"
    [("source", session.source.inspect), ("phase", session.phase.name),
      ("open_entity", inspectOption EntityId.inspect session.openId),
      ("open_key", inspectOption ConcurrencyKey.inspect session.openKey),
      ("stats", session.stats.inspect)]

end Session
end Standby
