import Standby.Proofs.Replication.Nesting

/-!
# What a session does with one item

`Session.Processes` lists the four things that can become of a live operation once it is
processed. `Session.Accepted` lists the items that a session takes, each with its guards and the
session after it, and `Session.Refused` the faults. A coherent session that still runs does one
of these with every item, and nothing else (`Session.handled`), so an invariant of sessions
is proved by going through the two lists.
-/
namespace Standby

variable {host : Host}

namespace Session

/-- The configuration that an entity is made from when a live operation needs it. -/
def configOf (message : ReplicationMessage) : ByteArray :=
  if message.kind = .create then message.payload else .empty

/-- What a live operation brings to its entity, if its payload is read. -/
def bodyOf (world : host.World) (message : ReplicationMessage) :
    Except CodecFault (RequestBody host.Message host.Chunk) :=
  match message.kind with
  | .invoke => (host.decodeMessage world message.entity.id message.payload).map .message
  | .create | .reconfigure => .ok (.config message.payload)
  | .destroy | .noop => .ok .none

/-- The completion of a live operation that was not acknowledged yet. -/
def completionOf (message : ReplicationMessage) : Completion :=
  .ofSender message.source message.sequence

/-- The session with other surroundings, which counts an entity that was made. -/
def adopt (session : Session host) (around : Surroundings host) (made : Bool) : Session host :=
  { session with
    around
    stats := { session.stats with
      entitiesCreated := session.stats.entitiesCreated + if made then 1 else 0 } }

/-- What becomes of a live operation that is processed. -/
inductive Processes (session : Session host) (message : ReplicationMessage) :
    Admission → Session host → Prop where
  /-- It does nothing and is acknowledged outright. -/
  | acknowledged (idle : message.kind = .noop) :
      Processes session message .applied
        { session with
          around := (session.around.note (.processed message false)).settle
            (completionOf message) .complete
          stats := { session.stats with applied := session.stats.applied + 1 } }
  /-- Its entity cannot be made. -/
  | unmade {fault : EntityFault} {around : Surroundings host} (acts : message.kind ≠ .noop)
      (found : session.around.findOrCreate message.entity.id message.entity.version
        (configOf message) = (.error fault, around)) :
      Processes session message .skipped
        { session with
          around := (around.note (.processed message true)).settle (completionOf message) .fail }
  /-- Its payload is not read. -/
  | unread {handle : host.Handle} {made : Bool} {around : Surroundings host} {fault : CodecFault}
      (acts : message.kind ≠ .noop)
      (found : session.around.findOrCreate message.entity.id message.entity.version
        (configOf message) = (.ok (handle, made), around))
      (unread : bodyOf around.world message = .error fault) :
      Processes session message .skipped
        { session.adopt around made with
          around := (around.note (.processed message true)).settle (completionOf message) .retire
          stats := { (session.adopt around made).stats with
            decodeFailures := session.stats.decodeFailures + 1 } }
  /-- It is handed to its entity. -/
  | dispatched {handle : host.Handle} {made : Bool} {around : Surroundings host}
      {body : RequestBody host.Message host.Chunk} (acts : message.kind ≠ .noop)
      (found : session.around.findOrCreate message.entity.id message.entity.version
        (configOf message) = (.ok (handle, made), around))
      (read : bodyOf around.world message = .ok body) :
      Processes session message .applied
        (({ session.adopt around made with
            around := around.note (.processed message false) } : Session host).dispatchLive
          message handle body)

/-- A live operation that is processed meets one of the four fates. -/
theorem processes (session : Session host) (message : ReplicationMessage) :
    session.Processes message (session.process message).1 (session.process message).2 := by
  by_cases idle : message.kind = .noop
  · simp only [process, if_pos idle]
    exact .acknowledged idle
  · simp only [process, if_neg idle]
    split
    · rename_i fault around found
      exact .unmade idle found
    · rename_i handle made around found
      cases kind : message.kind with
      | invoke =>
        dsimp only
        split
        · rename_i fault refused
          have unread : bodyOf around.world message = .error fault := by
            simp only [bodyOf, kind, refused, Except.map]
          exact .unread idle found unread
        · rename_i content read
          exact .dispatched idle found (by simp only [bodyOf, kind, read, Except.map])
      | create => exact .dispatched idle found (by simp only [bodyOf, kind])
      | reconfigure => exact .dispatched idle found (by simp only [bodyOf, kind])
      | destroy => exact .dispatched idle found (by simp only [bodyOf, kind])
      | noop => exact absurd kind idle

/-- The session once the copy of its open key is whole and before what was held back for the key
is processed. -/
def endingKey (session : Session host) (current : OpenEntity host) (key : ConcurrencyKey) :
    Session host :=
  { session with
    deferred := (session.deferred.closeSlot ⟨current.id, key⟩).2
    openEntity := some { current with openKey := none, synced := current.synced.insert key } }

/-- The items that a session takes, with its answers and the sessions after them. -/
inductive Accepted (session : Session host) : StreamItem → Admission → Session host → Prop where
  /-- A copy begins. -/
  | startSync (idle : session.phase ≠ .syncing) :
      Accepted session (.sync .startSync) .syncControl { session with phase := .syncing }
  /-- The copy of an entity begins. -/
  | startEntity {entity : EntityId} {version : UInt64} {config : ByteArray} {isNew : Bool}
      {handle : host.Handle} {made : Bool} {around : Surroundings host}
      (syncing : session.phase = .syncing) (closed : session.openEntity = none)
      (found : session.around.findOrCreate entity version config = (.ok (handle, made), around)) :
      Accepted session (.sync (.startEntity entity version config isNew)) .syncControl
        { (session.adopt around made).dispatchSync handle .syncEntityStart .management .none with
          openEntity := some
            { id := entity, version, handle, openKey := none, synced := .empty } }
  /-- The copy of a key begins. -/
  | startKey {current : OpenEntity host} {key : ConcurrencyKey}
      (syncing : session.phase = .syncing) (isOpen : session.openEntity = some current)
      (between : current.openKey = none) (fresh : current.synced.contains key = false) :
      Accepted session (.sync (.startKey current.id current.version key)) .syncControl
        (({ session with
            deferred := (session.deferred.openSlot ⟨current.id, key⟩).2
            openEntity := some { current with openKey := some key } } :
          Session host).dispatchSync current.handle .syncKeyStart key .none)
  /-- A piece of the copy of a key. -/
  | payload {current : OpenEntity host} {key : ConcurrencyKey} {bytes : ByteArray}
      {chunk : host.Chunk}
      (syncing : session.phase = .syncing) (isOpen : session.openEntity = some current)
      (within : current.openKey = some key)
      (fits : bytes.size ≤ session.limits.syncPayloadBytes.toNat)
      (read : host.decodeChunk session.around.world current.id key bytes = .ok chunk) :
      Accepted session (.sync (.payload current.id current.version key bytes)) .syncControl
        (({ session with
            stats := { session.stats with syncPayloads := session.stats.syncPayloads + 1 } } :
          Session host).dispatchSync current.handle .syncPayload key (.chunk chunk))
  /-- The copy of a key is whole. -/
  | endKey {current : OpenEntity host} {key : ConcurrencyKey}
      (syncing : session.phase = .syncing) (isOpen : session.openEntity = some current)
      (within : current.openKey = some key) :
      Accepted session (.sync (.endKey current.id current.version key)) .syncControl
        (((session.deferred.held ⟨current.id, key⟩).foldl replay
          (session.endingKey current key)).dispatchSync current.handle .syncKeyEnd key .none)
  /-- The copy of an entity is whole. -/
  | endEntity {current : OpenEntity host}
      (syncing : session.phase = .syncing) (isOpen : session.openEntity = some current)
      (between : current.openKey = none) :
      Accepted session (.sync (.endEntity current.id current.version)) .syncControl
        (({ session with openEntity := none } : Session host).dispatchSync current.handle
          .syncEntityEnd .management .none)
  /-- The copy is whole. -/
  | endSync {finalBytes : ByteArray} {around : Surroundings host}
      (syncing : session.phase = .syncing) (closed : session.openEntity = none)
      (finished : session.around.finishSync finalBytes = (.ok (), around)) :
      Accepted session (.sync (.endSync finalBytes)) .syncCompleted
        { session with around, phase := .live }
  /-- A live operation is held back. -/
  | deferred {message : ReplicationMessage} (isOpen : session.openSlot = some message.slot)
      (room : session.deferred.HasRoom message) :
      Accepted session (.replicate message)
        (.deferred ((session.deferred.held message.slot).length + 1))
        { session with
          deferred := (session.deferred.offer message).2
          stats := { session.stats with deferred := session.stats.deferred + 1 } }
  /-- A live operation is processed at once. -/
  | processed {message : ReplicationMessage} (elsewhere : session.openSlot ≠ some message.slot) :
      Accepted session (.replicate message) (session.process message).1 (session.process message).2

/-- The fault of a live operation for which there is no room: it names the first bound that the
operation passes. -/
def overflowOf (session : Session host) (message : ReplicationMessage) : ReplicationFault :=
  if session.deferred.maxEvents.toNat ≤ (session.deferred.held message.slot).length then
    .deferralOverflow message.entity.id message.key .events session.deferred.maxEvents
  else .deferralOverflow message.entity.id message.key .bytes session.deferred.maxBytes

/-- The items that a session refuses, with their faults and the surroundings after them. -/
inductive Refused (session : Session host) :
    StreamItem → ReplicationFault → Surroundings host → Prop where
  /-- The item may not come at its place. -/
  | misplaced {message : SyncMessage} (reason : String)
      (broken : session.nesting.next? message = none) :
      Refused session (.sync message) (.protocol message.kindName reason) session.around
  /-- The entity of a copy cannot be made. -/
  | unmade {entity : EntityId} {version : UInt64} {config : ByteArray} {isNew : Bool}
      {fault : EntityFault} {around : Surroundings host}
      (syncing : session.phase = .syncing) (closed : session.openEntity = none)
      (found : session.around.findOrCreate entity version config = (.error fault, around)) :
      Refused session (.sync (.startEntity entity version config isNew)) (.entityCreate fault)
        around
  /-- A piece of a copy is too large. -/
  | oversized {current : OpenEntity host} {key : ConcurrencyKey} {bytes : ByteArray}
      (syncing : session.phase = .syncing) (isOpen : session.openEntity = some current)
      (within : current.openKey = some key)
      (exceeds : session.limits.syncPayloadBytes.toNat < bytes.size) :
      Refused session (.sync (.payload current.id current.version key bytes))
        (.payloadTooLarge current.id key bytes.size session.limits.syncPayloadBytes)
        session.around
  /-- A piece of a copy is not read. -/
  | unread {current : OpenEntity host} {key : ConcurrencyKey} {bytes : ByteArray}
      {fault : CodecFault}
      (syncing : session.phase = .syncing) (isOpen : session.openEntity = some current)
      (within : current.openKey = some key)
      (fits : bytes.size ≤ session.limits.syncPayloadBytes.toNat)
      (unread : host.decodeChunk session.around.world current.id key bytes = .error fault) :
      Refused session (.sync (.payload current.id current.version key bytes))
        (.syncDecode current.id key fault) session.around
  /-- The work at the end of a copy fails. -/
  | unfinished {finalBytes : ByteArray} {fault : EntityFault} {around : Surroundings host}
      (syncing : session.phase = .syncing) (closed : session.openEntity = none)
      (finished : session.around.finishSync finalBytes = (.error fault, around)) :
      Refused session (.sync (.endSync finalBytes)) (.syncComplete fault) around
  /-- More would be held back than the bounds allow. -/
  | overflow {message : ReplicationMessage} (isOpen : session.openSlot = some message.slot)
      (full : ¬ session.deferred.HasRoom message) :
      Refused session (.replicate message) (session.overflowOf message) session.around

/-- What a session that still runs answers to an item, and the session after it. -/
inductive Outcome (session : Session host) (item : StreamItem) : SessionStep host → Prop where
  /-- The item was taken. -/
  | accepted {admission : Admission} {next : Session host}
      (accepted : session.Accepted item admission next) : Outcome session item (.ok admission, next)
  /-- The item was refused. -/
  | refused {fault : ReplicationFault} {around : Surroundings host}
      (refused : session.Refused item fault around) :
      Outcome session item (.error fault, { session with around })

variable {session : Session host}

/-- The second look at the open entity finds what the first one found. -/
theorem requireOpen_of_some {current : OpenEntity host} (isOpen : session.openEntity = some current)
    (entity : EntityId) (version : UInt64) :
    session.requireOpen entity version =
      if current.id = entity ∧ current.version = version then .ok current
      else .error (entity.display ++ " v" ++ toString version.toNat ++ " is not the open entity ("
        ++ current.id.display ++ " v" ++ toString current.version.toNat ++ ")") := by
  simp only [requireOpen, isOpen]

/-- The open entity that an item is about. -/
theorem requireOpen_eq_ok {entity : EntityId} {version : UInt64} {current : OpenEntity host}
    (found : session.requireOpen entity version = .ok current) :
    session.openEntity = some current ∧ current.id = entity ∧ current.version = version := by
  cases isOpen : session.openEntity with
  | none =>
    simp only [requireOpen, isOpen] at found
    contradiction
  | some other =>
    rw [requireOpen_of_some isOpen] at found
    split at found
    · rename_i same
      cases found
      exact ⟨rfl, same⟩
    · contradiction

/-- An item about another entity than the open one finds no bracket at its place. -/
theorem requireOpen_eq_error {entity : EntityId} {version : UInt64} {reason : String}
    (missing : session.requireOpen entity version = .error reason) :
    ∀ current, session.openEntity = some current →
      ¬ (current.id = entity ∧ current.version = version) := by
  intro current isOpen same
  rw [requireOpen_of_some isOpen, if_pos same] at missing
  contradiction

/-- The place of a session within an entity whose key is not open. -/
theorem nesting_of_between {current : OpenEntity host} (isOpen : session.openEntity = some current)
    (between : current.openKey = none) :
    session.nesting = .entity current.id current.version current.synced := by
  simp only [nesting, isOpen, between]

/-- The place of a session within a key. -/
theorem nesting_of_within {current : OpenEntity host} {key : ConcurrencyKey}
    (isOpen : session.openEntity = some current) (within : current.openKey = some key) :
    session.nesting = .key current.id current.version current.synced key := by
  simp only [nesting, isOpen, within]

/-- The place of a session between two entities. -/
theorem nesting_of_copy (closed : session.openEntity = none) (syncing : session.phase = .syncing) :
    session.nesting = .copy := by
  simp [nesting, closed, isSyncing, syncing]

/-- The place of a session outside of a copy. -/
theorem nesting_of_idle (closed : session.openEntity = none) (idle : session.phase ≠ .syncing) :
    session.nesting = .idle := by
  simp [nesting, closed, isSyncing, idle]

/-- An item that is about an open key or entity is misplaced when another one is open. -/
theorem next?_of_requireOpen {entity : EntityId} {version : UInt64} {reason : String}
    {message : SyncMessage} (missing : session.requireOpen entity version = .error reason)
    (about : (∃ key, message = .startKey entity version key) ∨
      (∃ key bytes, message = .payload entity version key bytes) ∨
      (∃ key, message = .endKey entity version key) ∨ message = .endEntity entity version) :
    session.nesting.next? message = none := by
  have elsewhere := requireOpen_eq_error missing
  cases isOpen : session.openEntity with
  | none =>
    have place : session.nesting = .copy ∨ session.nesting = .idle := by
      by_cases syncing : session.phase = .syncing
      · exact .inl (nesting_of_copy isOpen syncing)
      · exact .inr (nesting_of_idle isOpen syncing)
    rcases place with place | place <;> rw [place] <;>
      rcases about with ⟨_, rfl⟩ | ⟨_, _, rfl⟩ | ⟨_, rfl⟩ | rfl <;> rfl
  | some current =>
    have differs := elsewhere current isOpen
    cases within : current.openKey with
    | none =>
      rw [nesting_of_between isOpen within]
      rcases about with ⟨_, rfl⟩ | ⟨_, _, rfl⟩ | ⟨_, rfl⟩ | rfl
      · exact if_neg fun same => differs ⟨same.1, same.2.1⟩
      · rfl
      · rfl
      · exact if_neg differs
    | some key =>
      rw [nesting_of_within isOpen within]
      rcases about with ⟨_, rfl⟩ | ⟨_, _, rfl⟩ | ⟨_, rfl⟩ | rfl
      · rfl
      · exact if_neg fun same => differs ⟨same.1, same.2.1⟩
      · exact if_neg fun same => differs ⟨same.1, same.2.1⟩
      · rfl

/-- An item that is about a key is misplaced when that key is not the open one. -/
theorem next?_of_elsewhere {current : OpenEntity host} {key : ConcurrencyKey}
    {message : SyncMessage} (isOpen : session.openEntity = some current)
    (elsewhere : current.openKey ≠ some key)
    (about : (∃ bytes, message = .payload current.id current.version key bytes) ∨
      message = .endKey current.id current.version key) :
    session.nesting.next? message = none := by
  cases within : current.openKey with
  | none =>
    rw [nesting_of_between isOpen within]
    rcases about with ⟨_, rfl⟩ | rfl <;> rfl
  | some other =>
    have differs : other ≠ key := fun same => elsewhere (by rw [within, same])
    rw [nesting_of_within isOpen within]
    rcases about with ⟨_, rfl⟩ | rfl <;> exact if_neg fun same => differs same.2.2

/-- A session within an entity knows no place for the beginning of another one. -/
theorem next?_startEntity_of_some {current : OpenEntity host}
    (isOpen : session.openEntity = some current) (entity : EntityId) (version : UInt64)
    (config : ByteArray) (isNew : Bool) :
    session.nesting.next? (.startEntity entity version config isNew) = none := by
  cases within : current.openKey with
  | none => rw [nesting_of_between isOpen within]; rfl
  | some key => rw [nesting_of_within isOpen within]; rfl

/-- A session within an entity knows no place for the end of the copy. -/
theorem next?_endSync_of_some {current : OpenEntity host}
    (isOpen : session.openEntity = some current) (finalBytes : ByteArray) :
    session.nesting.next? (.endSync finalBytes) = none := by
  cases within : current.openKey with
  | none => rw [nesting_of_between isOpen within]; rfl
  | some key => rw [nesting_of_within isOpen within]; rfl

/-- Within a copy there is no place for the beginning of another one. -/
theorem next?_startSync_of_syncing (syncing : session.phase = .syncing) :
    session.nesting.next? .startSync = none := by
  cases isOpen : session.openEntity with
  | none => rw [nesting_of_copy isOpen syncing]; rfl
  | some current =>
    cases within : current.openKey with
    | none => rw [nesting_of_between isOpen within]; rfl
    | some key => rw [nesting_of_within isOpen within]; rfl

/-- Outside of a copy there is a place only for the beginning of one. -/
theorem next?_of_not_syncing (coherent : session.Coherent) (idle : session.phase ≠ .syncing)
    {message : SyncMessage} (other : message ≠ .startSync) :
    session.nesting.next? message = none := by
  rw [nesting_of_idle (coherent.openEntity_of_not_syncing idle) idle]
  cases message <;> first | rfl | exact absurd rfl other

/-- The beginning of a copy is taken or refused. -/
theorem startSync_outcome (session : Session host) :
    session.Outcome (.sync .startSync) session.startSync := by
  by_cases syncing : session.phase = .syncing
  · have refused : session.startSync =
        session.refuse "start_sync" "sync pass already in progress" := by
      simp [startSync, isSyncing, syncing]
    rw [refused]
    exact .refused (.misplaced _ (next?_startSync_of_syncing syncing))
  · have taken : session.startSync = (.ok .syncControl, { session with phase := .syncing }) := by
      simp [startSync, isSyncing, syncing]
    rw [taken]
    exact .accepted (.startSync syncing)

/-- The beginning of the copy of an entity is taken or refused. -/
theorem startEntity_outcome (syncing : session.phase = .syncing) (entity : EntityId)
    (version : UInt64) (config : ByteArray) (isNew : Bool) :
    session.Outcome (.sync (.startEntity entity version config isNew))
      (session.startEntity entity version config) := by
  unfold startEntity
  split
  · rename_i current isOpen
    exact .refused (.misplaced _ (next?_startEntity_of_some isOpen _ _ _ _))
  · rename_i closed
    split
    · rename_i fault around found
      exact .refused (.unmade syncing closed found)
    · rename_i handle made around found
      exact .accepted (.startEntity syncing closed found)

/-- The beginning of the copy of a key is taken or refused; its slot is never open before. -/
theorem startKey_outcome (coherent : session.Coherent) (syncing : session.phase = .syncing)
    (entity : EntityId) (version : UInt64) (key : ConcurrencyKey) :
    session.Outcome (.sync (.startKey entity version key))
      (session.startKey entity version key) := by
  unfold startKey
  split
  · rename_i reason missing
    exact .refused (.misplaced _ (next?_of_requireOpen missing (.inl ⟨key, rfl⟩)))
  · rename_i current found
    obtain ⟨isOpen, rfl, rfl⟩ := requireOpen_eq_ok found
    split
    · rename_i other within
      exact .refused (.misplaced _ (by rw [nesting_of_within isOpen within]; rfl))
    · rename_i between
      cases synced : current.synced.contains key with
      | true =>
        exact .refused (.misplaced _ (by
          rw [nesting_of_between isOpen between]
          exact if_neg fun same => by simp [synced] at same))
      | false =>
        have closed : session.deferred.isOpen ⟨current.id, key⟩ = false :=
          coherent.isOpen_eq_false (by rw [openSlot_of_some isOpen, between]; nofun)
        rw [DeferralTable.openSlot_of_closed closed]
        simp only [Bool.false_eq_true, ↓reduceIte]
        have accepted := Accepted.startKey syncing isOpen between synced
        rw [DeferralTable.openSlot_of_closed closed] at accepted
        exact .accepted accepted

/-- A piece of a copy is taken or refused. -/
theorem syncPayload_outcome (syncing : session.phase = .syncing) (entity : EntityId)
    (version : UInt64) (key : ConcurrencyKey) (bytes : ByteArray) :
    session.Outcome (.sync (.payload entity version key bytes))
      (session.syncPayload entity version key bytes) := by
  unfold syncPayload
  split
  · rename_i reason missing
    exact .refused (.misplaced _ (next?_of_requireOpen missing (.inr (.inl ⟨key, bytes, rfl⟩))))
  · rename_i current found
    obtain ⟨isOpen, rfl, rfl⟩ := requireOpen_eq_ok found
    split
    · rename_i elsewhere
      exact .refused (.misplaced _ (next?_of_elsewhere isOpen elsewhere (.inl ⟨bytes, rfl⟩)))
    · rename_i within
      rw [Decidable.not_not] at within
      split
      · rename_i exceeds
        exact .refused (.oversized syncing isOpen within exceeds)
      · rename_i fits
        split
        · rename_i fault unread
          exact .refused (.unread syncing isOpen within (Nat.not_lt.mp fits) unread)
        · rename_i chunk read
          exact .accepted (.payload syncing isOpen within (Nat.not_lt.mp fits) read)

/-- The end of the copy of a key is taken or refused. -/
theorem endKey_outcome (syncing : session.phase = .syncing) (entity : EntityId)
    (version : UInt64) (key : ConcurrencyKey) :
    session.Outcome (.sync (.endKey entity version key)) (session.endKey entity version key) := by
  unfold endKey
  split
  · rename_i reason missing
    exact .refused (.misplaced _ (next?_of_requireOpen missing (.inr (.inr (.inl ⟨key, rfl⟩)))))
  · rename_i current found
    obtain ⟨isOpen, rfl, rfl⟩ := requireOpen_eq_ok found
    split
    · rename_i elsewhere
      exact .refused (.misplaced _ (next?_of_elsewhere isOpen elsewhere (.inr rfl)))
    · rename_i within
      rw [Decidable.not_not] at within
      exact .accepted (.endKey syncing isOpen within)

/-- The end of the copy of an entity is taken or refused. -/
theorem endEntity_outcome (syncing : session.phase = .syncing) (entity : EntityId)
    (version : UInt64) :
    session.Outcome (.sync (.endEntity entity version)) (session.endEntity entity version) := by
  unfold endEntity
  split
  · rename_i reason missing
    exact .refused (.misplaced _ (next?_of_requireOpen missing (.inr (.inr (.inr rfl)))))
  · rename_i current found
    obtain ⟨isOpen, rfl, rfl⟩ := requireOpen_eq_ok found
    split
    · rename_i key within
      exact .refused (.misplaced _ (by rw [nesting_of_within isOpen within]; rfl))
    · rename_i between
      exact .accepted (.endEntity syncing isOpen between)

/-- The end of a copy is taken or refused. -/
theorem endSync_outcome (syncing : session.phase = .syncing) (finalBytes : ByteArray) :
    session.Outcome (.sync (.endSync finalBytes)) (session.endSync finalBytes) := by
  unfold endSync
  split
  · rename_i current isOpen
    exact .refused (.misplaced _ (next?_endSync_of_some isOpen finalBytes))
  · rename_i closed
    split
    · rename_i fault around finished
      exact .refused (.unfinished syncing closed finished)
    · rename_i around finished
      exact .accepted (.endSync syncing closed finished)

/-- An item of a copy is taken or refused. -/
theorem admitSync_outcome (coherent : session.Coherent) (message : SyncMessage) :
    session.Outcome (.sync message) (session.admitSync message) := by
  by_cases start : message = .startSync
  · subst start
    exact startSync_outcome session
  · by_cases syncing : session.phase = .syncing
    · have running : session.isSyncing = true := by simp [isSyncing, syncing]
      cases message with
      | startSync => exact absurd rfl start
      | startEntity entity version config isNew =>
        have taken : session.admitSync (.startEntity entity version config isNew) =
            session.startEntity entity version config := if_pos running
        rw [taken]
        exact startEntity_outcome syncing entity version config isNew
      | startKey entity version key =>
        have taken : session.admitSync (.startKey entity version key) =
            session.startKey entity version key := if_pos running
        rw [taken]
        exact startKey_outcome coherent syncing entity version key
      | payload entity version key bytes =>
        have taken : session.admitSync (.payload entity version key bytes) =
            session.syncPayload entity version key bytes := if_pos running
        rw [taken]
        exact syncPayload_outcome syncing entity version key bytes
      | endKey entity version key =>
        have taken : session.admitSync (.endKey entity version key) =
            session.endKey entity version key := if_pos running
        rw [taken]
        exact endKey_outcome syncing entity version key
      | endEntity entity version =>
        have taken : session.admitSync (.endEntity entity version) =
            session.endEntity entity version := if_pos running
        rw [taken]
        exact endEntity_outcome syncing entity version
      | endSync finalBytes =>
        have taken : session.admitSync (.endSync finalBytes) = session.endSync finalBytes :=
          if_pos running
        rw [taken]
        exact endSync_outcome syncing finalBytes
    · have stopped : ¬ session.isSyncing = true := by simp [isSyncing, syncing]
      have refused : session.admitSync message =
          session.refuse message.kindName "no sync pass in progress" := by
        cases message <;> first | exact if_neg stopped | exact absurd rfl start
      rw [refused]
      exact .refused (.misplaced _ (next?_of_not_syncing coherent syncing start))

/-- A live operation is held back, processed or refused. -/
theorem admitLive_outcome (coherent : session.Coherent) (message : ReplicationMessage) :
    session.Outcome (.replicate message) (session.admitLive message) := by
  unfold admitLive
  by_cases isOpen : session.openSlot = some message.slot
  · have diverted := (coherent.isOpen_iff message.slot).mpr isOpen
    by_cases room : session.deferred.HasRoom message
    · have held : session.deferred.offer message =
          (.deferred ((session.deferred.held message.slot).length + 1),
            (session.deferred.offer message).2) :=
        Prod.ext (DeferralTable.offer_of_room diverted room) rfl
      rw [held]
      exact .accepted (.deferred isOpen room)
    · have refused := Refused.overflow isOpen room
      rw [DeferralTable.offer_of_full diverted room]
      unfold overflowOf at refused
      by_cases events :
          session.deferred.maxEvents.toNat ≤ (session.deferred.held message.slot).length
      · rw [if_pos events] at refused ⊢
        exact .refused refused
      · rw [if_neg events] at refused ⊢
        exact .refused refused
  · rw [DeferralTable.offer_of_closed (coherent.isOpen_eq_false isOpen)]
    exact .accepted (.processed isOpen)

/-- A coherent session takes an item in one of the listed ways or refuses it in one of them. -/
theorem accept_outcome (coherent : session.Coherent) (item : StreamItem) :
    session.Outcome item (session.accept item) := by
  cases item with
  | sync message => exact admitSync_outcome coherent message
  | replicate message => exact admitLive_outcome coherent message

/-- The session after a fault, whose surroundings may have changed before it. -/
def failAt (session : Session host) (around : Surroundings host) : Session host :=
  ({ session with around } : Session host).fail

/-- A session that neither failed nor was closed. -/
def IsRunning (session : Session host) : Prop := session.phase = .live ∨ session.phase = .syncing

instance : Decidable session.IsRunning := inferInstanceAs (Decidable (_ ∨ _))

/-- Every fault of a running session ends it. -/
theorem Refused.isFatal {item : StreamItem} {fault : ReplicationFault}
    {around : Surroundings host} (refused : session.Refused item fault around) :
    fault.isFatal = true := by
  cases refused with
  | overflow isOpen full =>
    unfold overflowOf
    split <;> rfl
  | _ => rfl

/-- What a session answers to an item in any phase, and the session after it. -/
inductive Handled (session : Session host) (item : StreamItem) : SessionStep host → Prop where
  /-- The item was taken. -/
  | accepted {admission : Admission} {next : Session host} (running : session.IsRunning)
      (accepted : session.Accepted item admission next) : Handled session item (.ok admission, next)
  /-- The item was refused, which ends the session. -/
  | refused {fault : ReplicationFault} {around : Surroundings host} (running : session.IsRunning)
      (refused : session.Refused item fault around) :
      Handled session item (.error fault, session.failAt around)
  /-- The session was over. -/
  | ignored {fault : ReplicationFault} (stopped : ¬ session.IsRunning)
      (known : fault = .sessionFailed ∨ fault = .sessionClosed) :
      Handled session item (.error fault, session)

/-- A running session takes an item and goes on, or refuses it and fails. -/
theorem handled_of_running (coherent : session.Coherent) (running : session.IsRunning)
    (item : StreamItem) : session.Handled item (session.handle item) := by
  have outcome := accept_outcome coherent item
  rcases step : session.accept item with ⟨answer, next⟩
  rw [step] at outcome
  cases outcome with
  | @accepted admission _ accepted =>
    have answers : session.handle item = (.ok admission, next) := by
      rcases running with phase | phase <;> simp only [handle, phase, step]
    rw [answers]
    exact .accepted running accepted
  | @refused fault around refused =>
    have answers : session.handle item = (.error fault, session.failAt around) := by
      rcases running with phase | phase <;>
        simp only [handle, phase, step, refused.isFatal, ↓reduceIte, failAt]
    rw [answers]
    exact .refused running refused

/-- A coherent session takes an item and goes on, or refuses it and fails, or was over. -/
theorem handled (coherent : session.Coherent) (item : StreamItem) :
    session.Handled item (session.handle item) := by
  cases phase : session.phase with
  | live => exact handled_of_running coherent (.inl phase) item
  | syncing => exact handled_of_running coherent (.inr phase) item
  | failed =>
    have answers : session.handle item = (.error .sessionFailed, session) := by
      simp only [handle, phase]
    rw [answers]
    exact .ignored (by simp [IsRunning, phase]) (.inl rfl)
  | closed =>
    have answers : session.handle item = (.error .sessionClosed, session) := by
      simp only [handle, phase]
    rw [answers]
    exact .ignored (by simp [IsRunning, phase]) (.inr rfl)

end Session
end Standby
