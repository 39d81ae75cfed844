import Standby.Proofs.Replication.Run

/-!
# Lost acknowledgements

Whether an acknowledgement arrives is put on the trace and read by nobody. A session in a host that
loses acknowledgements therefore does what it does in the host to which every acknowledgement
arrives: the two differ in the fates on the trace alone. Each operation of a session commutes with
the passage to the second host, and so does a run (`Session.assured_run`).
-/
namespace Standby

variable {host : Host}

/-- The host in which every acknowledgement arrives. -/
def Host.assured (host : Host) : Host := { host with transmit := fun _ _ _ => .ok () }

/-- The event with an acknowledgement that arrives. -/
def Event.assured : Event host → Event host.assured
  | .created entity version config removable fault =>
    .created entity version config removable fault
  | .delivered delivery => .delivered delivery
  | .used action => .used action
  | .acked target ack _ => .acked target ack (.ok ())
  | .syncFinished bytes fault => .syncFinished bytes fault
  | .processed message skipped => .processed message skipped

/-- The request as the other host knows it. -/
def ApplyJob.assured (job : ApplyJob host) : ApplyJob host.assured :=
  { handle := job.handle, request := job.request, body := job.body, completion := job.completion }

/-- The open entity as the other host knows it. -/
def OpenEntity.assured (current : OpenEntity host) : OpenEntity host.assured :=
  { id := current.id, version := current.version, handle := current.handle,
    openKey := current.openKey, synced := current.synced }

namespace Surroundings

/-- The surroundings in which every acknowledgement arrived. -/
def assured (around : Surroundings host) : Surroundings host.assured :=
  { world := around.world, pending := around.pending, nextTicket := around.nextTicket,
    acksSent := around.acksSent, backlog := around.backlog.map ApplyJob.assured,
    trace := around.trace.map Event.assured }

variable (around : Surroundings host)

/-- Something is put on the trace alike. -/
theorem assured_note (event : Event host) :
    (around.note event).assured = around.assured.note event.assured := by
  simp [note, assured]

/-- An acknowledgement is sent alike, but arrives. -/
theorem assured_send (target : ServerId) (ack : Ack) :
    (around.send target ack).assured = around.assured.send target ack :=
  assured_note _ _

/-- Acknowledgements are sent alike, but arrive. -/
theorem assured_sendAll (target : ServerId) (acks : List Ack) :
    (around.sendAll target acks).assured = around.assured.sendAll target acks := by
  unfold sendAll
  induction acks generalizing around with
  | nil => rfl
  | cons ack rest ih => rw [List.foldl_cons, List.foldl_cons, ih, assured_send]

/-- A completion reports alike. -/
theorem assured_report (completion : Completion) (acks : List Ack) :
    (around.report completion acks).assured = around.assured.report completion acks := by
  cases completion with
  | silent => rfl
  | acking target sequence received completed => exact assured_sendAll _ _ _

/-- A completion that no entity had is given up alike. -/
theorem assured_settle (completion : Completion) (how : Settlement) :
    (around.settle completion how).assured = around.assured.settle completion how :=
  assured_report _ _ _

/-- An entity uses a completion alike. -/
theorem assured_use (action : CompletionUse) :
    (around.use action).assured = around.assured.use action := by
  cases found : around.pending.lookup action.ticket with
  | none =>
    have alike : around.assured.pending.lookup action.ticket = none := found
    simp only [use, found, alike]
  | some completion =>
    have alike : around.assured.pending.lookup action.ticket = some completion := found
    simp only [use, found, alike]
    cases action with
    | received ticket =>
      dsimp only
      rw [assured_report, assured_note]
      rfl
    | settle ticket how =>
      dsimp only
      rw [assured_settle, assured_note]
      rfl

/-- Entities use completions alike. -/
theorem assured_uses (uses : List CompletionUse) :
    (uses.foldl use around).assured = uses.foldl use around.assured := by
  induction uses generalizing around with
  | nil => rfl
  | cons action rest ih => rw [List.foldl_cons, List.foldl_cons, ih, assured_use]

/-- A request is handed to its entity alike. -/
theorem assured_run (job : ApplyJob host) :
    (around.run job).assured = around.assured.run job.assured := by
  unfold run
  dsimp only
  rw [assured_uses, assured_note]
  rfl

/-- A request is handed on alike, whether at once or through lanes. -/
theorem assured_execute (execution : Execution) (job : ApplyJob host) :
    (around.execute execution job).assured = around.assured.execute execution job.assured := by
  cases execution with
  | inline => exact assured_run around job
  | lanes => simp [execute, assured]

/-- An entity is found or made alike. -/
theorem assured_findOrCreate (entity : EntityId) (version : UInt64) (config : ByteArray) :
    around.assured.findOrCreate entity version config =
      ((around.findOrCreate entity version config).1,
        (around.findOrCreate entity version config).2.assured) := by
  cases found : host.find around.world entity version with
  | some handle =>
    have alike : host.assured.find around.assured.world entity version = some handle := found
    simp only [findOrCreate, found, alike]
    rfl
  | none =>
    have absent : host.assured.find around.assured.world entity version = none := found
    rcases made : host.create around.world entity version config true with ⟨result, world⟩
    have alike : host.assured.create around.assured.world entity version config true =
        (result, world) := made
    simp only [findOrCreate, found, absent, made, alike]
    cases result with
    | ok handle => rw [assured_note]; rfl
    | error fault => rw [assured_note]; rfl

/-- The work at the end of a copy is done alike. -/
theorem assured_finishSync (bytes : ByteArray) :
    around.assured.finishSync bytes =
      ((around.finishSync bytes).1, (around.finishSync bytes).2.assured) := by
  simp only [finishSync, assured_note]
  rfl

end Surroundings

namespace Session

/-- The session in whose surroundings every acknowledgement arrived. -/
def assured (session : Session host) : Session host.assured :=
  { source := session.source, limits := session.limits, execution := session.execution,
    phase := session.phase, openEntity := session.openEntity.map OpenEntity.assured,
    deferred := session.deferred, stats := session.stats, around := session.around.assured }

end Session

/-- The move as the other host knows it. -/
def SessionMove.assured : SessionMove host → SessionMove host.assured
  | .item came => .item came
  | .close => .close
  | .use action => .use action
  | .stir world => .stir world

/-- The answer of the session, and the session in the other host. -/
def SessionStep.assured (step : SessionStep host) : SessionStep host.assured :=
  (step.1, step.2.assured)

namespace Session

variable (session : Session host)

/-- A request of a copy is handed on alike. -/
theorem assured_dispatchSync (handle : host.Handle) (action : EntityAction) (key : ConcurrencyKey)
    (body : RequestBody host.Message host.Chunk) :
    (session.dispatchSync handle action key body).assured =
      session.assured.dispatchSync handle action key body := by
  simp only [dispatchSync, assured, Surroundings.assured_execute]
  rfl

/-- A live operation is handed on alike. -/
theorem assured_dispatchLive (message : ReplicationMessage) (handle : host.Handle)
    (body : RequestBody host.Message host.Chunk) :
    (session.dispatchLive message handle body).assured =
      session.assured.dispatchLive message handle body := by
  simp only [dispatchLive, assured, Surroundings.assured_execute, Surroundings.assured_report]
  rfl

/-- A live operation is processed alike. -/
theorem assured_process (message : ReplicationMessage) :
    session.assured.process message =
      ((session.process message).1, (session.process message).2.assured) := by
  by_cases idle : message.kind = .noop
  · simp only [process, if_pos idle, assured, Surroundings.assured_settle,
      Surroundings.assured_note]
    rfl
  · rcases found : session.around.findOrCreate message.entity.id message.entity.version
      (if message.kind = .create then message.payload else .empty) with ⟨result, around⟩
    have alike : session.assured.around.findOrCreate message.entity.id message.entity.version
        (if message.kind = .create then message.payload else .empty) =
          (result, around.assured) := by
      change session.around.assured.findOrCreate _ _ _ = _
      rw [Surroundings.assured_findOrCreate, found]
    simp only [process, if_neg idle, found, alike]
    cases result with
    | error fault =>
      simp only [assured, Surroundings.assured_settle, Surroundings.assured_note]
      rfl
    | ok made =>
      obtain ⟨handle, fresh⟩ := made
      cases kind : message.kind with
      | invoke =>
        cases read : host.decodeMessage around.world message.entity.id message.payload with
        | error fault =>
          have same : host.assured.decodeMessage around.assured.world message.entity.id
            message.payload = .error fault := read
          simp only [read, same, assured, Surroundings.assured_settle, Surroundings.assured_note]
          rfl
        | ok content =>
          have same : host.assured.decodeMessage around.assured.world message.entity.id
            message.payload = .ok content := read
          simp only [read, same, assured_dispatchLive]
          simp only [assured, Surroundings.assured_note]
          rfl
      | create =>
        simp only [assured_dispatchLive]
        simp only [assured, Surroundings.assured_note]
        rfl
      | reconfigure =>
        simp only [assured_dispatchLive]
        simp only [assured, Surroundings.assured_note]
        rfl
      | destroy =>
        simp only [assured_dispatchLive]
        simp only [assured, Surroundings.assured_note]
        rfl
      | noop => exact absurd kind idle

/-- An operation that was held back is processed alike. -/
theorem assured_replay (message : ReplicationMessage) :
    (session.replay message).assured = session.assured.replay message :=
  (congrArg Prod.snd (assured_process { session with
    stats := { session.stats with replayed := session.stats.replayed + 1 } } message)).symm

/-- Operations that were held back are processed alike. -/
theorem assured_replays (held : List ReplicationMessage) :
    (held.foldl replay session).assured = held.foldl replay session.assured := by
  induction held generalizing session with
  | nil => rfl
  | cons message rest ih => rw [List.foldl_cons, List.foldl_cons, ih, assured_replay]

/-- The entity that an item is about is open in the other host as well. -/
theorem assured_requireOpen {session : Session host} {entity : EntityId} {version : UInt64}
    {answer : Except String (OpenEntity host)}
    (found : session.requireOpen entity version = answer) :
    session.assured.requireOpen entity version = answer.map OpenEntity.assured := by
  subst found
  cases isOpen : session.openEntity with
  | none =>
    have same : session.assured.openEntity = none := congrArg (Option.map _) isOpen
    simp only [requireOpen, isOpen, same]
    rfl
  | some current =>
    have same : session.assured.openEntity = some current.assured :=
      congrArg (Option.map _) isOpen
    simp only [requireOpen, isOpen, same]
    by_cases about : current.id = entity ∧ current.version = version
    · have alike : current.assured.id = entity ∧ current.assured.version = version := about
      rw [if_pos about, if_pos alike]
      rfl
    · have alike : ¬ (current.assured.id = entity ∧ current.assured.version = version) := about
      rw [if_neg about, if_neg alike]
      rfl

/-- The copy of an entity begins alike. -/
theorem assured_startEntity (entity : EntityId) (version : UInt64) (config : ByteArray) :
    session.assured.startEntity entity version config =
      SessionStep.assured (session.startEntity entity version config) := by
  cases isOpen : session.openEntity with
  | some current =>
    have same : session.assured.openEntity = some current.assured :=
      congrArg (Option.map _) isOpen
    simp only [startEntity, isOpen, same]
    rfl
  | none =>
    have same : session.assured.openEntity = none := congrArg (Option.map _) isOpen
    rcases found : session.around.findOrCreate entity version config with ⟨result, around⟩
    have alike : session.assured.around.findOrCreate entity version config =
        (result, around.assured) := by
      change session.around.assured.findOrCreate _ _ _ = _
      rw [Surroundings.assured_findOrCreate, found]
    simp only [startEntity, isOpen, same, found, alike]
    cases result with
    | error fault => rfl
    | ok made =>
      simp only [SessionStep.assured, dispatchSync, assured, Surroundings.assured_execute]
      rfl

/-- The copy of a key begins alike. -/
theorem assured_startKey (entity : EntityId) (version : UInt64) (key : ConcurrencyKey) :
    session.assured.startKey entity version key =
      SessionStep.assured (session.startKey entity version key) := by
  cases found : session.requireOpen entity version with
  | error reason =>
    simp only [startKey, found, assured_requireOpen found]
    rfl
  | ok current =>
    simp only [startKey, found, assured_requireOpen found, Except.map]
    cases within : current.openKey with
    | some other =>
      have same : current.assured.openKey = some other := within
      simp only [same]
      rfl
    | none =>
      have same : current.assured.openKey = none := within
      simp only [same]
      by_cases synced : current.synced.contains key = true
      · have alike : current.assured.synced.contains key = true := synced
        rw [if_pos synced, if_pos alike]
        rfl
      · have alike : ¬ current.assured.synced.contains key = true := synced
        rw [if_neg synced, if_neg alike]
        rcases opened : session.deferred.openSlot ⟨entity, key⟩ with ⟨fresh, deferred⟩
        have alike : session.assured.deferred.openSlot ⟨entity, key⟩ = (fresh, deferred) := opened
        rw [alike]
        cases fresh with
        | false => rfl
        | true =>
          simp only [SessionStep.assured, assured_dispatchSync]
          rfl

/-- A piece of a copy is handed on alike. -/
theorem assured_syncPayload (entity : EntityId) (version : UInt64) (key : ConcurrencyKey)
    (bytes : ByteArray) : session.assured.syncPayload entity version key bytes =
      SessionStep.assured (session.syncPayload entity version key bytes) := by
  cases found : session.requireOpen entity version with
  | error reason =>
    simp only [syncPayload, found, assured_requireOpen found]
    rfl
  | ok current =>
    simp only [syncPayload, found, assured_requireOpen found, Except.map]
    by_cases within : current.openKey ≠ some key
    · have alike : current.assured.openKey ≠ some key := within
      rw [if_pos within, if_pos alike]
      rfl
    · have alike : ¬ current.assured.openKey ≠ some key := within
      rw [if_neg within, if_neg alike]
      by_cases exceeds : session.limits.syncPayloadBytes.toNat < bytes.size
      · have alike : session.assured.limits.syncPayloadBytes.toNat < bytes.size := exceeds
        rw [if_pos exceeds, if_pos alike]
        rfl
      · have alike : ¬ session.assured.limits.syncPayloadBytes.toNat < bytes.size := exceeds
        rw [if_neg exceeds, if_neg alike]
        cases read : host.decodeChunk session.around.world entity key bytes with
        | error fault =>
          have alike : host.assured.decodeChunk session.assured.around.world entity key bytes =
            .error fault := read
          rw [alike]
          rfl
        | ok chunk =>
          have alike : host.assured.decodeChunk session.assured.around.world entity key bytes =
            .ok chunk := read
          simp only [alike, SessionStep.assured, assured_dispatchSync]
          rfl

/-- The copy of a key ends alike. -/
theorem assured_endKey (entity : EntityId) (version : UInt64) (key : ConcurrencyKey) :
    session.assured.endKey entity version key =
      SessionStep.assured (session.endKey entity version key) := by
  cases found : session.requireOpen entity version with
  | error reason =>
    simp only [endKey, found, assured_requireOpen found]
    rfl
  | ok current =>
    simp only [endKey, found, assured_requireOpen found, Except.map]
    by_cases within : current.openKey ≠ some key
    · have alike : current.assured.openKey ≠ some key := within
      rw [if_pos within, if_pos alike]
      rfl
    · have alike : ¬ current.assured.openKey ≠ some key := within
      rw [if_neg within, if_neg alike]
      simp only [SessionStep.assured, assured_dispatchSync, assured_replays]
      rfl

/-- The copy of an entity ends alike. -/
theorem assured_endEntity (entity : EntityId) (version : UInt64) :
    session.assured.endEntity entity version =
      SessionStep.assured (session.endEntity entity version) := by
  cases found : session.requireOpen entity version with
  | error reason =>
    simp only [endEntity, found, assured_requireOpen found]
    rfl
  | ok current =>
    simp only [endEntity, found, assured_requireOpen found, Except.map]
    cases within : current.openKey with
    | some key =>
      have same : current.assured.openKey = some key := within
      simp only [same]
      rfl
    | none =>
      have same : current.assured.openKey = none := within
      simp only [same, SessionStep.assured, assured_dispatchSync]
      rfl

/-- A copy ends alike. -/
theorem assured_endSync (finalBytes : ByteArray) :
    session.assured.endSync finalBytes = SessionStep.assured (session.endSync finalBytes) := by
  cases isOpen : session.openEntity with
  | some current =>
    have same : session.assured.openEntity = some current.assured :=
      congrArg (Option.map _) isOpen
    simp only [endSync, isOpen, same]
    rfl
  | none =>
    have same : session.assured.openEntity = none := congrArg (Option.map _) isOpen
    rcases finished : session.around.finishSync finalBytes with ⟨result, around⟩
    have alike : session.assured.around.finishSync finalBytes = (result, around.assured) := by
      change session.around.assured.finishSync _ = _
      rw [Surroundings.assured_finishSync, finished]
    simp only [endSync, isOpen, same, finished, alike]
    cases result <;> rfl

/-- A copy begins alike. -/
theorem assured_startSync :
    session.assured.startSync = SessionStep.assured session.startSync := by
  unfold startSync
  by_cases syncing : session.isSyncing = true
  · have alike : session.assured.isSyncing = true := syncing
    rw [if_pos syncing, if_pos alike]
    rfl
  · have alike : ¬ session.assured.isSyncing = true := syncing
    rw [if_neg syncing, if_neg alike]
    rfl

/-- What is answered alike during a copy and alike outside of one is answered alike. -/
theorem assured_during {during outside : SessionStep host}
    {duringAssured outsideAssured : SessionStep host.assured}
    (first : duringAssured = SessionStep.assured during)
    (second : outsideAssured = SessionStep.assured outside) :
    (if session.assured.isSyncing then duringAssured else outsideAssured) =
      SessionStep.assured (if session.isSyncing then during else outside) := by
  have same : session.assured.isSyncing = session.isSyncing := rfl
  rw [first, second, same]
  split <;> rfl

/-- An item of a copy is admitted alike. -/
theorem assured_admitSync (message : SyncMessage) :
    session.assured.admitSync message = SessionStep.assured (session.admitSync message) := by
  cases message with
  | startSync => exact session.assured_startSync
  | startEntity entity version config isNew =>
    exact session.assured_during (session.assured_startEntity entity version config) rfl
  | startKey entity version key =>
    exact session.assured_during (session.assured_startKey entity version key) rfl
  | payload entity version key bytes =>
    exact session.assured_during (session.assured_syncPayload entity version key bytes) rfl
  | endKey entity version key =>
    exact session.assured_during (session.assured_endKey entity version key) rfl
  | endEntity entity version =>
    exact session.assured_during (session.assured_endEntity entity version) rfl
  | endSync finalBytes => exact session.assured_during (session.assured_endSync finalBytes) rfl

/-- A live operation is admitted alike. -/
theorem assured_admitLive (message : ReplicationMessage) :
    session.assured.admitLive message = SessionStep.assured (session.admitLive message) := by
  rcases offered : session.deferred.offer message with ⟨decision, deferred⟩
  have alike : session.assured.deferred.offer message = (decision, deferred) := offered
  simp only [admitLive, offered, alike]
  cases decision with
  | notDeferring message =>
    simp only [assured_process]
    rfl
  | _ => rfl

/-- An item is taken or refused alike. -/
theorem assured_accept (item : StreamItem) :
    session.assured.accept item = SessionStep.assured (session.accept item) := by
  cases item with
  | sync message => exact session.assured_admitSync message
  | replicate message => exact session.assured_admitLive message

/-- An item is answered alike, whether or not acknowledgements arrive. -/
theorem assured_handle (item : StreamItem) :
    session.assured.handle item = SessionStep.assured (session.handle item) := by
  have same : session.assured.phase = session.phase := rfl
  have accepted := session.assured_accept item
  rcases taken : session.accept item with ⟨answer, next⟩
  rw [taken] at accepted
  cases phase : session.phase with
  | failed => simp only [handle, phase, same]; rfl
  | closed => simp only [handle, phase, same]; rfl
  | _ =>
    cases answer with
    | ok admission =>
      simp only [handle, phase, same, taken, accepted, SessionStep.assured]
    | error fault =>
      simp only [handle, phase, same, taken, accepted, SessionStep.assured]
      split <;> rfl

/-- A session ends alike, whether or not acknowledgements arrive. -/
theorem assured_close : session.assured.close.2 = session.close.2.assured := by
  have same : session.assured.phase = session.phase := rfl
  cases phase : session.phase <;> simp only [close, same, phase] <;> rfl

/-- A move leads to the same session, whether or not acknowledgements arrive. -/
theorem assured_move (next : SessionMove host) :
    session.assured.move next.assured = (session.move next).assured := by
  cases next with
  | item item => exact congrArg Prod.snd (session.assured_handle item)
  | close => exact session.assured_close
  | use action =>
    simp only [move, SessionMove.assured, useCompletion, assured, Surroundings.assured_use]
  | stir world => rfl

/-- A run leads to the same session, whether or not acknowledgements arrive. -/
theorem assured_run (moves : List (SessionMove host)) :
    session.assured.run (moves.map SessionMove.assured) = (session.run moves).assured := by
  induction moves generalizing session with
  | nil => rfl
  | cons next rest ih => rw [List.map_cons, run_cons, run_cons, assured_move, ih]

end Session
end Standby
