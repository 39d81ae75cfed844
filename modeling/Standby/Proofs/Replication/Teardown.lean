import Standby.Proofs.Replication.Fate

/-!
# The end of a session

A fault is the end of its session and nothing else: the item that causes it reaches no entity, is
not acknowledged and is not counted, and whatever was open or held back is given up. A session that
has failed or was closed refuses every later item without asking its host for anything.
-/
namespace Standby

variable {host : Host}

namespace Surroundings

variable {around next : Surroundings host}

/-- No request is handed on, no acknowledgement sent and no completion used; at most entities are
made and copies end. -/
structure Untouched (before after : Surroundings host) : Prop extends Aside before after where
  acksSent : after.acksSent = before.acksSent
  backlog : after.backlog = before.backlog

/-- Finding or making an entity changes the world and the trace alone. -/
theorem findOrCreate_frame (around : Surroundings host) (entity : EntityId) (version : UInt64)
    (config : ByteArray) :
    ∃ world trace,
      (around.findOrCreate entity version config).2 = { around with world, trace } := by
  unfold findOrCreate
  split
  · exact ⟨_, _, rfl⟩
  · dsimp only
    split
    · exact ⟨_, _, rfl⟩
    · exact ⟨_, _, rfl⟩

/-- Finding or making an entity sends nothing. -/
theorem Untouched.of_findOrCreate {entity : EntityId} {version : UInt64} {config : ByteArray}
    {result : Except EntityFault (host.Handle × Bool)}
    (found : around.findOrCreate entity version config = (result, next)) :
    around.Untouched next := by
  obtain ⟨world, trace, frame⟩ := around.findOrCreate_frame entity version config
  rw [found] at frame
  have frame : next = { around with world, trace } := frame
  refine ⟨.of_findOrCreate found, ?_, ?_⟩
  · rw [frame]
  · rw [frame]

/-- The work at the end of a copy sends nothing. -/
theorem Untouched.of_finishSync {bytes : ByteArray} {result : Except EntityFault Unit}
    (finished : around.finishSync bytes = (result, next)) : around.Untouched next := by
  have acksSent : (around.finishSync bytes).2.acksSent = around.acksSent := rfl
  have backlog : (around.finishSync bytes).2.backlog = around.backlog := rfl
  rw [finished] at acksSent backlog
  exact ⟨.of_finishSync finished, acksSent, backlog⟩

/-- Surroundings that stay as they are are untouched. -/
theorem Untouched.refl (around : Surroundings host) : around.Untouched around :=
  ⟨.refl around, rfl, rfl⟩

end Surroundings

namespace Session

variable {session : Session host}

/-- An item that is refused is handed to no entity and not acknowledged. -/
theorem Refused.untouched {item : StreamItem} {fault : ReplicationFault}
    {around : Surroundings host} (refused : session.Refused item fault around) :
    session.around.Untouched around := by
  cases refused with
  | misplaced reason broken => exact .refl _
  | unmade syncing closed found => exact .of_findOrCreate found
  | oversized syncing isOpen within exceeds => exact .refl _
  | unread syncing isOpen within fits unread => exact .refl _
  | unfinished syncing closed finished => exact .of_finishSync finished
  | overflow isOpen full => exact .refl _

/-- Nothing is open and nothing is held back. -/
structure Empty (session : Session host) : Prop where
  openEntity : session.openEntity = none
  isOpen : ∀ slot, session.deferred.isOpen slot = false
  held : session.deferred.discardAll.1 = (0, 0)

/-- A session that failed answers every item with that. -/
theorem handle_of_failed (failed : session.phase = .failed) (item : StreamItem) :
    session.handle item = (.error .sessionFailed, session) := by
  simp only [handle, failed]

/-- A session that was closed answers every item with that. -/
theorem handle_of_closed (closed : session.phase = .closed) (item : StreamItem) :
    session.handle item = (.error .sessionClosed, session) := by
  simp only [handle, closed]

/-- Items that change nothing one by one change nothing one after the other. -/
theorem run_items_of_still (still : ∀ item, (session.handle item).2 = session)
    (items : List StreamItem) : session.run (items.map .item) = session := by
  induction items with
  | nil => rfl
  | cons item rest ih =>
    rw [List.map_cons, run_cons]
    change ((session.handle item).2).run _ = session
    rw [still item]
    exact ih

/-- Closing a session closes it, gives up what is open or held back, and touches nothing else. -/
theorem close_frame (session : Session host) : session.close.2.phase = .closed ∧
    session.close.2.around = session.around ∧ session.close.2.stats = session.stats := by
  rcases session.move_close with ⟨closed, same⟩ | ended
  · have same : session.close.2 = session := same
    rw [same]
    exact ⟨closed, rfl, rfl⟩
  · have ended : session.close.2 = _ := ended
    rw [ended]
    exact ⟨rfl, rfl, rfl⟩

/-- A close is answered with a fault when a copy is interrupted, and only then. -/
theorem close_answer (session : Session host) : session.close.1 =
    if session.phase = .syncing then .error .syncInterrupted else .ok () := by
  unfold close
  split
  · rename_i closed
    rw [closed]
    rfl
  · split
    · rfl
    · rfl

/-- Closing a session that was closed has no effect. -/
theorem close_of_closed (closed : session.phase = .closed) : session.close = (.ok (), session) := by
  simp only [close, closed]

/-- A running session that answers with a fault has failed, and only then; the item has reached
nothing, and nothing is open or held back any more. -/
theorem handle_of_running (coherent : session.Coherent) (running : session.IsRunning)
    (item : StreamItem) :
    ((∃ fault, (session.handle item).1 = .error fault) ↔
      (session.handle item).2.phase = .failed) ∧
    ((session.handle item).2.phase = .failed →
      session.around.Untouched (session.handle item).2.around ∧
      (session.handle item).2.stats = session.stats ∧ (session.handle item).2.Empty) := by
  have result := handled_of_running coherent running item
  generalize session.handle item = step at result ⊢
  cases result with
  | @accepted admission next _ accepted =>
    have lives : next.phase ≠ .failed := by
      rcases accepted.isRunning running with live | syncing
      · simp [live]
      · simp [syncing]
    refine ⟨⟨fun ⟨fault, answer⟩ => ?_, fun failed => absurd failed lives⟩,
      fun failed => absurd failed lives⟩
    contradiction
  | refused _ refused =>
    exact ⟨⟨fun _ => rfl, fun _ => ⟨_, rfl⟩⟩,
      fun _ => ⟨refused.untouched, rfl, rfl, fun _ => rfl, rfl⟩⟩
  | ignored stopped known => exact absurd running stopped

/-- Faults are clean and final. A running session that answers with a fault has failed, and only
then; it has handed nothing to an entity, sent nothing and counted nothing, and nothing is open or
held back. A session that failed or was closed refuses every later item and stays as it is. A close
always closes, reports an interrupted copy exactly when a copy was going on, and a second one has
no effect. -/
theorem faults_end_cleanly (source : ServerId) (limits : Limits) (execution : Execution)
    (world : host.World) (moves : List (SessionMove host)) :
    let session := (start source limits execution world).run moves
    (session.phase = .live ∨ session.phase = .syncing → ∀ item,
      ((∃ fault, (session.handle item).1 = .error fault) ↔
        (session.handle item).2.phase = .failed) ∧
      ((session.handle item).2.phase = .failed →
        session.around.Untouched (session.handle item).2.around ∧
        (session.handle item).2.stats = session.stats ∧ (session.handle item).2.Empty)) ∧
    (session.phase = .failed →
      (∀ item, session.handle item = (.error .sessionFailed, session)) ∧
      ∀ items : List StreamItem, session.run (items.map .item) = session) ∧
    (session.phase = .closed →
      (∀ item, session.handle item = (.error .sessionClosed, session)) ∧
      ∀ items : List StreamItem, session.run (items.map .item) = session) ∧
    session.close.2.phase = .closed ∧ session.close.2.around = session.around ∧
    session.close.2.stats = session.stats ∧
    session.close.1 = (if session.phase = .syncing then .error .syncInterrupted else .ok ()) ∧
    session.close.2.close = (.ok (), session.close.2) := by
  intro session
  have coherent : session.Coherent := (coherent_start source limits execution world).run moves
  obtain ⟨closes, still, counts⟩ := session.close_frame
  refine ⟨fun running item => handle_of_running coherent running item, fun failed => ?_,
    fun closed => ?_, closes, still, counts, session.close_answer, close_of_closed closes⟩
  · have refuses := handle_of_failed failed
    exact ⟨refuses, run_items_of_still fun item => congrArg Prod.snd (refuses item)⟩
  · have refuses := handle_of_closed closed
    exact ⟨refuses, run_items_of_still fun item => congrArg Prod.snd (refuses item)⟩

end Session
end Standby
