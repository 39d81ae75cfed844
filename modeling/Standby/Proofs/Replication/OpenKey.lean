import Standby.Proofs.Ordered.Map
import Standby.Proofs.Replication.Run

/-!
# The key that is being copied

What is held back follows the key that is being copied: its slot is the one open slot of the table,
and the live operations of this slot are held back while all others are processed as they come. So
the bounds of one slot bound everything that is held back.
-/
namespace Standby

variable {host : Host}

namespace DeferralTable

variable {table : DeferralTable} {limits : Limits}

/-- What is held back for each slot is within the bounds of the stream. -/
structure Within (limits : Limits) (table : DeferralTable) : Prop where
  maxEvents : table.maxEvents = limits.deferredEvents
  maxBytes : table.maxBytes = limits.deferredBytes
  events : ∀ slot, (table.held slot).length ≤ limits.deferredEvents.toNat
  bytes : ∀ slot, payloadBytes (table.held slot) ≤ limits.deferredBytes.toNat

/-- A table without open slots is within all bounds. -/
theorem within_ofLimits (limits : Limits) : (ofLimits limits).Within limits :=
  ⟨rfl, rfl, fun _ => Nat.zero_le _, fun _ => Nat.zero_le _⟩

/-- Opening a slot stays within the bounds. -/
theorem Within.openSlot (within : table.Within limits) (slot : Slot) :
    (table.openSlot slot).2.Within limits := by
  obtain ⟨maxEvents, maxBytes⟩ : (table.openSlot slot).2.maxEvents = table.maxEvents ∧
      (table.openSlot slot).2.maxBytes = table.maxBytes := bounds_openSlot slot
  refine ⟨maxEvents.trans within.maxEvents, maxBytes.trans within.maxBytes, fun sought => ?_,
    fun sought => ?_⟩
  · rw [held_openSlot]
    exact within.events sought
  · rw [held_openSlot]
    exact within.bytes sought

/-- Closing a slot stays within the bounds. -/
theorem Within.closeSlot (within : table.Within limits) (slot : Slot) :
    (table.closeSlot slot).2.Within limits := by
  refine ⟨within.maxEvents, within.maxBytes, fun sought => ?_, fun sought => ?_⟩
  · rw [held_closeSlot]
    split
    · exact Nat.zero_le _
    · exact within.events sought
  · rw [held_closeSlot]
    split
    · exact Nat.zero_le _
    · exact within.bytes sought

/-- Closing every slot stays within the bounds. -/
theorem Within.discardAll (within : table.Within limits) : table.discardAll.2.Within limits :=
  ⟨within.maxEvents, within.maxBytes, fun _ => Nat.zero_le _, fun _ => Nat.zero_le _⟩

/-- Holding back an operation for which there is room stays within the bounds. -/
theorem Within.offer (within : table.Within limits) {message : ReplicationMessage}
    (isOpen : table.isOpen message.slot = true) (room : table.HasRoom message) :
    (table.offer message).2.Within limits := by
  obtain ⟨maxEvents, maxBytes⟩ : (table.offer message).2.maxEvents = table.maxEvents ∧
      (table.offer message).2.maxBytes = table.maxBytes := bounds_offer
  obtain ⟨events, bytes⟩ := room
  rw [within.maxEvents] at events
  rw [within.maxBytes] at bytes
  refine ⟨maxEvents.trans within.maxEvents, maxBytes.trans within.maxBytes, fun sought => ?_,
    fun sought => ?_⟩
  · rw [held_offer isOpen ⟨within.maxEvents ▸ events, within.maxBytes ▸ bytes⟩]
    split
    · rename_i own
      rw [← own, List.length_append, List.length_singleton]
      exact events
    · rw [List.append_nil]
      exact within.events sought
  · rw [held_offer isOpen ⟨within.maxEvents ▸ events, within.maxBytes ▸ bytes⟩]
    split
    · rename_i own
      rw [← own, payloadBytes_append]
      exact bytes
    · rw [List.append_nil]
      exact within.bytes sought

/-- When one slot at most is open, all that is held back is within the bounds of one slot. -/
theorem Within.total (within : table.Within limits) {slot : Slot}
    (sole : ∀ found, table.isOpen found = true → found = slot) :
    table.queues.toList.length ≤ 1 ∧
    table.discardAll.1.1 ≤ limits.deferredEvents.toNat ∧
    table.discardAll.1.2 ≤ limits.deferredBytes.toNat := by
  rcases SortedMap.toList_eq_of_sole sole with none | ⟨queue, one⟩
  · simp [DeferralTable.discardAll, SortedMap.values, none]
  · have member : (slot, queue) ∈ table.queues.toList := by rw [one]; exact List.mem_cons_self
    have found : table.queues.get? slot = some queue :=
      @SortedMap.get?_of_mem _ _ _ _ _ (slot, queue) member
    have held : table.held slot = queue.toList := by rw [DeferralTable.held, found]; rfl
    have events := within.events slot
    have bytes := within.bytes slot
    rw [held, ← queue.depth_eq_length] at events
    rw [held, ← queue.bytes_eq_payloadBytes] at bytes
    simpa [DeferralTable.discardAll, SortedMap.values, one] using ⟨events, bytes⟩

end DeferralTable

namespace Session

variable {session : Session host} {limits : Limits}

/-- A slot is that of the open key of the open entity. -/
def IsCopying (session : Session host) (slot : Slot) : Prop :=
  ∃ current, session.openEntity = some current ∧ current.id = slot.entity ∧
    current.openKey = some slot.key

/-- The slot that is being copied is that of the open key of the open entity. -/
theorem openSlot_eq_some_iff {slot : Slot} :
    session.openSlot = some slot ↔ session.IsCopying slot := by
  cases isOpen : session.openEntity with
  | none => simp [openSlot_of_none isOpen, IsCopying, isOpen]
  | some current =>
    rw [openSlot_of_some isOpen, Option.map_eq_some_iff]
    constructor
    · rintro ⟨key, within, rfl⟩
      exact ⟨current, isOpen, rfl, within⟩
    · rintro ⟨other, found, entity, within⟩
      rw [isOpen, Option.some.injEq] at found
      rw [← found] at entity within
      exact ⟨slot.key, within, by rw [entity]⟩

/-- An item that is taken leaves what is held back within the bounds. -/
theorem Accepted.within {item : StreamItem} {admission : Admission} {next : Session host}
    (accepted : session.Accepted item admission next) (coherent : session.Coherent)
    (within : session.deferred.Within limits) : next.deferred.Within limits := by
  cases accepted with
  | startSync idle => exact within
  | startEntity syncing closed found => exact within
  | startKey syncing isOpen between fresh => exact within.openSlot _
  | payload syncing isOpen key fits read => exact within
  | @endKey current key syncing isOpen inKey =>
    obtain ⟨around, stats, replayed, -⟩ :=
      replay_frame (session.deferred.held ⟨current.id, key⟩) (session.endingKey current key)
    rw [replayed]
    exact within.closeSlot _
  | endEntity syncing isOpen between => exact within
  | endSync syncing closed finished => exact within
  | @deferred message isOpen room =>
    exact within.offer ((coherent.isOpen_iff message.slot).mpr isOpen) room
  | @processed message elsewhere =>
    obtain ⟨around, stats, frame, -⟩ := process_frame session message
    rw [frame]
    exact within

/-- Every move leaves what is held back within the bounds. -/
theorem within_move (coherent : session.Coherent) (within : session.deferred.Within limits)
    (next : SessionMove host) : (session.move next).deferred.Within limits := by
  have moved := session.moved coherent next
  generalize session.move next = after at moved ⊢
  cases moved with
  | accepted running answered accepted => exact accepted.within coherent within
  | refused running refused => exact within.discardAll
  | closed => exact within.discardAll
  | ignored stopped => exact within
  | used action => exact within
  | stirred world => exact within

/-- What is held back after a run is within the bounds. -/
theorem within_run (source : ServerId) (limits : Limits) (execution : Execution)
    (world : host.World) (moves : List (SessionMove host)) :
    ((start source limits execution world).run moves).deferred.Within limits := by
  have kept : ∀ (session : Session host) next,
      session.Coherent ∧ session.deferred.Within limits →
        (session.move next).Coherent ∧ (session.move next).deferred.Within limits :=
    fun session next ⟨coherent, within⟩ => ⟨coherent.move next, within_move coherent within next⟩
  exact (run_induction kept moves
    ⟨coherent_start source limits execution world, DeferralTable.within_ofLimits limits⟩).2

/-- Texts that end in different letters differ. -/
theorem append_ne_append {first second left right : String}
    (ends : left.toList.getLast?.isSome ∧ right.toList.getLast?.isSome)
    (differs : left.toList.getLast? ≠ right.toList.getLast?) : first ++ left ≠ second ++ right := by
  intro same
  have last := congrArg (fun text => text.toList.getLast?) same
  simp only [String.toList_append, List.getLast?_append, Option.or_of_isSome ends.1,
    Option.or_of_isSome ends.2] at last
  exact differs last

/-- An item about an entity is out of place for one of two reasons: no entity is open, or another
one is. -/
theorem requireOpen_cases {entity : EntityId} {version : UInt64} {reason : String}
    (missing : session.requireOpen entity version = .error reason) :
    (session.openEntity = none ∧ reason = entity.display ++ " has no open sync") ∨
      ∃ current before, session.openEntity = some current ∧ reason = before ++ ")" := by
  cases isOpen : session.openEntity with
  | none =>
    simp only [requireOpen, isOpen] at missing
    cases missing
    exact .inl ⟨rfl, rfl⟩
  | some current =>
    rw [requireOpen_of_some isOpen] at missing
    split at missing
    · contradiction
    · cases missing
      exact .inr ⟨current, _, rfl, rfl⟩

/-- That no entity is open is the reason of a refusal only when none is, so the second look at the
open entity is never in vain. -/
theorem requireOpen_none_iff (session : Session host) (entity : EntityId) (version : UInt64) :
    session.requireOpen entity version = .error (entity.display ++ " has no open sync") ↔
      session.openEntity = none := by
  constructor
  · intro missing
    rcases requireOpen_cases missing with ⟨closed, -⟩ | ⟨current, before, -, reason⟩
    · exact closed
    · exact (append_ne_append (by decide) (by decide) reason).elim
  · intro closed
    simp only [requireOpen, closed]

/-- The beginning of a key is never refused because its slot is open. -/
theorem startKey_ne_deferring (coherent : session.Coherent) (entity other : EntityId)
    (version : UInt64) (key wanted : ConcurrencyKey) :
    (session.startKey entity version key).1 ≠
      .error (.protocol "start_key" (describeKey wanted other ++ " already deferring")) := by
  unfold startKey
  split
  · rename_i reason missing
    intro same
    have same : reason = describeKey wanted other ++ " already deferring" := by
      simpa [refuse] using same
    rcases requireOpen_cases missing with ⟨-, closed⟩ | ⟨current, before, -, elsewhere⟩
    · exact append_ne_append (by decide) (by decide) (closed.symm.trans same)
    · exact append_ne_append (by decide) (by decide) (elsewhere.symm.trans same)
  · rename_i current found
    obtain ⟨isOpen, rfl, rfl⟩ := requireOpen_eq_ok found
    split
    · intro same
      simp only [refuse, Except.error.injEq, ReplicationFault.protocol.injEq, true_and] at same
      exact append_ne_append (by decide) (by decide) same
    · rename_i between
      split
      · intro same
        simp only [refuse, Except.error.injEq, ReplicationFault.protocol.injEq, true_and] at same
        exact append_ne_append (by decide) (by decide) same
      · have closed : session.deferred.isOpen ⟨current.id, key⟩ = false :=
          coherent.isOpen_eq_false (by rw [openSlot_of_some isOpen, between]; nofun)
        rw [DeferralTable.openSlot_of_closed closed]
        nofun

/-- A running session answers an item as it takes or refuses it. -/
theorem handle_answer (running : session.IsRunning) (item : StreamItem) :
    (session.handle item).1 = (session.accept item).1 := by
  rcases step : session.accept item with ⟨answer, next⟩
  cases answer <;> rcases running with phase | phase <;> simp only [handle, phase, step]

/-- A fault that refuses an item names the item, or is none of its nesting. -/
theorem Refused.received {item : StreamItem} {fault : ReplicationFault}
    {around : Surroundings host} (refused : session.Refused item fault around)
    {received reason : String} (protocol : fault = .protocol received reason) :
    ∃ message, item = .sync message ∧ message.kindName = received := by
  cases refused with
  | @misplaced message reason broken =>
    cases protocol
    exact ⟨message, rfl, rfl⟩
  | overflow isOpen full =>
    unfold overflowOf at protocol
    split at protocol <;> contradiction
  | _ => contradiction

/-- No item is ever refused because its slot is open. -/
theorem handle_ne_deferring (coherent : session.Coherent) (item : StreamItem) (entity : EntityId)
    (key : ConcurrencyKey) : (session.handle item).1 ≠
      .error (.protocol "start_key" (describeKey key entity ++ " already deferring")) := by
  intro answer
  have whole := answer
  have result := handled coherent item
  generalize session.handle item = step at result answer
  cases result with
  | accepted running accepted => contradiction
  | ignored stopped known =>
    rcases known with rfl | rfl
    · simp at answer
    · simp at answer
  | refused running refused =>
    simp only [Except.error.injEq] at answer
    obtain ⟨message, rfl, kind⟩ := refused.received answer
    rw [handle_answer running] at whole
    cases message with
    | startKey other version wanted =>
      change (session.admitSync _).1 = _ at whole
      unfold admitSync at whole
      split at whole
      · contradiction
      · split at whole
        · exact startKey_ne_deferring coherent _ _ _ _ _ whole
        · simp only [refuse, Except.error.injEq, ReplicationFault.protocol.injEq] at whole
          exact append_ne_append (by decide) (by decide) (String.empty_append.trans whole.2)
    | _ => simp [SyncMessage.kindName] at kind

/-- Processing an operation never holds it back. -/
theorem process_ne_deferred (session : Session host) (message : ReplicationMessage) (depth : Nat) :
    (session.process message).1 ≠ .deferred depth := by
  have fate := session.processes message
  generalize session.process message = step at fate ⊢
  obtain ⟨admission, next⟩ := step
  cases fate <;> nofun

/-- A live operation of the slot that is being copied is held back or is one too many. -/
theorem handle_of_copying (coherent : session.Coherent) (running : session.IsRunning)
    {message : ReplicationMessage} (copying : session.IsCopying message.slot) :
    (∃ depth, (session.handle (.replicate message)).1 = .ok (.deferred depth)) ∨
      ∃ kind limit, (session.handle (.replicate message)).1 =
        .error (.deferralOverflow message.entity.id message.key kind limit) := by
  have isOpen := openSlot_eq_some_iff.mpr copying
  have result := handled_of_running coherent running (.replicate message)
  generalize session.handle (.replicate message) = step at result ⊢
  cases result with
  | accepted _ accepted =>
    cases accepted with
    | deferred isOpen room => exact .inl ⟨_, rfl⟩
    | processed elsewhere => exact absurd isOpen elsewhere
  | refused _ refused =>
    cases refused with
    | overflow isOpen full =>
      refine .inr ?_
      unfold overflowOf
      split
      · exact ⟨_, _, rfl⟩
      · exact ⟨_, _, rfl⟩
  | ignored stopped known => exact absurd running stopped

/-- A live operation of another slot is processed as it comes. -/
theorem handle_of_not_copying (coherent : session.Coherent) (running : session.IsRunning)
    {message : ReplicationMessage} (elsewhere : ¬ session.IsCopying message.slot) :
    session.handle (.replicate message) =
      (.ok (session.process message).1, (session.process message).2) := by
  have closed : session.openSlot ≠ some message.slot := mt openSlot_eq_some_iff.mp elsewhere
  have result := handled_of_running coherent running (.replicate message)
  generalize session.handle (.replicate message) = step at result ⊢
  cases result with
  | accepted _ accepted =>
    cases accepted with
    | deferred isOpen room => exact absurd isOpen closed
    | processed elsewhere => rfl
  | refused _ refused =>
    cases refused with
    | overflow isOpen full => exact absurd isOpen closed
  | ignored stopped known => exact absurd running stopped

/-- What is held back follows the key that is being copied. In every session that a run reaches the
table has a queue for exactly this key of the open entity, and so one queue at most; an entity is
open only within a copy, and its open key is not yet whole; no key is refused because it has a
queue, and an item about the open entity always finds it. While the session runs, a live operation
is held back, or is one too many, exactly if it is of the open key of the open entity, and any
other is processed as it comes. All that is held back is within the bounds of one key. -/
theorem deferral_tracks_open_key (source : ServerId) (limits : Limits) (execution : Execution)
    (world : host.World) (moves : List (SessionMove host)) :
    let session := (start source limits execution world).run moves
    (∀ slot, session.deferred.isOpen slot = true ↔ session.IsCopying slot) ∧
    session.deferred.queues.toList.length ≤ 1 ∧
    (∀ current, session.openEntity = some current → session.phase = .syncing) ∧
    (∀ current key, session.openEntity = some current → current.openKey = some key →
      current.synced.contains key = false) ∧
    (∀ item entity key, (session.handle item).1 ≠
      .error (.protocol "start_key" (describeKey key entity ++ " already deferring"))) ∧
    (∀ entity version, session.requireOpen entity version =
      .error (entity.display ++ " has no open sync") ↔ session.openEntity = none) ∧
    (∀ current, session.openEntity = some current →
      session.requireOpen current.id current.version = .ok current) ∧
    (session.phase = .live ∨ session.phase = .syncing → ∀ message,
      ((∃ depth, (session.handle (.replicate message)).1 = .ok (.deferred depth)) ∨
        (∃ kind limit, (session.handle (.replicate message)).1 =
          .error (.deferralOverflow message.entity.id message.key kind limit)) ↔
        session.IsCopying message.slot) ∧
      (¬ session.IsCopying message.slot → session.handle (.replicate message) =
        (.ok (session.process message).1, (session.process message).2))) ∧
    session.deferred.discardAll.1.1 ≤ limits.deferredEvents.toNat ∧
    session.deferred.discardAll.1.2 ≤ limits.deferredBytes.toNat := by
  intro session
  have coherent : session.Coherent := (coherent_start source limits execution world).run moves
  have within : session.deferred.Within limits := within_run source limits execution world moves
  have sole (found : Slot) (isOpen : session.deferred.isOpen found = true) :
      found = session.openSlot.getD default := by
    rw [(coherent.isOpen_iff found).mp isOpen]
    rfl
  obtain ⟨one, events, bytes⟩ := within.total sole
  refine ⟨fun slot => (coherent.isOpen_iff slot).trans openSlot_eq_some_iff, one,
    coherent.syncing, coherent.fresh, handle_ne_deferring coherent,
    session.requireOpen_none_iff, fun current isOpen => ?_,
    fun running message => ⟨⟨fun kept => ?_, ?_⟩, ?_⟩, events, bytes⟩
  · rw [requireOpen_of_some isOpen, if_pos ⟨rfl, rfl⟩]
  · refine Classical.byContradiction fun elsewhere => ?_
    rw [handle_of_not_copying coherent running elsewhere] at kept
    rcases kept with ⟨depth, answer⟩ | ⟨kind, limit, answer⟩
    · exact process_ne_deferred session message depth (Except.ok.inj answer)
    · contradiction
  · exact handle_of_copying coherent running
  · exact handle_of_not_copying coherent running

end Session
end Standby
