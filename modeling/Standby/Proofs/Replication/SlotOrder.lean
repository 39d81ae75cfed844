import Standby.Proofs.Replication.Run

/-!
# The order of a slot

The live operations of one slot that a session accepts are processed in the order of their
arrival, each of them once. At every moment of a running session those that were processed and
those that are held back are together those that arrived; outside of a copy nothing is held back.
The invariant is `Session.Keeps`, what one item does to it is `Session.Keeps.accepted`, and what a
run does to it is `Session.Keeps.run`.
-/
namespace Standby

variable {host : Host}

/-- The live operations of a slot among others. -/
def inSlot (slot : Slot) (messages : List ReplicationMessage) : List ReplicationMessage :=
  messages.filter fun message => message.slot = slot

/-- No operation is in any slot. -/
@[simp] theorem inSlot_nil (slot : Slot) : inSlot slot [] = [] := rfl

/-- The slot of some operations and then others. -/
@[simp] theorem inSlot_append (slot : Slot) (first second : List ReplicationMessage) :
    inSlot slot (first ++ second) = inSlot slot first ++ inSlot slot second :=
  List.filter_append _ _

/-- An operation is in its own slot alone. -/
theorem inSlot_singleton (slot : Slot) (message : ReplicationMessage) :
    inSlot slot [message] = if message.slot = slot then [message] else [] := by
  by_cases same : message.slot = slot <;> simp [inSlot, same]

/-- Operations of a slot are all in it. -/
theorem inSlot_of_forall {slot : Slot} {messages : List ReplicationMessage}
    (all : ∀ message ∈ messages, message.slot = slot) : inSlot slot messages = messages :=
  List.filter_eq_self.mpr fun message member => decide_eq_true (all message member)

/-- Operations of another slot are not in a slot. -/
theorem inSlot_of_other {slot other : Slot} {messages : List ReplicationMessage}
    (all : ∀ message ∈ messages, message.slot = other) (differs : slot ≠ other) :
    inSlot slot messages = [] := by
  refine List.filter_eq_nil_iff.mpr fun message member => ?_
  simpa [all message member] using Ne.symm differs

/-- The live operation that an item brings, if it brings one. -/
def StreamItem.live : StreamItem → List ReplicationMessage
  | .sync _ => []
  | .replicate message => [message]

namespace Session

variable {session : Session host} {arrived : List ReplicationMessage}

/-- What a session processed and holds back is what arrived. -/
structure Keeps (session : Session host) (arrived : List ReplicationMessage) : Prop where
  /-- The session is coherent. -/
  coherent : session.Coherent
  /-- What was processed of a slot is the beginning of what arrived for it. -/
  taken : ∀ slot, inSlot slot session.processed <+: inSlot slot arrived
  /-- While the session runs, the rest is held back. -/
  held : session.IsRunning → ∀ slot,
    inSlot slot arrived = inSlot slot session.processed ++ session.deferred.held slot
  /-- When the session is over, nothing is held back. -/
  dropped : ¬ session.IsRunning → ∀ slot, session.deferred.held slot = []

/-- What is held back for a slot belongs to it. -/
theorem Keeps.slot_of_held (keeps : session.Keeps arrived) {slot : Slot}
    {message : ReplicationMessage} (member : message ∈ session.deferred.held slot) :
    message.slot = slot := by
  by_cases running : session.IsRunning
  · have within : message ∈ inSlot slot arrived := by
      rw [keeps.held running slot]
      exact List.mem_append_right _ member
    exact of_decide_eq_true (List.mem_filter.mp within).2
  · rw [keeps.dropped running slot] at member
    exact absurd member List.not_mem_nil

/-- An item that is taken neither loses nor reorders anything of a slot: its live operation comes
behind those that were processed and held back, and nothing else changes. -/
theorem Keeps.accepted (keeps : session.Keeps arrived) {item : StreamItem} {admission : Admission}
    {next : Session host} (running : session.IsRunning)
    (accepted : session.Accepted item admission next) : next.Keeps (arrived ++ item.live) := by
  have pure : ∀ slot, ∀ message ∈ session.deferred.held slot, message.slot = slot :=
    fun _ _ => keeps.slot_of_held
  have conserved (slot : Slot) : inSlot slot (arrived ++ item.live) =
      inSlot slot next.processed ++ next.deferred.held slot := by
    rw [accepted.processed_eq, accepted.held_eq keeps.coherent, inSlot_append, inSlot_append,
      keeps.held running slot, List.append_assoc, List.append_assoc, List.append_right_inj]
    cases item with
    | replicate message =>
      simp only [released, retained, StreamItem.live]
      by_cases isOpen : session.openSlot = some message.slot
      · simp [isOpen, inSlot_singleton]
      · have closed : session.deferred.held message.slot = [] :=
          DeferralTable.held_of_closed (keeps.coherent.isOpen_eq_false isOpen)
        by_cases same : message.slot = slot
        · subst same
          simp [isOpen, closed]
        · simp [isOpen, inSlot_singleton, same]
    | sync message =>
      have silent : inSlot slot (StreamItem.sync message).live = [] := rfl
      rw [silent, List.append_nil]
      cases message with
      | endKey entity version key =>
        -- What was held back moves over to what was processed, for this slot alone.
        simp only [released, retained]
        by_cases same : slot = ⟨entity, key⟩
        · rw [if_pos same, List.append_nil, ← same, inSlot_of_forall (pure slot)]
        · rw [if_neg same, inSlot_of_other (pure _) same, List.nil_append]
      | _ => rfl
  exact
    { coherent := accepted.coherent keeps.coherent
      taken := fun slot => ⟨_, (conserved slot).symm⟩
      held := fun _ => conserved
      dropped := fun stopped => absurd (accepted.isRunning running) stopped }

/-- A new session keeps what arrived: nothing. -/
theorem keeps_start (source : ServerId) (limits : Limits) (execution : Execution)
    (world : host.World) : (start source limits execution world).Keeps [] where
  coherent := coherent_start source limits execution world
  taken _ := List.prefix_rfl
  held _ _ := rfl
  dropped _ _ := rfl

/-- A session that ends keeps what arrived, and drops what it held back. -/
theorem Keeps.stop (keeps : session.Keeps arrived) {next : Session host} (coherent : next.Coherent)
    (stopped : ¬ next.IsRunning) (same : next.processed = session.processed)
    (dropped : ∀ slot, next.deferred.held slot = []) : next.Keeps arrived where
  coherent := coherent
  taken slot := same ▸ keeps.taken slot
  held running := absurd running stopped
  dropped _ := dropped

/-- A session whose phase, table and processed operations stay keeps what arrived. -/
theorem Keeps.congr (keeps : session.Keeps arrived) {next : Session host} (coherent : next.Coherent)
    (phase : next.phase = session.phase) (same : next.processed = session.processed)
    (deferred : next.deferred = session.deferred) : next.Keeps arrived where
  coherent := coherent
  taken slot := same ▸ keeps.taken slot
  held running slot := by
    rw [same, deferred]
    exact keeps.held (by rwa [IsRunning, phase] at running) slot
  dropped stopped slot := by
    rw [deferred]
    exact keeps.dropped (by rwa [IsRunning, phase] at stopped) slot

/-- What an item that is taken brings is what arrives with it. -/
theorem arrival_of_ok {item : StreamItem} {admission : Admission}
    (taken : (session.handle item).1 = .ok admission) :
    session.arrival (.item item) = item.live := by
  cases item with
  | sync message => rfl
  | replicate message => simp only [arrival, taken, StreamItem.live]

/-- Nothing arrives with an item that is refused. -/
theorem arrival_of_error {item : StreamItem} {fault : ReplicationFault}
    (refused : (session.handle item).1 = .error fault) : session.arrival (.item item) = [] := by
  cases item with
  | sync message => rfl
  | replicate message => simp only [arrival, refused]

/-- Every move keeps what arrived. -/
theorem Keeps.move (keeps : session.Keeps arrived) (next : SessionMove host) :
    (session.move next).Keeps (arrived ++ session.arrival next) := by
  cases next with
  | item item =>
    have result := handled keeps.coherent item
    change (session.handle item).2.Keeps _
    rcases step : session.handle item with ⟨answer, next⟩
    rw [step] at result
    cases result with
    | accepted running accepted =>
      rw [arrival_of_ok (congrArg Prod.fst step)]
      exact keeps.accepted running accepted
    | refused running refused =>
      rw [arrival_of_error (congrArg Prod.fst step), List.append_nil]
      exact keeps.stop (coherent_failAt _ _) (by simp [IsRunning, failAt, fail])
        refused.processed_eq fun _ => rfl
    | ignored stopped known =>
      rw [arrival_of_error (congrArg Prod.fst step), List.append_nil]
      exact keeps
  | close =>
    change (session.move .close).Keeps (arrived ++ [])
    rw [List.append_nil]
    rcases session.move_close with ⟨-, same⟩ | ended
    · rw [same]
      exact keeps
    · have coherent := keeps.coherent.move .close
      rw [ended] at coherent ⊢
      exact keeps.stop coherent (by simp [IsRunning]) rfl fun _ => rfl
  | use action =>
    change (session.move (.use action)).Keeps (arrived ++ [])
    rw [List.append_nil]
    exact keeps.congr (keeps.coherent.move _) rfl (Surroundings.processed_use _ _) rfl
  | stir world =>
    change (session.move (.stir world)).Keeps (arrived ++ [])
    rw [List.append_nil]
    exact keeps.congr (keeps.coherent.move _) rfl rfl rfl

/-- A live operation that is taken is the last that arrived. -/
theorem Keeps.replicate (keeps : session.Keeps arrived) {message : ReplicationMessage}
    {admission : Admission} (taken : (session.handle (.replicate message)).1 = .ok admission) :
    (session.move (.item (.replicate message))).Keeps (arrived ++ [message]) := by
  have later := keeps.move (.item (.replicate message))
  rw [arrival_of_ok taken] at later
  exact later

/-- Every run keeps what arrived. -/
theorem Keeps.run (keeps : session.Keeps arrived) (moves : List (SessionMove host)) :
    (session.run moves).Keeps (arrived ++ session.arrivals moves) := by
  induction moves generalizing session arrived with
  | nil => exact (List.append_nil arrived).symm ▸ keeps
  | cons next rest ih =>
    rw [run_cons, arrivals, ← List.append_assoc]
    exact ih (keeps.move next)

end Session
end Standby
