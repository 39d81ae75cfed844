import Standby.Proofs.Replication.Contact
import Standby.Proofs.Replication.Entry

/-!
# What processed operations bring about

An operation that is processed leaves its mark around the session: its arrival is acknowledged to
the server that sent it, what its fate owes beside that is acknowledged at once, and it is handed
to its entity if that is its fate. Acknowledgements of arrivals and live requests come in the order
in which the operations are processed, and none comes without an operation (`Session.Effects`). So
the order of a slot (`Session.slot_order`) is that of what servers and entities get to see.
-/
namespace Standby

variable {host : Host}

/-- The request of a live operation; a request of a copy has no place in the stream. -/
def EntityRequest.isLive (request : EntityRequest) : Bool := request.sequence.isSome

/-- The operations whose arrival is acknowledged among other things, in order. -/
def receipts (acks : List (ServerId × Ack)) : List Label :=
  acks.filterMap fun
    | (target, .received sequence) => some (target, sequence)
    | (_, .completed _ _) => none

/-- What is acknowledged of an operation as it meets its fate, with the server that sent it. -/
def outright (entry : ReplicationMessage × Fate host) : List (ServerId × Ack) :=
  (entry.2.acks entry.1.sequence none).map (entry.1.source, ·)

/-- What is reported of a completion, with the server that the completion reports to. -/
def Completion.addressed (completion : Completion) (acks : List Ack) : List (ServerId × Ack) :=
  match completion.target? with
  | none => []
  | some target => acks.map (target, ·)

/-- Receipts among acknowledgements and then others come one after the other. -/
theorem receipts_append (first second : List (ServerId × Ack)) :
    receipts (first ++ second) = receipts first ++ receipts second :=
  List.filterMap_append

/-- Whatever the fate of an operation is, its arrival is acknowledged once. -/
theorem receipts_outright (entry : ReplicationMessage × Fate host) :
    receipts (outright entry) = [entry.1.label] := by
  obtain ⟨message, fate⟩ := entry
  cases fate <;> rfl

/-- Giving up a completion whose arrival was acknowledged acknowledges no arrival. -/
theorem Completion.receipts_settle {completion : Completion}
    (received : completion.receive = ([], completion)) (how : Settlement) :
    receipts (completion.addressed (completion.settle how).1) = [] := by
  cases completion with
  | silent => rfl
  | acking target sequence receivedSent completedSent =>
    cases receivedSent with
    | false => cases received
    | true => cases completedSent <;> cases how <;> rfl

namespace Surroundings

variable {around next : Surroundings host} {fates : List (ReplicationMessage × Fate host)}

/-- The acknowledgements that were sent, with the servers that they were sent to, in order. -/
def acks (around : Surroundings host) : List (ServerId × Ack) := Event.acks around.trace.toList

/-- The acknowledgements after one more event. -/
theorem acks_note (around : Surroundings host) (event : Event host) :
    (around.note event).acks = around.acks ++ Event.acks [event] := by
  simp only [acks, Event.acks, note, Array.toList_push, List.filterMap_append]

/-- Acknowledgements are sent in order, and no completion is touched. -/
theorem acks_sendAll (around : Surroundings host) (target : ServerId) (acks : List Ack) :
    (around.sendAll target acks).acks = around.acks ++ acks.map (target, ·) ∧
      (around.sendAll target acks).pending = around.pending := by
  unfold sendAll
  induction acks generalizing around with
  | nil => exact ⟨(List.append_nil _).symm, rfl⟩
  | cons ack rest ih =>
    have sent : (around.send target ack).acks = around.acks ++ [(target, ack)] := acks_note _ _
    obtain ⟨later, pending⟩ := ih (around.send target ack)
    refine ⟨?_, pending⟩
    rw [List.foldl_cons, later, sent, List.append_assoc]
    rfl

/-- A report is sent to the server of its completion, and no completion is touched. -/
theorem acks_report (around : Surroundings host) (completion : Completion) (acks : List Ack) :
    (around.report completion acks).acks = around.acks ++ completion.addressed acks ∧
      (around.report completion acks).pending = around.pending := by
  cases completion with
  | silent => exact ⟨(List.append_nil _).symm, rfl⟩
  | acking target sequence received completed => exact acks_sendAll _ _ _

/-- What was acknowledged so far answers for operations that met their fates. -/
structure Answers (around : Surroundings host) (fates : List (ReplicationMessage × Fate host)) :
    Prop where
  /-- A completion that is held was acknowledged on arrival, if it is acknowledged at all. -/
  held : ∀ entry ∈ around.pending, entry.2.receive = ([], entry.2)
  /-- The arrival of every operation was acknowledged, in order, and no other arrival. -/
  received : receipts around.acks = labelsOf fates
  /-- What the fates owe at once was acknowledged, in order. -/
  settled : (fates.flatMap outright).Sublist around.acks

/-- New surroundings answer for nothing. -/
theorem answers_ofWorld (world : host.World) : (ofWorld world).Answers [] :=
  ⟨fun _ member => absurd member List.not_mem_nil, rfl, .slnil⟩

/-- Where the completions that are held stay, what is acknowledged may answer for more. -/
theorem Answers.extend (answers : around.Answers fates) {more : List (ServerId × Ack)}
    {others : List (ReplicationMessage × Fate host)}
    (held : ∀ entry ∈ next.pending, entry.2.receive = ([], entry.2))
    (acks : next.acks = around.acks ++ more) (received : receipts more = labelsOf others)
    (settled : (others.flatMap outright).Sublist more) : next.Answers (fates ++ others) where
  held := held
  received := by
    rw [acks, receipts_append, answers.received, received, labelsOf, labelsOf, labelsOf,
      List.map_append]
  settled := by
    rw [acks, List.flatMap_append]
    exact answers.settled.append settled

/-- Where nothing is acknowledged, the answers stay, whatever completions are held. -/
theorem Answers.hold (answers : around.Answers fates)
    (held : ∀ entry ∈ next.pending, entry.2.receive = ([], entry.2))
    (acks : next.acks = around.acks) : next.Answers fates :=
  ⟨held, acks ▸ answers.received, acks ▸ answers.settled⟩

/-- A report that acknowledges no arrival answers for no more operations. -/
theorem Answers.report (answers : around.Answers fates) {completion : Completion} {acks : List Ack}
    (silent : receipts (completion.addressed acks) = []) :
    (around.report completion acks).Answers fates := by
  obtain ⟨sent, pending⟩ := acks_report around completion acks
  have same : (around.report completion acks).Answers (fates ++ []) :=
    answers.extend (pending ▸ answers.held) sent silent (List.nil_sublist _)
  rwa [List.append_nil] at same

/-- Making entities and ending copies answers for nothing. -/
theorem Answers.aside (answers : around.Answers fates) (aside : around.Aside next) :
    next.Answers fates := by
  refine answers.hold (aside.pending ▸ answers.held)
    (aside.grows.filterMap_eq _ fun event kind => ?_)
  cases event with
  | created entity version config removable fault => rfl
  | syncFinished bytes fault => rfl
  | _ => exact kind.elim False.elim False.elim

/-- Whatever an entity does with a completion acknowledges no arrival. -/
theorem Answers.use (answers : around.Answers fates) (action : CompletionUse) :
    (around.use action).Answers fates := by
  unfold Surroundings.use
  split
  · exact answers
  · rename_i completion found
    obtain ⟨earlier, later, split, -⟩ := List.lookup_eq_some_iff.mp found
    have received : completion.receive = ([], completion) := by
      refine answers.held (action.ticket, completion) ?_
      rw [split]
      exact List.mem_append_right _ List.mem_cons_self
    have silent : receipts (completion.addressed []) = [] := by cases completion <;> rfl
    cases action with
    | received ticket =>
      simp only [received]
      refine Answers.report (answers.hold ?_ ((acks_note _ _).trans (List.append_nil _))) silent
      intro entry member
      obtain ⟨old, known, rfl⟩ := List.mem_map.mp member
      split
      · exact received
      · exact answers.held old known
    | settle ticket how =>
      refine Answers.report (answers.hold ?_ ((acks_note _ _).trans (List.append_nil _)))
        (Completion.receipts_settle received how)
      exact fun entry member => answers.held entry (List.mem_of_mem_filter member)

/-- Whatever entities do with completions acknowledges no arrival. -/
theorem Answers.uses (answers : around.Answers fates) (uses : List CompletionUse) :
    (uses.foldl Surroundings.use around).Answers fates := by
  induction uses generalizing around with
  | nil => exact answers
  | cons action rest ih => exact ih (answers.use action)

/-- Handing a request on acknowledges no arrival, if that of its operation was acknowledged. -/
theorem Answers.execute (answers : around.Answers fates) (execution : Execution)
    {job : ApplyJob host} (received : job.completion.receive = ([], job.completion)) :
    (around.execute execution job).Answers fates := by
  cases execution with
  | lanes => exact answers.hold answers.held rfl
  | inline =>
    obtain ⟨uses, world, ran⟩ := around.run_eq job
    rw [Surroundings.execute, ran]
    refine Answers.uses ?_ uses
    refine answers.hold ?_ ((acks_note _ _).trans (List.append_nil _))
    intro entry member
    rcases List.mem_cons.mp member with rfl | earlier
    · exact received
    · exact answers.held entry earlier

/-- What is acknowledged of an operation as it meets its fate answers for it. -/
theorem Answers.answer (answers : around.Answers fates) (message : ReplicationMessage)
    (fate : Fate host) (skipped received completed : Bool) :
    ((around.note (.processed message skipped)).report
      (.acking message.source message.sequence received completed)
      (fate.acks message.sequence none)).Answers (fates ++ [(message, fate)]) := by
  obtain ⟨acks, pending⟩ := acks_report (around.note (.processed message skipped))
    (.acking message.source message.sequence received completed) (fate.acks message.sequence none)
  have noted : (around.note (.processed message skipped)).acks = around.acks :=
    (acks_note _ _).trans (List.append_nil _)
  refine answers.extend (pending ▸ answers.held) (acks.trans (congrArg (· ++ _) noted))
    (receipts_outright (message, fate)) ?_
  rw [List.flatMap_singleton]
  exact .refl _

end Surroundings

namespace Session

variable {session : Session host} {fates : List (ReplicationMessage × Fate host)}

/-- An operation that is processed is answered for, with its fate. -/
theorem answers_process (session : Session host) (answers : session.around.Answers fates)
    (message : ReplicationMessage) : (session.process message).2.around.Answers
      (fates ++ [(message, session.fate message)]) := by
  have fate := session.processes message
  generalize session.process message = step at fate ⊢
  obtain ⟨admission, next⟩ := step
  cases fate with
  | acknowledged idle =>
    rw [fate_of_noop idle]
    exact answers.answer message .acknowledged false false false
  | unmade acts found =>
    rw [fate_of_unmade acts found]
    exact (answers.aside (.of_findOrCreate found)).answer message .unmade true false false
  | unread acts found unread =>
    rw [fate_of_unread acts found unread]
    exact (answers.aside (.of_findOrCreate found)).answer message .unread true false false
  | @dispatched handle made around body acts found read =>
    rw [fate_of_read acts found read]
    exact ((answers.aside (.of_findOrCreate found)).answer message (.handed handle body) false
      true false).execute _ rfl

/-- Operations that are replayed are answered for, with their fates. -/
theorem answers_replayed (held : List ReplicationMessage) (session : Session host)
    (answers : session.around.Answers fates) :
    (held.foldl replay session).around.Answers (fates ++ session.replayed held) := by
  induction held generalizing session fates with
  | nil => exact (List.append_nil fates).symm ▸ answers
  | cons message rest ih =>
    have once : (session.replay message).around.Answers
        (fates ++ [(message, session.fate message)]) :=
      answers_process { session with
        stats := { session.stats with replayed := session.stats.replayed + 1 } } answers message
    rw [List.foldl_cons, replayed, List.append_cons]
    exact ih (session.replay message) once

/-- A request of a copy acknowledges nothing. -/
theorem answers_dispatchSync (session : Session host) (answers : session.around.Answers fates)
    (handle : host.Handle) (action : EntityAction) (key : ConcurrencyKey)
    (body : RequestBody host.Message host.Chunk) :
    (session.dispatchSync handle action key body).around.Answers fates :=
  answers.execute _ rfl

/-- The operations that are processed as an item is taken are answered for. -/
theorem Accepted.answers {item : StreamItem} {admission : Admission} {next : Session host}
    (accepted : session.Accepted item admission next) (answers : session.around.Answers fates) :
    next.around.Answers (fates ++ session.fatesOf item) := by
  have nothing : fates ++ [] = fates := List.append_nil fates
  cases accepted with
  | startSync idle => exact nothing.symm ▸ answers
  | startEntity syncing closed found =>
    exact nothing.symm ▸ answers_dispatchSync (session.adopt _ _)
      (answers.aside (.of_findOrCreate found)) _ _ _ _
  | @endKey current key syncing isOpen within =>
    have fates : session.fatesOf (.sync (.endKey current.id current.version key)) =
        (session.endingKey current key).replayed (session.deferred.held ⟨current.id, key⟩) := by
      rw [fatesOf, isOpen]
    rw [fates]
    exact answers_dispatchSync _ (answers_replayed _ (session.endingKey current key) answers)
      _ _ _ _
  | endSync syncing closed finished =>
    exact nothing.symm ▸ answers.aside (.of_finishSync finished)
  | deferred isOpen room =>
    rw [fatesOf, if_pos isOpen]
    exact nothing.symm ▸ answers
  | processed elsewhere =>
    rw [fatesOf, if_neg elsewhere]
    exact answers_process session answers _
  | _ => exact nothing.symm ▸ answers.execute _ rfl

/-- The operations that a run processes are answered for. -/
theorem answers_run (coherent : session.Coherent) (answers : session.around.Answers fates)
    (moves : List (SessionMove host)) :
    (session.run moves).around.Answers (fates ++ session.fates moves) := by
  refine collect_induction (motive := fun later met => later.around.Answers met) ?_ ?_
    coherent fates answers moves
  · intro reached met item admission next _ _ accepted earlier
    exact accepted.answers earlier
  · intro reached met next coherent idle earlier
    rcases around_of_idle coherent idle with ⟨action, rfl⟩ | aside
    · exact earlier.use action
    · exact earlier.aside aside

/-- The requests of operations are live. -/
theorem filter_isLive_ofFate (fates : List (ReplicationMessage × Fate host)) :
    (fates.filterMap Dispatch.ofFate?).filter (·.content.2.1.isLive) =
      fates.filterMap Dispatch.ofFate? := by
  refine List.filter_eq_self.mpr fun dispatch member => ?_
  obtain ⟨⟨message, fate⟩, -, asked⟩ := List.mem_filterMap.mp member
  cases fate with
  | handed handle body =>
    cases asked
    rfl
  | _ => cases asked

/-- A request of a copy is not live. -/
theorem isLive_of_copyDispatch? {message : SyncMessage} {dispatch : Dispatch host}
    (asked : session.copyDispatch? message = some dispatch) :
    dispatch.content.2.1.isLive = false := by
  obtain ⟨action, key, handle, -, -, rfl⟩ := eq_of_copyDispatch? asked
  rfl

/-- Among the requests that an item causes, the live ones are those of operations. -/
theorem filter_isLive_dispatchesOf (session : Session host) (item : StreamItem) :
    (session.dispatchesOf item).filter (·.content.2.1.isLive) =
      (session.fatesOf item).filterMap Dispatch.ofFate? := by
  cases item with
  | replicate message =>
    simp only [dispatchesOf, List.append_nil]
    exact filter_isLive_ofFate _
  | sync message =>
    simp only [dispatchesOf]
    rw [List.filter_append, filter_isLive_ofFate]
    cases asked : session.copyDispatch? message with
    | none => exact List.append_nil _
    | some dispatch => simp [isLive_of_copyDispatch? asked]

/-- Among the requests that a run hands on, the live ones are those of operations. -/
theorem filter_isLive_dispatches (session : Session host) (moves : List (SessionMove host)) :
    (session.dispatches moves).filter (·.content.2.1.isLive) =
      (session.fates moves).filterMap Dispatch.ofFate? := by
  induction moves generalizing session with
  | nil => rfl
  | cons next rest ih =>
    rw [dispatches, fates, collect, collect, List.filter_append, List.filterMap_append]
    refine congrArg₂ (· ++ ·) ?_ (ih _)
    cases session.taken? next with
    | none => rfl
    | some item => exact session.filter_isLive_dispatchesOf item

/-- What a session brought about by processing operations that met their fates. -/
structure Effects (session : Session host) (fates : List (ReplicationMessage × Fate host)) :
    Prop where
  /-- The operations that are on record as processed are those with a fate. -/
  recorded : session.processed = fates.map Prod.fst
  /-- The fate of an operation is to be acknowledged outright exactly if it does nothing. -/
  idle : ∀ message fate, (message, fate) ∈ fates → (message.kind = .noop ↔ fate = .acknowledged)
  /-- The arrival of every operation was acknowledged to the server that sent it, in the order in
  which they were processed, and no other arrival was. -/
  received : receipts session.around.acks = labelsOf fates
  /-- What the fates owe at once was acknowledged in this order: success for an operation that does
  nothing, and failure for one whose entity cannot be made. -/
  settled : (fates.flatMap outright).Sublist session.around.acks
  /-- The live requests that were handed on are those of the operations whose fate it was, in this
  order. -/
  handed : session.handedOn.filter (·.2.1.isLive) =
    (fates.filterMap Dispatch.ofFate?).map (·.content)
  /-- Requests that are run at once have reached their entities. -/
  delivered : session.execution = .inline → session.handedOn = session.around.contents

/-- The fate of an operation is to be acknowledged outright exactly if it does nothing. -/
theorem fate_eq_acknowledged_iff (session : Session host) (message : ReplicationMessage) :
    session.fate message = .acknowledged ↔ message.kind = .noop := by
  refine ⟨fun acknowledged => ?_, fate_of_noop⟩
  by_contra acts
  rw [fate, if_neg acts] at acknowledged
  split at acknowledged
  · cases acknowledged
  · split at acknowledged <;> cases acknowledged

/-- A run keeps the way in which requests get to their entities. -/
theorem execution_run (coherent : session.Coherent) (moves : List (SessionMove host)) :
    (session.run moves).execution = session.execution := by
  have kept (reached : Session host) (next : SessionMove host)
      (before : reached.Coherent ∧ reached.execution = session.execution) :
      (reached.move next).Coherent ∧ (reached.move next).execution = session.execution := by
    obtain ⟨coherent, same⟩ := before
    obtain ⟨jobs, handed⟩ := move_hands coherent next
    exact ⟨coherent.move next, handed.execution.trans same⟩
  exact (run_induction kept moves ⟨coherent, rfl⟩).2

/-- What a new session brings about in a run are the effects of the operations that it processes. -/
theorem effects_run (source : ServerId) (limits : Limits) (execution : Execution)
    (world : host.World) (moves : List (SessionMove host)) :
    ((start source limits execution world).run moves).Effects
      ((start source limits execution world).fates moves) := by
  have coherent := coherent_start source limits execution world
  have answers := answers_run coherent (Surroundings.answers_ofWorld world) moves
  rw [List.nil_append] at answers
  constructor
  case recorded => exact processed_run coherent moves
  case idle =>
    intro message fate member
    obtain ⟨reached, rfl⟩ := fate_of_mem member
    exact (reached.fate_eq_acknowledged_iff message).symm
  case received => exact answers.received
  case settled => exact answers.settled
  case handed =>
    rw [handedOn_run, List.filter_map]
    exact congrArg _ (filter_isLive_dispatches _ moves)
  case delivered =>
    intro inline
    rw [execution_run coherent moves] at inline
    cases inline
    rw [handedOn, Surroundings.queued, backlog_run_of_inline]
    exact List.append_nil _

/-- What is collected in some moves and then in others comes one after the other. -/
theorem collect_append {α : Type} (answer : Session host → StreamItem → List α)
    (session : Session host) (first second : List (SessionMove host)) :
    session.collect answer (first ++ second) =
      session.collect answer first ++ (session.run first).collect answer second := by
  induction first generalizing session with
  | nil => rfl
  | cons next rest ih => rw [List.cons_append, collect, collect, run_cons, ih, List.append_assoc]

/-- The accepted live operations of a slot are processed in the order of their arrival, without
loss and without repetition, and with their effects: what was processed is a beginning of what
arrived, the rest is held back while the session runs, and nothing is held back outside of a copy.
What is held back when the session fails or is closed is dropped: no more operations meet a fate,
and no more effects come about. -/
theorem slot_order (source : ServerId) (limits : Limits) (execution : Execution)
    (world : host.World) (moves : List (SessionMove host)) (slot : Slot) :
    let initial := start source limits execution world
    let session := initial.run moves
    let fates := initial.fates moves
    let arrived := inSlot slot (initial.arrivals moves)
    let processed := inSlot slot (fates.map Prod.fst)
    session.Effects fates ∧ processed <+: arrived ∧
      (session.phase = .live ∨ session.phase = .syncing →
        arrived = processed ++ session.deferred.held slot) ∧
      (session.phase = .live → arrived = processed) ∧
      (session.phase = .failed ∨ session.phase = .closed →
        session.deferred.held slot = [] ∧ ∀ later,
          initial.fates (moves ++ later) = fates ∧ (session.run later).Effects fates) := by
  intro initial session fates arrived processed
  have coherent : initial.Coherent := coherent_start source limits execution world
  have keeps : session.Keeps (initial.arrivals moves) :=
    (keeps_start source limits execution world).run moves
  have effects : session.Effects fates := effects_run source limits execution world moves
  have same : processed = inSlot slot session.processed := congrArg _ effects.recorded.symm
  rw [same]
  refine ⟨effects, keeps.taken slot, fun running => keeps.held running slot, fun live => ?_,
    fun stopped => ?_⟩
  · have closed : session.openSlot = none :=
      openSlot_of_none (keeps.coherent.openEntity_of_not_syncing (by simp [live]))
    have whole := keeps.held (.inl live) slot
    rw [keeps.coherent.held_of_closed closed slot, List.append_nil] at whole
    exact whole
  · have stopped : ¬ session.IsRunning := by
      rcases stopped with failed | closed
      · simp [IsRunning, failed]
      · simp [IsRunning, closed]
    refine ⟨keeps.dropped stopped slot, fun later => ?_⟩
    have unchanged : initial.fates (moves ++ later) = fates := by
      rw [Session.fates, collect_append, collect_of_stopped (coherent.run moves) stopped later,
        List.append_nil]
      rfl
    refine ⟨unchanged, ?_⟩
    have after := effects_run source limits execution world (moves ++ later)
    rw [run_append] at after
    exact unchanged ▸ after

end Session
end Standby
