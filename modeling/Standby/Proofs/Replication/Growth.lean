import Standby.Replication.Surroundings

/-!
# Growth of the trace

Nothing is ever taken off the trace of a session. What an operation of the surroundings puts on
it is described by the kinds of events that it may add, so a question about other kinds of
events is not affected by it. Two such questions are answered here: which live operations were
processed, and which requests wait for the lanes.
-/
namespace Standby

variable {host : Host}

namespace Event

/-- An entity used a completion, or an acknowledgement was sent. -/
def IsReply : Event host → Prop
  | .used _ => True
  | .acked .. => True
  | _ => False

/-- A request was handed to its entity, or it was replied to. -/
def IsExchange : Event host → Prop
  | .delivered _ => True
  | .used _ => True
  | .acked .. => True
  | _ => False

/-- An entity was made, or could not be made. -/
def IsCreation : Event host → Prop
  | .created .. => True
  | _ => False

/-- The work at the end of a copy was done, or failed. -/
def IsSyncFinish : Event host → Prop
  | .syncFinished .. => True
  | _ => False

/-- The live operation that an event says was processed. -/
def processed? : Event host → Option ReplicationMessage
  | .processed message _ => some message
  | _ => none

/-- A reply is part of an exchange. -/
theorem IsReply.isExchange {event : Event host} (reply : event.IsReply) : event.IsExchange := by
  cases event with
  | used _ => trivial
  | acked _ _ _ => trivial
  | _ => exact False.elim reply

/-- An exchange with an entity is not the processing of a live operation. -/
theorem IsExchange.processed?_eq_none {event : Event host} (exchange : event.IsExchange) :
    event.processed? = none := by
  cases event <;> first | rfl | exact exchange.elim

/-- The making of an entity is not the processing of a live operation. -/
theorem IsCreation.processed?_eq_none {event : Event host} (creation : event.IsCreation) :
    event.processed? = none := by
  cases event <;> first | rfl | exact creation.elim

/-- The end of a copy is not the processing of a live operation. -/
theorem IsSyncFinish.processed?_eq_none {event : Event host} (finish : event.IsSyncFinish) :
    event.processed? = none := by
  cases event <;> first | rfl | exact finish.elim

end Event

namespace Surroundings

variable {kind wider : Event host → Prop} {before middle after : Surroundings host}

/-- The trace of the later surroundings is that of the earlier ones and then events of a kind. -/
def Grows (kind : Event host → Prop) (before after : Surroundings host) : Prop :=
  ∃ added : List (Event host),
    after.trace.toList = before.trace.toList ++ added ∧ ∀ event ∈ added, kind event

/-- A trace that stays as it is grows by nothing. -/
theorem Grows.of_eq (same : after.trace = before.trace) : Grows kind before after :=
  ⟨[], by rw [same, List.append_nil], fun _ member => absurd member List.not_mem_nil⟩

/-- Growth adds up. -/
theorem Grows.trans (first : Grows kind before middle) (second : Grows kind middle after) :
    Grows kind before after := by
  obtain ⟨early, earlyTrace, earlyKind⟩ := first
  obtain ⟨late, lateTrace, lateKind⟩ := second
  refine ⟨early ++ late, by rw [lateTrace, earlyTrace, List.append_assoc], fun event member => ?_⟩
  rcases List.mem_append.mp member with old | new
  · exact earlyKind event old
  · exact lateKind event new

/-- Growth by events of a kind is growth by events of every wider kind. -/
theorem Grows.mono (grows : Grows kind before after) (wide : ∀ event, kind event → wider event) :
    Grows wider before after := by
  obtain ⟨added, trace, kinds⟩ := grows
  exact ⟨added, trace, fun event member => wide event (kinds event member)⟩

/-- A question that no added event answers has the answers it had. -/
theorem Grows.filterMap_eq {α : Type} (grows : Grows kind before after)
    (question : Event host → Option α) (silent : ∀ event, kind event → question event = none) :
    after.trace.toList.filterMap question = before.trace.toList.filterMap question := by
  obtain ⟨added, trace, kinds⟩ := grows
  have unanswered : added.filterMap question = [] :=
    List.filterMap_eq_nil_iff.mpr fun event member => silent event (kinds event member)
  rw [trace, List.filterMap_append, unanswered, List.append_nil]

/-- Putting an event on the trace adds that event. -/
theorem grows_note (around : Surroundings host) (event : Event host) (fits : kind event) :
    Grows kind around (around.note event) :=
  ⟨[event], by simp [note], by simpa using fits⟩

/-- Sending an acknowledgement adds a reply. -/
theorem grows_send (around : Surroundings host) (target : ServerId) (ack : Ack) :
    Grows Event.IsReply around (around.send target ack) := by
  have counted : Grows Event.IsReply around { around with acksSent := around.acksSent + 1 } :=
    .of_eq rfl
  exact counted.trans (grows_note _ _ trivial)

/-- Sending acknowledgements adds replies. -/
theorem grows_sendAll (around : Surroundings host) (target : ServerId) (acks : List Ack) :
    Grows Event.IsReply around (around.sendAll target acks) := by
  unfold sendAll
  induction acks generalizing around with
  | nil => exact .of_eq rfl
  | cons ack rest ih => exact (grows_send around target ack).trans (ih _)

/-- Reporting adds replies. -/
theorem grows_report (around : Surroundings host) (completion : Completion) (acks : List Ack) :
    Grows Event.IsReply around (around.report completion acks) := by
  unfold report
  split
  · exact .of_eq rfl
  · exact grows_sendAll _ _ _

/-- Giving a completion up adds replies. -/
theorem grows_settle (around : Surroundings host) (completion : Completion) (how : Settlement) :
    Grows Event.IsReply around (around.settle completion how) := grows_report _ _ _

/-- An entity that uses a completion adds replies. -/
theorem grows_use (around : Surroundings host) (action : CompletionUse) :
    Grows Event.IsReply around (around.use action) := by
  unfold use
  split
  · exact .of_eq rfl
  · split
    · exact ((Grows.of_eq rfl).trans (grows_note _ _ trivial)).trans (grows_report _ _ _)
    · exact ((Grows.of_eq rfl).trans (grows_note _ _ trivial)).trans (grows_settle _ _ _)

/-- Using completions adds replies. -/
theorem grows_foldl_use (uses : List CompletionUse) (around : Surroundings host) :
    Grows Event.IsReply around (uses.foldl use around) := by
  induction uses generalizing around with
  | nil => exact .of_eq rfl
  | cons action rest ih => exact (grows_use around action).trans (ih _)

/-- Handing a request to its entity adds an exchange. -/
theorem grows_run (around : Surroundings host) (job : ApplyJob host) :
    Grows Event.IsExchange around (around.run job) := by
  refine Grows.trans ?_ ((grows_foldl_use _ _).mono fun _ => Event.IsReply.isExchange)
  exact (Grows.of_eq rfl).trans (grows_note _ _ trivial)

/-- Handing a request on adds at most an exchange. -/
theorem grows_execute (execution : Execution) (around : Surroundings host) (job : ApplyJob host) :
    Grows Event.IsExchange around (around.execute execution job) := by
  cases execution with
  | inline => exact grows_run around job
  | lanes => exact .of_eq rfl

/-- Finding or making an entity adds at most its making. -/
theorem grows_findOrCreate (around : Surroundings host) (entity : EntityId) (version : UInt64)
    (config : ByteArray) :
    Grows Event.IsCreation around (around.findOrCreate entity version config).2 := by
  unfold findOrCreate
  split
  · exact .of_eq rfl
  · dsimp only
    split
    · exact (Grows.of_eq rfl).trans (grows_note _ _ trivial)
    · exact (Grows.of_eq rfl).trans (grows_note _ _ trivial)

/-- The work at the end of a copy adds its outcome. -/
theorem grows_finishSync (around : Surroundings host) (bytes : ByteArray) :
    Grows Event.IsSyncFinish around (around.finishSync bytes).2 :=
  (Grows.of_eq rfl).trans (grows_note _ _ trivial)

/-- The live operations that were processed, in the order in which that happened. -/
def processed (around : Surroundings host) : List ReplicationMessage :=
  around.trace.toList.filterMap Event.processed?

/-- A live operation put on the trace is the last one processed. -/
@[simp] theorem processed_note_processed (around : Surroundings host)
    (message : ReplicationMessage) (skipped : Bool) :
    (around.note (.processed message skipped)).processed = around.processed ++ [message] := by
  simp [processed, note, Event.processed?]

/-- Giving a completion up processes nothing. -/
@[simp] theorem processed_settle (around : Surroundings host) (completion : Completion)
    (how : Settlement) : (around.settle completion how).processed = around.processed :=
  (grows_settle around completion how).filterMap_eq _ fun _ reply =>
    reply.isExchange.processed?_eq_none

/-- Reporting processes nothing. -/
@[simp] theorem processed_report (around : Surroundings host) (completion : Completion)
    (acks : List Ack) : (around.report completion acks).processed = around.processed :=
  (grows_report around completion acks).filterMap_eq _ fun _ reply =>
    reply.isExchange.processed?_eq_none

/-- Using a completion processes nothing. -/
@[simp] theorem processed_use (around : Surroundings host) (action : CompletionUse) :
    (around.use action).processed = around.processed :=
  (grows_use around action).filterMap_eq _ fun _ reply => reply.isExchange.processed?_eq_none

/-- Handing a request on processes nothing. -/
@[simp] theorem processed_execute (execution : Execution) (around : Surroundings host)
    (job : ApplyJob host) : (around.execute execution job).processed = around.processed :=
  (grows_execute execution around job).filterMap_eq _ fun _ => Event.IsExchange.processed?_eq_none

/-- Finding or making an entity processes nothing. -/
theorem processed_of_findOrCreate {around next : Surroundings host} {entity : EntityId}
    {version : UInt64} {config : ByteArray} {result : Except EntityFault (host.Handle × Bool)}
    (found : around.findOrCreate entity version config = (result, next)) :
    next.processed = around.processed := by
  have grows := grows_findOrCreate around entity version config
  rw [found] at grows
  exact grows.filterMap_eq _ fun _ => Event.IsCreation.processed?_eq_none

/-- The work at the end of a copy processes nothing. -/
theorem processed_of_finishSync {around next : Surroundings host} {bytes : ByteArray}
    {result : Except EntityFault Unit} (finished : around.finishSync bytes = (result, next)) :
    next.processed = around.processed := by
  have grows := grows_finishSync around bytes
  rw [finished] at grows
  exact grows.filterMap_eq _ fun _ => Event.IsSyncFinish.processed?_eq_none

/-- Sending acknowledgements lets no request wait. -/
@[simp] theorem backlog_sendAll (around : Surroundings host) (target : ServerId)
    (acks : List Ack) : (around.sendAll target acks).backlog = around.backlog := by
  unfold sendAll
  induction acks generalizing around with
  | nil => rfl
  | cons ack rest ih => exact ih _

/-- Reporting lets no request wait. -/
@[simp] theorem backlog_report (around : Surroundings host) (completion : Completion)
    (acks : List Ack) : (around.report completion acks).backlog = around.backlog := by
  unfold report
  split
  · rfl
  · exact backlog_sendAll _ _ _

/-- Giving a completion up lets no request wait. -/
@[simp] theorem backlog_settle (around : Surroundings host) (completion : Completion)
    (how : Settlement) : (around.settle completion how).backlog = around.backlog :=
  backlog_report _ _ _

/-- Using a completion lets no request wait. -/
@[simp] theorem backlog_use (around : Surroundings host) (action : CompletionUse) :
    (around.use action).backlog = around.backlog := by
  unfold use
  split
  · rfl
  · split
    · exact backlog_report _ _ _
    · exact backlog_settle _ _ _

/-- Handing a request to its entity lets no request wait. -/
@[simp] theorem backlog_run (around : Surroundings host) (job : ApplyJob host) :
    (around.run job).backlog = around.backlog := by
  have uses (actions : List CompletionUse) (around : Surroundings host) :
      (actions.foldl use around).backlog = around.backlog := by
    induction actions generalizing around with
    | nil => rfl
    | cons action rest ih => exact (ih _).trans (backlog_use around action)
  exact uses _ _

/-- Finding or making an entity lets no request wait. -/
theorem backlog_of_findOrCreate {around next : Surroundings host} {entity : EntityId}
    {version : UInt64} {config : ByteArray} {result : Except EntityFault (host.Handle × Bool)}
    (found : around.findOrCreate entity version config = (result, next)) :
    next.backlog = around.backlog := by
  have same : (around.findOrCreate entity version config).2.backlog = around.backlog := by
    unfold findOrCreate
    split
    · rfl
    · dsimp only
      split <;> rfl
  rw [found] at same
  exact same

/-- The work at the end of a copy lets no request wait. -/
theorem backlog_of_finishSync {around next : Surroundings host} {bytes : ByteArray}
    {result : Except EntityFault Unit} (finished : around.finishSync bytes = (result, next)) :
    next.backlog = around.backlog := by
  have same : (around.finishSync bytes).2.backlog = around.backlog := rfl
  rw [finished] at same
  exact same

end Surroundings

/-- The requests that wait for a lane after one was handed on. -/
def Execution.waiting (execution : Execution) (job : ApplyJob host) : List (ApplyJob host) :=
  match execution with
  | .inline => []
  | .lanes => [job]

/-- A request that is handed on waits behind the others, unless it is run at once. -/
theorem Surroundings.backlog_execute (execution : Execution) (around : Surroundings host)
    (job : ApplyJob host) : (around.execute execution job).backlog.toList =
      around.backlog.toList ++ execution.waiting job := by
  cases execution with
  | inline => simp [execute, Execution.waiting]
  | lanes => simp [execute, Execution.waiting]

end Standby
