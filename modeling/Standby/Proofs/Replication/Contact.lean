import Standby.Proofs.Replication.Pipeline
import Standby.Proofs.Replication.Registration

/-!
# Requests go to entities that were found or made

`Session.contacts` lists in one order the entities that a run finds or makes and the requests that
it hands on. The requests in it are those that reached entities or wait for a lane
(`Session.handedOn_run`), the entities that were made are those on the trace
(`Session.makings_run`), and every request comes behind the finding or making of its entity
(`Session.introduced_run`).
-/
namespace Standby

variable {host : Host}

/-- What a session has to do with an entity. -/
inductive Contact (host : Host) where
  /-- The entity was found, or made. -/
  | obtained (entity : EntityId) (version : UInt64) (handle : host.Handle) (made : Bool)
  /-- The entity was asked for something. -/
  | asked (content : Content host)

namespace Contact

/-- The entity that was made, with its version. -/
def made? : Contact host → Option (EntityId × UInt64)
  | obtained entity version _ true => some (entity, version)
  | _ => none

/-- What an entity was asked for. -/
def asked? : Contact host → Option (Content host)
  | asked content => some content
  | _ => none

/-- An entity was found or made. -/
def Introduces (handle : host.Handle) (contacts : List (Contact host)) : Prop :=
  ∃ entity version made, obtained entity version handle made ∈ contacts

/-- Every request comes behind the finding or making of its entity. -/
def Introduced (contacts : List (Contact host)) : Prop :=
  ∀ earlier content later, contacts = earlier ++ asked content :: later →
    Introduces content.1 earlier

variable {earlier later : List (Contact host)} {content : Content host}

/-- Without contacts nothing is asked. -/
theorem introduced_nil : Introduced ([] : List (Contact host)) := by
  intro earlier content later split
  exact absurd split.symm (List.append_ne_nil_of_right_ne_nil _ (List.cons_ne_nil _ _))

/-- What was obtained before counts later too. -/
theorem Introduces.append {handle : host.Handle} (introduces : Introduces handle earlier)
    (later : List (Contact host)) : Introduces handle (earlier ++ later) := by
  obtain ⟨entity, version, made, member⟩ := introduces
  exact ⟨entity, version, made, List.mem_append_left _ member⟩

/-- Contacts in order stay so when contacts in order come behind them. -/
theorem Introduced.append (first : Introduced earlier) (second : Introduced later) :
    Introduced (earlier ++ later) := by
  intro before content rest split
  rcases List.append_eq_append_iff.mp split with ⟨middle, rfl, whole⟩ | ⟨middle, whole, whole'⟩
  · obtain ⟨entity, version, made, member⟩ := second middle content rest whole
    exact ⟨entity, version, made, List.mem_append_right _ member⟩
  · cases middle with
    | nil =>
      rw [List.append_nil] at whole
      obtain ⟨_, _, _, member⟩ := second [] content rest whole'.symm
      exact absurd member List.not_mem_nil
    | cons first_one others =>
      obtain ⟨rfl, rfl⟩ := List.cons.inj whole'
      exact first before content others whole

/-- A request may come last when its entity was found or made before. -/
theorem Introduced.concat (introduced : Introduced earlier)
    (introduces : Introduces content.1 earlier) : Introduced (earlier ++ [asked content]) := by
  intro before other rest split
  rcases List.eq_nil_or_concat rest with rfl | ⟨front, last, rfl⟩
  · obtain ⟨rfl, same⟩ := List.append_inj' split rfl
    obtain rfl : content = other := asked.inj (List.head_eq_of_cons_eq same)
    exact introduces
  · rw [List.concat_eq_append, ← List.cons_append, ← List.append_assoc] at split
    obtain ⟨rfl, -⟩ := List.append_inj' split rfl
    exact introduced before other front rfl

end Contact

/-- What an entity gets with a request that waits for it. -/
def ApplyJob.content (job : ApplyJob host) : Content host := (job.handle, job.request, job.body)

/-- What waits for entities: it was handed on to the lanes. -/
def Surroundings.queued (around : Surroundings host) : List (Content host) :=
  around.backlog.toList.map ApplyJob.content

namespace Session

variable {session : Session host}

/-- What was handed on to entities: they got it, or it waits for a lane. -/
def handedOn (session : Session host) : List (Content host) :=
  session.around.contents ++ session.around.queued

/-- Through lanes some requests are handed on: nothing more is delivered, and they wait. -/
structure Queues (before after : Session host) (requests : List (Content host)) : Prop where
  contents : after.around.contents = before.around.contents
  queued : after.around.queued = before.around.queued ++ requests

/-- What is handed on first waits first. -/
theorem Queues.trans {before middle after : Session host} {first second : List (Content host)}
    (early : Queues before middle first) (late : Queues middle after second) :
    Queues before after (first ++ second) :=
  ⟨late.contents.trans early.contents,
    by rw [late.queued, early.queued, List.append_assoc]⟩

/-- Nothing is handed on while nothing is delivered and nothing more waits. -/
theorem Queues.nothing {before after : Session host}
    (contents : after.around.contents = before.around.contents)
    (backlog : after.around.backlog = before.around.backlog) : Queues before after [] :=
  ⟨contents, by rw [Surroundings.queued, backlog, List.append_nil, Surroundings.queued]⟩

/-- A request of a copy waits behind the others. -/
theorem queues_dispatchSync (session : Session host) (lanes : session.execution = .lanes)
    (handle : host.Handle) (action : EntityAction) (key : ConcurrencyKey)
    (body : RequestBody host.Message host.Chunk) :
    Queues session (session.dispatchSync handle action key body)
      [(handle, session.copyRequest action key, body)] := by
  rw [dispatchSync, lanes]
  exact ⟨rfl, by simp [Surroundings.queued, Surroundings.execute, ApplyJob.content, copyRequest]⟩

/-- A live operation waits behind the others if it is handed to its entity. -/
theorem queues_process (session : Session host) (lanes : session.execution = .lanes)
    (message : ReplicationMessage) :
    Queues session (session.process message).2
      ((Dispatch.ofFate? (message, session.fate message)).toList.map (·.content)) := by
  have fate := session.processes message
  generalize session.process message = step at fate ⊢
  obtain ⟨admission, next⟩ := step
  have reported (around : Surroundings host) (skipped : Bool) (completion : Completion)
      (acks : List Ack) : ((around.note (.processed message skipped)).report completion
        acks).contents = around.contents := by
    rw [Surroundings.contents_of_reply (Surroundings.grows_report _ _ _)]
    simp [Surroundings.contents_eq, Surroundings.note, Event.content?]
  cases fate with
  | acknowledged idle =>
    rw [fate_of_noop idle]
    exact .nothing (reported _ _ _ _) (Surroundings.backlog_settle _ _ _)
  | unmade acts found =>
    have waiting := Surroundings.backlog_of_findOrCreate found
    rw [fate_of_unmade acts found]
    exact .nothing ((reported _ _ _ _).trans (Surroundings.Aside.of_findOrCreate found).contents)
      ((Surroundings.backlog_settle _ _ _).trans waiting)
  | unread acts found unread =>
    have waiting := Surroundings.backlog_of_findOrCreate found
    rw [fate_of_unread acts found unread]
    exact .nothing ((reported _ _ _ _).trans (Surroundings.Aside.of_findOrCreate found).contents)
      ((Surroundings.backlog_settle _ _ _).trans waiting)
  | dispatched acts found read =>
    rw [fate_of_read acts found read]
    simp only [adopt, lanes, Surroundings.execute]
    refine ⟨(reported _ _ _ _).trans (Surroundings.Aside.of_findOrCreate found).contents, ?_⟩
    have waiting := Surroundings.backlog_of_findOrCreate found
    simp [Surroundings.queued, Surroundings.note, waiting, Dispatch.ofFate?, ApplyJob.content,
      ReplicationMessage.request]

/-- Operations that are replayed wait in order if they are handed to their entities. -/
theorem queues_replayed (held : List ReplicationMessage) (session : Session host)
    (lanes : session.execution = .lanes) :
    Queues session (held.foldl replay session)
      (((session.replayed held).filterMap Dispatch.ofFate?).map (·.content)) := by
  induction held generalizing session with
  | nil => exact .nothing rfl rfl
  | cons message rest ih =>
    have processed := queues_process { session with
      stats := { session.stats with replayed := session.stats.replayed + 1 } } lanes message
    have once : Queues session (session.replay message)
        ((Dispatch.ofFate? (message, session.fate message)).toList.map (·.content)) :=
      ⟨processed.contents, processed.queued⟩
    obtain ⟨around, stats, frame, -⟩ := replay_frame [message] session
    have still : (session.replay message).execution = .lanes := by
      rw [show session.replay message = _ from frame]
      exact lanes
    have whole := once.trans (ih (session.replay message) still)
    rw [List.foldl_cons, replayed, List.filterMap_cons]
    cases fate : Dispatch.ofFate? (message, session.fate message) with
    | none =>
      rw [fate] at whole
      exact whole
    | some dispatch =>
      rw [fate] at whole
      exact whole

/-- The requests that an item causes wait for the lanes. -/
theorem Accepted.queues {item : StreamItem} {admission : Admission} {next : Session host}
    (accepted : session.Accepted item admission next) (lanes : session.execution = .lanes) :
    Queues session next ((session.dispatchesOf item).map (·.content)) := by
  cases accepted with
  | startSync idle => exact .nothing rfl rfl
  | @startEntity entity version config isNew handle made around syncing closed found =>
    have known : session.copyHandle? (.startEntity entity version config isNew) = some handle := by
      simp only [copyHandle?, found]
    have adopted : Queues session (session.adopt around made) [] :=
      .nothing (Surroundings.Aside.of_findOrCreate found).contents
        (Surroundings.backlog_of_findOrCreate found)
    have waits := adopted.trans ((session.adopt around made).queues_dispatchSync lanes handle
      .syncEntityStart .management .none)
    rw [dispatchesOf_sync rfl known]
    exact ⟨waits.contents, waits.queued⟩
  | @startKey current key syncing isOpen between fresh =>
    have known : session.copyHandle? (.startKey current.id current.version key) =
        some current.handle := congrArg (Option.map _) isOpen
    have waits := session.queues_dispatchSync lanes current.handle .syncKeyStart key .none
    rw [dispatchesOf_sync rfl known]
    exact ⟨waits.contents, waits.queued⟩
  | @payload current key bytes chunk syncing isOpen within fits read =>
    have known : session.copyHandle? (.payload current.id current.version key bytes) =
        some current.handle := congrArg (Option.map _) isOpen
    have body : session.copyBody (.payload current.id current.version key bytes) =
        .chunk chunk := by simp only [copyBody, read]
    have waits := session.queues_dispatchSync lanes current.handle .syncPayload key (.chunk chunk)
    rw [dispatchesOf_sync rfl known, body]
    exact ⟨waits.contents, waits.queued⟩
  | @endKey current key syncing isOpen within =>
    have known : session.copyHandle? (.endKey current.id current.version key) =
        some current.handle := congrArg (Option.map _) isOpen
    have fates : session.fatesOf (.sync (.endKey current.id current.version key)) =
        (session.endingKey current key).replayed (session.deferred.held ⟨current.id, key⟩) := by
      rw [fatesOf, isOpen]
    obtain ⟨around, stats, frame, -⟩ :=
      replay_frame (session.deferred.held ⟨current.id, key⟩) (session.endingKey current key)
    have replayed := queues_replayed (session.deferred.held ⟨current.id, key⟩)
      (session.endingKey current key) lanes
    rw [frame] at replayed
    have waits := replayed.trans (queues_dispatchSync
      { session.endingKey current key with around, stats } lanes current.handle .syncKeyEnd key
      .none)
    rw [dispatchesOf_sync rfl known, fates, frame, List.map_append]
    exact ⟨waits.contents, waits.queued⟩
  | @endEntity current syncing isOpen between =>
    have known : session.copyHandle? (.endEntity current.id current.version) =
        some current.handle := congrArg (Option.map _) isOpen
    have waits := session.queues_dispatchSync lanes current.handle .syncEntityEnd .management .none
    rw [dispatchesOf_sync rfl known]
    exact ⟨waits.contents, waits.queued⟩
  | endSync syncing closed finished =>
    exact .nothing (Surroundings.Aside.of_finishSync finished).contents
      (Surroundings.backlog_of_finishSync finished)
  | deferred isOpen room =>
    simp only [dispatchesOf, fatesOf, if_pos isOpen]
    exact .nothing rfl rfl
  | @processed message elsewhere =>
    have waits := session.queues_process lanes message
    simp only [dispatchesOf, fatesOf, if_neg elsewhere, List.append_nil, List.filterMap_cons,
      List.filterMap_nil]
    cases fate : Dispatch.ofFate? (message, session.fate message) with
    | none =>
      rw [fate] at waits
      exact waits
    | some dispatch =>
      rw [fate] at waits
      exact waits

/-- A move in which no item is taken hands nothing on. -/
theorem queues_of_idle (coherent : session.Coherent) {next : SessionMove host}
    (idle : session.taken? next = none) : Queues session (session.move next) [] := by
  refine .nothing ?_ ?_
  · rcases around_of_idle coherent idle with ⟨action, rfl⟩ | aside
    · exact Surroundings.contents_of_reply (Surroundings.grows_use _ _)
    · exact aside.contents
  · have moved := session.moved coherent next
    generalize session.move next = after at moved ⊢
    cases moved with
    | accepted running answered accepted => cases (taken?_of_ok answered).symm.trans idle
    | refused running refused =>
      have same := refused.hands.backlog
      rw [List.append_nil, Array.toList_inj] at same
      exact same
    | used action => exact Surroundings.backlog_use _ _
    | _ => rfl

/-- What a new session hands on in a run are the requests that its items cause, in their order. -/
theorem handedOn_run (source : ServerId) (limits : Limits) (execution : Execution)
    (world : host.World) (moves : List (SessionMove host)) :
    ((start source limits execution world).run moves).handedOn =
      ((start source limits execution world).dispatches moves).map (·.content) := by
  have coherent := coherent_start source limits execution world
  cases execution with
  | inline =>
    rw [handedOn, Surroundings.queued, backlog_run_of_inline, contents_run coherent rfl]
    exact List.append_nil _
  | lanes =>
    suffices waits : Queues (start source limits .lanes world)
        ((start source limits .lanes world).run moves)
        (((start source limits .lanes world).dispatches moves).map (·.content)) from
      congrArg₂ (· ++ ·) waits.contents waits.queued
    refine (collect_induction
      (motive := fun later (dispatched : List (Dispatch host)) => later.execution = .lanes ∧
        Queues (start source limits .lanes world) later (dispatched.map (·.content)))
      ?_ ?_ coherent [] ⟨rfl, .nothing rfl rfl⟩ moves).2
    · intro reached dispatched item admission next _ _ accepted ⟨lanes, earlier⟩
      refine ⟨accepted.setting.2.trans lanes, ?_⟩
      rw [List.map_append]
      exact earlier.trans (accepted.queues lanes)
    · intro reached dispatched next coherent idle ⟨lanes, earlier⟩
      refine ⟨(setting_of_idle coherent idle).2.trans lanes, ?_⟩
      have same := earlier.trans (queues_of_idle coherent idle)
      rwa [List.append_nil] at same

/-- The contact in which an entity is found or made, if it is. -/
def obtaining (session : Session host) (entity : EntityId) (version : UInt64)
    (config : ByteArray) : List (Contact host) :=
  match (session.around.findOrCreate entity version config).1 with
  | .ok (handle, made) => [.obtained entity version handle made]
  | .error _ => []

/-- The contacts of a session as it processes a live operation. -/
def contactsFor (session : Session host) (message : ReplicationMessage) : List (Contact host) :=
  if message.kind = .noop then []
  else session.obtaining message.entity.id message.entity.version (configOf message) ++
    (Dispatch.ofFate? (message, session.fate message)).toList.map (.asked ·.content)

/-- The contacts of a session as it replays operations that were held back. -/
def contactsReplayed (session : Session host) : List ReplicationMessage → List (Contact host)
  | [] => []
  | message :: rest =>
    session.contactsFor message ++ (session.replay message).contactsReplayed rest

/-- The contacts of a session as it takes an item, before those of a request of a copy. -/
def contactsBefore (session : Session host) : StreamItem → List (Contact host)
  | .sync (.startEntity entity version config _) => session.obtaining entity version config
  | .sync (.endKey entity _ key) =>
    match session.openEntity with
    | some current =>
      (session.endingKey current key).contactsReplayed (session.deferred.held ⟨entity, key⟩)
    | none => []
  | .sync _ => []
  | .replicate message =>
    if session.openSlot = some message.slot then [] else session.contactsFor message

/-- The contacts of a session as it takes an item. -/
def contactsOf (session : Session host) (item : StreamItem) : List (Contact host) :=
  session.contactsBefore item ++
    match item with
    | .sync message => (session.copyDispatch? message).toList.map (.asked ·.content)
    | .replicate _ => []

/-- The contacts of a session in some moves. -/
def contacts (session : Session host) (moves : List (SessionMove host)) : List (Contact host) :=
  session.collect contactsOf moves

/-- Finding or making an entity asks for nothing. -/
theorem asked_obtaining (session : Session host) (entity : EntityId) (version : UInt64)
    (config : ByteArray) : (session.obtaining entity version config).filterMap Contact.asked? =
      [] := by
  unfold obtaining
  split <;> rfl

/-- Requests ask for what they contain. -/
theorem asked_map (dispatches : List (Dispatch host)) :
    (dispatches.map fun dispatch => Contact.asked dispatch.content).filterMap Contact.asked? =
      dispatches.map (·.content) := by
  rw [List.filterMap_map]
  exact congrArg (· dispatches) List.filterMap_eq_map

/-- An operation asks for something if it is handed to its entity. -/
theorem asked_contactsFor (session : Session host) (message : ReplicationMessage) :
    (session.contactsFor message).filterMap Contact.asked? =
      (Dispatch.ofFate? (message, session.fate message)).toList.map (·.content) := by
  unfold contactsFor
  split
  · rename_i idle
    rw [fate_of_noop idle]
    rfl
  · rw [List.filterMap_append, asked_obtaining, asked_map, List.nil_append]

/-- Operations that are replayed ask for something if they are handed to their entities. -/
theorem asked_contactsReplayed (held : List ReplicationMessage) (session : Session host) :
    (session.contactsReplayed held).filterMap Contact.asked? =
      ((session.replayed held).filterMap Dispatch.ofFate?).map (·.content) := by
  induction held generalizing session with
  | nil => rfl
  | cons message rest ih =>
    rw [contactsReplayed, replayed, List.filterMap_append, asked_contactsFor, ih,
      List.filterMap_cons]
    cases Dispatch.ofFate? (message, session.fate message) <;> rfl

/-- What entities are asked for as an item is taken are the requests that the item causes. -/
theorem asked_contactsOf (session : Session host) (item : StreamItem) :
    (session.contactsOf item).filterMap Contact.asked? =
      (session.dispatchesOf item).map (·.content) := by
  have before : (session.contactsBefore item).filterMap Contact.asked? =
      ((session.fatesOf item).filterMap Dispatch.ofFate?).map (·.content) := by
    cases item with
    | replicate message =>
      rw [contactsBefore, fatesOf]
      split
      · rfl
      · rw [asked_contactsFor, List.filterMap_cons]
        cases Dispatch.ofFate? (message, session.fate message) <;> rfl
    | sync message =>
      cases message with
      | startEntity entity version config isNew => exact session.asked_obtaining _ _ _
      | endKey entity version key =>
        cases isOpen : session.openEntity with
        | none => simp only [contactsBefore, fatesOf, isOpen, List.filterMap_nil, List.map_nil]
        | some current =>
          simp only [contactsBefore, fatesOf, isOpen]
          exact asked_contactsReplayed _ _
      | _ => rfl
  cases item with
  | replicate message =>
    simp only [contactsOf, dispatchesOf, List.append_nil]
    exact before
  | sync message =>
    simp only [contactsOf, dispatchesOf]
    rw [List.filterMap_append, before, asked_map, List.map_append]

/-- What was found or made is put on record, and what was made is on the trace. -/
theorem makings_of_obtaining {around : Surroundings host} {handle : host.Handle} {made : Bool}
    {entity : EntityId} {version : UInt64} {config : ByteArray}
    (found : session.around.findOrCreate entity version config = (.ok (handle, made), around)) :
    session.obtaining entity version config = [.obtained entity version handle made] ∧
      around.makings = session.around.makings ++
        (session.obtaining entity version config).filterMap Contact.made? := by
  have obtained : session.obtaining entity version config =
      [.obtained entity version handle made] := by simp only [obtaining, found]
  refine ⟨obtained, ?_⟩
  rw [obtained]
  rcases Surroundings.findOrCreate_cases found with
    ⟨other, same, rfl⟩ | ⟨other, same, -, -, makings⟩ | ⟨fault, same, -, -⟩
  · cases same
    exact (List.append_nil _).symm
  · cases same
    exact makings
  · cases same

/-- Where no entity can be had, none is put on record. -/
theorem makings_of_unobtained {around : Surroundings host} {fault : EntityFault}
    {entity : EntityId} {version : UInt64} {config : ByteArray}
    (found : session.around.findOrCreate entity version config = (.error fault, around)) :
    session.obtaining entity version config = [] ∧ around.makings = session.around.makings := by
  refine ⟨by simp only [obtaining, found], ?_⟩
  rcases Surroundings.findOrCreate_cases found with
    ⟨other, same, -⟩ | ⟨other, same, -, -, -⟩ | ⟨other, -, -, makings⟩
  · cases same
  · cases same
  · exact makings

/-- Requests make nothing. -/
theorem made_map (dispatches : List (Dispatch host)) :
    (dispatches.map fun dispatch => Contact.asked dispatch.content).filterMap Contact.made? =
      [] := by
  rw [List.filterMap_map]
  exact List.filterMap_eq_nil_iff.mpr fun _ _ => rfl

/-- A request of a copy makes nothing. -/
theorem makings_dispatchSync (session : Session host) (handle : host.Handle)
    (action : EntityAction) (key : ConcurrencyKey)
    (body : RequestBody host.Message host.Chunk) :
    (session.dispatchSync handle action key body).around.makings = session.around.makings :=
  Surroundings.makings_of_exchange (Surroundings.grows_execute _ _ _)

/-- What is made as an operation is processed is on record. -/
theorem makings_process (session : Session host) (message : ReplicationMessage) :
    (session.process message).2.around.makings =
      session.around.makings ++ (session.contactsFor message).filterMap Contact.made? := by
  have fate := session.processes message
  generalize session.process message = step at fate ⊢
  obtain ⟨admission, next⟩ := step
  -- What is put on the trace beside the making of entities does not count.
  have settled (around : Surroundings host) (skipped : Bool) (how : Settlement) :
      ((around.note (.processed message skipped)).settle (completionOf message) how).makings =
        around.makings :=
    (Surroundings.makings_of_reply (Surroundings.grows_settle _ _ _)).trans
      (Surroundings.makings_note_processed _ _ _)
  have contacts (acts : message.kind ≠ .noop) :
      (session.contactsFor message).filterMap Contact.made? =
        (session.obtaining message.entity.id message.entity.version
          (configOf message)).filterMap Contact.made? := by
    rw [contactsFor, if_neg acts, List.filterMap_append, made_map, List.append_nil]
  cases fate with
  | acknowledged idle =>
    rw [settled, contactsFor, if_pos idle]
    exact (List.append_nil _).symm
  | unmade acts found =>
    obtain ⟨unobtained, makings⟩ := makings_of_unobtained found
    rw [settled, contacts acts, unobtained, makings]
    exact (List.append_nil _).symm
  | unread acts found unread =>
    rw [settled, contacts acts]
    exact (makings_of_obtaining found).2
  | @dispatched handle made around body acts found read =>
    rw [contacts acts, ← (makings_of_obtaining found).2]
    refine (Surroundings.makings_of_exchange (Surroundings.grows_execute _ _ _)).trans ?_
    exact (Surroundings.makings_of_reply (Surroundings.grows_report _ _ _)).trans
      (Surroundings.makings_note_processed _ _ _)

/-- What is made as operations are replayed is on record. -/
theorem makings_replayed (held : List ReplicationMessage) (session : Session host) :
    (held.foldl replay session).around.makings =
      session.around.makings ++ (session.contactsReplayed held).filterMap Contact.made? := by
  induction held generalizing session with
  | nil => exact (List.append_nil _).symm
  | cons message rest ih =>
    have once : (session.replay message).around.makings =
        session.around.makings ++ (session.contactsFor message).filterMap Contact.made? :=
      makings_process { session with
        stats := { session.stats with replayed := session.stats.replayed + 1 } } message
    rw [List.foldl_cons, ih, once, contactsReplayed, List.filterMap_append, List.append_assoc]

/-- What is made as an item is taken is on record. -/
theorem Accepted.makings {item : StreamItem} {admission : Admission} {next : Session host}
    (accepted : session.Accepted item admission next) :
    next.around.makings =
      session.around.makings ++ (session.contactsOf item).filterMap Contact.made? := by
  have contacts (message : SyncMessage) :
      (session.contactsOf (.sync message)).filterMap Contact.made? =
        (session.contactsBefore (.sync message)).filterMap Contact.made? := by
    simp only [contactsOf]
    rw [List.filterMap_append, made_map, List.append_nil]
  cases accepted with
  | startSync idle => exact (List.append_nil _).symm
  | startEntity syncing closed found =>
    rw [contacts]
    exact (makings_dispatchSync _ _ _ _ _).trans (makings_of_obtaining found).2
  | startKey syncing isOpen between fresh =>
    rw [contacts]
    exact (makings_dispatchSync _ _ _ _ _).trans (List.append_nil _).symm
  | payload syncing isOpen within fits read =>
    rw [contacts]
    exact (makings_dispatchSync _ _ _ _ _).trans (List.append_nil _).symm
  | @endKey current key syncing isOpen within =>
    rw [contacts, makings_dispatchSync, makings_replayed]
    simp only [contactsBefore, isOpen]
    rfl
  | endEntity syncing isOpen between =>
    rw [contacts]
    exact (makings_dispatchSync _ _ _ _ _).trans (List.append_nil _).symm
  | endSync syncing closed finished =>
    exact (Surroundings.makings_of_finishSync finished).trans (List.append_nil _).symm
  | deferred isOpen room =>
    simp only [contactsOf, contactsBefore, if_pos isOpen]
    exact (List.append_nil _).symm
  | @processed message elsewhere =>
    simp only [contactsOf, contactsBefore, if_neg elsewhere, List.append_nil]
    exact session.makings_process message

/-- An item that is refused makes nothing. -/
theorem Refused.makings {item : StreamItem} {fault : ReplicationFault}
    {around : Surroundings host} (refused : session.Refused item fault around) :
    around.makings = session.around.makings := by
  cases refused with
  | unmade syncing closed found => exact (makings_of_unobtained found).2
  | unfinished syncing closed finished => exact Surroundings.makings_of_finishSync finished
  | _ => rfl

/-- A move in which no item is taken makes nothing. -/
theorem makings_of_idle (coherent : session.Coherent) {next : SessionMove host}
    (idle : session.taken? next = none) :
    (session.move next).around.makings = session.around.makings := by
  have moved := session.moved coherent next
  generalize session.move next = after at moved ⊢
  cases moved with
  | accepted running answered accepted => cases (taken?_of_ok answered).symm.trans idle
  | refused running refused => exact refused.makings
  | used action => exact Surroundings.makings_of_reply (Surroundings.grows_use _ _)
  | _ => rfl

/-- The entities that a run makes are those that its contacts say. -/
theorem makings_run (coherent : session.Coherent) (moves : List (SessionMove host)) :
    (session.run moves).around.makings =
      session.around.makings ++ (session.contacts moves).filterMap Contact.made? := by
  refine collect_induction
    (motive := fun later (contacts : List (Contact host)) => later.around.makings =
      session.around.makings ++ contacts.filterMap Contact.made?)
    ?_ ?_ coherent [] (List.append_nil _).symm moves
  · intro reached contacts item admission next _ _ accepted earlier
    rw [accepted.makings, earlier, List.filterMap_append, List.append_assoc]
  · intro reached contacts next coherent idle earlier
    rw [makings_of_idle coherent idle, earlier]

/-- The requests of a run are what its contacts say that entities were asked for. -/
theorem asked_contacts (session : Session host) (moves : List (SessionMove host)) :
    (session.contacts moves).filterMap Contact.asked? =
      (session.dispatches moves).map (·.content) := by
  induction moves generalizing session with
  | nil => rfl
  | cons next rest ih =>
    rw [contacts, dispatches, collect, collect, List.filterMap_append, List.map_append]
    congr 1
    · cases session.taken? next with
      | none => rfl
      | some item => exact session.asked_contactsOf item
    · exact ih _

/-- An entity that is obtained is introduced. -/
theorem introduces_obtaining {around : Surroundings host} {handle : host.Handle} {made : Bool}
    {entity : EntityId} {version : UInt64} {config : ByteArray}
    (found : session.around.findOrCreate entity version config = (.ok (handle, made), around)) :
    Contact.Introduces handle (session.obtaining entity version config) :=
  ⟨entity, version, made, by simp only [obtaining, found, List.mem_singleton]⟩

/-- No request comes where entities are found or made. -/
theorem introduced_obtaining (session : Session host) (entity : EntityId) (version : UInt64)
    (config : ByteArray) : Contact.Introduced (session.obtaining entity version config) := by
  intro earlier content later split
  have asks : content ∈ (session.obtaining entity version config).filterMap Contact.asked? :=
    List.mem_filterMap.mpr ⟨.asked content, by rw [split]; simp, rfl⟩
  rw [asked_obtaining] at asks
  exact absurd asks List.not_mem_nil

/-- An operation that is handed on goes to the entity that was found or made for it. -/
theorem found_of_handed {message : ReplicationMessage} {handle : host.Handle}
    {body : RequestBody host.Message host.Chunk}
    (handed : session.fate message = .handed handle body) :
    message.kind ≠ .noop ∧ ∃ made around, session.around.findOrCreate message.entity.id
      message.entity.version (configOf message) = (.ok (handle, made), around) := by
  have fate := session.processes message
  generalize session.process message = step at fate
  obtain ⟨admission, next⟩ := step
  cases fate with
  | acknowledged idle => cases (fate_of_noop idle).symm.trans handed
  | unmade acts found => cases (fate_of_unmade acts found).symm.trans handed
  | unread acts found unread => cases (fate_of_unread acts found unread).symm.trans handed
  | dispatched acts found read =>
    cases (fate_of_read acts found read).symm.trans handed
    exact ⟨acts, _, _, found⟩

/-- An operation is handed to an entity that was found or made for it. -/
theorem introduced_contactsFor (session : Session host) (message : ReplicationMessage) :
    Contact.Introduced (session.contactsFor message) := by
  have obtained := session.introduced_obtaining message.entity.id message.entity.version
    (configOf message)
  unfold contactsFor
  split
  · exact Contact.introduced_nil
  · cases fate : session.fate message with
    | handed handle body =>
      obtain ⟨-, made, around, found⟩ := found_of_handed fate
      exact obtained.concat (introduces_obtaining found)
    | _ => exact (List.append_nil _).symm ▸ obtained

/-- Operations that are replayed are handed to entities that were found or made for them. -/
theorem introduced_contactsReplayed (held : List ReplicationMessage) (session : Session host) :
    Contact.Introduced (session.contactsReplayed held) := by
  induction held generalizing session with
  | nil => exact Contact.introduced_nil
  | cons message rest ih => exact (session.introduced_contactsFor message).append (ih _)

/-- Before a request of a copy every request goes to an entity that was found or made for it. -/
theorem introduced_contactsBefore (session : Session host) (item : StreamItem) :
    Contact.Introduced (session.contactsBefore item) := by
  cases item with
  | replicate message =>
    rw [contactsBefore]
    split
    · exact Contact.introduced_nil
    · exact session.introduced_contactsFor message
  | sync message =>
    cases message with
    | startEntity entity version config isNew => exact session.introduced_obtaining _ _ _
    | endKey entity version key =>
      rw [contactsBefore]
      split
      · exact introduced_contactsReplayed _ _
      · exact Contact.introduced_nil
    | _ => exact Contact.introduced_nil

/-- The entity of a copy is the open one, or is found or made as its copy begins. -/
theorem introduces_copyHandle {contacts : List (Contact host)} {message : SyncMessage}
    {handle : host.Handle} (known : ∀ current, session.openEntity = some current →
      Contact.Introduces current.handle contacts)
    (found : session.copyHandle? message = some handle) :
    Contact.Introduces handle (contacts ++ session.contactsBefore (.sync message)) := by
  have opened (isOpen : session.openEntity.map (·.handle) = some handle) :
      Contact.Introduces handle contacts := by
    obtain ⟨current, present, rfl⟩ := Option.map_eq_some_iff.mp isOpen
    exact known current present
  cases message with
  | startEntity entity version config isNew =>
    rw [copyHandle?] at found
    split at found
    · rename_i other made answered
      cases found
      exact ⟨entity, version, made, List.mem_append_right _ (by
        simp only [contactsBefore, obtaining, answered, List.mem_singleton])⟩
    · cases found
  | _ => exact (opened found).append _

/-- Requests of an item go to entities that were found or made. -/
theorem introduced_contactsOf {contacts : List (Contact host)}
    (earlier : Contact.Introduced contacts) (known : ∀ current, session.openEntity = some current →
      Contact.Introduces current.handle contacts) (item : StreamItem) :
    Contact.Introduced (contacts ++ session.contactsOf item) := by
  have before := earlier.append (session.introduced_contactsBefore item)
  cases item with
  | replicate message =>
    simp only [contactsOf, List.append_nil]
    exact before
  | sync message =>
    simp only [contactsOf]
    rw [← List.append_assoc]
    cases dispatched : session.copyDispatch? message with
    | none => exact (List.append_nil _).symm ▸ before
    | some dispatch =>
      obtain ⟨_, _, handle, -, found, rfl⟩ := eq_of_copyDispatch? dispatched
      exact before.concat (introduces_copyHandle known found)

/-- The open entity was found or made as its copy began. -/
theorem Accepted.introduces {contacts : List (Contact host)} {item : StreamItem}
    {admission : Admission} {next : Session host}
    (accepted : session.Accepted item admission next)
    (known : ∀ current, session.openEntity = some current →
      Contact.Introduces current.handle contacts)
    {current : OpenEntity host} (isOpen : next.openEntity = some current) :
    Contact.Introduces current.handle (contacts ++ session.contactsOf item) := by
  cases accepted with
  | startEntity syncing closed found =>
    cases isOpen
    obtain ⟨entity, version, made, member⟩ := introduces_obtaining found
    exact ⟨entity, version, made, List.mem_append_right _ (List.mem_append_left _ member)⟩
  | startKey syncing wasOpen between fresh =>
    cases isOpen
    exact (known _ wasOpen).append _
  | @endKey old key syncing wasOpen within =>
    obtain ⟨around, stats, replayed, -⟩ :=
      replay_frame (session.deferred.held ⟨old.id, key⟩) (session.endingKey old key)
    rw [replayed] at isOpen
    cases isOpen
    exact (known _ wasOpen).append _
  | endEntity syncing wasOpen between => cases isOpen
  | @processed message elsewhere =>
    obtain ⟨around, stats, frame, -⟩ := process_frame session message
    rw [frame] at isOpen
    exact (known _ isOpen).append _
  | _ => exact (known _ isOpen).append _

/-- A move in which no item is taken opens no entity. -/
theorem openEntity_of_idle (coherent : session.Coherent) {next : SessionMove host}
    (idle : session.taken? next = none) {current : OpenEntity host}
    (isOpen : (session.move next).openEntity = some current) :
    session.openEntity = some current := by
  have moved := session.moved coherent next
  generalize session.move next = after at moved isOpen
  cases moved with
  | accepted running answered accepted => cases (taken?_of_ok answered).symm.trans idle
  | refused running refused => cases isOpen
  | closed => cases isOpen
  | ignored stopped => exact isOpen
  | used action => exact isOpen
  | stirred world => exact isOpen

/-- Every request of a run comes behind the finding or making of its entity. -/
theorem introduced_run (coherent : session.Coherent) (closed : session.openEntity = none)
    (moves : List (SessionMove host)) : Contact.Introduced (session.contacts moves) := by
  refine (collect_induction
    (motive := fun later (contacts : List (Contact host)) => Contact.Introduced contacts ∧
      ∀ current, later.openEntity = some current → Contact.Introduces current.handle contacts)
    ?_ ?_ coherent [] ⟨Contact.introduced_nil, fun current isOpen => ?_⟩ moves).1
  · intro reached contacts item admission next _ _ accepted ⟨earlier, known⟩
    exact ⟨introduced_contactsOf earlier known item, fun current isOpen =>
      accepted.introduces known isOpen⟩
  · intro reached contacts next coherent idle ⟨earlier, known⟩
    exact ⟨earlier, fun current isOpen => known current (openEntity_of_idle coherent idle isOpen)⟩
  · rw [closed] at isOpen
    cases isOpen

end Session
end Standby
