import Standby.Proofs.Replication.SlotOrder
import Standby.Replication.Trace

/-!
# What becomes of processed operations

What becomes of a live operation depends on the session that processes it: the operation may do
nothing, its entity may not be had, its payload may not be read, and else it is handed on.
`Session.fates` lists the operations that a run processes with their fates, and `Session.dispatches`
the requests that it hands on, each at the item that causes it. When requests are run at once, these
are the requests that reach entities, in this order (`Session.content_run`).
-/
namespace Standby

variable {host : Host}

/-- An entity was made or a copy ended, or one of these failed. -/
def Event.IsAside (event : Event host) : Prop := event.IsCreation ∨ event.IsSyncFinish

/-- A question that neither the making of an entity nor the end of a copy answers. -/
theorem Event.IsAside.silent {α : Type} {question : Event host → Option α} {event : Event host}
    (aside : event.IsAside)
    (creation : ∀ entity version config removable fault,
      question (.created entity version config removable fault) = none)
    (finish : ∀ bytes fault, question (.syncFinished bytes fault) = none) :
    question event = none := by
  cases event with
  | created entity version config removable fault => exact creation _ _ _ _ _
  | syncFinished bytes fault => exact finish _ _
  | _ => exact aside.elim False.elim False.elim

/-- At most entities are made and copies end from some surroundings to others. -/
structure Surroundings.Aside (before after : Surroundings host) : Prop where
  pending : after.pending = before.pending
  nextTicket : after.nextTicket = before.nextTicket
  grows : Surroundings.Grows Event.IsAside before after

namespace Surroundings

/-- Between some surroundings and themselves nothing is made. -/
theorem Aside.refl (around : Surroundings host) : around.Aside around :=
  ⟨rfl, rfl, .of_eq rfl⟩

/-- Finding or making an entity is no more than that. -/
theorem Aside.of_findOrCreate {around next : Surroundings host} {entity : EntityId}
    {version : UInt64} {config : ByteArray} {result : Except EntityFault (host.Handle × Bool)}
    (found : around.findOrCreate entity version config = (result, next)) : around.Aside next := by
  have grows := grows_findOrCreate around entity version config
  rw [found] at grows
  refine ⟨?_, ?_, grows.mono fun _ => .inl⟩
  · have same : (around.findOrCreate entity version config).2.pending = around.pending := by
      unfold findOrCreate
      split
      · rfl
      · dsimp only
        split <;> rfl
    rw [found] at same
    exact same
  · have same : (around.findOrCreate entity version config).2.nextTicket = around.nextTicket := by
      unfold findOrCreate
      split
      · rfl
      · dsimp only
        split <;> rfl
    rw [found] at same
    exact same

/-- The work at the end of a copy is no more than that. -/
theorem Aside.of_finishSync {around next : Surroundings host} {bytes : ByteArray}
    {result : Except EntityFault Unit} (finished : around.finishSync bytes = (result, next)) :
    around.Aside next := by
  have grows := grows_finishSync around bytes
  have pending : (around.finishSync bytes).2.pending = around.pending := rfl
  have nextTicket : (around.finishSync bytes).2.nextTicket = around.nextTicket := rfl
  rw [finished] at grows pending nextTicket
  exact ⟨pending, nextTicket, grows.mono fun _ => .inr⟩

end Surroundings

/-- What becomes of a live operation that is processed. -/
inductive Fate (host : Host) where
  /-- It does nothing and is acknowledged outright. -/
  | acknowledged
  /-- Its entity cannot be made. -/
  | unmade
  /-- Its payload is not read. -/
  | unread
  /-- It is handed to its entity. -/
  | handed (handle : host.Handle) (body : RequestBody host.Message host.Chunk)

/-- The request of a live operation. -/
def ReplicationMessage.request (message : ReplicationMessage) : EntityRequest :=
  { action := .ofKind message.kind, source := message.source, client := message.client,
    transaction := message.transaction, key := message.key, sequence := some message.sequence }

/-- What an entity gets with a request: which entity it is, what is asked and what comes with it. -/
abbrev Content (host : Host) : Type :=
  host.Handle × EntityRequest × RequestBody host.Message host.Chunk

/-- What an entity gets with a delivery. -/
def Delivery.content (delivery : Delivery host.Handle host.Message host.Chunk) : Content host :=
  (delivery.handle, delivery.request, delivery.body)

/-- A request that a session hands on: that of a live operation, or one of a copy. -/
structure Dispatch (host : Host) where
  operation : Option ReplicationMessage
  content : Content host

/-- The request of a processed operation, if it is handed to its entity. -/
def Dispatch.ofFate? : ReplicationMessage × Fate host → Option (Dispatch host)
  | (message, .handed handle body) => some ⟨some message, handle, message.request, body⟩
  | _ => none

/-- What an item of a copy asks of the entity that is being copied. -/
def SyncMessage.step? : SyncMessage → Option (EntityAction × ConcurrencyKey)
  | .startSync => none
  | .startEntity .. => some (.syncEntityStart, .management)
  | .startKey _ _ key => some (.syncKeyStart, key)
  | .payload _ _ key _ => some (.syncPayload, key)
  | .endKey _ _ key => some (.syncKeyEnd, key)
  | .endEntity .. => some (.syncEntityEnd, .management)
  | .endSync _ => none

/-- The item of a copy that an item of the stream is, if it is one. -/
def StreamItem.copying : StreamItem → List SyncMessage
  | .sync message => [message]
  | .replicate _ => []

namespace Session

variable {session : Session host}

/-- What becomes of a live operation if the session processes it now. -/
def fate (session : Session host) (message : ReplicationMessage) : Fate host :=
  if message.kind = .noop then .acknowledged
  else
    match session.around.findOrCreate message.entity.id message.entity.version
      (configOf message) with
    | (.error _, _) => .unmade
    | (.ok (handle, _), around) =>
      match bodyOf around.world message with
      | .error _ => .unread
      | .ok body => .handed handle body

/-- Operations that were held back, with what becomes of them as they are replayed. -/
def replayed (session : Session host) :
    List ReplicationMessage → List (ReplicationMessage × Fate host)
  | [] => []
  | message :: rest => (message, session.fate message) :: (session.replay message).replayed rest

/-- The operations that are processed as a session takes an item, with their fates. -/
def fatesOf (session : Session host) : StreamItem → List (ReplicationMessage × Fate host)
  | .sync (.endKey entity _ key) =>
    match session.openEntity with
    | some current =>
      (session.endingKey current key).replayed (session.deferred.held ⟨entity, key⟩)
    | none => []
  | .sync _ => []
  | .replicate message =>
    if session.openSlot = some message.slot then [] else [(message, session.fate message)]

/-- The entity that an item of a copy is handed to. -/
def copyHandle? (session : Session host) : SyncMessage → Option host.Handle
  | .startEntity entity version config _ =>
    match (session.around.findOrCreate entity version config).1 with
    | .ok (handle, _) => some handle
    | .error _ => none
  | _ => session.openEntity.map (·.handle)

/-- What comes with the request of an item of a copy. -/
def copyBody (session : Session host) : SyncMessage → RequestBody host.Message host.Chunk
  | .payload entity _ key bytes =>
    match host.decodeChunk session.around.world entity key bytes with
    | .ok chunk => .chunk chunk
    | .error _ => .none
  | _ => .none

/-- A request of a copy. -/
def copyRequest (session : Session host) (action : EntityAction) (key : ConcurrencyKey) :
    EntityRequest :=
  { action, source := session.source, client := ⟨0⟩, transaction := .null, key, sequence := none }

/-- The request that an item of a copy causes. -/
def copyDispatch? (session : Session host) (message : SyncMessage) : Option (Dispatch host) := do
  let (action, key) ← message.step?
  let handle ← session.copyHandle? message
  some ⟨none, handle, session.copyRequest action key, session.copyBody message⟩

/-- The requests that a session hands on as it takes an item. -/
def dispatchesOf (session : Session host) (item : StreamItem) : List (Dispatch host) :=
  (session.fatesOf item).filterMap Dispatch.ofFate? ++
    match item with
    | .sync message => (session.copyDispatch? message).toList
    | .replicate _ => []

/-- The item that a session takes in a move, if it takes one. -/
def taken? (session : Session host) : SessionMove host → Option StreamItem
  | .item item =>
    match (session.handle item).1 with
    | .ok _ => some item
    | .error _ => none
  | _ => none

/-- What the items that a session takes in some moves have to say, one after the other. -/
def collect {α : Type} (answer : Session host → StreamItem → List α) (session : Session host) :
    List (SessionMove host) → List α
  | [] => []
  | next :: rest =>
    (session.taken? next).elim [] (answer session) ++ (session.move next).collect answer rest

/-- The live operations that a session processes in some moves, with their fates. -/
def fates (session : Session host) (moves : List (SessionMove host)) :
    List (ReplicationMessage × Fate host) :=
  session.collect fatesOf moves

/-- The requests that a session hands on in some moves. -/
def dispatches (session : Session host) (moves : List (SessionMove host)) :
    List (Dispatch host) :=
  session.collect dispatchesOf moves

/-- The items of copies that a session takes in some moves. -/
def copied (session : Session host) (moves : List (SessionMove host)) : List SyncMessage :=
  session.collect (fun _ item => item.copying) moves

section Collect

variable {α : Type} {answer : Session host → StreamItem → List α}

/-- An item that is taken comes first among what is collected. -/
theorem collect_of_taken {next : SessionMove host} {item : StreamItem}
    (taken : session.taken? next = some item) (rest : List (SessionMove host)) :
    session.collect answer (next :: rest) =
      answer session item ++ (session.move next).collect answer rest := by
  rw [collect, taken, Option.elim_some]

/-- A move in which no item is taken has nothing to say. -/
theorem collect_of_idle {next : SessionMove host} (idle : session.taken? next = none)
    (rest : List (SessionMove host)) :
    session.collect answer (next :: rest) = (session.move next).collect answer rest := by
  rw [collect, idle, Option.elim_none, List.nil_append]

/-- A session that is over takes nothing. -/
theorem taken?_of_stopped (coherent : session.Coherent) (stopped : ¬ session.IsRunning)
    (next : SessionMove host) : session.taken? next = none := by
  cases next with
  | item item =>
    have result := handled coherent item
    rw [taken?]
    generalize session.handle item = step at result
    cases result with
    | accepted running accepted => exact absurd running stopped
    | refused running refused => exact absurd running stopped
    | ignored _ known => rfl
  | _ => rfl

/-- A session that is over has no more to say. -/
theorem collect_of_stopped (coherent : session.Coherent) (stopped : ¬ session.IsRunning)
    (moves : List (SessionMove host)) : session.collect answer moves = [] := by
  induction moves generalizing session with
  | nil => rfl
  | cons next rest ih =>
    have still := (move_of_stopped coherent stopped next).1
    rw [collect_of_idle (taken?_of_stopped coherent stopped next), ih (coherent.move next) still]

/-- An item that is taken in a move is the one that comes in it. -/
theorem eq_of_taken? {next : SessionMove host} {item : StreamItem}
    (taken : session.taken? next = some item) :
    next = .item item ∧ ∃ admission, (session.handle item).1 = .ok admission := by
  cases next with
  | item came =>
    rw [taken?] at taken
    split at taken
    · rename_i admission answered
      cases taken
      exact ⟨rfl, admission, answered⟩
    · cases taken
  | _ => cases taken

/-- An item that is answered without a fault is taken. -/
theorem taken?_of_ok {item : StreamItem} {admission : Admission}
    (taken : (session.handle item).1 = .ok admission) :
    session.taken? (.item item) = some item := by
  rw [taken?, taken]

/-- What holds of a session with what was collected so far, and is kept by every item that is taken
and by every other move, holds after a run with what is collected in it. -/
theorem collect_induction {motive : Session host → List α → Prop}
    (takes : ∀ {session : Session host} {earlier item admission next}, session.Coherent →
      session.IsRunning → session.Accepted item admission next → motive session earlier →
      motive next (earlier ++ answer session item))
    (idles : ∀ {session : Session host} {earlier next}, session.Coherent →
      session.taken? next = none → motive session earlier → motive (session.move next) earlier)
    (coherent : session.Coherent) (earlier : List α) (initial : motive session earlier)
    (moves : List (SessionMove host)) :
    motive (session.run moves) (earlier ++ session.collect answer moves) := by
  induction moves generalizing session earlier with
  | nil => exact (List.append_nil earlier).symm ▸ initial
  | cons next rest ih =>
    rw [run_cons]
    cases taken : session.taken? next with
    | none =>
      rw [collect_of_idle taken]
      exact ih (coherent.move next) _ (idles coherent taken initial)
    | some item =>
      rw [collect_of_taken taken, ← List.append_assoc]
      obtain ⟨rfl, admission, answered⟩ := eq_of_taken? taken
      obtain ⟨running, accepted⟩ := accepted_of_ok coherent answered
      exact ih (coherent.move _) _ (takes coherent running accepted initial)

end Collect

/-- Only the making of entities and the end of copies is put on the trace of a session that refuses
an item. -/
theorem Refused.aside {item : StreamItem} {fault : ReplicationFault} {around : Surroundings host}
    (refused : session.Refused item fault around) : session.around.Aside around := by
  cases refused with
  | misplaced reason broken => exact .refl _
  | unmade syncing closed found => exact .of_findOrCreate found
  | oversized syncing isOpen within exceeds => exact .refl _
  | unread syncing isOpen within fits unread => exact .refl _
  | unfinished syncing closed finished => exact .of_finishSync finished
  | overflow isOpen full => exact .refl _

/-- In a move in which no item is taken an entity uses a completion, or at most an entity is made or
a copy ends. -/
theorem around_of_idle (coherent : session.Coherent) {next : SessionMove host}
    (idle : session.taken? next = none) : (∃ action, next = .use action) ∨
      session.around.Aside (session.move next).around := by
  have moved := session.moved coherent next
  generalize session.move next = after at moved ⊢
  cases moved with
  | accepted running answered accepted => cases (taken?_of_ok answered).symm.trans idle
  | refused running refused => exact .inr refused.aside
  | used action => exact .inl ⟨action, rfl⟩
  | ignored stopped => exact .inr (.refl _)
  | closed => exact .inr (.refl _)
  | stirred world => exact .inr ⟨rfl, rfl, .of_eq rfl⟩

/-- A session keeps its source and the way in which requests get to their entities. -/
theorem Accepted.setting {item : StreamItem} {admission : Admission} {next : Session host}
    (accepted : session.Accepted item admission next) :
    next.source = session.source ∧ next.execution = session.execution := by
  cases accepted with
  | @endKey current key syncing isOpen within =>
    obtain ⟨around, stats, replayed, -⟩ :=
      replay_frame (session.deferred.held ⟨current.id, key⟩) (session.endingKey current key)
    rw [replayed]
    exact ⟨rfl, rfl⟩
  | @processed message elsewhere =>
    obtain ⟨around, stats, frame, -⟩ := process_frame session message
    rw [frame]
    exact ⟨rfl, rfl⟩
  | _ => exact ⟨rfl, rfl⟩

/-- A move in which no item is taken keeps the source and the way of requests. -/
theorem setting_of_idle (coherent : session.Coherent) {next : SessionMove host}
    (idle : session.taken? next = none) :
    (session.move next).source = session.source ∧
      (session.move next).execution = session.execution := by
  have moved := session.moved coherent next
  generalize session.move next = after at moved ⊢
  cases moved with
  | accepted running answered accepted => cases (taken?_of_ok answered).symm.trans idle
  | _ => exact ⟨rfl, rfl⟩

/-- A session that takes no item in a move stays as it is within the copy, or it stops. -/
theorem place_of_idle (coherent : session.Coherent) {next : SessionMove host}
    (idle : session.taken? next = none) (still : (session.move next).IsRunning) :
    (session.move next).nesting = session.nesting ∧
      (session.move next).openEntity = session.openEntity ∧
      (session.move next).deferred = session.deferred := by
  cases next with
  | item item =>
    obtain ⟨admission, answered, -⟩ := accepted_of_isRunning coherent still
    rw [taken?_of_ok answered] at idle
    cases idle
  | close => exact absurd still (not_isRunning_close session)
  | use action => exact ⟨nesting_congr rfl rfl, rfl, rfl⟩
  | stir world => exact ⟨nesting_congr rfl rfl, rfl, rfl⟩

/-- In a move in which no item is taken no operation is processed. -/
theorem processed_of_idle (coherent : session.Coherent) {next : SessionMove host}
    (idle : session.taken? next = none) : (session.move next).processed = session.processed := by
  rcases around_of_idle coherent idle with ⟨action, rfl⟩ | aside
  · exact Surroundings.processed_use _ _
  · exact aside.grows.filterMap_eq _ fun _ kind =>
      kind.silent (fun _ _ _ _ _ => rfl) fun _ _ => rfl

/-- The fate of an operation that does nothing. -/
theorem fate_of_noop {message : ReplicationMessage} (idle : message.kind = .noop) :
    session.fate message = .acknowledged := if_pos idle

variable {message : ReplicationMessage} {around : Surroundings host}

/-- The fate of an operation whose entity cannot be made. -/
theorem fate_of_unmade {fault : EntityFault} (acts : message.kind ≠ .noop)
    (found : session.around.findOrCreate message.entity.id message.entity.version
      (configOf message) = (.error fault, around)) : session.fate message = .unmade := by
  simp only [fate, if_neg acts, found]

/-- The fate of an operation whose payload is not read. -/
theorem fate_of_unread {handle : host.Handle} {made : Bool} {fault : CodecFault}
    (acts : message.kind ≠ .noop)
    (found : session.around.findOrCreate message.entity.id message.entity.version
      (configOf message) = (.ok (handle, made), around))
    (unread : bodyOf around.world message = .error fault) : session.fate message = .unread := by
  simp only [fate, if_neg acts, found, unread]

/-- The fate of an operation that is handed to its entity. -/
theorem fate_of_read {handle : host.Handle} {made : Bool}
    {body : RequestBody host.Message host.Chunk} (acts : message.kind ≠ .noop)
    (found : session.around.findOrCreate message.entity.id message.entity.version
      (configOf message) = (.ok (handle, made), around))
    (read : bodyOf around.world message = .ok body) :
    session.fate message = .handed handle body := by
  simp only [fate, if_neg acts, found, read]

/-- The operations that are replayed are those that were held back. -/
theorem fst_replayed (held : List ReplicationMessage) (session : Session host) :
    (session.replayed held).map Prod.fst = held := by
  induction held generalizing session with
  | nil => rfl
  | cons message rest ih => exact congrArg (message :: ·) (ih _)

/-- The operations with a fate are those that an item releases. -/
theorem Accepted.fst_fatesOf {item : StreamItem} {admission : Admission} {next : Session host}
    (accepted : session.Accepted item admission next) :
    (session.fatesOf item).map Prod.fst = session.released item := by
  cases accepted with
  | @endKey current key syncing isOpen within =>
    rw [fatesOf, isOpen]
    exact fst_replayed _ _
  | deferred isOpen room => rw [fatesOf, released, if_pos isOpen, if_pos isOpen]; rfl
  | processed elsewhere => rw [fatesOf, released, if_neg elsewhere, if_neg elsewhere]; rfl
  | _ => rfl

/-- The operations that a run processes are those with a fate in it. -/
theorem processed_run (coherent : session.Coherent) (moves : List (SessionMove host)) :
    (session.run moves).processed = session.processed ++ (session.fates moves).map Prod.fst := by
  refine collect_induction
    (motive := fun later fates => later.processed = session.processed ++ fates.map Prod.fst)
    ?_ ?_ coherent [] (by simp) moves
  · intro reached fates item admission next _ _ accepted earlier
    rw [accepted.processed_eq, accepted.fst_fatesOf.symm, earlier, List.map_append,
      List.append_assoc]
  · intro reached fates next coherent idle earlier
    rw [← earlier]
    exact processed_of_idle coherent idle

/-- What becomes of an operation that is replayed is its fate in some session. -/
theorem fate_of_mem_replayed {held : List ReplicationMessage} {message : ReplicationMessage}
    {fate : Fate host} (member : (message, fate) ∈ session.replayed held) :
    ∃ reached : Session host, fate = reached.fate message := by
  induction held generalizing session with
  | nil => exact absurd member List.not_mem_nil
  | cons first rest ih =>
    rcases List.mem_cons.mp member with here | later
    · cases here
      exact ⟨session, rfl⟩
    · exact ih later

/-- What becomes of an operation as an item is taken is its fate in some session. -/
theorem fate_of_mem_fatesOf {item : StreamItem} {message : ReplicationMessage} {fate : Fate host}
    (member : (message, fate) ∈ session.fatesOf item) :
    ∃ reached : Session host, fate = reached.fate message := by
  cases item with
  | sync copy =>
    cases copy with
    | endKey entity version key =>
      rw [fatesOf] at member
      split at member
      · exact fate_of_mem_replayed member
      · exact absurd member List.not_mem_nil
    | _ => exact absurd member List.not_mem_nil
  | replicate other =>
    rw [fatesOf] at member
    split at member
    · exact absurd member List.not_mem_nil
    · cases List.mem_singleton.mp member
      exact ⟨session, rfl⟩

/-- What becomes of an operation in a run is its fate in some session. -/
theorem fate_of_mem {moves : List (SessionMove host)} {message : ReplicationMessage}
    {fate : Fate host} (member : (message, fate) ∈ session.fates moves) :
    ∃ reached : Session host, fate = reached.fate message := by
  induction moves generalizing session with
  | nil => exact absurd member List.not_mem_nil
  | cons next rest ih =>
    rcases List.mem_append.mp member with now | later
    · cases taken : session.taken? next with
      | none =>
        rw [taken] at now
        exact absurd now List.not_mem_nil
      | some item =>
        rw [taken, Option.elim_some] at now
        exact fate_of_mem_fatesOf now
    · exact ih later

end Session

/-- What an entity gets in an event. -/
def Event.content? : Event host → Option (Content host)
  | .delivered delivery => some delivery.content
  | _ => none

namespace Surroundings

/-- What entities got so far. -/
def contents (around : Surroundings host) : List (Content host) :=
  (Event.deliveries around.trace.toList).map Delivery.content

/-- What entities got is read off the trace event by event. -/
theorem contents_eq (around : Surroundings host) :
    around.contents = around.trace.toList.filterMap Event.content? := by
  rw [contents, Event.deliveries, List.map_filterMap]
  congr 1
  funext event
  cases event <;> rfl

/-- Events that are no deliveries give entities nothing. -/
theorem Grows.contents {kind : Event host → Prop} {before after : Surroundings host}
    (grows : Grows kind before after) (silent : ∀ event, kind event → event.content? = none) :
    after.contents = before.contents := by
  rw [contents_eq, contents_eq]
  exact grows.filterMap_eq _ silent

/-- Making entities and ending copies gives entities nothing. -/
theorem Aside.contents {before after : Surroundings host} (aside : before.Aside after) :
    after.contents = before.contents :=
  aside.grows.contents fun _ kind => kind.silent (fun _ _ _ _ _ => rfl) fun _ _ => rfl

/-- Replies give entities nothing. -/
theorem contents_of_reply {before after : Surroundings host}
    (grows : Grows Event.IsReply before after) : after.contents = before.contents :=
  grows.contents fun event kind => by cases event <;> first | rfl | exact kind.elim

/-- The entity of a request gets it. -/
theorem contents_run (around : Surroundings host) (job : ApplyJob host) :
    (around.run job).contents = around.contents ++ [(job.handle, job.request, job.body)] := by
  unfold run
  rw [contents_of_reply (grows_foldl_use _ _), contents_eq, contents_eq]
  simp [note, Event.content?, Delivery.content]

end Surroundings

namespace Session

variable {session : Session host}

/-- The entity that is asked for a piece of a copy gets the request. -/
theorem contents_dispatchSync (session : Session host) (inline : session.execution = .inline)
    (handle : host.Handle) (action : EntityAction) (key : ConcurrencyKey)
    (body : RequestBody host.Message host.Chunk) :
    (session.dispatchSync handle action key body).around.contents =
      session.around.contents ++ [(handle, session.copyRequest action key, body)] := by
  rw [dispatchSync, inline]
  exact Surroundings.contents_run _ _

/-- The entity of a live operation gets its request if the operation is handed to it, and no entity
gets anything else. -/
theorem contents_process (session : Session host) (inline : session.execution = .inline)
    (message : ReplicationMessage) :
    (session.process message).2.around.contents = session.around.contents ++
      (Dispatch.ofFate? (message, session.fate message)).toList.map (·.content) := by
  have fate := session.processes message
  generalize session.process message = step at fate ⊢
  obtain ⟨admission, next⟩ := step
  -- What is put on the trace beside deliveries gives entities nothing.
  have silent (around : Surroundings host) (skipped : Bool) :
      (around.note (.processed message skipped)).contents = around.contents := by
    simp [Surroundings.contents_eq, Surroundings.note, Event.content?]
  have settled (around : Surroundings host) (completion : Completion) (how : Settlement) :
      (around.settle completion how).contents = around.contents :=
    Surroundings.contents_of_reply (Surroundings.grows_settle _ _ _)
  cases fate with
  | acknowledged idle =>
    rw [fate_of_noop idle, settled, silent]
    exact (List.append_nil _).symm
  | unmade acts found =>
    rw [fate_of_unmade acts found, settled, silent,
      (Surroundings.Aside.of_findOrCreate found).contents]
    exact (List.append_nil _).symm
  | unread acts found unread =>
    rw [fate_of_unread acts found unread, settled, silent,
      (Surroundings.Aside.of_findOrCreate found).contents]
    exact (List.append_nil _).symm
  | @dispatched handle made around body acts found read =>
    rw [fate_of_read acts found read]
    have reported (around : Surroundings host) (completion : Completion) (acks : List Ack) :
        (around.report completion acks).contents = around.contents :=
      Surroundings.contents_of_reply (Surroundings.grows_report _ _ _)
    simp only [adopt, inline, Surroundings.execute]
    rw [Surroundings.contents_run, reported, silent,
      (Surroundings.Aside.of_findOrCreate found).contents]
    rfl

/-- The entities of operations that are replayed get their requests in order. -/
theorem contents_replayed (held : List ReplicationMessage) (session : Session host)
    (inline : session.execution = .inline) :
    (held.foldl replay session).around.contents = session.around.contents ++
      ((session.replayed held).filterMap Dispatch.ofFate?).map (·.content) := by
  induction held generalizing session with
  | nil => exact (List.append_nil _).symm
  | cons message rest ih =>
    have once : (session.replay message).around.contents = session.around.contents ++
        (Dispatch.ofFate? (message, session.fate message)).toList.map (·.content) :=
      contents_process { session with
        stats := { session.stats with replayed := session.stats.replayed + 1 } } inline message
    obtain ⟨around, stats, frame, -⟩ := replay_frame [message] session
    have still : (session.replay message).execution = .inline := by
      rw [show session.replay message = _ from frame]
      exact inline
    rw [List.foldl_cons, ih _ still, once, replayed, List.filterMap_cons, List.append_assoc]
    cases Dispatch.ofFate? (message, session.fate message) <;> rfl

/-- The request that an item of a copy causes is a step of the copy, for the entity that the item is
handed to. -/
theorem eq_of_copyDispatch? {message : SyncMessage} {dispatch : Dispatch host}
    (asked : session.copyDispatch? message = some dispatch) :
    ∃ action key handle, message.step? = some (action, key) ∧
      session.copyHandle? message = some handle ∧
      dispatch = ⟨none, handle, session.copyRequest action key, session.copyBody message⟩ := by
  obtain ⟨⟨action, key⟩, step, asked⟩ := Option.bind_eq_some_iff.mp asked
  obtain ⟨handle, known, asked⟩ := Option.bind_eq_some_iff.mp asked
  exact ⟨action, key, handle, step, known, (Option.some.inj asked).symm⟩

/-- What an item of a copy makes a session hand on, if it is taken. -/
theorem dispatchesOf_sync {message : SyncMessage} {action : EntityAction} {key : ConcurrencyKey}
    {handle : host.Handle} (step : message.step? = some (action, key))
    (found : session.copyHandle? message = some handle) :
    session.dispatchesOf (.sync message) =
      (session.fatesOf (.sync message)).filterMap Dispatch.ofFate? ++
        [⟨none, handle, session.copyRequest action key, session.copyBody message⟩] := by
  simp only [dispatchesOf, copyDispatch?, step, found]
  rfl

/-- The requests that an item causes reach their entities. -/
theorem Accepted.contents {item : StreamItem} {admission : Admission} {next : Session host}
    (accepted : session.Accepted item admission next) (inline : session.execution = .inline) :
    next.around.contents =
      session.around.contents ++ (session.dispatchesOf item).map (·.content) := by
  cases accepted with
  | startSync idle => exact (List.append_nil _).symm
  | @startEntity entity version config isNew handle made around syncing closed found =>
    have known : session.copyHandle? (.startEntity entity version config isNew) = some handle := by
      simp only [copyHandle?, found]
    have reaches := contents_dispatchSync (session.adopt around made) inline handle
      .syncEntityStart .management .none
    rw [dispatchesOf_sync rfl known]
    exact reaches.trans
      (congrArg (· ++ _) (Surroundings.Aside.of_findOrCreate found).contents)
  | @startKey current key syncing isOpen between fresh =>
    have known : session.copyHandle? (.startKey current.id current.version key) =
        some current.handle := congrArg (Option.map _) isOpen
    rw [dispatchesOf_sync rfl known]
    exact contents_dispatchSync _ inline _ _ _ _
  | @payload current key bytes chunk syncing isOpen within fits read =>
    have known : session.copyHandle? (.payload current.id current.version key bytes) =
        some current.handle := congrArg (Option.map _) isOpen
    have body : session.copyBody (.payload current.id current.version key bytes) =
        .chunk chunk := by simp only [copyBody, read]
    rw [dispatchesOf_sync rfl known, body]
    exact contents_dispatchSync _ inline _ _ _ _
  | @endKey current key syncing isOpen within =>
    have known : session.copyHandle? (.endKey current.id current.version key) =
        some current.handle := congrArg (Option.map _) isOpen
    have fates : session.fatesOf (.sync (.endKey current.id current.version key)) =
        (session.endingKey current key).replayed (session.deferred.held ⟨current.id, key⟩) := by
      rw [fatesOf, isOpen]
    obtain ⟨around, stats, frame, -⟩ :=
      replay_frame (session.deferred.held ⟨current.id, key⟩) (session.endingKey current key)
    have reaches := contents_replayed (session.deferred.held ⟨current.id, key⟩)
      (session.endingKey current key) inline
    rw [frame] at reaches
    rw [dispatchesOf_sync rfl known, fates, frame]
    refine (contents_dispatchSync { session.endingKey current key with around, stats } inline
      current.handle .syncKeyEnd key .none).trans ?_
    rw [reaches, List.map_append, ← List.append_assoc]
    rfl
  | @endEntity current syncing isOpen between =>
    have known : session.copyHandle? (.endEntity current.id current.version) =
        some current.handle := congrArg (Option.map _) isOpen
    rw [dispatchesOf_sync rfl known]
    exact contents_dispatchSync _ inline _ _ _ _
  | endSync syncing closed finished =>
    exact (Surroundings.Aside.of_finishSync finished).contents.trans (List.append_nil _).symm
  | deferred isOpen room =>
    simp only [dispatchesOf, fatesOf, if_pos isOpen]
    exact (List.append_nil _).symm
  | @processed message elsewhere =>
    simp only [dispatchesOf, fatesOf, if_neg elsewhere, List.append_nil, List.filterMap_cons,
      List.filterMap_nil]
    rw [contents_process session inline message]
    cases Dispatch.ofFate? (message, session.fate message) <;> rfl

/-- The requests that a run hands on are those that entities get, in this order. -/
theorem contents_run (coherent : session.Coherent) (inline : session.execution = .inline)
    (moves : List (SessionMove host)) :
    (session.run moves).around.contents =
      session.around.contents ++ (session.dispatches moves).map (·.content) := by
  refine (collect_induction
    (motive := fun later (dispatched : List (Dispatch host)) => later.execution = .inline ∧
      later.around.contents = session.around.contents ++ dispatched.map (·.content))
    ?_ ?_ coherent [] ⟨inline, by simp⟩ moves).2
  · intro reached dispatched item admission next _ _ accepted ⟨inline, earlier⟩
    refine ⟨accepted.setting.2.trans inline, ?_⟩
    rw [accepted.contents inline, earlier, List.map_append, List.append_assoc]
  · intro reached dispatched next coherent idle ⟨inline, earlier⟩
    refine ⟨(setting_of_idle coherent idle).2.trans inline, ?_⟩
    rw [← earlier]
    rcases around_of_idle coherent idle with ⟨action, rfl⟩ | aside
    · exact Surroundings.contents_of_reply (Surroundings.grows_use _ _)
    · exact aside.contents

end Session
end Standby
