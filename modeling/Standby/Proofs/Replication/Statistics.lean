import Mathlib.Data.Finset.Card
import Standby.Proofs.Replication.Effects
import Standby.Proofs.Replication.OpenKey
import Standby.Replication.Rehearsal

/-!
# The counts of a session are its history

A session counts what it does as it goes on. What it counted is what can be read off its history
afterwards: off its answers, the operations that it processed with their fates, the requests that
were handed on and the entities that were made. What one item adds to the counts is
`Session.Accepted.stats_eq`, and what it adds to the operations held back is
`Session.Accepted.length_withheld`; a run adds up what its items add (`Session.counts_of_history`).
-/
namespace Standby

variable {host : Host}

/-- An operation was held back. -/
def Admission.isDeferred : Admission → Bool
  | .deferred _ => true
  | _ => false

namespace Fate

/-- An operation was acknowledged outright. -/
def isAcknowledged : Fate host → Bool
  | acknowledged => true
  | _ => false

/-- An operation was handed to its entity. -/
def isHanded : Fate host → Bool
  | handed _ _ => true
  | _ => false

/-- The payload of an operation was not read. -/
def isUnread : Fate host → Bool
  | unread => true
  | _ => false

/-- An operation was acknowledged outright or handed to its entity. -/
def isApplied (fate : Fate host) : Bool := fate.isAcknowledged || fate.isHanded

end Fate

/-- A request with a piece of a copy. -/
def EntityRequest.isPiece (request : EntityRequest) : Bool := request.action == .syncPayload

/-- A piece of a copy. -/
def StreamItem.isPiece : StreamItem → Bool
  | .sync (.payload ..) => true
  | _ => false

/-- An entity was made. -/
def Contact.isMade (contact : Contact host) : Bool := contact.made?.isSome

/-- Everything that a table holds back. -/
def DeferralTable.messages (table : DeferralTable) : List ReplicationMessage :=
  table.queues.values.flatMap DeferredQueue.toList

namespace Session

variable {session : Session host}

/-- What a session answers to an item in a move, if the item is taken. -/
def admission? (session : Session host) : SessionMove host → Option Admission
  | .item item => (session.handle item).1.toOption
  | _ => none

/-- What a session answers to the items that it takes in some moves. -/
def admissions (session : Session host) : List (SessionMove host) → List Admission
  | [] => []
  | next :: rest => (session.admission? next).toList ++ (session.move next).admissions rest

/-- The operations that were held back and are processed as the copy of their key is whole. -/
def replaysOf (session : Session host) : StreamItem → List ReplicationMessage
  | .sync message => session.released (.sync message)
  | .replicate _ => []

/-- The operations that were held back and then processed in some moves. -/
def replays (session : Session host) (moves : List (SessionMove host)) :
    List ReplicationMessage :=
  session.collect replaysOf moves

/-- Requests make no entities. -/
theorem countP_asked (dispatches : List (Dispatch host)) :
    (dispatches.map fun dispatch => Contact.asked dispatch.content).countP Contact.isMade = 0 := by
  rw [List.countP_map]
  exact List.countP_eq_zero.mpr fun _ _ => Bool.false_ne_true

/-- An entity that is found or made for a session is counted if it is made. -/
theorem countP_obtaining {around : Surroundings host} {handle : host.Handle} {made : Bool}
    {entity : EntityId} {version : UInt64} {config : ByteArray}
    (found : session.around.findOrCreate entity version config = (.ok (handle, made), around)) :
    (session.obtaining entity version config).countP Contact.isMade = if made then 1 else 0 := by
  rw [(makings_of_obtaining found).1]
  cases made <;> rfl

/-- The entities that are made as an operation is processed. -/
theorem countP_contactsFor {message : ReplicationMessage} (acts : message.kind ≠ .noop) :
    (session.contactsFor message).countP Contact.isMade =
      (session.obtaining message.entity.id message.entity.version
        (configOf message)).countP Contact.isMade := by
  rw [contactsFor, if_neg acts, List.countP_append, countP_asked, Nat.add_zero]

/-- A live operation that is processed is counted by its fate, and an entity that is made for it is
counted. -/
theorem process_stats (session : Session host) (message : ReplicationMessage) :
    (session.process message).2.stats = { session.stats with
      applied := session.stats.applied + (session.fate message).isApplied.toNat
      decodeFailures := session.stats.decodeFailures + (session.fate message).isUnread.toNat
      entitiesCreated := session.stats.entitiesCreated +
        (session.contactsFor message).countP Contact.isMade } := by
  have fate := session.processes message
  generalize session.process message = step at fate ⊢
  obtain ⟨admission, next⟩ := step
  cases fate with
  | acknowledged idle =>
    rw [fate_of_noop idle, contactsFor, if_pos idle]
    rfl
  | unmade acts found =>
    rw [fate_of_unmade acts found, countP_contactsFor acts, (makings_of_unobtained found).1]
    rfl
  | unread acts found unread =>
    rw [fate_of_unread acts found unread, countP_contactsFor acts, countP_obtaining found]
    rfl
  | dispatched acts found read =>
    rw [fate_of_read acts found read, countP_contactsFor acts, countP_obtaining found]
    rfl

/-- An operation that is processed is not held back. -/
theorem isDeferred_process (session : Session host) (message : ReplicationMessage) :
    (session.process message).1.isDeferred = false := by
  have fate := session.processes message
  generalize session.process message = step at fate ⊢
  obtain ⟨admission, next⟩ := step
  cases fate <;> rfl

/-- Operations that are replayed are counted by their fates and once more. -/
theorem replayed_stats (held : List ReplicationMessage) (session : Session host) :
    (held.foldl replay session).stats = { session.stats with
      applied := session.stats.applied + (session.replayed held).countP (·.2.isApplied)
      replayed := session.stats.replayed + held.length
      decodeFailures := session.stats.decodeFailures +
        (session.replayed held).countP (·.2.isUnread)
      entitiesCreated := session.stats.entitiesCreated +
        (session.contactsReplayed held).countP Contact.isMade } := by
  induction held generalizing session with
  | nil => rfl
  | cons message rest ih =>
    have once : (session.replay message).stats = { session.stats with
        applied := session.stats.applied + (session.fate message).isApplied.toNat
        replayed := session.stats.replayed + 1
        decodeFailures := session.stats.decodeFailures + (session.fate message).isUnread.toNat
        entitiesCreated := session.stats.entitiesCreated +
          (session.contactsFor message).countP Contact.isMade } :=
      process_stats { session with
        stats := { session.stats with replayed := session.stats.replayed + 1 } } message
    rw [List.foldl_cons, ih, once, replayed, contactsReplayed, List.countP_cons, List.countP_cons,
      List.countP_append, List.length_cons]
    simp only [Bool.toNat, Bool.cond_eq_ite, SessionStats.mk.injEq, true_and]
    omega

/-- An item that is taken is counted by what becomes of it and of the operations that it
releases. -/
theorem Accepted.stats_eq {item : StreamItem} {admission : Admission} {next : Session host}
    (accepted : session.Accepted item admission next) : next.stats =
      { applied := session.stats.applied + (session.fatesOf item).countP (·.2.isApplied)
        deferred := session.stats.deferred + admission.isDeferred.toNat
        replayed := session.stats.replayed + (session.replaysOf item).length
        syncPayloads := session.stats.syncPayloads + item.isPiece.toNat
        decodeFailures := session.stats.decodeFailures +
          (session.fatesOf item).countP (·.2.isUnread)
        entitiesCreated := session.stats.entitiesCreated +
          (session.contactsOf item).countP Contact.isMade } := by
  have contacts (message : SyncMessage) : (session.contactsOf (.sync message)).countP
      Contact.isMade = (session.contactsBefore (.sync message)).countP Contact.isMade := by
    simp only [contactsOf]
    rw [List.countP_append, countP_asked, Nat.add_zero]
  cases accepted with
  | startEntity syncing closed found =>
    rw [contacts, contactsBefore, countP_obtaining found]
    rfl
  | @endKey current key syncing isOpen within =>
    rw [contacts]
    simp only [contactsBefore, fatesOf, isOpen]
    exact replayed_stats (session.deferred.held ⟨current.id, key⟩) (session.endingKey current key)
  | deferred isOpen room =>
    simp only [fatesOf, contactsOf, contactsBefore, if_pos isOpen]
    rfl
  | @processed message elsewhere =>
    simp only [fatesOf, contactsOf, contactsBefore, if_neg elsewhere, List.append_nil]
    rw [process_stats, isDeferred_process, List.countP_singleton, List.countP_singleton]
    simp only [Bool.toNat, Bool.cond_eq_ite]
    rfl
  | _ =>
    rw [contacts]
    rfl

/-- A move in which no item is taken counts nothing. -/
theorem stats_of_idle (coherent : session.Coherent) {next : SessionMove host}
    (idle : session.taken? next = none) : (session.move next).stats = session.stats := by
  have moved := session.moved coherent next
  generalize session.move next = after at moved ⊢
  cases moved with
  | accepted running answered accepted => cases (taken?_of_ok answered).symm.trans idle
  | _ => rfl

/-- Where no item is taken there is no answer to one. -/
theorem admission?_of_idle {next : SessionMove host} (idle : session.taken? next = none) :
    session.admission? next = none := by
  cases next with
  | item item =>
    rw [taken?] at idle
    rw [admission?]
    split at idle
    · cases idle
    · rename_i fault answered
      rw [answered]
      rfl
  | _ => rfl

/-- What every item that is taken adds to a count is what the history of a run says. -/
theorem count_run {α : Type} (counts : SessionStats → Nat)
    (answer : Session host → StreamItem → List α) (counted : α → Bool)
    (step : ∀ {session : Session host} {item admission next},
      session.Accepted item admission next → counts next.stats =
        counts session.stats + (answer session item).countP counted)
    (coherent : session.Coherent) (moves : List (SessionMove host)) :
    counts (session.run moves).stats =
      counts session.stats + (session.collect answer moves).countP counted := by
  refine collect_induction
    (motive := fun later (collected : List α) => counts later.stats =
      counts session.stats + collected.countP counted)
    ?_ ?_ coherent [] rfl moves
  · intro reached collected item admission next _ _ accepted earlier
    rw [step accepted, earlier, List.countP_append, Nat.add_assoc]
  · intro reached collected next coherent idle earlier
    rw [stats_of_idle coherent idle, earlier]

/-- The operations that were held back are counted by the answers to them. -/
theorem deferred_run (coherent : session.Coherent) (moves : List (SessionMove host)) :
    (session.run moves).stats.deferred =
      session.stats.deferred + (session.admissions moves).countP Admission.isDeferred := by
  induction moves generalizing session with
  | nil => rfl
  | cons next rest ih =>
    rw [run_cons, ih (coherent.move next), admissions, List.countP_append, ← Nat.add_assoc]
    congr 1
    cases taken : session.taken? next with
    | some item =>
      obtain ⟨rfl, admission, answered⟩ := eq_of_taken? taken
      obtain ⟨-, accepted⟩ := accepted_of_ok coherent answered
      rw [accepted.stats_eq, admission?, answered]
      exact congrArg (_ + ·) (by cases admission <;> rfl)
    | none =>
      rw [stats_of_idle coherent taken, admission?_of_idle taken]
      rfl

/-- What the open slot holds back. -/
def withheld (session : Session host) : List ReplicationMessage :=
  session.openSlot.elim [] session.deferred.held

/-- All that is held back is held back by the open slot. -/
theorem messages_eq (coherent : session.Coherent) :
    session.deferred.messages = session.withheld := by
  cases isOpen : session.openSlot with
  | none =>
    have empty : session.deferred.queues.toList = [] := by
      refine List.eq_nil_iff_forall_not_mem.mpr fun entry member => ?_
      have present := DeferralTable.isOpen_iff.mpr ⟨_, SortedMap.get?_of_mem member⟩
      rw [coherent.isOpen_eq_false (by rw [isOpen]; nofun)] at present
      contradiction
    simp [DeferralTable.messages, SortedMap.values, empty, withheld, isOpen]
  | some slot =>
    have sole (found : Slot) (present : session.deferred.isOpen found = true) : found = slot := by
      rw [coherent.isOpen_iff, isOpen, Option.some.injEq] at present
      exact present.symm
    obtain ⟨queue, found⟩ :=
      DeferralTable.isOpen_iff.mp ((coherent.isOpen_iff slot).mpr isOpen)
    rw [withheld, isOpen, Option.elim_some, DeferralTable.held, found, Option.getD_some]
    rcases SortedMap.toList_eq_of_sole sole with none_listed | ⟨other, listed⟩
    · simp [SortedMap.get?, SortedMap.lookupList, none_listed] at found
    · have member : (slot, other) ∈ session.deferred.queues.toList := by
        rw [listed]
        exact List.mem_cons_self
      have same : session.deferred.queues.get? slot = some other :=
        @SortedMap.get?_of_mem _ _ _ _ _ (slot, other) member
      obtain rfl : queue = other := Option.some.inj (found.symm.trans same)
      simp [DeferralTable.messages, SortedMap.values, listed]

/-- Where no slot is open nothing is held back. -/
theorem withheld_of_none (closed : session.openSlot = none) : session.withheld = [] := by
  rw [withheld, closed]
  rfl

/-- Between two keys no slot is open. -/
theorem withheld_of_between {current : OpenEntity host}
    (isOpen : session.openEntity = some current) (between : current.openKey = none) :
    session.withheld = [] :=
  withheld_of_none (by rw [openSlot_of_some isOpen, between]; rfl)

/-- What is held back depends on the open entity and the table alone. -/
theorem withheld_congr {other : Session host} (entity : other.openEntity = session.openEntity)
    (deferred : other.deferred = session.deferred) : other.withheld = session.withheld := by
  rw [withheld, openSlot_congr entity, deferred, withheld]

/-- What is held back grows by the operations that are held back and shrinks by those that are
released. -/
theorem Accepted.length_withheld {item : StreamItem} {admission : Admission} {next : Session host}
    (accepted : session.Accepted item admission next) (coherent : session.Coherent) :
    next.withheld.length + (session.replaysOf item).length =
      session.withheld.length + admission.isDeferred.toNat := by
  cases accepted with
  | startSync idle => exact congrArg List.length (withheld_congr rfl rfl)
  | startEntity syncing closed found =>
    rw [withheld_of_none (openSlot_of_none closed)]
    exact congrArg List.length (withheld_of_between rfl rfl)
  | @startKey current key syncing isOpen between fresh =>
    have before : session.openSlot = none := by rw [openSlot_of_some isOpen, between]; rfl
    have empty : session.deferred.held ⟨current.id, key⟩ = [] :=
      DeferralTable.held_of_closed (coherent.isOpen_eq_false (by rw [before]; nofun))
    rw [withheld_of_none before, withheld, openSlot_of_some rfl]
    simp only [dispatchSync, Option.map_some, Option.elim_some, DeferralTable.held_openSlot, empty]
    rfl
  | payload syncing isOpen within fits read => exact congrArg List.length (withheld_congr rfl rfl)
  | @endKey current key syncing isOpen within =>
    have before : session.openSlot = some ⟨current.id, key⟩ := by
      rw [openSlot_of_some isOpen, within]
      rfl
    obtain ⟨around, stats, replayed, -⟩ :=
      replay_frame (session.deferred.held ⟨current.id, key⟩) (session.endingKey current key)
    rw [replayed, withheld_of_between rfl rfl, withheld, before]
    exact Nat.zero_add _
  | endEntity syncing isOpen between =>
    rw [withheld_of_none (openSlot_of_none rfl), withheld_of_between isOpen between]
    rfl
  | endSync syncing closed finished => exact congrArg List.length (withheld_congr rfl rfl)
  | @deferred message isOpen room =>
    have held := DeferralTable.held_offer ((coherent.isOpen_iff message.slot).mpr isOpen) room
      message.slot
    have same : ({ session with
        deferred := (session.deferred.offer message).2
        stats := { session.stats with deferred := session.stats.deferred + 1 } } :
        Session host).openSlot = some message.slot := (openSlot_congr rfl).trans isOpen
    rw [withheld, same, withheld, isOpen, Option.elim_some, Option.elim_some, held, if_pos rfl,
      List.length_append]
    rfl
  | @processed message elsewhere =>
    obtain ⟨around, stats, frame, -⟩ := process_frame session message
    rw [frame, isDeferred_process]
    exact congrArg List.length (withheld_congr rfl rfl)

/-- A move in which no item is taken and after which a session goes on leaves what is held back as
it is. -/
theorem withheld_of_idle (coherent : session.Coherent) {next : SessionMove host}
    (idle : session.taken? next = none) (running : (session.move next).IsRunning) :
    (session.move next).withheld = session.withheld := by
  obtain ⟨-, entity, deferred⟩ := place_of_idle coherent idle running
  exact withheld_congr entity deferred

/-- The operations that were held back and not yet processed are those that are held back now, as
long as no fault and no close ended the session. -/
theorem balanced_run (coherent : session.Coherent)
    (balanced : session.stats.deferred = session.stats.replayed + session.withheld.length)
    {moves : List (SessionMove host)} (running : (session.run moves).IsRunning) :
    (session.run moves).stats.deferred =
      (session.run moves).stats.replayed + (session.run moves).withheld.length := by
  induction moves generalizing session with
  | nil => exact balanced
  | cons next rest ih =>
    refine ih (coherent.move next) ?_ running
    have still := isRunning_of_run (coherent.move next) running
    cases taken : session.taken? next with
    | none => rw [stats_of_idle coherent taken, withheld_of_idle coherent taken still, balanced]
    | some item =>
      obtain ⟨rfl, admission, answered⟩ := eq_of_taken? taken
      obtain ⟨-, accepted⟩ := accepted_of_ok coherent answered
      have lengths := accepted.length_withheld coherent
      rw [accepted.stats_eq]
      dsimp only
      omega

/-- The request of an operation is no piece of a copy. -/
theorem isPiece_request (message : ReplicationMessage) : message.request.isPiece = false := by
  rw [EntityRequest.isPiece, ReplicationMessage.request]
  cases message.kind <;> rfl

/-- The requests of operations bring no pieces of copies. -/
theorem countP_isPiece_ofFate (fates : List (ReplicationMessage × Fate host)) :
    (fates.filterMap Dispatch.ofFate?).countP (·.content.2.1.isPiece) = 0 := by
  refine List.countP_eq_zero.mpr fun dispatch member => ?_
  obtain ⟨⟨message, fate⟩, -, asked⟩ := List.mem_filterMap.mp member
  cases fate with
  | handed handle body =>
    cases asked
    simp [isPiece_request]
  | _ => cases asked

/-- The request of an item of a copy comes with a piece only if the item is one. -/
theorem isPiece_of_copyDispatch? {message : SyncMessage} {dispatch : Dispatch host}
    (asked : session.copyDispatch? message = some dispatch) :
    dispatch.content.2.1.isPiece = (StreamItem.sync message).isPiece := by
  obtain ⟨action, key, handle, step, -, rfl⟩ := eq_of_copyDispatch? asked
  cases message <;> cases step <;> rfl

/-- A piece of a copy that is taken is handed on, and no other item is handed on as a piece. -/
theorem Accepted.countP_isPiece {item : StreamItem} {admission : Admission} {next : Session host}
    (accepted : session.Accepted item admission next) :
    (session.dispatchesOf item).countP (·.content.2.1.isPiece) = item.isPiece.toNat := by
  cases item with
  | replicate message =>
    simp only [dispatchesOf, List.append_nil]
    exact countP_isPiece_ofFate _
  | sync message =>
    simp only [dispatchesOf]
    rw [List.countP_append, countP_isPiece_ofFate, Nat.zero_add]
    cases asked : session.copyDispatch? message with
    | some dispatch =>
      rw [Option.toList_some, List.countP_singleton, isPiece_of_copyDispatch? asked]
      cases (StreamItem.sync message).isPiece <;> rfl
    | none =>
      -- A piece that is taken is asked of the open entity.
      cases accepted with
      | payload syncing isOpen within fits read =>
        simp [copyDispatch?, SyncMessage.step?, copyHandle?, isOpen] at asked
      | _ => rfl

/-- The operations of a run that are handed to their entities are its live requests. -/
theorem countP_dispatches (session : Session host) (moves : List (SessionMove host)) :
    (session.dispatches moves).countP (·.content.2.1.isLive) =
      (session.fates moves).countP (·.2.isHanded) := by
  have handed : (fun entry : ReplicationMessage × Fate host => (Dispatch.ofFate? entry).isSome) =
      (·.2.isHanded) := by
    funext ⟨message, fate⟩
    cases fate <;> rfl
  rw [List.countP_eq_length_filter, filter_isLive_dispatches, List.length_filterMap_eq_countP,
    handed]

/-- Operations are acknowledged outright or handed to their entities, not both. -/
theorem countP_isApplied (fates : List (ReplicationMessage × Fate host)) :
    fates.countP (·.2.isApplied) =
      fates.countP (·.2.isAcknowledged) + fates.countP (·.2.isHanded) := by
  induction fates with
  | nil => rfl
  | cons first rest ih =>
    obtain ⟨message, fate⟩ := first
    simp only [List.countP_cons, ih]
    cases fate <;> simp [Fate.isApplied, Fate.isAcknowledged, Fate.isHanded] <;> omega

/-- The operations that were held back and then processed are counted once more in a run. -/
theorem replayed_run (coherent : session.Coherent) (moves : List (SessionMove host)) :
    (session.run moves).stats.replayed =
      session.stats.replayed + (session.replays moves).length := by
  rw [replays, ← List.countP_true]
  exact count_run SessionStats.replayed replaysOf _
    (fun accepted => by rw [accepted.stats_eq, List.countP_true]) coherent moves

/-- The entities that are made are counted in a run. -/
theorem entitiesCreated_run (coherent : session.Coherent) (moves : List (SessionMove host)) :
    (session.run moves).stats.entitiesCreated =
      session.stats.entitiesCreated + (session.contacts moves).countP Contact.isMade :=
  count_run SessionStats.entitiesCreated contactsOf Contact.isMade
    (fun accepted => by rw [accepted.stats_eq]) coherent moves

/-- What a session counted is what its history says. -/
structure Accounts (initial : Session host) (moves : List (SessionMove host)) : Prop where
  /-- The operations whose answer was that they are held back. -/
  deferred : (initial.run moves).stats.deferred =
    (initial.admissions moves).countP Admission.isDeferred
  /-- The operations that were held back and then processed as the copy of their key was whole. -/
  replayed : (initial.run moves).stats.replayed = (initial.replays moves).length
  /-- While no fault and no close ended the session, the other ones are held back now. -/
  outstanding : (initial.run moves).IsRunning → (initial.run moves).stats.deferred =
    (initial.run moves).stats.replayed + (initial.run moves).deferred.messages.length
  /-- The operations that were acknowledged outright and the live requests that were handed on. -/
  applied : (initial.run moves).stats.applied = (initial.fates moves).countP (·.2.isAcknowledged) +
    (initial.run moves).handedOn.countP (·.2.1.isLive)
  /-- The operations that were skipped because their payloads were not read. -/
  decodeFailures : (initial.run moves).stats.decodeFailures =
    (initial.fates moves).countP (·.2.isUnread)
  /-- The pieces of copies that were handed on. -/
  syncPayloads : (initial.run moves).stats.syncPayloads =
    (initial.run moves).handedOn.countP (·.2.1.isPiece)
  /-- The entities that were made. -/
  entitiesCreated : (initial.run moves).stats.entitiesCreated =
    (initial.run moves).around.makings.length
  /-- The operations with a fate are those that were processed. -/
  processed : (initial.fates moves).map Prod.fst = (initial.run moves).processed
  /-- Every request that was handed on came behind the finding or making of its entity, in a history
  of all that was handed on and made. -/
  introduced : Contact.Introduced (initial.contacts moves) ∧
    (initial.contacts moves).filterMap Contact.asked? = (initial.run moves).handedOn ∧
    (initial.contacts moves).filterMap Contact.made? = (initial.run moves).around.makings

/-- What a new session counted is what its history says, with every manager of entities. -/
theorem accounts_run (source : ServerId) (limits : Limits) (execution : Execution)
    (world : host.World) (moves : List (SessionMove host)) :
    (start source limits execution world).Accounts moves := by
  have coherent := coherent_start source limits execution world
  have handed := handedOn_run source limits execution world moves
  have makings : _ = [] ++ _ := makings_run coherent moves
  refine {
    deferred := (deferred_run coherent moves).trans (Nat.zero_add _)
    replayed := (replayed_run coherent moves).trans (Nat.zero_add _)
    outstanding := fun running => ?_
    applied := ?_
    decodeFailures := ?_
    syncPayloads := ?_
    entitiesCreated := ?_
    processed := (processed_run coherent moves).symm
    introduced := ⟨introduced_run coherent rfl moves, (asked_contacts _ moves).trans handed.symm,
      makings.symm⟩ }
  · rw [messages_eq (coherent.run moves)]
    exact balanced_run coherent rfl running
  · have applied := count_run SessionStats.applied fatesOf (·.2.isApplied)
      (fun accepted => by rw [accepted.stats_eq]) coherent moves
    have live := countP_dispatches (start source limits execution world) moves
    rw [applied, handed, List.countP_map]
    calc _ = ((start source limits execution world).fates moves).countP (·.2.isApplied) :=
          Nat.zero_add _
      _ = _ := countP_isApplied _
      _ = _ := congrArg (_ + ·) live.symm
  · have unread := count_run SessionStats.decodeFailures fatesOf (·.2.isUnread)
      (fun accepted => by rw [accepted.stats_eq]) coherent moves
    exact unread.trans (Nat.zero_add _)
  · have pieces := count_run SessionStats.syncPayloads dispatchesOf (·.content.2.1.isPiece)
      (fun accepted => by rw [accepted.stats_eq, accepted.countP_isPiece]) coherent moves
    rw [pieces, handed, List.countP_map]
    exact Nat.zero_add _
  · rw [entitiesCreated_run coherent moves, makings, List.nil_append,
      List.length_filterMap_eq_countP]
    exact Nat.zero_add _

/-- The counts of a session are its history, whatever stream comes, whenever the session is closed
and whatever entities do. If the manager of the entities registers what it makes and never forgets
it, no entity is made twice, so the entities that were made are as many as were registered. -/
theorem counts_of_history {registration : Registration}
    (registry : EntityRegistry host registration) (source : ServerId) (limits : Limits)
    (execution : Execution) (world : host.World) (moves : List (SessionMove host))
    (isPossible : registry.IsPossible world)
    (remembered : (start source limits execution world).Remembered registry moves) :
    let initial := start source limits execution world
    let registered := (initial.run moves).around.registrations registration
    initial.Accounts moves ∧ registered.Nodup ∧
      (initial.run moves).stats.entitiesCreated = registered.toFinset.card := by
  have coherent := coherent_start source limits execution world
  have accounts := accounts_run source limits execution world moves
  have recorded := Recorded.run coherent (Surroundings.recorded_ofWorld isPossible) remembered
  refine ⟨accounts, recorded.distinct, ?_⟩
  rw [accounts.entitiesCreated, List.toFinset_card_of_nodup recorded.distinct,
    Surroundings.registrations, List.length_map]

end Session

/-- The entities of a rehearsal are a record that only grows. -/
def Rehearsal.registry (transmit : Nat → ServerId → Ack → Except TransportFault Unit)
    (registration : Registration) : EntityRegistry (Rehearsal.host transmit) registration where
  IsPossible rehearsal := rehearsal.isVersioned = decide (registration = .byIdAndVersion)
  Has rehearsal key :=
    ∃ entity ∈ rehearsal.entities, registration.key entity.id entity.version = key
  found {rehearsal entity version} possible := by
    rintro ⟨registered, member, same⟩
    refine List.find?_isSome.mpr ⟨registered, member, ?_⟩
    cases registration <;> simp_all [Rehearsal.isSame, Registration.key]
  registers {rehearsal entity version config handle next} _ made := by
    simp only [Rehearsal.create] at made
    split at made
    · cases made
    · cases made
      exact ⟨⟨entity, version⟩, List.mem_cons_self, rfl⟩
  create {rehearsal} entity version config possible := by
    simp only [Rehearsal.create]
    split
    · exact ⟨possible, fun _ known => known⟩
    · exact ⟨possible, fun key ⟨known, member, same⟩ =>
        ⟨known, List.mem_cons_of_mem _ member, same⟩⟩
  finishSync {rehearsal} bytes possible := by
    simp only [Rehearsal.finishSync]
    split <;> exact ⟨possible, fun _ known => known⟩
  deliver delivery possible := ⟨possible, fun _ known => known⟩

/-- A rehearsal in which every acknowledgement arrives. -/
abbrev Rehearsal.heard : Host := Rehearsal.host fun _ _ _ => .ok ()

/-- The record of the entities of such a rehearsal, which are told apart by their versions too. -/
abbrev Rehearsal.versions : EntityRegistry Rehearsal.heard .byIdAndVersion :=
  Rehearsal.registry _ .byIdAndVersion

namespace Session

/-- A new session of a rehearsal without entities. -/
abbrev rehearsed : Session Rehearsal.heard :=
  start sampleServer .standard .inline (Rehearsal.blank true)

/-- A stream in which an operation is held back and replayed, one does nothing and one is at once
handed to an entity that is made for it. On its own the manager comes to know a third entity. -/
def rehearsedMoves : List (SessionMove Rehearsal.heard) :=
  [.item (.sync .startSync), .item (.sync (.startEntity sampleEntity 1 .empty true)),
    .item (.sync (.startKey sampleEntity 1 ⟨5⟩)),
    .item (.replicate { sampleOperation 1 ⟨5⟩ with kind := .reconfigure }),
    .stir (((Rehearsal.blank true).register ⟨sampleEntity, 1⟩).register ⟨⟨"C", "bar"⟩, 1⟩),
    .item (.replicate { sampleOperation 2 ⟨6⟩ with kind := .noop }),
    .item (.sync (.endKey sampleEntity 1 ⟨5⟩)),
    .item (.replicate { sampleOperation 3 ⟨5⟩ with
      entity := ⟨⟨"C", "bar"⟩, .null, 2⟩, kind := .create })]

/-- The rehearsed stream is counted as its history says: two entities are made, one of them at
another version than the one that the manager came to know. -/
theorem rehearsed_counts :
    Rehearsal.versions.IsPossible (Rehearsal.blank true) ∧
    rehearsed.Remembered Rehearsal.versions rehearsedMoves ∧
    (rehearsed.run rehearsedMoves).stats = ⟨3, 1, 1, 0, 0, 2⟩ ∧
    rehearsed.Accounts rehearsedMoves ∧
    ((rehearsed.run rehearsedMoves).around.registrations .byIdAndVersion).Nodup ∧
    (rehearsed.run rehearsedMoves).stats.entitiesCreated =
      ((rehearsed.run rehearsedMoves).around.registrations .byIdAndVersion).toFinset.card := by
  have remembered : rehearsed.Remembered Rehearsal.versions rehearsedMoves := by
    refine ⟨nofun, nofun, nofun, nofun, fun world same => ?_, nofun, nofun, nofun, trivial⟩
    cases same
    exact ⟨rfl, fun key ⟨known, member, under⟩ => ⟨known, List.mem_cons_of_mem _ member, under⟩⟩
  have counts := counts_of_history Rehearsal.versions sampleServer .standard .inline
    (Rehearsal.blank true) rehearsedMoves rfl remembered
  exact ⟨rfl, remembered, by decide, counts.1, counts.2.1, counts.2.2⟩

end Session
end Standby
