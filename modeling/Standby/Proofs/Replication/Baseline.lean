import Standby.Proofs.Replication.Fate
import Standby.Proofs.Replication.Overtaking

/-!
# The copy of a key comes before its operations

The requests of the copy of an entity come in the order of its brackets, all on the entity as it was
found or made when the copy began, and each comes with the item that causes it. While a key is being
copied, none of its live operations reaches an entity. When the copy of the key is whole, those that
were held back do, and then the end of the key. Every other live operation is handed to its entity
as it comes (`Session.baseline_first`).
-/
namespace Standby

variable {host : Host}

/-- What the copy of a key with some pieces asks of the entity. -/
def keySteps (copy : ConcurrencyKey × Nat) : List (EntityAction × ConcurrencyKey) :=
  (.syncKeyStart, copy.1) :: List.replicate copy.2 (.syncPayload, copy.1) ++
    [(.syncKeyEnd, copy.1)]

/-- What the copy of an entity with some keys asks of it. -/
def entitySteps (keys : List (ConcurrencyKey × Nat)) : List (EntityAction × ConcurrencyKey) :=
  (.syncEntityStart, .management) :: keys.flatMap keySteps ++ [(.syncEntityEnd, .management)]

/-- An item that begins the copy of an entity. -/
def SyncMessage.startsEntity : SyncMessage → Bool
  | .startEntity .. => true
  | _ => false

/-- What a request asks, and for which key. -/
def Dispatch.step (dispatch : Dispatch host) : EntityAction × ConcurrencyKey :=
  (dispatch.content.2.1.action, dispatch.content.2.1.key)

namespace Nesting

/-- What was asked of an entity since its copy began, at a place. -/
inductive Bracket : Nesting → List (EntityAction × ConcurrencyKey) → Prop where
  /-- Some keys are whole. -/
  | between (id : EntityId) (version : UInt64) (synced : SortedSet ConcurrencyKey)
      (keys : List (ConcurrencyKey × Nat)) : Bracket (entity id version synced)
        ((.syncEntityStart, .management) :: keys.flatMap keySteps)
  /-- Some keys are whole, and some pieces of the next one came. -/
  | within (id : EntityId) (version : UInt64) (synced : SortedSet ConcurrencyKey)
      (keys : List (ConcurrencyKey × Nat)) (current : ConcurrencyKey) (pieces : Nat) :
      Bracket (key id version synced current)
        ((.syncEntityStart, .management) :: keys.flatMap keySteps ++
          (.syncKeyStart, current) :: List.replicate pieces (.syncPayload, current))
  /-- The copy of the entity is whole. -/
  | outside {place : Nesting} (left : place = idle ∨ place = copy)
      (keys : List (ConcurrencyKey × Nat)) : Bracket place (entitySteps keys)

variable {place next : Nesting} {steps : List (EntityAction × ConcurrencyKey)}

/-- What an item asks continues the bracket, unless the item begins another entity. -/
theorem Bracket.continues (bracket : place.Bracket steps) {message : SyncMessage}
    (moved : place.next? message = some next) (same : message.startsEntity = false) :
    next.Bracket (steps ++ message.step?.toList) := by
  cases bracket with
  | between id version synced keys =>
    cases message with
    | startKey otherId otherVersion current =>
      simp only [next?, Option.ite_none_right_eq_some, Option.some.injEq] at moved
      obtain ⟨-, rfl⟩ := moved
      exact .within id version synced keys current 0
    | endEntity otherId otherVersion =>
      simp only [next?, Option.ite_none_right_eq_some, Option.some.injEq] at moved
      obtain ⟨-, rfl⟩ := moved
      exact .outside (.inr rfl) keys
    | _ => cases moved
  | within id version synced keys current pieces =>
    cases message with
    | payload otherId otherVersion other bytes =>
      simp only [next?, Option.ite_none_right_eq_some, Option.some.injEq] at moved
      obtain ⟨⟨-, -, rfl⟩, rfl⟩ := moved
      have more := Bracket.within id version synced keys current (pieces + 1)
      rw [List.replicate_succ', ← List.cons_append, ← List.append_assoc] at more
      exact more
    | endKey otherId otherVersion other =>
      simp only [next?, Option.ite_none_right_eq_some, Option.some.injEq] at moved
      obtain ⟨⟨-, -, rfl⟩, rfl⟩ := moved
      have whole := Bracket.between id version (synced.insert current) (keys ++ [(current, pieces)])
      simp only [List.flatMap_append, List.flatMap_cons, List.flatMap_nil, List.append_nil] at whole
      simpa [keySteps, SyncMessage.step?] using whole
    | _ => cases moved
  | outside left keys =>
    cases message with
    | startEntity id version config isNew => cases same
    | startSync =>
      rcases left with rfl | rfl <;> cases moved
      simpa [SyncMessage.step?] using Bracket.outside (.inr rfl) keys
    | endSync bytes =>
      rcases left with rfl | rfl <;> cases moved
      simpa [SyncMessage.step?] using Bracket.outside (.inl rfl) keys
    | _ => rcases left with rfl | rfl <;> cases moved

/-- What was asked of an entity is the beginning of what a whole copy of it asks. -/
theorem Bracket.begins (bracket : place.Bracket steps) : ∃ keys, steps <+: entitySteps keys := by
  cases bracket with
  | between id version synced keys => exact ⟨keys, List.prefix_append _ _⟩
  | within id version synced keys current pieces =>
    refine ⟨keys ++ [(current, pieces)],
      [(.syncKeyEnd, current), (.syncEntityEnd, .management)], ?_⟩
    simp [entitySteps, keySteps]
  | outside left keys => exact ⟨keys, List.prefix_rfl⟩

end Nesting

namespace Session

variable {session : Session host} {slot : Slot}

/-- An item of a copy that asks something is asked of the open entity, unless it begins another
one. -/
theorem Accepted.copyHandle {message : SyncMessage} {admission : Admission} {next : Session host}
    (accepted : session.Accepted (.sync message) admission next)
    (asks : message.step?.isSome = true) (same : message.startsEntity = false) :
    ∃ current, session.openEntity = some current ∧
      session.copyHandle? message = some current.handle := by
  cases accepted with
  | startSync idle => cases asks
  | endSync syncing closed finished => cases asks
  | startEntity syncing closed found => cases same
  | @startKey current key syncing isOpen between fresh =>
    exact ⟨current, isOpen, congrArg (Option.map _) isOpen⟩
  | @payload current key bytes chunk syncing isOpen within fits read =>
    exact ⟨current, isOpen, congrArg (Option.map _) isOpen⟩
  | @endKey current key syncing isOpen within =>
    exact ⟨current, isOpen, congrArg (Option.map _) isOpen⟩
  | @endEntity current syncing isOpen between =>
    exact ⟨current, isOpen, congrArg (Option.map _) isOpen⟩

/-- An item of a copy keeps the handle of the open entity, unless it begins another one. -/
theorem Accepted.handle_of_sync {message : SyncMessage} {admission : Admission}
    {next : Session host} (accepted : session.Accepted (.sync message) admission next)
    (same : message.startsEntity = false) {later : OpenEntity host}
    (isOpen : next.openEntity = some later) :
    ∃ current, session.openEntity = some current ∧ later.handle = current.handle := by
  cases accepted with
  | startSync idle => exact ⟨later, isOpen, rfl⟩
  | startEntity syncing closed found => cases same
  | @startKey current key syncing known between fresh =>
    cases isOpen
    exact ⟨current, known, rfl⟩
  | payload syncing known within fits read => exact ⟨later, isOpen, rfl⟩
  | @endKey current key syncing known within =>
    obtain ⟨around, stats, frame, -⟩ :=
      replay_frame (session.deferred.held ⟨current.id, key⟩) (session.endingKey current key)
    rw [frame] at isOpen
    cases isOpen
    exact ⟨current, known, rfl⟩
  | endEntity syncing known between => cases isOpen
  | endSync syncing closed finished => exact ⟨later, isOpen, rfl⟩

/-- A live operation keeps the open entity. -/
theorem Accepted.openEntity_of_live {message : ReplicationMessage} {admission : Admission}
    {next : Session host} (accepted : session.Accepted (.replicate message) admission next) :
    next.openEntity = session.openEntity := by
  cases accepted with
  | deferred isOpen room => rfl
  | processed elsewhere =>
    obtain ⟨around, stats, frame, -⟩ := process_frame session message
    rw [frame]

/-- The requests of copies among others. -/
def copyOnes (dispatches : List (Dispatch host)) : List (Dispatch host) :=
  dispatches.filter (·.operation.isNone)

/-- The requests of copies among some requests and then others. -/
theorem copyOnes_append (first second : List (Dispatch host)) :
    copyOnes (first ++ second) = copyOnes first ++ copyOnes second :=
  List.filter_append _ _

/-- The request of an operation with a fate is a request of this operation. -/
theorem operation_of_mem {fates : List (ReplicationMessage × Fate host)} {dispatch : Dispatch host}
    (member : dispatch ∈ fates.filterMap Dispatch.ofFate?) :
    ∃ message ∈ fates.map Prod.fst, dispatch.operation = some message := by
  obtain ⟨⟨message, fate⟩, listed, handed⟩ := List.mem_filterMap.mp member
  refine ⟨message, List.mem_map_of_mem listed, ?_⟩
  cases fate with
  | handed handle body =>
    cases handed
    rfl
  | _ => cases handed

/-- The requests of operations with fates are none of a copy. -/
theorem copyOnes_ofFate (fates : List (ReplicationMessage × Fate host)) :
    copyOnes (fates.filterMap Dispatch.ofFate?) = [] :=
  List.filter_eq_nil_iff.mpr fun dispatch member => by
    obtain ⟨message, -, live⟩ := operation_of_mem member
    simp [live]

/-- The request of an item of a copy is of no live operation. -/
theorem operation_of_copyDispatch? {message : SyncMessage} {dispatch : Dispatch host}
    (asked : session.copyDispatch? message = some dispatch) : dispatch.operation = none := by
  obtain ⟨action, key, handle, -, -, rfl⟩ := eq_of_copyDispatch? asked
  rfl

/-- What an item of a copy hands on for the copy is its own request. -/
theorem copyOnes_sync (session : Session host) (message : SyncMessage) :
    copyOnes (session.dispatchesOf (.sync message)) = (session.copyDispatch? message).toList := by
  rw [dispatchesOf, copyOnes_append, copyOnes_ofFate, List.nil_append]
  cases asked : session.copyDispatch? message with
  | none => rfl
  | some dispatch => simp [copyOnes, operation_of_copyDispatch? asked]

/-- A live operation hands on nothing for a copy. -/
theorem copyOnes_replicate (session : Session host) (message : ReplicationMessage) :
    copyOnes (session.dispatchesOf (.replicate message)) = [] := by
  rw [dispatchesOf, List.append_nil, copyOnes_ofFate]

/-- Every request of a live operation is of one that its item releases. -/
theorem Accepted.mem_released {item : StreamItem} {admission : Admission} {next : Session host}
    (accepted : session.Accepted item admission next) {dispatch : Dispatch host}
    (member : dispatch ∈ session.dispatchesOf item) {message : ReplicationMessage}
    (live : dispatch.operation = some message) : message ∈ session.released item := by
  rw [← accepted.fst_fatesOf]
  unfold dispatchesOf at member
  rcases List.mem_append.mp member with handed | asked
  · obtain ⟨known, listed, same⟩ := operation_of_mem handed
    rw [live] at same
    cases same
    exact listed
  · cases item with
    | replicate other => cases asked
    | sync other =>
      have none := operation_of_copyDispatch? (Option.mem_toList.mp asked)
      rw [live] at none
      cases none

/-- What an item that is taken asks for a copy is asked of the open entity, unless the item begins
another one. -/
theorem Accepted.copyOnes_eq {message : SyncMessage} {admission : Admission} {next : Session host}
    (accepted : session.Accepted (.sync message) admission next)
    (same : message.startsEntity = false) {handle : host.Handle}
    (handles : ∀ current, session.openEntity = some current → current.handle = handle) :
    (∀ dispatch ∈ copyOnes (session.dispatchesOf (.sync message)), dispatch.content.1 = handle) ∧
      (copyOnes (session.dispatchesOf (.sync message))).map Dispatch.step =
        message.step?.toList := by
  rw [copyOnes_sync]
  cases asks : message.step? with
  | none => simp [copyDispatch?, asks]
  | some step =>
    obtain ⟨current, isOpen, known⟩ := accepted.copyHandle (by rw [asks]; rfl) same
    simp [copyDispatch?, asks, known, handles current isOpen, Dispatch.step, copyRequest]

/-- An item of a copy that is taken comes first among those of a run. -/
theorem copied_of_sync {message : SyncMessage}
    (taken : session.taken? (.item (.sync message)) = some (.sync message))
    (rest : List (SessionMove host)) : session.copied (.item (.sync message) :: rest) =
      message :: (session.move (.item (.sync message))).copied rest := collect_of_taken taken rest

/-- A live operation is no item of a copy. -/
theorem copied_of_live {message : ReplicationMessage}
    (taken : session.taken? (.item (.replicate message)) = some (.replicate message))
    (rest : List (SessionMove host)) : session.copied (.item (.replicate message) :: rest) =
      (session.move (.item (.replicate message))).copied rest := collect_of_taken taken rest

/-- What an item that is taken hands on comes first. -/
theorem dispatches_of_taken {item : StreamItem} (taken : session.taken? (.item item) = some item)
    (rest : List (SessionMove host)) : session.dispatches (.item item :: rest) =
      session.dispatchesOf item ++ (session.move (.item item)).dispatches rest :=
  collect_of_taken taken rest

/-- As long as no other entity begins, what is asked for a copy continues the bracket of the open
entity, on this entity, one request an item. -/
theorem bracket_run (coherent : session.Coherent) {handle : host.Handle}
    {steps : List (EntityAction × ConcurrencyKey)} (bracket : session.nesting.Bracket steps)
    (handles : ∀ current, session.openEntity = some current → current.handle = handle)
    {moves : List (SessionMove host)}
    (same : ∀ message ∈ session.copied moves, message.startsEntity = false) :
    (∀ dispatch ∈ copyOnes (session.dispatches moves), dispatch.content.1 = handle) ∧
      (copyOnes (session.dispatches moves)).map Dispatch.step =
        (session.copied moves).filterMap SyncMessage.step? ∧
      ∃ place : Nesting,
        place.Bracket (steps ++ (copyOnes (session.dispatches moves)).map Dispatch.step) := by
  induction moves generalizing session steps with
  | nil =>
    exact ⟨fun _ member => absurd member List.not_mem_nil, rfl, _,
      (List.append_nil steps).symm ▸ bracket⟩
  | cons next rest ih =>
    have later := coherent.move next
    cases taken : session.taken? next with
    | none =>
      have copies : session.copied (next :: rest) = (session.move next).copied rest :=
        collect_of_idle taken rest
      have requests : session.dispatches (next :: rest) = (session.move next).dispatches rest :=
        collect_of_idle taken rest
      rw [copies] at same ⊢
      rw [requests]
      by_cases still : (session.move next).IsRunning
      · obtain ⟨place, entity, -⟩ := place_of_idle coherent taken still
        rw [← place] at bracket
        rw [← entity] at handles
        exact ih later bracket handles same
      · -- A session that is over hands nothing on.
        have none : (session.move next).dispatches rest = [] := collect_of_stopped later still rest
        have nothing : (session.move next).copied rest = [] := collect_of_stopped later still rest
        rw [none, nothing]
        exact ⟨fun _ member => absurd member List.not_mem_nil, rfl, _,
          (List.append_nil steps).symm ▸ bracket⟩
    | some item =>
      obtain ⟨rfl, admission, answered⟩ := eq_of_taken? taken
      obtain ⟨running, accepted⟩ := accepted_of_ok coherent answered
      rw [dispatches_of_taken taken, copyOnes_append]
      cases item with
      | replicate message =>
        have place : (session.move (.item (.replicate message))).nesting = session.nesting :=
          accepted.nesting_eq
        rw [← place] at bracket
        rw [← accepted.openEntity_of_live] at handles
        rw [copied_of_live taken] at same ⊢
        rw [copyOnes_replicate, List.nil_append]
        exact ih later bracket handles same
      | sync message =>
        rw [copied_of_sync taken] at same ⊢
        have goesOn := same message List.mem_cons_self
        have moved := accepted.next?_nesting coherent
        obtain ⟨onHandle, asked⟩ := accepted.copyOnes_eq goesOn handles
        have kept (current : OpenEntity host)
            (isOpen : (session.move (.item (.sync message))).openEntity = some current) :
            current.handle = handle := by
          obtain ⟨before, known, kept⟩ := accepted.handle_of_sync goesOn isOpen
          rw [kept, handles before known]
        obtain ⟨restHandle, restAsked, place, restBracket⟩ :=
          ih later (bracket.continues moved goesOn) kept
            fun other member => same other (List.mem_cons_of_mem _ member)
        rw [List.map_append, asked, restAsked, ← List.append_assoc]
        rw [restAsked] at restBracket
        refine ⟨fun dispatch member => ?_, ?_, place, restBracket⟩
        · rcases List.mem_append.mp member with early | late
          · exact onHandle dispatch early
          · exact restHandle dispatch late
        · cases asks : message.step? <;> simp [asks]

/-- No operation arrives in a move in which no item is taken. -/
theorem arrival_of_idle {next : SessionMove host} (idle : session.taken? next = none) :
    session.arrival next = [] := by
  cases next with
  | item item =>
    cases answer : (session.handle item).1 with
    | ok admission =>
      rw [taken?_of_ok answer] at idle
      cases idle
    | error fault => exact arrival_of_error answer
  | _ => rfl

/-- While a key is being copied, what an item releases is of other slots, unless it ends the key. -/
theorem slot_of_released (within : session.openSlot = some slot) {item : StreamItem}
    (goesOn : item.endsKey = false) {message : ReplicationMessage}
    (member : message ∈ session.released item) : message.slot ≠ slot := by
  cases item with
  | replicate other =>
    by_cases here : session.openSlot = some other.slot
    · simp [released, here] at member
    · simp only [released, if_neg here, List.mem_singleton] at member
      rw [member]
      exact fun same => here (same ▸ within)
  | sync other =>
    cases other with
    | endKey entity version key => cases goesOn
    | _ => cases member

/-- While a key is being copied, an item that does not end it lets its operations be held back in
the order of their arrival. -/
theorem Accepted.held_within {item : StreamItem} {admission : Admission} {next : Session host}
    (accepted : session.Accepted item admission next) (coherent : session.Coherent)
    (within : session.openSlot = some slot) (goesOn : item.endsKey = false) :
    next.deferred.held slot = session.deferred.held slot ++ inSlot slot item.live := by
  rw [accepted.held_eq coherent]
  cases item with
  | replicate message =>
    simp only [retained, within, Option.some.injEq, StreamItem.live, inSlot_singleton]
    by_cases same : message.slot = slot <;> simp [same]
  | sync message =>
    cases message with
    | endKey entity version key => cases goesOn
    | _ => exact (List.append_nil _).symm

/-- As long as the copy of a key goes on, none of its operations is handed to an entity, and those
that arrive are held back. -/
theorem withheld_slot (coherent : session.Coherent) (within : session.openSlot = some slot)
    {moves : List (SessionMove host)}
    (goesOn : ∀ message ∈ session.copied moves, (StreamItem.sync message).endsKey = false) :
    (∀ dispatch ∈ session.dispatches moves, ∀ message,
      dispatch.operation = some message → message.slot ≠ slot) ∧
      ((session.run moves).IsRunning → (session.run moves).openSlot = some slot ∧
        (session.run moves).deferred.held slot =
          session.deferred.held slot ++ inSlot slot (session.arrivals moves)) := by
  induction moves generalizing session with
  | nil =>
    exact ⟨fun _ member => absurd member List.not_mem_nil,
      fun _ => ⟨within, (List.append_nil _).symm⟩⟩
  | cons next rest ih =>
    have later := coherent.move next
    rw [run_cons, arrivals, inSlot_append]
    cases taken : session.taken? next with
    | none =>
      have copies : session.copied (next :: rest) = (session.move next).copied rest :=
        collect_of_idle taken rest
      have requests : session.dispatches (next :: rest) = (session.move next).dispatches rest :=
        collect_of_idle taken rest
      rw [copies] at goesOn
      rw [requests, arrival_of_idle taken]
      by_cases still : (session.move next).IsRunning
      · obtain ⟨place, -, same⟩ := place_of_idle coherent taken still
        have stays : (session.move next).openSlot = some slot := by
          rw [openSlot, place]
          exact within
        have rested := ih later stays goesOn
        rw [same] at rested
        exact rested
      · -- A session that is over hands nothing on and never runs again.
        have none : (session.move next).dispatches rest = [] := collect_of_stopped later still rest
        rw [none]
        exact ⟨fun _ member => absurd member List.not_mem_nil,
          fun running => absurd (isRunning_of_run later running) still⟩
    | some item =>
      obtain ⟨rfl, admission, answered⟩ := eq_of_taken? taken
      obtain ⟨running, accepted⟩ := accepted_of_ok coherent answered
      have more : session.copied (.item item :: rest) =
          item.copying ++ (session.move (.item item)).copied rest := collect_of_taken taken rest
      rw [more] at goesOn
      have unended : item.endsKey = false := by
        cases item with
        | replicate message => rfl
        | sync message => exact goesOn message (List.mem_append_left _ List.mem_cons_self)
      have stays := (accepted.withholds coherent within unended).1
      have held := accepted.held_within coherent within unended
      obtain ⟨others, whole⟩ := ih later stays
        fun message member => goesOn message (List.mem_append_right _ member)
      rw [dispatches_of_taken taken, arrival_of_ok answered]
      refine ⟨fun dispatch member message live => ?_, fun still => ?_⟩
      · rcases List.mem_append.mp member with early | late
        · exact slot_of_released within unended (accepted.mem_released early live)
        · exact others dispatch late message live
      · obtain ⟨open_, all⟩ := whole still
        exact ⟨open_, by rw [all, held, List.append_assoc]⟩

/-- A move that hands a single item on hands on what this item does. -/
theorem dispatches_singleton {item : StreamItem} {admission : Admission}
    (taken : (session.handle item).1 = .ok admission) :
    session.dispatches [.item item] = session.dispatchesOf item :=
  (dispatches_of_taken (taken?_of_ok taken) []).trans (List.append_nil _)

/-- The beginning of the copy of an entity is handed to the entity that is found or made. -/
theorem Accepted.startEntity_eq {entity : EntityId} {version : UInt64} {config : ByteArray}
    {isNew : Bool} {admission : Admission} {next : Session host} (accepted : session.Accepted
      (.sync (.startEntity entity version config isNew)) admission next) :
    ∃ handle made, (session.around.findOrCreate entity version config).1 = .ok (handle, made) ∧
      session.copyHandle? (.startEntity entity version config isNew) = some handle ∧
      (∀ current, next.openEntity = some current → current.handle = handle) ∧
      next.nesting = .entity entity version .empty := by
  cases accepted with
  | @startEntity _ _ _ _ handle made around syncing closed found =>
    refine ⟨handle, made, congrArg Prod.fst found, ?_, fun current isOpen => ?_, rfl⟩
    · simp only [copyHandle?, found]
    · cases isOpen
      rfl

/-- When the copy of a key has begun, it is being copied, and nothing is held back for it. -/
theorem Accepted.startKey_eq (coherent : session.Coherent) {entity : EntityId} {version : UInt64}
    {key : ConcurrencyKey} {admission : Admission} {next : Session host}
    (accepted : session.Accepted (.sync (.startKey entity version key)) admission next) :
    next.openSlot = some ⟨entity, key⟩ ∧ next.deferred.held ⟨entity, key⟩ = [] := by
  refine ⟨Nesting.slot?_of_next? (accepted.next?_nesting coherent), ?_⟩
  rw [accepted.held_eq coherent]
  cases accepted with
  | startKey syncing isOpen between fresh =>
    exact coherent.held_of_closed (by rw [openSlot_of_some isOpen, between]; rfl) _

/-- The end of the copy of a key hands on what was held back for it, and then the end of the key. -/
theorem Accepted.endKey_eq {entity : EntityId} {version : UInt64} {key : ConcurrencyKey}
    {admission : Admission} {next : Session host}
    (accepted : session.Accepted (.sync (.endKey entity version key)) admission next) :
    (session.fatesOf (.sync (.endKey entity version key))).map Prod.fst =
      session.deferred.held ⟨entity, key⟩ ∧
    ∃ handle, session.dispatchesOf (.sync (.endKey entity version key)) =
      (session.fatesOf (.sync (.endKey entity version key))).filterMap Dispatch.ofFate? ++
        [⟨none, handle, session.copyRequest .syncKeyEnd key, .none⟩] := by
  obtain ⟨current, -, known⟩ := accepted.copyHandle rfl rfl
  exact ⟨accepted.fst_fatesOf, current.handle, dispatchesOf_sync rfl known⟩

/-- From the beginning of the copy of an entity on, what is asked for copies is the beginning of a
bracket on this entity. -/
theorem bracket_from_start (coherent : session.Coherent) {entity : EntityId} {version : UInt64}
    {config : ByteArray} {isNew : Bool} {admission : Admission} {within : List (SessionMove host)}
    (answered :
      (session.handle (.sync (.startEntity entity version config isNew))).1 = .ok admission)
    (same : ∀ message ∈ (session.move
      (.item (.sync (.startEntity entity version config isNew)))).copied within,
        message.startsEntity = false) :
    let moves := .item (.sync (.startEntity entity version config isNew)) :: within
    (∃ handle made, (session.around.findOrCreate entity version config).1 = .ok (handle, made) ∧
      ∀ dispatch ∈ copyOnes (session.dispatches moves), dispatch.content.1 = handle) ∧
    (copyOnes (session.dispatches moves)).map Dispatch.step =
      (session.copied moves).filterMap SyncMessage.step? ∧
    ∃ keys, (copyOnes (session.dispatches moves)).map Dispatch.step <+: entitySteps keys := by
  intro moves
  obtain ⟨-, accepted⟩ := accepted_of_ok coherent answered
  obtain ⟨handle, made, found, known, handles, place⟩ := accepted.startEntity_eq
  have taken := taken?_of_ok answered
  have bracket : (session.move (.item (.sync (.startEntity entity version config isNew)))).nesting
      |>.Bracket [(.syncEntityStart, .management)] := by
    rw [place]
    exact .between entity version .empty []
  obtain ⟨onHandle, asked, last, whole⟩ := bracket_run (coherent.move _) bracket handles same
  let first : Dispatch host :=
    ⟨none, handle, session.copyRequest .syncEntityStart .management, .none⟩
  have begins : copyOnes (session.dispatchesOf
      (.sync (.startEntity entity version config isNew))) = [first] := by
    rw [copyOnes_sync]
    simp [copyDispatch?, SyncMessage.step?, known, copyBody, first]
  rw [dispatches_of_taken taken, copyOnes_append, begins, copied_of_sync taken,
    List.singleton_append, List.map_cons, asked]
  rw [asked] at whole
  refine ⟨⟨handle, made, found, fun dispatch member => ?_⟩, rfl, whole.begins⟩
  rcases List.mem_cons.mp member with rfl | later
  · rfl
  · exact onHandle dispatch later

/-- The copy of a key comes before its operations. -/
structure BaselineFirst (initial : Session host) : Prop where
  /-- Entities get the requests that the session hands on, in this order. -/
  delivered : ∀ moves, (Event.deliveries (initial.run moves).around.trace.toList).map
    Delivery.content = (initial.dispatches moves).map (·.content)
  /-- From the beginning of the copy of an entity on, and until that of another one, the requests of
  the copy come one with each item, in the order of the items and of the brackets, all on the entity
  as it was found or made at first. -/
  bracketed : ∀ before within entity version config isNew admission,
    let session := initial.run before
    let opening : SessionMove host := .item (.sync (.startEntity entity version config isNew))
    let copies := copyOnes (session.dispatches (opening :: within))
    (session.handle (.sync (.startEntity entity version config isNew))).1 = .ok admission →
    (∀ message ∈ (session.move opening).copied within, message.startsEntity = false) →
    (∃ handle made, (session.around.findOrCreate entity version config).1 = .ok (handle, made) ∧
      ∀ dispatch ∈ copies, dispatch.content.1 = handle) ∧
    copies.map Dispatch.step =
      (session.copied (opening :: within)).filterMap SyncMessage.step? ∧
    ∃ keys, copies.map Dispatch.step <+: entitySteps keys
  /-- From the beginning of the copy of a key on, and until its end is taken, no operation of the
  key reaches an entity. -/
  withheld : ∀ before within entity version key admission,
    let session := initial.run before
    let opening : SessionMove host := .item (.sync (.startKey entity version key))
    (session.handle (.sync (.startKey entity version key))).1 = .ok admission →
    (∀ message ∈ (session.move opening).copied within,
      (StreamItem.sync message).endsKey = false) →
    ∀ dispatch ∈ session.dispatches (opening :: within), ∀ message,
      dispatch.operation = some message → message.slot ≠ ⟨entity, key⟩
  /-- With the end of the copy of a key the operations that came for it since its beginning reach
  their entities in the order of their arrival, those that are handed to them at all, and then the
  end of the key does. -/
  released : ∀ before within entity version key admission answer,
    let session := initial.run before
    let opening : SessionMove host := .item (.sync (.startKey entity version key))
    let later := (session.move opening).run within
    let closing : SessionMove host := .item (.sync (.endKey entity version key))
    (session.handle (.sync (.startKey entity version key))).1 = .ok admission →
    (∀ message ∈ (session.move opening).copied within,
      (StreamItem.sync message).endsKey = false) →
    (later.handle (.sync (.endKey entity version key))).1 = .ok answer →
    (later.fates [closing]).map Prod.fst =
      inSlot ⟨entity, key⟩ ((session.move opening).arrivals within) ∧
    ∃ handle, later.dispatches [closing] =
      (later.fates [closing]).filterMap Dispatch.ofFate? ++
        [⟨none, handle, later.copyRequest .syncKeyEnd key, .none⟩]
  /-- An operation reaches its entity as it comes or with the end of the copy of its own key. -/
  placed : ∀ before next message, ∀ dispatch ∈ (initial.run before).dispatches [next],
    dispatch.operation = some message → next = .item (.replicate message) ∨
      ∃ version, next = .item (.sync (.endKey message.entity.id version message.key))
  /-- An operation whose key is not being copied is handed to its entity as it comes, if it is at
  all. -/
  direct : ∀ before message admission,
    let session := initial.run before
    (session.handle (.replicate message)).1 = .ok admission →
    session.openSlot ≠ some message.slot →
    session.dispatches [.item (.replicate message)] =
      (Dispatch.ofFate? (message, session.fate message)).toList

/-- In a session that hands requests to entities at once, the copy of a key comes before its
operations. -/
theorem baseline_first (source : ServerId) (limits : Limits) (world : host.World) :
    (start source limits .inline world).BaselineFirst := by
  have coherent (before : List (SessionMove host)) :
      ((start source limits .inline world).run before).Coherent :=
    (coherent_start source limits .inline world).run before
  have keeps (before : List (SessionMove host)) :=
    (keeps_start source limits .inline world).run before
  constructor
  case delivered =>
    intro moves
    exact contents_run (coherent_start source limits .inline world) rfl moves
  case bracketed =>
    intro before within entity version config isNew admission session opening copies answered same
    exact bracket_from_start (coherent before) answered same
  case withheld =>
    intro before within entity version key admission session opening answered goesOn
    obtain ⟨-, accepted⟩ := accepted_of_ok (coherent before) answered
    obtain ⟨within, -⟩ := accepted.startKey_eq (coherent before)
    rw [dispatches_of_taken (taken?_of_ok answered)]
    intro dispatch member message live
    rcases List.mem_append.mp member with early | late
    · -- The beginning of a key releases nothing.
      exact absurd (accepted.mem_released early live) List.not_mem_nil
    · exact (withheld_slot ((coherent before).move opening) within goesOn).1
        dispatch late message live
  case released =>
    intro before within entity version key admission answer session opening later closing answered
      goesOn ended
    obtain ⟨-, accepted⟩ := accepted_of_ok (coherent before) answered
    obtain ⟨isOpen, empty⟩ := accepted.startKey_eq (coherent before)
    have reached : later.Coherent := ((coherent before).move opening).run within
    obtain ⟨running, closed⟩ := accepted_of_ok reached ended
    have held := ((withheld_slot ((coherent before).move opening) isOpen goesOn).2 running).2
    rw [empty, List.nil_append] at held
    have fates : later.fates [closing] = later.fatesOf (.sync (.endKey entity version key)) :=
      (collect_of_taken (taken?_of_ok ended) []).trans (List.append_nil _)
    rw [fates, dispatches_singleton ended, ← held]
    exact closed.endKey_eq
  case placed =>
    intro before next message dispatch member live
    cases taken : ((start source limits .inline world).run before).taken? next with
    | none =>
      rw [dispatches, collect_of_idle taken] at member
      exact absurd member List.not_mem_nil
    | some item =>
      obtain ⟨rfl, admission, answered⟩ := eq_of_taken? taken
      obtain ⟨-, accepted⟩ := accepted_of_ok (coherent before) answered
      rw [dispatches_singleton answered] at member
      have released := accepted.mem_released member live
      cases item with
      | replicate other =>
        by_cases here :
            ((start source limits .inline world).run before).openSlot = some other.slot
        · simp [Session.released, here] at released
        · simp only [Session.released, if_neg here, List.mem_singleton] at released
          exact .inl (released ▸ rfl)
      | sync other =>
        cases other with
        | endKey entity version key =>
          have slot : message.slot = ⟨entity, key⟩ := (keeps before).slot_of_held released
          cases slot
          exact .inr ⟨version, rfl⟩
        | _ => exact absurd released List.not_mem_nil
  case direct =>
    intro before message admission session answered elsewhere
    rw [dispatches_singleton answered, dispatchesOf, fatesOf, if_neg elsewhere, List.append_nil,
      List.filterMap_cons]
    cases Dispatch.ofFate? (message, session.fate message) <;> rfl

end Session
end Standby
