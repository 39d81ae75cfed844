import Mathlib.Data.List.Induction
import Standby.Proofs.Replication.Grammar
import Standby.Proofs.Replication.Run

/-!
# Which streams a session takes

A session takes every item of a stream exactly when the items of copies follow the grammar and
nothing stands in the way of an item: pieces of copies fit and are read, entities are found or
made, the work at the end of copies succeeds and what is held back stays within its bounds.
The first item of which this is not so is refused with the fault that names the reason.
-/
namespace Standby

variable {host : Host}

/-- The items of copies among some moves. -/
def copyItems (moves : List (SessionMove host)) : List SyncMessage :=
  moves.filterMap fun
    | .item (.sync message) => some message
    | _ => none

/-- The key that is being copied and the live operations that came for it since its copy began,
after one more move. -/
def watch (window : Option (Slot × List ReplicationMessage)) :
    SessionMove host → Option (Slot × List ReplicationMessage)
  | .item (.sync (.startKey entity _ key)) => some (⟨entity, key⟩, [])
  | .item (.sync (.endKey ..)) => none
  | .item (.replicate message) => window.map fun (slot, came) =>
    (slot, if message.slot = slot then came ++ [message] else came)
  | _ => window

/-- The key that is being copied after some moves and the live operations that came for it since
its copy began. -/
def window (moves : List (SessionMove host)) : Option (Slot × List ReplicationMessage) :=
  moves.foldl watch none

/-- The bound that an operation passes when it is held back behind others. -/
def overflow? (limits : Limits) (came : List ReplicationMessage) (message : ReplicationMessage) :
    Option ReplicationFault :=
  if limits.deferredEvents.toNat ≤ came.length then
    some (.deferralOverflow message.entity.id message.key .events limits.deferredEvents)
  else if limits.deferredBytes.toNat < payloadBytes came + message.payload.size then
    some (.deferralOverflow message.entity.id message.key .bytes limits.deferredBytes)
  else none

/-- What stands in the way of an item at its place: a piece of a copy that is too large or not
read, an entity that cannot be made, work that fails at the end of a copy, or a bound. -/
def obstacle? (limits : Limits) (around : Surroundings host)
    (open? : Option (Slot × List ReplicationMessage)) : StreamItem → Option ReplicationFault
  | .sync (.startEntity entity version config _) =>
    match (around.findOrCreate entity version config).1 with
    | .ok _ => none
    | .error fault => some (.entityCreate fault)
  | .sync (.payload entity _ key bytes) =>
    if limits.syncPayloadBytes.toNat < bytes.size then
      some (.payloadTooLarge entity key bytes.size limits.syncPayloadBytes)
    else
      match host.decodeChunk around.world entity key bytes with
      | .ok _ => none
      | .error fault => some (.syncDecode entity key fault)
  | .sync (.endSync bytes) =>
    match (around.finishSync bytes).1 with
    | .ok _ => none
    | .error fault => some (.syncComplete fault)
  | .sync _ => none
  | .replicate message =>
    open?.bind fun (slot, came) =>
      if message.slot = slot then overflow? limits came message else none

/-- A statement about every item of a stream and the moves before it. -/
def Everywhere (moves : List (SessionMove host))
    (statement : List (SessionMove host) → StreamItem → Prop) : Prop :=
  ∀ before item after, moves = before ++ .item item :: after → statement before item

/-- A statement about every item of a longer stream is one about the shorter stream and the last
item. -/
theorem everywhere_concat {moves : List (SessionMove host)} {next : SessionMove host}
    {statement : List (SessionMove host) → StreamItem → Prop} :
    Everywhere (moves ++ [next]) statement ↔
      Everywhere moves statement ∧ ∀ item, next = .item item → statement moves item := by
  constructor
  · intro everywhere
    refine ⟨fun before item after split => ?_, fun item last => ?_⟩
    · exact everywhere before item (after ++ [next]) (by rw [split]; simp)
    · exact everywhere moves item [] (by rw [last])
  · intro ⟨everywhere, last⟩ before item after split
    cases after using List.reverseRecOn with
    | nil =>
      obtain ⟨rfl, same⟩ := List.append_inj' split rfl
      exact last item (List.cons.inj same).1
    | append_singleton rest final =>
      rw [← List.cons_append, ← List.append_assoc] at split
      exact everywhere before item rest (List.append_inj' split rfl).1

/-- The items of copies among some moves and one more. -/
theorem copyItems_concat_sync (moves : List (SessionMove host)) (message : SyncMessage) :
    copyItems (moves ++ [.item (.sync message)]) = copyItems moves ++ [message] := by
  simp [copyItems]

/-- Only items of copies are items of copies. -/
theorem copyItems_concat_of_other {moves : List (SessionMove host)} {next : SessionMove host}
    (other : ∀ message, next ≠ .item (.sync message)) :
    copyItems (moves ++ [next]) = copyItems moves := by
  rw [copyItems, List.filterMap_append]
  cases next with
  | item item =>
    cases item with
    | sync message => exact absurd rfl (other message)
    | replicate message => simp [copyItems]
  | _ => simp [copyItems]

/-- The window after one more move. -/
theorem window_concat (moves : List (SessionMove host)) (next : SessionMove host) :
    window (moves ++ [next]) = watch (window moves) next := by
  rw [window, List.foldl_append]
  rfl

namespace Session

variable {session : Session host}

/-- Every item of a stream is answered without a fault. -/
def TakesAll (session : Session host) (moves : List (SessionMove host)) : Prop :=
  Everywhere moves fun before item =>
    ∃ admission, ((session.run before).handle item).1 = .ok admission

/-- A stream follows the grammar of copies and nothing stands in the way of any of its items. -/
def Conforms (session : Session host) (moves : List (SessionMove host)) : Prop :=
  InGrammar (copyItems moves) ∧ Everywhere moves fun before item =>
    obstacle? session.limits (session.run before).around (window before) item = none

/-- A running session is at the place to which the items of a stream lead. -/
structure Follows (session : Session host) (limits : Limits) (moves : List (SessionMove host)) :
    Prop where
  /-- The session is coherent. -/
  coherent : session.Coherent
  /-- The session runs. -/
  running : session.IsRunning
  /-- The items of copies lead to its place. -/
  place : Nesting.idle.run? (copyItems moves) = some session.nesting
  /-- The open slot is the one that is watched. -/
  slot : session.openSlot = (window moves).map (·.1)
  /-- What came for it is held back. -/
  held : ∀ slot came, window moves = some (slot, came) → session.deferred.held slot = came
  /-- The limits are as they were. -/
  bounded : session.limits = limits
  /-- The bound of the number of operations held back is that of the limits. -/
  events : session.deferred.maxEvents = limits.deferredEvents
  /-- The bound of the bytes held back is that of the limits. -/
  bytes : session.deferred.maxBytes = limits.deferredBytes

/-- A new session follows the stream that has not begun. -/
theorem follows_start (source : ServerId) (limits : Limits) (execution : Execution)
    (world : host.World) : (start source limits execution world).Follows limits [] where
  coherent := coherent_start source limits execution world
  running := .inl rfl
  place := rfl
  slot := rfl
  held _ _ watched := by cases watched
  bounded := rfl
  events := rfl
  bytes := rfl

variable {limits : Limits} {moves : List (SessionMove host)} {item : StreamItem}

/-- An item of a copy keeps to the grammar exactly when it may come at the place of the session. -/
theorem Follows.inGrammar_iff (follows : session.Follows limits moves) (message : SyncMessage) :
    InGrammar (copyItems (moves ++ [.item (.sync message)])) ↔
      ∃ next, session.nesting.next? message = some next := by
  rw [Nesting.inGrammar_iff, copyItems_concat_sync, Nesting.run?_append, follows.place]
  simp [Nesting.run?]

/-- The stream that a session follows keeps to the grammar. -/
theorem Follows.inGrammar (follows : session.Follows limits moves) :
    InGrammar (copyItems moves) := Nesting.inGrammar_iff.mpr ⟨_, follows.place⟩

/-- A live operation never breaks the grammar. -/
theorem Follows.inGrammar_replicate (follows : session.Follows limits moves)
    (message : ReplicationMessage) :
    InGrammar (copyItems (moves ++ [.item (.replicate message)])) := by
  rw [copyItems_concat_of_other (by simp)]
  exact follows.inGrammar

/-- What is watched is the slot that is being copied, with what is held back for it. -/
theorem Follows.window_eq (follows : session.Follows limits moves) {slot : Slot}
    (isOpen : session.openSlot = some slot) :
    window moves = some (slot, session.deferred.held slot) := by
  have watched := follows.slot
  rw [isOpen, eq_comm, Option.map_eq_some_iff] at watched
  obtain ⟨⟨_, came⟩, watched, rfl⟩ := watched
  rw [watched, follows.held _ _ watched]

/-- Nothing stands in the way of an operation of a slot that is not being copied. -/
theorem Follows.obstacle?_of_elsewhere (follows : session.Follows limits moves)
    {message : ReplicationMessage} (elsewhere : session.openSlot ≠ some message.slot)
    (around : Surroundings host) :
    obstacle? limits around (window moves) (.replicate message) = none := by
  rw [follows.slot] at elsewhere
  rcases watched : window moves with _ | ⟨slot, came⟩
  · rfl
  · have differs : message.slot ≠ slot := by
      rintro rfl
      exact elsewhere (by rw [watched]; rfl)
    simp [obstacle?, differs]

/-- What stands in the way of an operation of the slot that is being copied is a bound. -/
theorem Follows.obstacle?_of_open (follows : session.Follows limits moves)
    {message : ReplicationMessage} (isOpen : session.openSlot = some message.slot)
    (around : Surroundings host) :
    obstacle? limits around (window moves) (.replicate message) =
      overflow? limits (session.deferred.held message.slot) message := by
  simp [obstacle?, follows.window_eq isOpen]

/-- Nothing stands in the way of an item that is taken. -/
theorem Accepted.obstacle?_eq_none (follows : session.Follows limits moves)
    {admission : Admission} {next : Session host}
    (accepted : session.Accepted item admission next) :
    obstacle? limits session.around (window moves) item = none := by
  cases accepted with
  | startSync idle => rfl
  | startEntity syncing closed found => simp [obstacle?, found]
  | startKey syncing isOpen between fresh => rfl
  | payload syncing isOpen within fits read =>
    rw [follows.bounded] at fits
    simp [obstacle?, Nat.not_lt.mpr fits, read]
  | endKey syncing isOpen within => rfl
  | endEntity syncing isOpen between => rfl
  | endSync syncing closed finished => simp [obstacle?, finished]
  | deferred isOpen room =>
    obtain ⟨events, bytes⟩ := room
    rw [follows.events] at events
    rw [follows.bytes] at bytes
    rw [follows.obstacle?_of_open isOpen, overflow?, if_neg (Nat.not_le.mpr events),
      if_neg (Nat.not_lt.mpr bytes)]
  | processed elsewhere => exact follows.obstacle?_of_elsewhere elsewhere _

/-- An item that is taken keeps to the grammar. -/
theorem Accepted.inGrammar (follows : session.Follows limits moves)
    {admission : Admission} {next : Session host}
    (accepted : session.Accepted item admission next) :
    InGrammar (copyItems (moves ++ [.item item])) := by
  cases item with
  | replicate message => exact follows.inGrammar_replicate message
  | sync message =>
    exact (follows.inGrammar_iff message).mpr ⟨_, accepted.next?_nesting follows.coherent⟩

/-- An item that is refused breaks the grammar, or the fault names what stands in its way. -/
theorem Refused.cause (follows : session.Follows limits moves) {fault : ReplicationFault}
    {around : Surroundings host} (refused : session.Refused item fault around) :
    (¬ InGrammar (copyItems (moves ++ [.item item])) ∧
        ∃ received reason, fault = .protocol received reason) ∨
      (InGrammar (copyItems (moves ++ [.item item])) ∧
        obstacle? limits session.around (window moves) item = some fault) := by
  cases refused with
  | @misplaced message reason broken =>
    refine .inl ⟨?_, _, _, rfl⟩
    rw [follows.inGrammar_iff, broken]
    simp
  | unmade syncing closed found =>
    refine .inr ⟨?_, by simp [obstacle?, found]⟩
    rw [follows.inGrammar_iff, nesting_of_copy closed syncing]
    exact ⟨_, rfl⟩
  | oversized syncing isOpen within exceeds =>
    refine .inr ⟨?_, ?_⟩
    · rw [follows.inGrammar_iff, nesting_of_within isOpen within]
      exact ⟨_, Nesting.next?_payload _ _ _ _ _⟩
    · rw [follows.bounded] at exceeds ⊢
      simp [obstacle?, exceeds]
  | unread syncing isOpen within fits unread =>
    refine .inr ⟨?_, ?_⟩
    · rw [follows.inGrammar_iff, nesting_of_within isOpen within]
      exact ⟨_, Nesting.next?_payload _ _ _ _ _⟩
    · rw [follows.bounded] at fits
      simp [obstacle?, Nat.not_lt.mpr fits, unread]
  | unfinished syncing closed finished =>
    refine .inr ⟨?_, by simp [obstacle?, finished]⟩
    rw [follows.inGrammar_iff, nesting_of_copy closed syncing]
    exact ⟨_, rfl⟩
  | @overflow message isOpen full =>
    refine .inr ⟨follows.inGrammar_replicate message, ?_⟩
    rw [follows.obstacle?_of_open isOpen, overflow?, overflowOf, ← follows.events, ← follows.bytes]
    split
    · rfl
    · rename_i events
      have bytes : session.deferred.maxBytes.toNat <
          payloadBytes (session.deferred.held message.slot) + message.payload.size :=
        Nat.not_le.mp fun fits => full ⟨Nat.not_le.mp events, fits⟩
      rw [if_pos bytes]

/-- A session that takes an item follows the longer stream. -/
theorem Follows.accepted (follows : session.Follows limits moves) {admission : Admission}
    {next : Session host} (accepted : session.Accepted item admission next) :
    next.Follows limits (moves ++ [.item item]) := by
  obtain ⟨bounded, events, bytes⟩ := accepted.bounds
  have heldEq := accepted.held_eq follows.coherent
  have common := And.intro (accepted.coherent follows.coherent) (accepted.isRunning follows.running)
  cases item with
  | replicate message =>
    have stays : next.openSlot = session.openSlot := congrArg Nesting.slot? accepted.nesting_eq
    refine
      { coherent := common.1
        running := common.2
        place := by
          rw [copyItems_concat_of_other (by simp), accepted.nesting_eq]
          exact follows.place
        slot := ?_
        held := fun slot came watched => ?_
        bounded := bounded.trans follows.bounded
        events := events.trans follows.events
        bytes := bytes.trans follows.bytes }
    · rw [stays, follows.slot, window_concat]
      cases window moves <;> rfl
    · rw [window_concat] at watched
      obtain ⟨⟨_, before⟩, found, same⟩ := Option.map_eq_some_iff.mp watched
      cases same
      have isOpen : session.openSlot = some slot := by rw [follows.slot, found]; rfl
      rw [heldEq, retained, follows.held _ _ found, isOpen]
      by_cases same : message.slot = slot
      · simp [same]
      · simp [same]
  | sync message =>
    have moved := accepted.next?_nesting follows.coherent
    refine
      { coherent := common.1
        running := common.2
        place := by
          rw [copyItems_concat_sync, Nesting.run?_append, follows.place, Option.bind_some,
            Nesting.run?, moved]
          rfl
        slot := ?_
        held := fun slot came watched => ?_
        bounded := bounded.trans follows.bounded
        events := events.trans follows.events
        bytes := bytes.trans follows.bytes }
    · rw [openSlot, Nesting.slot?_of_next? moved, window_concat]
      cases message with
      | startKey => rfl
      | endKey => rfl
      | _ => exact follows.slot
    · rw [window_concat] at watched
      rw [heldEq]
      cases message with
      | startKey entity version key =>
        cases watched
        cases accepted with
        | startKey syncing isOpen between fresh =>
          have closed : session.openSlot = none := by rw [openSlot_of_some isOpen, between]; rfl
          exact follows.coherent.held_of_closed closed _
      | endKey => cases watched
      | _ => exact follows.held slot came watched

/-- A session follows the stream when something else than an item or a close happens. -/
theorem Follows.stir (follows : session.Follows limits moves) {next : SessionMove host}
    (other : ∀ item, next ≠ .item item) (isOpen : next ≠ .close) :
    (session.move next).Follows limits (moves ++ [next]) := by
  have same : copyItems (moves ++ [next]) = copyItems moves :=
    copyItems_concat_of_other fun message => other (.sync message)
  have watched : window (moves ++ [next]) = window moves := by
    rw [window_concat]
    cases next with
    | item item => exact absurd rfl (other item)
    | _ => rfl
  cases next with
  | item item => exact absurd rfl (other item)
  | close => exact absurd rfl isOpen
  | use action =>
    exact ⟨follows.coherent.move _, follows.running, same ▸ follows.place,
      watched ▸ follows.slot, watched ▸ follows.held, follows.bounded, follows.events,
      follows.bytes⟩
  | stir world =>
    exact ⟨follows.coherent.move _, follows.running, same ▸ follows.place,
      watched ▸ follows.slot, watched ▸ follows.held, follows.bounded, follows.events,
      follows.bytes⟩

/-- A session that follows a stream takes the next item exactly when the item keeps to the grammar
and nothing stands in its way. -/
theorem Follows.takes_iff (follows : session.Follows limits moves) (item : StreamItem) :
    (∃ admission, (session.handle item).1 = .ok admission) ↔
      InGrammar (copyItems (moves ++ [.item item])) ∧
        obstacle? limits session.around (window moves) item = none := by
  constructor
  · rintro ⟨admission, taken⟩
    obtain ⟨-, accepted⟩ := accepted_of_ok follows.coherent taken
    exact ⟨accepted.inGrammar follows, accepted.obstacle?_eq_none follows⟩
  · rintro ⟨grammar, free⟩
    have result := handled_of_running follows.coherent follows.running item
    generalize session.handle item = step at result ⊢
    cases result with
    | @accepted admission next running accepted => exact ⟨admission, rfl⟩
    | refused running refused =>
      rcases refused.cause follows with ⟨broken, -⟩ | ⟨-, obstacle⟩
      · exact absurd grammar broken
      · rw [free] at obstacle
        contradiction
    | ignored stopped known => exact absurd follows.running stopped

/-- A session that follows a stream refuses an item that breaks the grammar as such, and another
one with the fault that names what stands in its way. -/
theorem Follows.refuses (follows : session.Follows limits moves) {item : StreamItem}
    (refused : ¬ ∃ admission, (session.handle item).1 = .ok admission) :
    (¬ InGrammar (copyItems (moves ++ [.item item])) →
        ∃ received reason, (session.handle item).1 = .error (.protocol received reason)) ∧
      (InGrammar (copyItems (moves ++ [.item item])) →
        ∃ fault, obstacle? limits session.around (window moves) item = some fault ∧
          (session.handle item).1 = .error fault) := by
  have result := handled_of_running follows.coherent follows.running item
  generalize session.handle item = step at result refused ⊢
  cases result with
  | @accepted admission next running accepted => exact absurd ⟨admission, rfl⟩ refused
  | refused running isRefused =>
    rcases isRefused.cause follows with ⟨broken, received, reason, rfl⟩ | ⟨grammar, obstacle⟩
    · exact ⟨fun _ => ⟨received, reason, rfl⟩, fun grammar => absurd grammar broken⟩
    · exact ⟨fun broken => absurd grammar broken, fun _ => ⟨_, obstacle, rfl⟩⟩
  | ignored stopped known => exact absurd follows.running stopped

/-- The beginning of a stream in the grammar is in the grammar. -/
theorem inGrammar_of_append {first second : List SyncMessage}
    (grammar : InGrammar (first ++ second)) : InGrammar first := by
  obtain ⟨copies, whole⟩ := grammar
  exact ⟨copies, (List.prefix_append first second).trans whole⟩

/-- A session takes all of a longer stream when it takes all of the shorter one and the last
item. -/
theorem takesAll_concat {initial : Session host} {next : SessionMove host} :
    initial.TakesAll (moves ++ [next]) ↔ initial.TakesAll moves ∧ ∀ item, next = .item item →
      ∃ admission, ((initial.run moves).handle item).1 = .ok admission := everywhere_concat

/-- A longer stream conforms when the shorter one does, the items of copies keep to the grammar
and nothing stands in the way of the last item. -/
theorem conforms_concat {initial : Session host} {next : SessionMove host} :
    initial.Conforms (moves ++ [next]) ↔ initial.Conforms moves ∧
      InGrammar (copyItems (moves ++ [next])) ∧ ∀ item, next = .item item →
        obstacle? initial.limits (initial.run moves).around (window moves) item = none := by
  simp only [Conforms, everywhere_concat]
  constructor
  · rintro ⟨grammar, before, last⟩
    refine ⟨⟨?_, before⟩, grammar, last⟩
    rw [copyItems, List.filterMap_append] at grammar
    exact inGrammar_of_append grammar
  · rintro ⟨⟨-, before⟩, grammar, last⟩
    exact ⟨grammar, before, last⟩

/-- A session that takes all of a stream follows it. -/
theorem follows_run {initial : Session host} (start : initial.Follows limits [])
    (isOpen : .close ∉ moves) (all : initial.TakesAll moves) :
    (initial.run moves).Follows limits moves := by
  induction moves using List.reverseRecOn with
  | nil => exact start
  | append_singleton before next ih =>
    obtain ⟨early, last⟩ := takesAll_concat.mp all
    have follows := ih (fun member => isOpen (List.mem_append_left _ member)) early
    rw [run_append]
    change ((initial.run before).move next).Follows limits _
    cases next with
    | item item =>
      obtain ⟨admission, taken⟩ := last item rfl
      exact follows.accepted (accepted_of_ok follows.coherent taken).2
    | close => exact absurd (List.mem_append_right _ List.mem_cons_self) isOpen
    | use action => exact follows.stir (by simp) (by simp)
    | stir world => exact follows.stir (by simp) (by simp)

/-- A session that still runs after a stream took all of it. -/
theorem takesAll_of_isRunning {initial : Session host} (coherent : initial.Coherent)
    (running : (initial.run moves).IsRunning) : initial.TakesAll moves := by
  induction moves using List.reverseRecOn with
  | nil => exact fun before item after split => by simp at split
  | append_singleton before next ih =>
    rw [run_append] at running
    change ((initial.run before).move next).IsRunning at running
    have reached := coherent.run before
    refine takesAll_concat.mpr ⟨ih (isRunning_of_move reached running), ?_⟩
    rintro item rfl
    obtain ⟨admission, taken, -⟩ := accepted_of_isRunning reached running
    exact ⟨admission, taken⟩

/-- A new session takes all of a stream exactly when the stream conforms. -/
theorem takesAll_iff_conforms {initial : Session host} (start : initial.Follows limits [])
    (isOpen : .close ∉ moves) : initial.TakesAll moves ↔ initial.Conforms moves := by
  induction moves using List.reverseRecOn with
  | nil =>
    refine ⟨fun _ => ⟨start.inGrammar, ?_⟩, fun _ => ?_⟩
    · exact fun before item after split => by simp at split
    · exact fun before item after split => by simp at split
  | append_singleton before next ih =>
    -- The last item is judged by the session that took all items before it.
    have early := ih fun member => isOpen (List.mem_append_left _ member)
    rw [takesAll_concat, conforms_concat, early]
    refine and_congr_right fun conforms => ?_
    have follows := follows_run start (fun member => isOpen (List.mem_append_left _ member))
      (early.mpr conforms)
    rw [start.bounded]
    cases next with
    | item item => simpa using follows.takes_iff item
    | _ =>
      simp only [reduceCtorEq, false_implies, implies_true, and_true, true_iff]
      rw [copyItems_concat_of_other (by simp)]
      exact conforms.1

/-- A new session takes every item of a stream, in which live operations may come anywhere,
exactly when the items of copies are the beginning of whole copies and nothing stands in the way
of any item. Otherwise the first item of which this is not so is the first that is refused: as a
fault of the nesting if it breaks the grammar, and else with the fault that names what stands in
its way. -/
theorem takes_exactly_the_grammar (source : ServerId) (limits : Limits) (execution : Execution)
    (world : host.World) (moves : List (SessionMove host)) (isOpen : .close ∉ moves) :
    let initial := start source limits execution world
    (initial.TakesAll moves ↔ initial.Conforms moves) ∧
      ∀ before item after, moves = before ++ .item item :: after → initial.Conforms before →
        ¬ initial.Conforms (before ++ [.item item]) →
        initial.TakesAll before ∧
        (¬ InGrammar (copyItems (before ++ [.item item])) → ∃ received reason,
          ((initial.run before).handle item).1 = .error (.protocol received reason)) ∧
        (InGrammar (copyItems (before ++ [.item item])) → ∃ fault,
          obstacle? limits (initial.run before).around (window before) item = some fault ∧
          ((initial.run before).handle item).1 = .error fault) := by
  intro initial
  have begins : initial.Follows limits [] := follows_start source limits execution world
  refine ⟨takesAll_iff_conforms begins isOpen, fun before item after split conforms broken => ?_⟩
  have early : .close ∉ before := fun member =>
    isOpen (by rw [split]; exact List.mem_append_left _ member)
  have taken := (takesAll_iff_conforms begins early).mpr conforms
  have follows := follows_run begins early taken
  refine ⟨taken, follows.refuses fun answered => broken (conforms_concat.mpr ⟨conforms, ?_⟩)⟩
  obtain ⟨grammar, free⟩ := (follows.takes_iff item).mp answered
  refine ⟨grammar, fun other same => ?_⟩
  cases same
  exact free

/-- The copy of a key with a live operation within it conforms, as it is taken. -/
theorem sample_conforms :
    let stream := sampleOpening ⟨1⟩ ++ [.item (.replicate (sampleOperation 1 ⟨1⟩)),
      .item (.sync (.payload sampleEntity 1 ⟨1⟩ .empty)),
      .item (.sync (.endKey sampleEntity 1 ⟨1⟩))]
    .close ∉ stream ∧
      (start sampleServer .standard .inline () : Session .willing).Conforms stream := by
  intro stream
  have isOpen : .close ∉ stream := by simp [stream, sampleOpening]
  have running : ((start sampleServer .standard .inline () : Session .willing).run
      stream).IsRunning := .inr rfl
  have taken := takesAll_of_isRunning (coherent_start _ _ _ _) running
  exact ⟨isOpen,
    (takes_exactly_the_grammar sampleServer .standard .inline () stream isOpen).1.mp taken⟩

end Session
end Standby
