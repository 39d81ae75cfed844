import Standby.Proofs.Replication.Growth
import Standby.Proofs.Replication.Transition

/-!
# Runs of a session

A run is a sequence of moves: items of the stream, a close, and whatever the host does on its
own between them. The world of the host may change in any way at any time, so what is shown of
every run holds with every manager of entities. Every session that a run reaches is coherent.
-/
namespace Standby

variable {host : Host}

/-- Something that happens to a session. -/
inductive SessionMove (host : Host) where
  /-- An item of the stream comes. -/
  | item (item : StreamItem)
  /-- The session is closed. -/
  | close
  /-- An entity uses a completion that it held. -/
  | use (action : CompletionUse)
  /-- The world of the host changes on its own. -/
  | stir (world : host.World)

namespace Session

variable {session : Session host}

/-- The live operations that a session processed, in the order in which that happened. -/
def processed (session : Session host) : List ReplicationMessage := session.around.processed

/-- The session after a move. -/
def move (session : Session host) : SessionMove host → Session host
  | .item item => (session.handle item).2
  | .close => session.close.2
  | .use action => session.useCompletion action
  | .stir world => { session with around := { session.around with world } }

/-- The session after some moves. -/
def run (session : Session host) (moves : List (SessionMove host)) : Session host :=
  moves.foldl move session

/-- Some moves and then others are made one after the other. -/
theorem run_append (session : Session host) (first second : List (SessionMove host)) :
    session.run (first ++ second) = (session.run first).run second :=
  List.foldl_append

/-- A move and then others are made one after the other. -/
theorem run_cons (session : Session host) (next : SessionMove host)
    (rest : List (SessionMove host)) : session.run (next :: rest) = (session.move next).run rest :=
  rfl

/-- A property that every move keeps is kept by every run. -/
theorem run_induction {property : Session host → Prop}
    (kept : ∀ session next, property session → property (session.move next))
    (moves : List (SessionMove host)) (initial : property session) :
    property (session.run moves) := by
  induction moves generalizing session with
  | nil => exact initial
  | cons next rest ih => exact ih (kept session next initial)

/-- Processing a live operation changes the surroundings and the counts alone, and the operation
is the last one processed. -/
theorem process_frame (session : Session host) (message : ReplicationMessage) :
    ∃ around stats, (session.process message).2 = { session with around, stats } ∧
      around.processed = session.processed ++ [message] := by
  have fate := session.processes message
  generalize session.process message = step at fate ⊢
  obtain ⟨admission, next⟩ := step
  cases fate with
  | acknowledged idle => exact ⟨_, _, rfl, by simp [processed]⟩
  | unmade acts found =>
    exact ⟨_, session.stats, rfl, by
      simp [processed, Surroundings.processed_of_findOrCreate found]⟩
  | unread acts found unread =>
    exact ⟨_, _, rfl, by simp [processed, Surroundings.processed_of_findOrCreate found]⟩
  | dispatched acts found read =>
    refine ⟨_, _, rfl, ?_⟩
    simp [processed, Surroundings.processed_of_findOrCreate found]

/-- Replaying what was held back changes the surroundings and the counts alone, and it is
processed in its order. -/
theorem replay_frame (held : List ReplicationMessage) (session : Session host) :
    ∃ around stats, held.foldl replay session = { session with around, stats } ∧
      around.processed = session.processed ++ held := by
  induction held generalizing session with
  | nil => exact ⟨_, _, rfl, (List.append_nil _).symm⟩
  | cons message rest ih =>
    obtain ⟨around, stats, replayed, order⟩ := process_frame { session with
      stats := { session.stats with replayed := session.stats.replayed + 1 } } message
    obtain ⟨lastAround, lastStats, run, lastOrder⟩ := ih (replay session message)
    have replayed : replay session message = { session with around, stats } := replayed
    refine ⟨lastAround, lastStats, by rw [List.foldl_cons, run, replayed], ?_⟩
    rw [lastOrder, replayed]
    change around.processed ++ rest = _
    rw [order, List.append_assoc]
    rfl

/-- A request of a copy processes no live operation. -/
@[simp] theorem processed_dispatchSync (session : Session host) (handle : host.Handle)
    (action : EntityAction) (key : ConcurrencyKey)
    (body : RequestBody host.Message host.Chunk) :
    (session.dispatchSync handle action key body).processed = session.processed :=
  Surroundings.processed_execute _ _ _

/-- The open slot depends on the open entity alone. -/
theorem openSlot_congr {other : Session host} (same : other.openEntity = session.openEntity) :
    other.openSlot = session.openSlot := by
  cases isOpen : session.openEntity with
  | none => rw [openSlot_of_none isOpen, openSlot_of_none (same.trans isOpen)]
  | some current => rw [openSlot_of_some isOpen, openSlot_of_some (same.trans isOpen)]

/-- A session without an open entity and without an open slot is coherent. -/
theorem coherent_of_none (closed : session.openEntity = none)
    (empty : ∀ slot, session.deferred.isOpen slot = false) : session.Coherent where
  isOpen_iff slot := by simp [empty slot, openSlot_of_none closed]
  syncing current isOpen := by simp [closed] at isOpen
  fresh current key isOpen := by simp [closed] at isOpen

/-- A session with an open entity is coherent when its open slot is the one that the entity says
and its open key is not yet whole. -/
theorem coherent_of_some {current : OpenEntity host} (isOpen : session.openEntity = some current)
    (syncing : session.phase = .syncing)
    (slots : ∀ slot, session.deferred.isOpen slot = true ↔
      current.openKey.map (⟨current.id, ·⟩) = some slot)
    (fresh : ∀ key, current.openKey = some key → current.synced.contains key = false) :
    session.Coherent where
  isOpen_iff slot := by rw [openSlot_of_some isOpen]; exact slots slot
  syncing _ _ := syncing
  fresh other key found within := by
    rw [isOpen] at found
    cases found
    exact fresh key within

/-- What a coherent session and another one have in common makes the other one coherent. -/
theorem Coherent.congr (coherent : session.Coherent) {other : Session host}
    (phase : other.phase = session.phase) (entity : other.openEntity = session.openEntity)
    (slots : ∀ slot, other.deferred.isOpen slot = session.deferred.isOpen slot) :
    other.Coherent where
  isOpen_iff slot := by rw [slots, openSlot_congr entity]; exact coherent.isOpen_iff slot
  syncing current isOpen := by
    rw [phase]
    exact coherent.syncing current (entity ▸ isOpen)
  fresh current key isOpen := coherent.fresh current key (entity ▸ isOpen)

/-- The place of a session depends on the open entity and the phase alone. -/
theorem nesting_congr {other : Session host} (entity : other.openEntity = session.openEntity)
    (phase : other.phase = session.phase) : other.nesting = session.nesting := by
  unfold nesting isSyncing
  rw [entity, phase]

/-- A coherent session without an open entity has no open slot. -/
theorem Coherent.closed_of_none (coherent : session.Coherent) (closed : session.openEntity = none)
    (slot : Slot) : session.deferred.isOpen slot = false :=
  coherent.isOpen_eq_false (by rw [openSlot_of_none closed]; simp)

/-- An item that is taken leaves the session coherent. -/
theorem Accepted.coherent {item : StreamItem} {admission : Admission} {next : Session host}
    (accepted : session.Accepted item admission next) (coherent : session.Coherent) :
    next.Coherent := by
  cases accepted with
  | startSync idle =>
    have closed := coherent.openEntity_of_not_syncing idle
    exact coherent_of_none closed (coherent.closed_of_none closed)
  | startEntity syncing closed found =>
    refine coherent_of_some rfl syncing (fun slot => ?_) (by simp)
    have empty := coherent.closed_of_none closed slot
    exact ⟨fun isOpen => by simp [dispatchSync, adopt, empty] at isOpen, by simp⟩
  | @startKey current key syncing isOpen between fresh =>
    have closed : session.openSlot = none := by rw [openSlot_of_some isOpen, between]; rfl
    refine coherent_of_some rfl syncing (fun slot => ?_) ?_
    · have empty : session.deferred.isOpen slot = false :=
        coherent.isOpen_eq_false (by rw [closed]; simp)
      simp [dispatchSync, DeferralTable.isOpen_openSlot, empty, eq_comm]
    · intro other same
      cases same
      exact fresh
  | payload syncing isOpen within fits read =>
    exact coherent.congr rfl rfl fun slot => rfl
  | @endKey current key syncing isOpen within =>
    obtain ⟨around, stats, replayed, -⟩ :=
      replay_frame (session.deferred.held ⟨current.id, key⟩) (session.endingKey current key)
    rw [replayed]
    refine coherent_of_some rfl syncing (fun slot => ?_) (by simp)
    -- No other slot was open than the one that is closed.
    have only := coherent.isOpen_iff slot
    rw [openSlot_of_some isOpen, within, Option.map_some, Option.some.injEq] at only
    simp only [dispatchSync, endingKey, DeferralTable.isOpen_closeSlot, Option.map_none,
      reduceCtorEq, iff_false, Bool.and_eq_true, decide_eq_true_eq, not_and]
    exact fun elsewhere isOpen => elsewhere (only.mp isOpen).symm
  | endEntity syncing isOpen between =>
    refine coherent_of_none rfl fun slot => ?_
    exact coherent.isOpen_eq_false (by rw [openSlot_of_some isOpen, between]; simp)
  | endSync syncing closed finished =>
    exact coherent_of_none closed (coherent.closed_of_none closed)
  | deferred isOpen room =>
    exact coherent.congr rfl rfl fun slot => DeferralTable.isOpen_offer slot
  | @processed message elsewhere =>
    obtain ⟨around, stats, frame, -⟩ := process_frame session message
    rw [frame]
    exact coherent.congr rfl rfl fun slot => rfl

/-- An item of a copy that is taken moves the session to the next place. -/
theorem Accepted.next?_nesting {message : SyncMessage} {admission : Admission}
    {next : Session host} (accepted : session.Accepted (.sync message) admission next)
    (coherent : session.Coherent) : session.nesting.next? message = some next.nesting := by
  cases accepted with
  | startSync idle =>
    have closed := coherent.openEntity_of_not_syncing idle
    rw [nesting_of_idle closed idle]
    have place : ({ session with phase := .syncing } : Session host).nesting = .copy :=
      nesting_of_copy closed rfl
    rw [place]
    rfl
  | startEntity syncing closed found =>
    rw [nesting_of_copy closed syncing]
    rfl
  | @startKey current key syncing isOpen between fresh =>
    rw [nesting_of_between isOpen between, Nesting.next?_startKey fresh]
    rfl
  | payload syncing isOpen within fits read =>
    rw [nesting_of_within isOpen within, Nesting.next?_payload]
    exact congrArg some (nesting_of_within isOpen within).symm
  | @endKey current key syncing isOpen within =>
    obtain ⟨around, stats, replayed, -⟩ :=
      replay_frame (session.deferred.held ⟨current.id, key⟩) (session.endingKey current key)
    rw [replayed, nesting_of_within isOpen within, Nesting.next?_endKey]
    rfl
  | @endEntity current syncing isOpen between =>
    have place : (({ session with openEntity := none } : Session host).dispatchSync current.handle
        .syncEntityEnd .management .none).nesting = .copy := nesting_of_copy rfl syncing
    rw [place, nesting_of_between isOpen between, Nesting.next?_endEntity]
  | @endSync finalBytes around syncing closed finished =>
    have place : ({ session with around, phase := .live } : Session host).nesting = .idle :=
      nesting_of_idle closed (by simp)
    rw [place, nesting_of_copy closed syncing]
    rfl

/-- A live operation leaves the session at its place. -/
theorem Accepted.nesting_eq {message : ReplicationMessage} {admission : Admission}
    {next : Session host} (accepted : session.Accepted (.replicate message) admission next) :
    next.nesting = session.nesting := by
  cases accepted with
  | deferred isOpen room => exact nesting_congr rfl rfl
  | processed elsewhere =>
    obtain ⟨around, stats, frame, -⟩ := process_frame session message
    rw [frame]
    exact nesting_congr rfl rfl

/-- The live operations that are processed when a session takes an item. -/
def released (session : Session host) : StreamItem → List ReplicationMessage
  | .sync (.endKey entity _ key) => session.deferred.held ⟨entity, key⟩
  | .sync _ => []
  | .replicate message => if session.openSlot = some message.slot then [] else [message]

/-- The live operations of a slot that are held back after a session took an item. -/
def retained (session : Session host) (slot : Slot) : StreamItem → List ReplicationMessage
  | .sync (.endKey entity _ key) => if slot = ⟨entity, key⟩ then [] else session.deferred.held slot
  | .sync _ => session.deferred.held slot
  | .replicate message =>
    session.deferred.held slot ++
      if session.openSlot = some message.slot ∧ message.slot = slot then [message] else []

/-- An item that is taken lets the operations that it releases be processed, and no others. -/
theorem Accepted.processed_eq {item : StreamItem} {admission : Admission} {next : Session host}
    (accepted : session.Accepted item admission next) :
    next.processed = session.processed ++ session.released item := by
  cases accepted with
  | startSync idle => exact (List.append_nil _).symm
  | startEntity syncing closed found =>
    have same := Surroundings.processed_of_findOrCreate found
    refine (processed_dispatchSync _ _ _ _ _).trans ?_
    exact same.trans (List.append_nil _).symm
  | startKey syncing isOpen between fresh =>
    exact (processed_dispatchSync _ _ _ _ _).trans (List.append_nil _).symm
  | payload syncing isOpen within fits read =>
    exact (processed_dispatchSync _ _ _ _ _).trans (List.append_nil _).symm
  | @endKey current key syncing isOpen within =>
    obtain ⟨around, stats, replayed, order⟩ :=
      replay_frame (session.deferred.held ⟨current.id, key⟩) (session.endingKey current key)
    rw [processed_dispatchSync, replayed]
    exact order
  | endEntity syncing isOpen between =>
    exact (processed_dispatchSync _ _ _ _ _).trans (List.append_nil _).symm
  | endSync syncing closed finished =>
    have same := Surroundings.processed_of_finishSync finished
    exact same.trans (List.append_nil _).symm
  | deferred isOpen room =>
    rw [released, if_pos isOpen]
    exact (List.append_nil _).symm
  | @processed message elsewhere =>
    obtain ⟨around, stats, frame, order⟩ := process_frame session message
    rw [frame, released, if_neg elsewhere]
    exact order

/-- An item that is taken lets the operations that it retains be held back, and no others. -/
theorem Accepted.held_eq {item : StreamItem} {admission : Admission} {next : Session host}
    (accepted : session.Accepted item admission next) (coherent : session.Coherent)
    (slot : Slot) : next.deferred.held slot = session.retained slot item := by
  cases accepted with
  | startSync idle => rfl
  | startEntity syncing closed found => rfl
  | startKey syncing isOpen between fresh => exact DeferralTable.held_openSlot _ _
  | payload syncing isOpen within fits read => rfl
  | @endKey current key syncing isOpen within =>
    obtain ⟨around, stats, replayed, -⟩ :=
      replay_frame (session.deferred.held ⟨current.id, key⟩) (session.endingKey current key)
    rw [replayed]
    exact DeferralTable.held_closeSlot _ _
  | endEntity syncing isOpen between => rfl
  | endSync syncing closed finished => rfl
  | @deferred message isOpen room =>
    have diverted := (coherent.isOpen_iff message.slot).mpr isOpen
    simp only [retained, isOpen, true_and]
    exact DeferralTable.held_offer diverted room slot
  | @processed message elsewhere =>
    obtain ⟨around, stats, frame, -⟩ := process_frame session message
    simp only [frame, retained, elsewhere, false_and, ↓reduceIte, List.append_nil]

/-- An item that is taken leaves a session running. -/
theorem Accepted.isRunning {item : StreamItem} {admission : Admission} {next : Session host}
    (accepted : session.Accepted item admission next) (running : session.IsRunning) :
    next.IsRunning := by
  cases accepted with
  | startSync idle => exact .inr rfl
  | startEntity syncing closed found => exact running
  | startKey syncing isOpen between fresh => exact running
  | payload syncing isOpen within fits read => exact running
  | @endKey current key syncing isOpen within =>
    obtain ⟨around, stats, replayed, -⟩ :=
      replay_frame (session.deferred.held ⟨current.id, key⟩) (session.endingKey current key)
    rw [replayed]
    exact running
  | endEntity syncing isOpen between => exact running
  | endSync syncing closed finished => exact .inl rfl
  | deferred isOpen room => exact running
  | @processed message elsewhere =>
    obtain ⟨around, stats, frame, -⟩ := process_frame session message
    rw [frame]
    exact running

/-- An item that is taken changes no bound. -/
theorem Accepted.bounds {item : StreamItem} {admission : Admission} {next : Session host}
    (accepted : session.Accepted item admission next) : next.limits = session.limits ∧
      next.deferred.maxEvents = session.deferred.maxEvents ∧
      next.deferred.maxBytes = session.deferred.maxBytes := by
  cases accepted with
  | startSync idle => exact ⟨rfl, rfl, rfl⟩
  | startEntity syncing closed found => exact ⟨rfl, rfl, rfl⟩
  | startKey syncing isOpen between fresh => exact ⟨rfl, DeferralTable.bounds_openSlot _⟩
  | payload syncing isOpen within fits read => exact ⟨rfl, rfl, rfl⟩
  | @endKey current key syncing isOpen within =>
    obtain ⟨around, stats, replayed, -⟩ :=
      replay_frame (session.deferred.held ⟨current.id, key⟩) (session.endingKey current key)
    rw [replayed]
    exact ⟨rfl, rfl, rfl⟩
  | endEntity syncing isOpen between => exact ⟨rfl, rfl, rfl⟩
  | endSync syncing closed finished => exact ⟨rfl, rfl, rfl⟩
  | deferred isOpen room => exact ⟨rfl, DeferralTable.bounds_offer⟩
  | @processed message elsewhere =>
    obtain ⟨around, stats, frame, -⟩ := process_frame session message
    rw [frame]
    exact ⟨rfl, rfl, rfl⟩

/-- A fault leaves nothing open. -/
theorem coherent_failAt (session : Session host) (around : Surroundings host) :
    (session.failAt around).Coherent :=
  coherent_of_none rfl fun _ => rfl

/-- A new session is coherent. -/
theorem coherent_start (source : ServerId) (limits : Limits) (execution : Execution)
    (world : host.World) : (start source limits execution world).Coherent :=
  coherent_of_none rfl fun _ => rfl

/-- A session that is closed drops everything that it holds back, unless it was closed before. -/
theorem move_close (session : Session host) :
    (session.phase = .closed ∧ session.move .close = session) ∨
      session.move .close = { session with
        deferred := session.deferred.discardAll.2, openEntity := none, phase := .closed } := by
  by_cases closed : session.phase = .closed
  · refine .inl ⟨closed, ?_⟩
    change session.close.2 = session
    simp only [close, closed]
  · refine .inr ?_
    change session.close.2 = _
    unfold close
    split
    · contradiction
    · split <;> rfl

/-- What a move makes of a session. -/
inductive Moved (session : Session host) : SessionMove host → Session host → Prop where
  /-- The item was taken. -/
  | accepted {item : StreamItem} {admission : Admission} {next : Session host}
      (running : session.IsRunning) (answered : (session.handle item).1 = .ok admission)
      (accepted : session.Accepted item admission next) : Moved session (.item item) next
  /-- The item was refused, which ends the session. -/
  | refused {item : StreamItem} {fault : ReplicationFault} {around : Surroundings host}
      (running : session.IsRunning) (refused : session.Refused item fault around) :
      Moved session (.item item) (session.failAt around)
  /-- The session was over. -/
  | ignored {next : SessionMove host} (stopped : ¬ session.IsRunning) : Moved session next session
  /-- The session was closed, and drops everything that it holds back. -/
  | closed : Moved session .close { session with
      deferred := session.deferred.discardAll.2, openEntity := none, phase := .closed }
  /-- An entity used a completion. -/
  | used (action : CompletionUse) : Moved session (.use action) (session.useCompletion action)
  /-- The host changed its world. -/
  | stirred (world : host.World) :
      Moved session (.stir world) { session with around := { session.around with world } }

/-- Every move makes of a session what it can. -/
theorem moved (coherent : session.Coherent) (next : SessionMove host) :
    session.Moved next (session.move next) := by
  cases next with
  | item item =>
    have result := handled coherent item
    change session.Moved (.item item) (session.handle item).2
    rcases step : session.handle item with ⟨answer, next⟩
    rw [step] at result
    cases result with
    | accepted running accepted => exact .accepted running (congrArg Prod.fst step) accepted
    | refused running refused => exact .refused running refused
    | ignored stopped known => exact .ignored stopped
  | close =>
    rcases session.move_close with ⟨closed, same⟩ | ended
    · rw [same]
      exact .ignored (by simp [IsRunning, closed])
    · rw [ended]
      exact .closed
  | use action => exact .used action
  | stir world => exact .stirred world

/-- Every move leaves a session coherent. -/
theorem Coherent.move (coherent : session.Coherent) (next : SessionMove host) :
    (session.move next).Coherent := by
  have moved := session.moved coherent next
  generalize session.move next = after at moved ⊢
  cases moved with
  | accepted running answered accepted => exact accepted.coherent coherent
  | refused running refused => exact coherent_failAt _ _
  | ignored stopped => exact coherent
  | closed => exact coherent_of_none rfl fun _ => rfl
  | used action => exact coherent.congr rfl rfl fun _ => rfl
  | stirred world => exact coherent.congr rfl rfl fun _ => rfl

/-- Every run leaves a session coherent. -/
theorem Coherent.run (coherent : session.Coherent) (moves : List (SessionMove host)) :
    (session.run moves).Coherent :=
  run_induction (fun _ next before => before.move next) moves coherent

/-- A session that was closed does not run. -/
theorem not_isRunning_close (session : Session host) : ¬ (session.move .close).IsRunning := by
  rcases session.move_close with ⟨closed, same⟩ | ended
  · rw [same]
    simp [IsRunning, closed]
  · rw [ended]
    simp [IsRunning]

/-- A session that is over stays over, and nothing is processed any more. -/
theorem move_of_stopped (coherent : session.Coherent) (stopped : ¬ session.IsRunning)
    (next : SessionMove host) :
    ¬ (session.move next).IsRunning ∧ (session.move next).processed = session.processed := by
  have moved := session.moved coherent next
  generalize session.move next = after at moved ⊢
  cases moved with
  | accepted running answered accepted => exact absurd running stopped
  | refused running refused => exact absurd running stopped
  | ignored _ => exact ⟨stopped, rfl⟩
  | closed => exact ⟨by simp [IsRunning], rfl⟩
  | used action => exact ⟨stopped, Surroundings.processed_use _ _⟩
  | stirred world => exact ⟨stopped, rfl⟩

/-- A session that runs after a move ran before it. -/
theorem isRunning_of_move (coherent : session.Coherent) {next : SessionMove host}
    (still : (session.move next).IsRunning) : session.IsRunning :=
  Decidable.not_not.mp fun stopped => (move_of_stopped coherent stopped next).1 still

/-- A session that runs after some moves ran before them. -/
theorem isRunning_of_run (coherent : session.Coherent) {moves : List (SessionMove host)}
    (still : (session.run moves).IsRunning) : session.IsRunning := by
  induction moves generalizing session with
  | nil => exact still
  | cons next rest ih => exact isRunning_of_move coherent (ih (coherent.move next) still)

/-- An item after which a session runs was taken. -/
theorem accepted_of_isRunning (coherent : session.Coherent) {item : StreamItem}
    (still : (session.move (.item item)).IsRunning) :
    ∃ admission, (session.handle item).1 = .ok admission ∧
      session.Accepted item admission (session.move (.item item)) := by
  change (session.handle item).2.IsRunning at still
  change ∃ admission, _ ∧ session.Accepted item admission (session.handle item).2
  have result := handled coherent item
  generalize session.handle item = step at result still ⊢
  cases result with
  | @accepted admission next running accepted => exact ⟨admission, rfl, accepted⟩
  | refused running refused => simp [IsRunning, failAt, fail] at still
  | ignored stopped known => exact absurd still stopped

/-- An item that is answered without a fault was taken, and the session goes on. -/
theorem accepted_of_ok (coherent : session.Coherent) {item : StreamItem} {admission : Admission}
    (taken : (session.handle item).1 = .ok admission) : session.IsRunning ∧
      session.Accepted item admission (session.move (.item item)) := by
  change _ ∧ session.Accepted item admission (session.handle item).2
  have result := handled coherent item
  generalize session.handle item = step at result taken ⊢
  cases result with
  | accepted running accepted =>
    cases taken
    exact ⟨running, accepted⟩
  | refused running refused => contradiction
  | ignored stopped known => contradiction

/-- A fault keeps what was processed. -/
theorem Refused.processed_eq {item : StreamItem} {fault : ReplicationFault}
    {around : Surroundings host} (refused : session.Refused item fault around) :
    around.processed = session.processed := by
  cases refused with
  | misplaced reason broken => rfl
  | unmade syncing closed found => exact Surroundings.processed_of_findOrCreate found
  | oversized syncing isOpen within exceeds => rfl
  | unread syncing isOpen within fits unread => rfl
  | unfinished syncing closed finished => exact Surroundings.processed_of_finishSync finished
  | overflow isOpen full => rfl

/-- What was processed before a move stays processed, in its order. -/
theorem processed_prefix_move (coherent : session.Coherent) (next : SessionMove host) :
    session.processed <+: (session.move next).processed := by
  have moved := session.moved coherent next
  generalize session.move next = after at moved ⊢
  cases moved with
  | accepted running answered accepted =>
    rw [accepted.processed_eq]
    exact List.prefix_append _ _
  | refused running refused =>
    have same : session.processed = (session.failAt _).processed := refused.processed_eq.symm
    exact same ▸ List.prefix_rfl
  | used action =>
    have same : (session.useCompletion action).processed = session.processed :=
      Surroundings.processed_use _ _
    exact same ▸ List.prefix_rfl
  | ignored stopped => exact List.prefix_rfl
  | closed => exact List.prefix_rfl
  | stirred world => exact List.prefix_rfl

/-- What was processed before some moves stays processed, in its order. -/
theorem processed_prefix_run (coherent : session.Coherent) (moves : List (SessionMove host)) :
    session.processed <+: (session.run moves).processed := by
  induction moves generalizing session with
  | nil => exact List.prefix_rfl
  | cons next rest ih =>
    exact (processed_prefix_move coherent next).trans (ih (coherent.move next))

/-- The live operation that a session accepts in a move, if there is one. -/
def arrival (session : Session host) : SessionMove host → List ReplicationMessage
  | .item (.replicate message) =>
    match (session.handle (.replicate message)).1 with
    | .ok _ => [message]
    | .error _ => []
  | _ => []

/-- The live operations that a session accepts in some moves, in the order of their arrival. -/
def arrivals (session : Session host) : List (SessionMove host) → List ReplicationMessage
  | [] => []
  | next :: rest => session.arrival next ++ (session.move next).arrivals rest

/-- What arrives in some moves and then in others arrives one after the other. -/
theorem arrivals_append (session : Session host) (first second : List (SessionMove host)) :
    session.arrivals (first ++ second) =
      session.arrivals first ++ (session.run first).arrivals second := by
  induction first generalizing session with
  | nil => rfl
  | cons next rest ih =>
    rw [List.cons_append, arrivals, arrivals, run_cons, ih, List.append_assoc]

end Session

/-- A host that knows every entity, reads every payload and finishes every copy, and whose
entities hold every completion. -/
def Host.willing : Host where
  World := Unit
  Handle := EntityId
  Message := Unit
  Chunk := Unit
  entityOf entity := entity
  find _ entity _ := some entity
  create _ entity _ _ _ := (.ok entity, ())
  decodeMessage _ _ _ := .ok ()
  decodeChunk _ _ _ _ := .ok ()
  finishSync _ _ := (.ok (), ())
  deliver _ _ := ([], ())
  transmit _ _ _ := .ok ()

/-- An active server by way of example. -/
def sampleServer : ServerId := ⟨"active-1", rfl⟩

/-- An entity by way of example. -/
def sampleEntity : EntityId := ⟨"C", "foo"⟩

/-- A live operation of the example entity, by its place in the stream and its key. -/
def sampleOperation (place : UInt64) (key : ConcurrencyKey) : ReplicationMessage :=
  { sequence := ⟨place⟩, entity := ⟨sampleEntity, .null, 1⟩, key, kind := .invoke,
    source := sampleServer, client := ⟨7⟩, transaction := .null, oldestTransaction := .null,
    payload := .empty }

/-- The beginning of a copy up to a key of the example entity, whose copy begins. -/
def sampleOpening (key : ConcurrencyKey) : List (SessionMove .willing) :=
  [.item (.sync .startSync), .item (.sync (.startEntity sampleEntity 1 .empty true)),
    .item (.sync (.startKey sampleEntity 1 key))]

end Standby
