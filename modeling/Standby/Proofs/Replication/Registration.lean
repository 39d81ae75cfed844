import Standby.Proofs.Replication.Fate

/-!
# Managers that register what they make

A manager of entities may tell entities apart by their names, or by their names and versions. When
it registers every entity that it makes and never forgets one (`EntityRegistry`), a session finds an
entity that it had made before, so no entity is made twice, whatever stream comes
(`Session.Recorded.run`).
-/
namespace Standby

variable {host : Host}

/-- How a manager tells entities apart. -/
inductive Registration where
  /-- By their names. -/
  | byId
  /-- By their names and versions. -/
  | byIdAndVersion
  deriving DecidableEq

/-- What an entity is registered under. -/
abbrev RegistrationKey : Type := EntityId × Option UInt64

/-- What an entity at a version is registered under. -/
def Registration.key : Registration → EntityId → UInt64 → RegistrationKey
  | byId, entity, _ => (entity, none)
  | byIdAndVersion, entity, version => (entity, some version)

/-- The record that a manager of entities keeps. The manager finds what is registered, registers
what it makes, and forgets nothing whatever it is asked. -/
structure EntityRegistry (host : Host) (registration : Registration) where
  /-- The worlds that the manager can be in. -/
  IsPossible : host.World → Prop
  /-- What is registered in a world. -/
  Has : host.World → RegistrationKey → Prop
  found {world : host.World} {entity : EntityId} {version : UInt64} : IsPossible world →
    Has world (registration.key entity version) → (host.find world entity version).isSome = true
  registers {world : host.World} {entity : EntityId} {version : UInt64} {config : ByteArray}
      {handle : host.Handle} {next : host.World} : IsPossible world →
    host.create world entity version config true = (.ok handle, next) →
    Has next (registration.key entity version)
  create {world : host.World} (entity : EntityId) (version : UInt64) (config : ByteArray) :
    IsPossible world → IsPossible (host.create world entity version config true).2 ∧
      ∀ key, Has world key → Has (host.create world entity version config true).2 key
  finishSync {world : host.World} (bytes : ByteArray) : IsPossible world →
    IsPossible (host.finishSync world bytes).2 ∧
      ∀ key, Has world key → Has (host.finishSync world bytes).2 key
  deliver {world : host.World} (delivery : Delivery host.Handle host.Message host.Chunk) :
    IsPossible world → IsPossible (host.deliver world delivery).2 ∧
      ∀ key, Has world key → Has (host.deliver world delivery).2 key

/-- The entity that an event says was made, with its version. -/
def Event.made? : Event host → Option (EntityId × UInt64)
  | .created entity version _ _ none => some (entity, version)
  | _ => none

/-- The making of an entity is no part of an exchange with one. -/
theorem Event.IsExchange.made?_eq_none {event : Event host} (exchange : event.IsExchange) :
    event.made? = none := by
  cases event <;> first | rfl | exact exchange.elim

namespace Surroundings

variable {around next : Surroundings host}

/-- The entities that were made, with their versions, in the order in which that happened. -/
def makings (around : Surroundings host) : List (EntityId × UInt64) :=
  around.trace.toList.filterMap Event.made?

/-- What the entities that were made are registered under. -/
def registrations (registration : Registration) (around : Surroundings host) :
    List RegistrationKey :=
  around.makings.map fun (entity, version) => registration.key entity version

/-- An exchange with an entity makes none. -/
theorem makings_of_exchange (grows : Grows Event.IsExchange around next) :
    next.makings = around.makings :=
  grows.filterMap_eq _ fun _ => Event.IsExchange.made?_eq_none

/-- A reply of an entity makes none. -/
theorem makings_of_reply (grows : Grows Event.IsReply around next) :
    next.makings = around.makings :=
  makings_of_exchange (grows.mono fun _ => Event.IsReply.isExchange)

/-- That an operation was processed makes no entity. -/
theorem makings_note_processed (around : Surroundings host) (message : ReplicationMessage)
    (skipped : Bool) : (around.note (.processed message skipped)).makings = around.makings := by
  simp [makings, note, Event.made?]

/-- The end of a copy makes no entity. -/
theorem makings_of_finishSync {bytes : ByteArray} {result : Except EntityFault Unit}
    (finished : around.finishSync bytes = (result, next)) : next.makings = around.makings := by
  have grows := grows_finishSync around bytes
  rw [finished] at grows
  exact grows.filterMap_eq _ fun event finish => by cases event <;> first | rfl | exact finish.elim

/-- An entity is found, or made and put last, or cannot be made. -/
theorem findOrCreate_cases {entity : EntityId} {version : UInt64} {config : ByteArray}
    {result : Except EntityFault (host.Handle × Bool)}
    (found : around.findOrCreate entity version config = (result, next)) :
    (∃ handle, result = .ok (handle, false) ∧ next = around) ∨
    (∃ handle, result = .ok (handle, true) ∧ host.find around.world entity version = none ∧
      host.create around.world entity version config true = (.ok handle, next.world) ∧
      next.makings = around.makings ++ [(entity, version)]) ∨
    (∃ fault, result = .error fault ∧
      (host.create around.world entity version config true).2 = next.world ∧
      next.makings = around.makings) := by
  unfold findOrCreate at found
  split at found
  · cases found
    exact .inl ⟨_, rfl, rfl⟩
  · rename_i missing
    rcases made : host.create around.world entity version config true with ⟨answer, world⟩
    rw [made] at found
    cases answer with
    | ok handle =>
      cases found
      exact .inr (.inl ⟨handle, rfl, missing, rfl, by simp [makings, note, Event.made?]⟩)
    | error fault =>
      cases found
      exact .inr (.inr ⟨fault, rfl, rfl, by simp [makings, note, Event.made?]⟩)

/-- Sending acknowledgements leaves the world of the host as it is. -/
theorem world_sendAll (around : Surroundings host) (target : ServerId) (acks : List Ack) :
    (around.sendAll target acks).world = around.world := by
  unfold sendAll
  induction acks generalizing around with
  | nil => rfl
  | cons ack rest ih => exact ih _

/-- Reporting leaves the world of the host as it is. -/
theorem world_report (around : Surroundings host) (completion : Completion) (acks : List Ack) :
    (around.report completion acks).world = around.world := by
  unfold report
  split
  · rfl
  · exact world_sendAll _ _ _

/-- Giving a completion up leaves the world of the host as it is. -/
theorem world_settle (around : Surroundings host) (completion : Completion) (how : Settlement) :
    (around.settle completion how).world = around.world := world_report _ _ _

/-- Using a completion leaves the world of the host as it is. -/
theorem world_use (around : Surroundings host) (action : CompletionUse) :
    (around.use action).world = around.world := by
  unfold use
  split
  · rfl
  · split
    · exact world_report _ _ _
    · exact world_settle _ _ _

/-- Using completions leaves the world of the host as it is. -/
theorem world_foldl_use (uses : List CompletionUse) (around : Surroundings host) :
    (uses.foldl use around).world = around.world := by
  induction uses generalizing around with
  | nil => rfl
  | cons action rest ih => exact (ih _).trans (world_use around action)

end Surroundings

variable {registration : Registration} {registry : EntityRegistry host registration}

/-- The entities that were made are all registered, each under something of its own. -/
structure Surroundings.Recorded (registry : EntityRegistry host registration)
    (around : Surroundings host) : Prop where
  isPossible : registry.IsPossible around.world
  has : ∀ key ∈ around.registrations registration, registry.Has around.world key
  distinct : (around.registrations registration).Nodup

namespace Surroundings

variable {around next : Surroundings host}

/-- No entity was made in surroundings that are new. -/
theorem recorded_ofWorld {world : host.World} (possible : registry.IsPossible world) :
    (ofWorld world : Surroundings host).Recorded registry :=
  ⟨possible, fun _ member => absurd member List.not_mem_nil, List.nodup_nil⟩

/-- What is recorded stays so while nothing is made and nothing is forgotten. -/
theorem Recorded.congr (recorded : around.Recorded registry) (same : next.makings = around.makings)
    (kept : registry.IsPossible next.world ∧
      ∀ key, registry.Has around.world key → registry.Has next.world key) :
    next.Recorded registry := by
  have keys : next.registrations registration = around.registrations registration := by
    rw [registrations, same, registrations]
  refine ⟨kept.1, fun key member => ?_, by rw [keys]; exact recorded.distinct⟩
  rw [keys] at member
  exact kept.2 key (recorded.has key member)

/-- What is recorded stays so while nothing is made and the world of the host stays as it is. -/
theorem Recorded.still (recorded : around.Recorded registry) (same : next.makings = around.makings)
    (world : next.world = around.world) : next.Recorded registry := by
  refine recorded.congr same ?_
  rw [world]
  exact ⟨recorded.isPossible, fun _ known => known⟩

/-- An entity that is made was not registered before. -/
theorem Recorded.findOrCreate (recorded : around.Recorded registry) {entity : EntityId}
    {version : UInt64} {config : ByteArray} {result : Except EntityFault (host.Handle × Bool)}
    (found : around.findOrCreate entity version config = (result, next)) :
    next.Recorded registry := by
  have kept := registry.create entity version config recorded.isPossible
  rcases findOrCreate_cases found with
    ⟨handle, -, rfl⟩ | ⟨handle, -, missing, made, makings⟩ | ⟨fault, -, world, makings⟩
  · exact recorded
  · have registered := registry.registers recorded.isPossible made
    rw [made] at kept
    have keys : next.registrations registration =
        around.registrations registration ++ [registration.key entity version] := by
      rw [registrations, makings, List.map_append]
      rfl
    refine ⟨kept.1, fun key member => ?_, ?_⟩
    · rw [keys] at member
      rcases List.mem_append.mp member with earlier | new
      · exact kept.2 key (recorded.has key earlier)
      · rw [List.mem_singleton.mp new]
        exact registered
    · rw [keys, List.nodup_append]
      refine ⟨recorded.distinct, List.pairwise_singleton _ _, fun key earlier other new same => ?_⟩
      rw [same, List.mem_singleton.mp new] at earlier
      have known := registry.found recorded.isPossible (recorded.has _ earlier)
      rw [missing] at known
      contradiction
  · rw [world] at kept
    exact recorded.congr makings kept

/-- The work at the end of a copy makes nothing. -/
theorem Recorded.finishSync (recorded : around.Recorded registry) {bytes : ByteArray}
    {result : Except EntityFault Unit} (finished : around.finishSync bytes = (result, next)) :
    next.Recorded registry := by
  have kept := registry.finishSync bytes recorded.isPossible
  have world : next.world = (host.finishSync around.world bytes).2 :=
    congrArg (fun after => after.2.world) finished.symm
  rw [← world] at kept
  exact recorded.congr (makings_of_finishSync finished) kept

/-- Handing a request on makes nothing. -/
theorem Recorded.execute (recorded : around.Recorded registry) (execution : Execution)
    (job : ApplyJob host) : (around.execute execution job).Recorded registry := by
  refine recorded.congr (makings_of_exchange (grows_execute execution around job)) ?_
  cases execution with
  | lanes => exact ⟨recorded.isPossible, fun _ known => known⟩
  | inline =>
    simp only [Surroundings.execute, Surroundings.run, world_foldl_use]
    exact registry.deliver _ recorded.isPossible

/-- That an operation was processed, and how it was reported, makes nothing. -/
theorem Recorded.report (recorded : around.Recorded registry) (message : ReplicationMessage)
    (skipped : Bool) (completion : Completion) (acks : List Ack) :
    ((around.note (.processed message skipped)).report completion acks).Recorded registry :=
  recorded.still ((makings_of_reply (grows_report _ _ _)).trans (makings_note_processed _ _ _))
    (world_report _ _ _)

/-- That an operation was processed, and how its completion was given up, makes nothing. -/
theorem Recorded.settle (recorded : around.Recorded registry) (message : ReplicationMessage)
    (skipped : Bool) (completion : Completion) (how : Settlement) :
    ((around.note (.processed message skipped)).settle completion how).Recorded registry :=
  recorded.report message skipped completion _

end Surroundings

namespace Session

variable {session : Session host}

/-- The entities that were made around a session are all registered, each under something of its
own. -/
abbrev Recorded (registry : EntityRegistry host registration) (session : Session host) : Prop :=
  session.around.Recorded registry

/-- A live operation that is processed has its entity made only if it is not registered. -/
theorem Recorded.process (recorded : session.Recorded registry) (message : ReplicationMessage) :
    (session.process message).2.Recorded registry := by
  have fate := session.processes message
  generalize session.process message = step at fate ⊢
  obtain ⟨admission, next⟩ := step
  cases fate with
  | acknowledged idle =>
    exact Surroundings.Recorded.settle recorded message false (completionOf message) .complete
  | unmade acts found =>
    exact (recorded.findOrCreate found).settle message true (completionOf message) .fail
  | unread acts found unread =>
    exact (recorded.findOrCreate found).settle message true (completionOf message) .retire
  | dispatched acts found read =>
    exact ((recorded.findOrCreate found).report message false _ _).execute _ _

/-- Operations that are replayed have their entities made only if these are not registered. -/
theorem Recorded.replay (held : List ReplicationMessage) {session : Session host}
    (recorded : session.Recorded registry) : (held.foldl replay session).Recorded registry := by
  induction held generalizing session with
  | nil => exact recorded
  | cons message rest ih =>
    have counted : ({ session with
        stats := { session.stats with replayed := session.stats.replayed + 1 } } :
        Session host).Recorded registry := recorded
    exact ih (counted.process message)

/-- An item that is taken has entities made only if they are not registered. -/
theorem Accepted.recorded {item : StreamItem} {admission : Admission} {next : Session host}
    (accepted : session.Accepted item admission next) (recorded : session.Recorded registry) :
    next.Recorded registry := by
  cases accepted with
  | startSync idle => exact recorded
  | startEntity syncing closed found => exact (recorded.findOrCreate found).execute _ _
  | startKey syncing isOpen between fresh => exact recorded.execute _ _
  | payload syncing isOpen within fits read => exact recorded.execute _ _
  | @endKey current key syncing isOpen within =>
    have ending : (session.endingKey current key).Recorded registry := recorded
    exact (ending.replay (session.deferred.held ⟨current.id, key⟩)).execute _ _
  | endEntity syncing isOpen between => exact recorded.execute _ _
  | endSync syncing closed finished => exact recorded.finishSync finished
  | deferred isOpen room => exact recorded
  | processed elsewhere => exact recorded.process _

/-- An item that is refused has entities made only if they are not registered. -/
theorem Refused.recorded {item : StreamItem} {fault : ReplicationFault}
    {around : Surroundings host} (refused : session.Refused item fault around)
    (recorded : session.Recorded registry) : around.Recorded registry := by
  cases refused with
  | misplaced reason broken => exact recorded
  | unmade syncing closed found => exact recorded.findOrCreate found
  | oversized syncing isOpen within exceeds => exact recorded
  | unread syncing isOpen within fits unread => exact recorded
  | unfinished syncing closed finished => exact recorded.finishSync finished
  | overflow isOpen full => exact recorded

/-- The host changes its world on its own only into possible ones in which nothing is forgotten. -/
def Remembered (registry : EntityRegistry host registration) (session : Session host) :
    List (SessionMove host) → Prop
  | [] => True
  | next :: rest =>
    (∀ world, next = .stir world → registry.IsPossible world ∧
      ∀ key, registry.Has session.around.world key → registry.Has world key) ∧
    (session.move next).Remembered registry rest

/-- A move has entities made only if they are not registered. -/
theorem Recorded.move (coherent : session.Coherent) (recorded : session.Recorded registry)
    {next : SessionMove host} (remembered : ∀ world, next = .stir world →
      registry.IsPossible world ∧
        ∀ key, registry.Has session.around.world key → registry.Has world key) :
    (session.move next).Recorded registry := by
  have moved := session.moved coherent next
  generalize session.move next = after at moved ⊢
  cases moved with
  | accepted running answered accepted => exact accepted.recorded recorded
  | refused running refused => exact refused.recorded recorded
  | used action =>
    exact recorded.still (Surroundings.makings_of_reply (Surroundings.grows_use _ _))
      (Surroundings.world_use _ _)
  | stirred world => exact recorded.congr rfl (remembered world rfl)
  | ignored stopped => exact recorded
  | closed => exact recorded

/-- A run has entities made only if they are not registered. -/
theorem Recorded.run (coherent : session.Coherent) (recorded : session.Recorded registry)
    {moves : List (SessionMove host)} (remembered : session.Remembered registry moves) :
    (session.run moves).Recorded registry := by
  induction moves generalizing session with
  | nil => exact recorded
  | cons next rest ih =>
    exact ih (coherent.move next) (recorded.move coherent remembered.1) remembered.2

end Session
end Standby
