import Standby.Proofs.Replication.Deferral
import Standby.Replication.Session

/-!
# The nesting of a copy

The brackets of a copy nest: a copy holds entities one after the other, an entity holds keys one
after the other, each at most once, and a key holds pieces. `Nesting.next?` says which item may
come at which place, from the items alone. `Session.nesting` is the place where a session is.
-/
namespace Standby

/-- A place between two items of a copy. -/
inductive Nesting where
  /-- No copy is going on. -/
  | idle
  /-- Within a copy, between two entities. -/
  | copy
  /-- Within an entity, between two keys; the keys that are whole are known. -/
  | entity (id : EntityId) (version : UInt64) (synced : SortedSet ConcurrencyKey)
  /-- Within a key. -/
  | key (id : EntityId) (version : UInt64) (synced : SortedSet ConcurrencyKey)
      (key : ConcurrencyKey)

namespace Nesting

/-- The place after an item, if the item may come. -/
def next? : Nesting → SyncMessage → Option Nesting
  | idle, .startSync => some copy
  | copy, .startEntity id version _ _ => some (entity id version .empty)
  | copy, .endSync _ => some idle
  | entity id version synced, .startKey otherId otherVersion other =>
    if id = otherId ∧ version = otherVersion ∧ synced.contains other = false then
      some (key id version synced other)
    else none
  | entity id version _, .endEntity otherId otherVersion =>
    if id = otherId ∧ version = otherVersion then some copy else none
  | key id version synced current, .payload otherId otherVersion other _ =>
    if id = otherId ∧ version = otherVersion ∧ current = other then
      some (key id version synced current)
    else none
  | key id version synced current, .endKey otherId otherVersion other =>
    if id = otherId ∧ version = otherVersion ∧ current = other then
      some (entity id version (synced.insert current))
    else none
  | _, _ => none

/-- A key that is not yet whole may begin. -/
theorem next?_startKey {id : EntityId} {version : UInt64} {synced : SortedSet ConcurrencyKey}
    {current : ConcurrencyKey} (fresh : synced.contains current = false) :
    (entity id version synced).next? (.startKey id version current) =
      some (key id version synced current) := if_pos ⟨rfl, rfl, fresh⟩

/-- Any piece of the open key may come. -/
theorem next?_payload (id : EntityId) (version : UInt64) (synced : SortedSet ConcurrencyKey)
    (current : ConcurrencyKey) (bytes : ByteArray) :
    (key id version synced current).next? (.payload id version current bytes) =
      some (key id version synced current) := if_pos ⟨rfl, rfl, rfl⟩

/-- The open key may end. -/
theorem next?_endKey (id : EntityId) (version : UInt64) (synced : SortedSet ConcurrencyKey)
    (current : ConcurrencyKey) :
    (key id version synced current).next? (.endKey id version current) =
      some (entity id version (synced.insert current)) := if_pos ⟨rfl, rfl, rfl⟩

/-- The open entity may end between two keys. -/
theorem next?_endEntity (id : EntityId) (version : UInt64) (synced : SortedSet ConcurrencyKey) :
    (entity id version synced).next? (.endEntity id version) = some copy := if_pos ⟨rfl, rfl⟩

/-- The slot that is being copied at a place. -/
def slot? : Nesting → Option Slot
  | key id _ _ current => some ⟨id, current⟩
  | _ => none

/-- The slot that is being copied after an item. -/
def slotAfter? (place : Nesting) : SyncMessage → Option Slot
  | .startKey id _ current => some ⟨id, current⟩
  | .endKey .. => none
  | _ => place.slot?

/-- Only the beginning and the end of a key change the slot that is being copied. -/
theorem slot?_of_next? {place next : Nesting} {message : SyncMessage}
    (moved : place.next? message = some next) : next.slot? = place.slotAfter? message := by
  cases place <;> cases message <;>
    simp only [next?, Option.ite_none_right_eq_some, Option.some.injEq, reduceCtorEq] at moved
  case idle.startSync => rw [← moved]; rfl
  case copy.startEntity => rw [← moved]; rfl
  case copy.endSync => rw [← moved]; rfl
  case entity.startKey => obtain ⟨⟨rfl, -⟩, rfl⟩ := moved; rfl
  case entity.endEntity => rw [← moved.2]; rfl
  case key.payload => rw [← moved.2]; rfl
  case key.endKey => rw [← moved.2]; rfl

/-- The place after some items, if each of them may come. -/
def run? (place : Nesting) : List SyncMessage → Option Nesting
  | [] => some place
  | message :: rest => (place.next? message).bind fun next => next.run? rest

/-- Some items and then others are followed one after the other. -/
theorem run?_append (place : Nesting) (first second : List SyncMessage) :
    place.run? (first ++ second) = (place.run? first).bind fun next => next.run? second := by
  induction first generalizing place with
  | nil => rfl
  | cons message rest ih =>
    simp only [List.cons_append, run?]
    cases place.next? message with
    | none => rfl
    | some next => exact ih next

end Nesting

namespace Session

variable {host : Host}

/-- The place of a session in the copy that it follows. -/
def nesting (session : Session host) : Nesting :=
  match session.openEntity with
  | none => if session.isSyncing then .copy else .idle
  | some current =>
    match current.openKey with
    | none => .entity current.id current.version current.synced
    | some key => .key current.id current.version current.synced key

/-- The slot that is being copied. -/
def openSlot (session : Session host) : Option Slot := session.nesting.slot?

/-- The phase, the open brackets and the deferral table of a session fit together. -/
structure Coherent (session : Session host) : Prop where
  /-- The one open slot is that which is being copied. -/
  isOpen_iff : ∀ slot, session.deferred.isOpen slot = true ↔ session.openSlot = some slot
  /-- An entity is open only within a copy. -/
  syncing : ∀ current, session.openEntity = some current → session.phase = .syncing
  /-- The key that is being copied is not yet whole. -/
  fresh : ∀ current key, session.openEntity = some current → current.openKey = some key →
    current.synced.contains key = false

variable {session : Session host}

/-- A session without an open entity has no open slot. -/
theorem openSlot_of_none (closed : session.openEntity = none) : session.openSlot = none := by
  rw [openSlot, nesting, closed]
  dsimp only
  split <;> rfl

/-- The open slot belongs to the open entity. -/
theorem openSlot_of_some {current : OpenEntity host} (isOpen : session.openEntity = some current) :
    session.openSlot = current.openKey.map (⟨current.id, ·⟩) := by
  rw [openSlot, nesting, isOpen]
  dsimp only
  cases current.openKey <;> rfl

/-- Outside of a copy no entity is open. -/
theorem Coherent.openEntity_of_not_syncing (coherent : session.Coherent)
    (idle : session.phase ≠ .syncing) : session.openEntity = none := by
  cases isOpen : session.openEntity with
  | none => rfl
  | some current => exact absurd (coherent.syncing current isOpen) idle

/-- A slot that is not being copied is closed. -/
theorem Coherent.isOpen_eq_false (coherent : session.Coherent) {slot : Slot}
    (elsewhere : session.openSlot ≠ some slot) : session.deferred.isOpen slot = false := by
  rw [Bool.eq_false_iff]
  exact fun isOpen => elsewhere ((coherent.isOpen_iff slot).mp isOpen)

/-- Without an open slot nothing is held back. -/
theorem Coherent.held_of_closed (coherent : session.Coherent) (closed : session.openSlot = none)
    (slot : Slot) : session.deferred.held slot = [] :=
  DeferralTable.held_of_closed (coherent.isOpen_eq_false (by rw [closed]; nofun))

end Session
end Standby
