import Standby.Replication.Deferral

/-!
# The table of held-back operations

A deferral table is seen through two questions: whether a slot is open, and which operations are
held back for it. Each operation of the table is described by what it does to the answers, and
no operation on one slot changes the answers of another.
-/
namespace Standby

namespace SortedMap

variable {κ ν : Type} [Ord κ] [Std.TransOrd κ] [Std.LawfulEqOrd κ] [DecidableEq κ]

/-- An inserted key has the inserted value; every other key keeps its own. -/
theorem get?_insert_eq (map : SortedMap κ ν) (key sought : κ) (value : ν) :
    (map.insert key value).get? sought = if sought = key then some value else map.get? sought := by
  rw [get?_insert]
  simp only [Std.LawfulEqOrd.compare_eq_iff_eq]

/-- A removed key has no value; every other key keeps its own. -/
theorem get?_erase_eq (map : SortedMap κ ν) (key sought : κ) :
    (map.erase key).get? sought = if sought = key then none else map.get? sought := by
  rw [get?_erase]
  simp only [Std.LawfulEqOrd.compare_eq_iff_eq]

end SortedMap

namespace DeferralTable

variable {table : DeferralTable} {message : ReplicationMessage}

/-- The bounds of a table allow one more operation in its slot. -/
def HasRoom (table : DeferralTable) (message : ReplicationMessage) : Prop :=
  (table.held message.slot).length < table.maxEvents.toNat ∧
    payloadBytes (table.held message.slot) + message.payload.size ≤ table.maxBytes.toNat

/-- A slot is open when it has a queue. -/
theorem isOpen_iff {slot : Slot} :
    table.isOpen slot = true ↔ ∃ queue, table.queues.get? slot = some queue := by
  rw [isOpen, SortedMap.contains, Option.isSome_iff_exists]

/-- A slot is closed when it has no queue. -/
theorem isOpen_eq_false_iff {slot : Slot} :
    table.isOpen slot = false ↔ table.queues.get? slot = none := by
  rw [isOpen, SortedMap.contains, Option.isSome_eq_false_iff, Option.isNone_iff_eq_none]

/-- Nothing is held back for a closed slot. -/
theorem held_of_closed {slot : Slot} (closed : table.isOpen slot = false) :
    table.held slot = [] := by
  rw [held, isOpen_eq_false_iff.mp closed]
  rfl

/-- Opening a closed slot gives it an empty queue. -/
theorem openSlot_of_closed {slot : Slot} (closed : table.isOpen slot = false) :
    table.openSlot slot = (true, { table with queues := table.queues.insert slot .empty }) := by
  simp [openSlot, closed]

/-- Opening an open slot is refused and changes nothing. -/
theorem openSlot_of_open {slot : Slot} (isOpen : table.isOpen slot = true) :
    table.openSlot slot = (false, table) := by
  simp [openSlot, isOpen]

/-- Opening opens its own slot and no other. -/
theorem isOpen_openSlot (slot sought : Slot) :
    (table.openSlot slot).2.isOpen sought = (decide (sought = slot) || table.isOpen sought) := by
  cases opened : table.isOpen slot with
  | true =>
    rw [openSlot_of_open opened]
    by_cases same : sought = slot
    · simp [same, opened]
    · simp [same]
  | false =>
    rw [openSlot_of_closed opened]
    simp only [isOpen, SortedMap.contains, SortedMap.get?_insert_eq]
    by_cases same : sought = slot <;> simp [same]

/-- Opening a slot changes nothing that is held back. -/
theorem held_openSlot (slot sought : Slot) :
    (table.openSlot slot).2.held sought = table.held sought := by
  cases opened : table.isOpen slot with
  | true => rw [openSlot_of_open opened]
  | false =>
    rw [openSlot_of_closed opened]
    by_cases same : sought = slot
    · rw [same, held_of_closed opened]
      simp [held, SortedMap.get?_insert_eq]
    · simp [held, SortedMap.get?_insert_eq, same]

/-- An operation of a closed slot is given back. -/
theorem offer_of_closed (closed : table.isOpen message.slot = false) :
    table.offer message = (.notDeferring message, table) := by
  simp only [offer, isOpen_eq_false_iff.mp closed]

/-- The depth and the bytes of a queue are those of what is held back. -/
theorem hasRoom_iff {queue : DeferredQueue} (found : table.queues.get? message.slot = some queue) :
    table.HasRoom message ↔ queue.depth < table.maxEvents.toNat ∧
      queue.bytes + message.payload.size ≤ table.maxBytes.toNat := by
  simp only [HasRoom, held, found, Option.getD_some, ← DeferredQueue.depth_eq_length,
    ← DeferredQueue.bytes_eq_payloadBytes]

/-- An operation of an open slot with room goes to the end of the queue. -/
theorem offer_of_found {queue : DeferredQueue} (found : table.queues.get? message.slot = some queue)
    (room : table.HasRoom message) :
    table.offer message = (.deferred (queue.push message).depth,
      { table with queues := table.queues.insert message.slot (queue.push message) }) := by
  obtain ⟨events, bytes⟩ := (hasRoom_iff found).mp room
  simp only [offer, found, if_neg (Nat.not_le.mpr events), if_neg (Nat.not_lt.mpr bytes)]

/-- An operation of an open slot with room is held back; the depth counts it. -/
theorem offer_of_room (isOpen : table.isOpen message.slot = true) (room : table.HasRoom message) :
    (table.offer message).1 = .deferred ((table.held message.slot).length + 1) := by
  obtain ⟨queue, found⟩ := isOpen_iff.mp isOpen
  rw [offer_of_found found room]
  simp [held, found, DeferredQueue.depth_eq_length]

/-- An operation of an open slot without room is refused by the first bound that it passes. -/
theorem offer_of_full (isOpen : table.isOpen message.slot = true)
    (full : ¬ table.HasRoom message) :
    table.offer message =
      (if table.maxEvents.toNat ≤ (table.held message.slot).length then
          .overflow .events table.maxEvents
        else .overflow .bytes table.maxBytes, table) := by
  obtain ⟨queue, found⟩ := isOpen_iff.mp isOpen
  rw [hasRoom_iff found] at full
  have depth : (table.held message.slot).length = queue.depth := by
    rw [held, found, Option.getD_some, DeferredQueue.depth_eq_length]
  rw [depth]
  by_cases events : table.maxEvents.toNat ≤ queue.depth
  · simp [offer, found, events]
  · have bytes : table.maxBytes.toNat < queue.bytes + message.payload.size := by omega
    simp [offer, found, events, bytes]

/-- Holding an operation back puts it behind those of its slot. -/
theorem held_offer (isOpen : table.isOpen message.slot = true) (room : table.HasRoom message)
    (sought : Slot) :
    (table.offer message).2.held sought =
      table.held sought ++ if message.slot = sought then [message] else [] := by
  obtain ⟨queue, found⟩ := isOpen_iff.mp isOpen
  rw [offer_of_found found room]
  by_cases same : message.slot = sought
  · subst same
    simp [held, found, SortedMap.get?_insert_eq]
  · simp [held, SortedMap.get?_insert_eq, same, Ne.symm same]

/-- Offering an operation opens and closes no slot. -/
theorem isOpen_offer (sought : Slot) :
    (table.offer message).2.isOpen sought = table.isOpen sought := by
  simp only [offer]
  cases found : table.queues.get? message.slot with
  | none => rfl
  | some queue =>
    dsimp only
    split
    · rfl
    · split
      · rfl
      · simp only [isOpen, SortedMap.contains, SortedMap.get?_insert_eq]
        by_cases same : sought = message.slot <;> simp [same, found]

/-- Closing closes its own slot and no other. -/
theorem isOpen_closeSlot (slot sought : Slot) :
    (table.closeSlot slot).2.isOpen sought = (decide (sought ≠ slot) && table.isOpen sought) := by
  simp only [closeSlot, isOpen, SortedMap.contains, SortedMap.get?_erase_eq]
  by_cases same : sought = slot <;> simp [same]

/-- Closing a slot drops what is held back for it and for no other. -/
theorem held_closeSlot (slot sought : Slot) :
    (table.closeSlot slot).2.held sought = if sought = slot then [] else table.held sought := by
  simp only [closeSlot, held, SortedMap.get?_erase_eq]
  by_cases same : sought = slot <;> simp [same]

/-- The bounds of a table never change. -/
theorem bounds_openSlot (slot : Slot) :
    (table.openSlot slot).2.maxEvents = table.maxEvents ∧
      (table.openSlot slot).2.maxBytes = table.maxBytes := by
  unfold openSlot
  split <;> exact ⟨rfl, rfl⟩

/-- The bounds of a table never change. -/
theorem bounds_offer : (table.offer message).2.maxEvents = table.maxEvents ∧
    (table.offer message).2.maxBytes = table.maxBytes := by
  unfold offer
  split
  · exact ⟨rfl, rfl⟩
  · split
    · exact ⟨rfl, rfl⟩
    · split <;> exact ⟨rfl, rfl⟩

end DeferralTable
end Standby
