import Mathlib
import Standby.Proofs.Ordered.Map
import Standby.Proofs.Replication.OpenKey

/-!
# Held-back operations as lists

A deferral table keeps a count and a number of bytes with each queue and the newest operation first.
Seen from outside it is a finite map of plain lists: `HeldLists.respond` says what each request does
to such a map and answers from the lists alone. `DeferralTable.Keeps` relates a table to the lists
that it keeps; every request preserves it and gets one answer from both, so whole histories do
(`DeferralTable.answers_of_lists`).
-/
namespace Standby

/-- What a deferral table is asked. -/
inductive TableRequest where
  /-- To begin to hold back the operations of a slot. -/
  | openSlot (slot : Slot)
  /-- Whether a slot is open. -/
  | isOpen (slot : Slot)
  /-- To hold an operation back. -/
  | offer (message : ReplicationMessage)
  /-- To close a slot. -/
  | closeSlot (slot : Slot)
  /-- How many operations are held back for a slot. -/
  | depth (slot : Slot)
  /-- Whether nothing is held back. -/
  | isEmpty
  /-- To close every slot. -/
  | discardAll

/-- What a deferral table answers. -/
inductive TableAnswer where
  | flag (value : Bool)
  | decision (decision : DeferralDecision)
  | messages (messages : List ReplicationMessage)
  | count (count : Nat)
  | totals (events bytes : Nat)

/-- The slots that a request may change. -/
def TableRequest.Concerns (slot : Slot) : TableRequest → Prop
  | openSlot other => other = slot
  | offer message => message.slot = slot
  | closeSlot other => other = slot
  | discardAll => True
  | isOpen _ | depth _ | isEmpty => False

/-- The answers to some requests, each put to what the ones before it left, and what is left in the
end. -/
def answersTo {State : Type} (respond : State → TableRequest → TableAnswer × State)
    (state : State) : List TableRequest → List TableAnswer × State
  | [] => ([], state)
  | request :: rest =>
    let (answer, next) := respond state request
    let (answers, last) := answersTo respond next rest
    (answer :: answers, last)

/-- What a deferral table answers to a request, and the table after it. -/
def DeferralTable.respond (table : DeferralTable) : TableRequest → TableAnswer × DeferralTable
  | .openSlot slot =>
    let (opened, table) := table.openSlot slot
    (.flag opened, table)
  | .isOpen slot => (.flag (table.isOpen slot), table)
  | .offer message =>
    let (decision, table) := table.offer message
    (.decision decision, table)
  | .closeSlot slot =>
    let (messages, table) := table.closeSlot slot
    (.messages messages, table)
  | .depth slot => (.count (table.depth slot), table)
  | .isEmpty => (.flag table.isEmpty, table)
  | .discardAll =>
    let ((events, bytes), table) := table.discardAll
    (.totals events bytes, table)

/-- A list of operations for each of finitely many slots. -/
abbrev HeldLists : Type := Finmap fun _ : Slot => List ReplicationMessage

namespace HeldLists

/-- The payload bytes of a list of operations. -/
def bytes (messages : List ReplicationMessage) : Nat := (messages.map (·.payload.size)).sum

/-- The list of a slot; a slot without one holds nothing. -/
def of (lists : HeldLists) (slot : Slot) : List ReplicationMessage := (lists.lookup slot).getD []

/-- What lists of bounded lengths and bytes answer to a request, and the lists after it. -/
def respond (limits : Limits) (lists : HeldLists) : TableRequest → TableAnswer × HeldLists
  | .openSlot slot => (.flag (slot ∉ lists), if slot ∈ lists then lists else lists.insert slot [])
  | .isOpen slot => (.flag (slot ∈ lists), lists)
  | .offer message =>
    if message.slot ∉ lists then (.decision (.notDeferring message), lists)
    else if limits.deferredEvents.toNat ≤ (lists.of message.slot).length then
      (.decision (.overflow .events limits.deferredEvents), lists)
    else if limits.deferredBytes.toNat < bytes (lists.of message.slot) + message.payload.size then
      (.decision (.overflow .bytes limits.deferredBytes), lists)
    else
      (.decision (.deferred (lists.of message.slot ++ [message]).length),
        lists.insert message.slot (lists.of message.slot ++ [message]))
  | .closeSlot slot => (.messages (lists.of slot), lists.erase slot)
  | .depth slot => (.count (lists.of slot).length, lists)
  | .isEmpty => (.flag (∀ slot ∈ lists.keys, lists.of slot = []), lists)
  | .discardAll =>
    (.totals (∑ slot ∈ lists.keys, (lists.of slot).length)
      (∑ slot ∈ lists.keys, bytes (lists.of slot)), ∅)

end HeldLists

/-- Payload bytes are added up. -/
theorem payloadBytes_eq_bytes (messages : List ReplicationMessage) :
    payloadBytes messages = HeldLists.bytes messages := by
  induction messages with
  | nil => rfl
  | cons message rest ih => simp [payloadBytes, HeldLists.bytes, ih]

namespace DeferralTable

variable {table : DeferralTable} {limits : Limits} {lists : HeldLists}

/-- A table keeps some lists within some bounds. -/
structure Keeps (table : DeferralTable) (limits : Limits) (lists : HeldLists) : Prop where
  maxEvents : table.maxEvents = limits.deferredEvents
  maxBytes : table.maxBytes = limits.deferredBytes
  lookup : ∀ slot, lists.lookup slot = (table.queues.get? slot).map DeferredQueue.toList

/-- A table without open slots keeps no lists. -/
theorem keeps_ofLimits (limits : Limits) : (ofLimits limits).Keeps limits ∅ :=
  ⟨rfl, rfl, fun _ => Finmap.lookup_empty _⟩

/-- The slots with lists are the open ones. -/
theorem Keeps.mem_iff (keeps : table.Keeps limits lists) (slot : Slot) :
    slot ∈ lists ↔ table.isOpen slot = true := by
  rw [← Finmap.lookup_isSome, keeps.lookup, Option.isSome_map]
  rfl

/-- The slots without lists are the closed ones. -/
theorem Keeps.notMem_iff (keeps : table.Keeps limits lists) (slot : Slot) :
    slot ∉ lists ↔ table.isOpen slot = false := by
  rw [keeps.mem_iff, Bool.not_eq_true]

/-- The list of a slot is what is held back for it. -/
theorem Keeps.of_eq (keeps : table.Keeps limits lists) (slot : Slot) :
    lists.of slot = table.held slot := by
  rw [HeldLists.of, keeps.lookup, held]
  cases table.queues.get? slot <;> rfl

/-- A queue that is put in its place is a list that is put in its place. -/
theorem Keeps.insert (keeps : table.Keeps limits lists) (slot : Slot) (queue : DeferredQueue) :
    ({ table with queues := table.queues.insert slot queue } : DeferralTable).Keeps limits
      (lists.insert slot queue.toList) where
  maxEvents := keeps.maxEvents
  maxBytes := keeps.maxBytes
  lookup sought := by
    rw [SortedMap.get?_insert_eq]
    by_cases same : sought = slot
    · rw [if_pos same, same, Finmap.lookup_insert]
      rfl
    · rw [if_neg same, Finmap.lookup_insert_of_ne _ same, keeps.lookup]

/-- The slots with lists are the keys of the table. -/
theorem Keeps.keys_eq (keeps : table.Keeps limits lists) :
    lists.keys = table.queues.keys.toFinset := by
  ext slot
  rw [Finmap.mem_keys, keeps.mem_iff, List.mem_toFinset, isOpen, SortedMap.contains_iff_mem_keys]

/-- What is said of the lists one slot after the other is said of the queues. -/
theorem Keeps.sum_eq (keeps : table.Keeps limits lists) (size : List ReplicationMessage → Nat) :
    ∑ slot ∈ lists.keys, size (lists.of slot) =
      (table.queues.values.map fun queue => size queue.toList).sum := by
  rw [keeps.keys_eq, List.sum_toFinset _ table.queues.nodup_keys, SortedMap.keys,
    SortedMap.values, List.map_map, List.map_map]
  congr 1
  refine List.map_congr_left fun entry member => ?_
  simp only [Function.comp_apply]
  rw [keeps.of_eq, held, SortedMap.get?_of_mem member, Option.getD_some]

/-- The totals of a table are those of its queues. -/
theorem totals_eq (queues : List DeferredQueue) :
    queues.foldr (fun queue (events, bytes) => (queue.depth + events, queue.bytes + bytes)) (0, 0) =
      ((queues.map fun queue => queue.toList.length).sum,
        (queues.map fun queue => HeldLists.bytes queue.toList).sum) := by
  induction queues with
  | nil => rfl
  | cons queue rest ih =>
    rw [List.foldr_cons, ih, List.map_cons, List.map_cons, List.sum_cons, List.sum_cons,
      queue.depth_eq_length, queue.bytes_eq_payloadBytes, payloadBytes_eq_bytes]

/-- Nothing is held back exactly if every list is empty. -/
theorem Keeps.isEmpty_iff (keeps : table.Keeps limits lists) :
    table.isEmpty = true ↔ ∀ slot ∈ lists.keys, lists.of slot = [] := by
  have empty (queue : DeferredQueue) : (queue.depth == 0) = true ↔ queue.toList = [] := by
    rw [beq_iff_eq, queue.depth_eq_length, List.length_eq_zero_iff]
  simp only [isEmpty, List.all_eq_true, empty, keeps.keys_eq, List.mem_toFinset, SortedMap.keys,
    SortedMap.values, List.forall_mem_map]
  refine forall₂_congr fun entry member => ?_
  rw [keeps.of_eq, held, SortedMap.get?_of_mem member, Option.getD_some]

/-- Opening a slot gives it an empty list, unless it has a list. -/
theorem Keeps.openSlot (keeps : table.Keeps limits lists) (slot : Slot) :
    (table.openSlot slot).1 = decide (slot ∉ lists) ∧
      (table.openSlot slot).2.Keeps limits
        (if slot ∈ lists then lists else lists.insert slot []) := by
  cases isOpen : table.isOpen slot with
  | true =>
    have present : slot ∈ lists := (keeps.mem_iff slot).mpr isOpen
    rw [openSlot_of_open isOpen, if_pos present]
    exact ⟨by simp [present], keeps⟩
  | false =>
    have absent : slot ∉ lists := (keeps.notMem_iff slot).mpr isOpen
    rw [openSlot_of_closed isOpen, if_neg absent]
    exact ⟨by simp [absent], keeps.insert slot .empty⟩

/-- There is room for an operation exactly if the list of its slot is within both bounds with it. -/
theorem Keeps.hasRoom_iff (keeps : table.Keeps limits lists) (message : ReplicationMessage) :
    table.HasRoom message ↔ (lists.of message.slot).length < limits.deferredEvents.toNat ∧
      HeldLists.bytes (lists.of message.slot) + message.payload.size ≤
        limits.deferredBytes.toNat := by
  rw [HasRoom, keeps.maxEvents, keeps.maxBytes, ← keeps.of_eq, payloadBytes_eq_bytes]

/-- Offering an operation puts it at the end of the list of its slot, within the bounds. -/
theorem Keeps.offer (keeps : table.Keeps limits lists) (message : ReplicationMessage) :
    TableAnswer.decision (table.offer message).1 = (lists.respond limits (.offer message)).1 ∧
      (table.offer message).2.Keeps limits (lists.respond limits (.offer message)).2 := by
  simp only [HeldLists.respond]
  cases isOpen : table.isOpen message.slot with
  | false =>
    rw [offer_of_closed isOpen, if_pos ((keeps.notMem_iff message.slot).mpr isOpen)]
    exact ⟨rfl, keeps⟩
  | true =>
    rw [if_neg (not_not.mpr ((keeps.mem_iff message.slot).mpr isOpen))]
    by_cases room : table.HasRoom message
    · obtain ⟨events, bytes⟩ := (keeps.hasRoom_iff message).mp room
      obtain ⟨queue, found⟩ := DeferralTable.isOpen_iff.mp isOpen
      have list : lists.of message.slot ++ [message] = (queue.push message).toList := by
        rw [keeps.of_eq, held, found, Option.getD_some, DeferredQueue.toList_push]
      rw [offer_of_found found room, if_neg (Nat.not_le.mpr events), if_neg (Nat.not_lt.mpr bytes),
        list, DeferredQueue.depth_eq_length]
      exact ⟨rfl, keeps.insert message.slot (queue.push message)⟩
    · rw [offer_of_full isOpen room]
      rw [keeps.hasRoom_iff, not_and_or, Nat.not_lt, Nat.not_le] at room
      rw [keeps.maxEvents, keeps.maxBytes, ← keeps.of_eq]
      by_cases events : limits.deferredEvents.toNat ≤ (lists.of message.slot).length
      · rw [if_pos events, if_pos events]
        exact ⟨rfl, keeps⟩
      · rw [if_neg events, if_neg events, if_pos (room.resolve_left events)]
        exact ⟨rfl, keeps⟩

/-- Closing a slot removes its list. -/
theorem Keeps.closeSlot (keeps : table.Keeps limits lists) (slot : Slot) :
    (table.closeSlot slot).2.Keeps limits (lists.erase slot) where
  maxEvents := keeps.maxEvents
  maxBytes := keeps.maxBytes
  lookup sought := by
    rw [DeferralTable.closeSlot, SortedMap.get?_erase_eq]
    by_cases same : sought = slot
    · rw [if_pos same, same, Finmap.lookup_erase]
      rfl
    · rw [if_neg same, Finmap.lookup_erase_ne same, keeps.lookup]

/-- A table answers every request as its lists do, and keeps the lists that the request leaves. -/
theorem Keeps.respond (keeps : table.Keeps limits lists) (request : TableRequest) :
    (table.respond request).1 = (lists.respond limits request).1 ∧
      (table.respond request).2.Keeps limits (lists.respond limits request).2 := by
  cases request with
  | openSlot slot =>
    obtain ⟨answer, next⟩ := keeps.openSlot slot
    exact ⟨congrArg TableAnswer.flag answer, next⟩
  | isOpen slot =>
    refine ⟨congrArg TableAnswer.flag ?_, keeps⟩
    rw [Bool.eq_iff_iff, decide_eq_true_iff]
    exact (keeps.mem_iff slot).symm
  | offer message => exact keeps.offer message
  | closeSlot slot =>
    exact ⟨congrArg TableAnswer.messages (keeps.of_eq slot).symm, keeps.closeSlot slot⟩
  | depth slot =>
    refine ⟨congrArg TableAnswer.count ?_, keeps⟩
    rw [keeps.of_eq, DeferralTable.depth, DeferredQueue.depth_eq_length]
    rfl
  | isEmpty =>
    refine ⟨congrArg TableAnswer.flag ?_, keeps⟩
    rw [Bool.eq_iff_iff, decide_eq_true_iff]
    exact keeps.isEmpty_iff
  | discardAll =>
    refine ⟨?_, keeps.maxEvents, keeps.maxBytes, fun _ => Finmap.lookup_empty _⟩
    simp only [DeferralTable.respond, DeferralTable.discardAll, HeldLists.respond, totals_eq]
    rw [keeps.sum_eq List.length, keeps.sum_eq HeldLists.bytes]

/-- A table answers every history of requests as its lists do, and keeps the lists in the end. -/
theorem Keeps.history (keeps : table.Keeps limits lists) (requests : List TableRequest) :
    (answersTo DeferralTable.respond table requests).1 =
        (answersTo (HeldLists.respond limits) lists requests).1 ∧
      (answersTo DeferralTable.respond table requests).2.Keeps limits
        (answersTo (HeldLists.respond limits) lists requests).2 := by
  induction requests generalizing table lists with
  | nil => exact ⟨rfl, keeps⟩
  | cons request rest ih =>
    obtain ⟨answer, next⟩ := keeps.respond request
    obtain ⟨answers, last⟩ := ih next
    exact ⟨List.cons_eq_cons.mpr ⟨answer, answers⟩, last⟩

/-- A request leaves the queue of every slot as it is that it does not concern. -/
theorem get?_respond {slot : Slot} {request : TableRequest} (elsewhere : ¬ request.Concerns slot) :
    (table.respond request).2.queues.get? slot = table.queues.get? slot := by
  cases request with
  | openSlot other =>
    have other_slot : slot ≠ other := Ne.symm elsewhere
    change (table.openSlot other).2.queues.get? slot = _
    cases isOpen : table.isOpen other with
    | true => rw [openSlot_of_open isOpen]
    | false => rw [openSlot_of_closed isOpen, SortedMap.get?_insert_eq, if_neg other_slot]
  | offer message =>
    have other_slot : slot ≠ message.slot := Ne.symm elsewhere
    change (table.offer message).2.queues.get? slot = _
    cases isOpen : table.isOpen message.slot with
    | false => rw [offer_of_closed isOpen]
    | true =>
      by_cases room : table.HasRoom message
      · obtain ⟨queue, found⟩ := DeferralTable.isOpen_iff.mp isOpen
        rw [offer_of_found found room, SortedMap.get?_insert_eq, if_neg other_slot]
      · rw [offer_of_full isOpen room]
  | closeSlot other =>
    have other_slot : slot ≠ other := Ne.symm elsewhere
    exact (SortedMap.get?_erase_eq _ _ _).trans (if_neg other_slot)
  | discardAll => exact absurd trivial elsewhere
  | isOpen _ | depth _ | isEmpty => rfl

/-- A deferral table is a finite map of bounded lists: it answers every history of requests as such
a map does that is empty at first, what it keeps for each slot in the end is the list of the slot,
and no request changes the queue of a slot that it does not concern. -/
theorem answers_of_lists (limits : Limits) (requests : List TableRequest) :
    let (answers, table) := answersTo respond (ofLimits limits) requests
    let (expected, lists) := answersTo (HeldLists.respond limits) ∅ requests
    answers = expected ∧
      (∀ slot, lists.lookup slot = (table.queues.get? slot).map DeferredQueue.toList) ∧
      ∀ request slot, ¬ request.Concerns slot →
        (table.respond request).2.queues.get? slot = table.queues.get? slot := by
  obtain ⟨answers, keeps⟩ := (keeps_ofLimits limits).history requests
  exact ⟨answers, keeps.lookup, fun _ _ elsewhere => get?_respond elsewhere⟩

end DeferralTable
end Standby
