import Standby.Limits
import Standby.Ordered.Map
import Standby.Replication.Fault
import Standby.Replication.Message

/-!
# Held-back operations

While a key of an entity is being copied, its live operations are held back in a queue of their
own, in the order of their arrival and within two bounds. A queue exists exactly while its slot
is open.
-/
namespace Standby

/-- The payload bytes of some operations. -/
def payloadBytes : List ReplicationMessage → Nat
  | [] => 0
  | message :: rest => message.payload.size + payloadBytes rest

/-- The payload bytes of operations after others are added to those of the others. -/
theorem payloadBytes_append (first second : List ReplicationMessage) :
    payloadBytes (first ++ second) = payloadBytes first + payloadBytes second := by
  induction first with
  | nil => simp [payloadBytes]
  | cons message rest ih => simp [payloadBytes, ih, Nat.add_assoc]

/-- The order of operations does not change their payload bytes. -/
theorem payloadBytes_reverse (messages : List ReplicationMessage) :
    payloadBytes messages.reverse = payloadBytes messages := by
  induction messages with
  | nil => rfl
  | cons message rest ih =>
    simp [payloadBytes_append, payloadBytes, ih, Nat.add_comm]

/-- The operations held back for one slot. The newest stands first, so that holding one more
takes constant time. -/
structure DeferredQueue where
  /-- The operations, the newest first. -/
  newestFirst : List ReplicationMessage
  /-- How many there are. -/
  depth : Nat
  /-- Their payload bytes. -/
  bytes : Nat
  /-- The depth counts the operations. -/
  depth_eq : depth = newestFirst.length
  /-- The bytes add up their payloads. -/
  bytes_eq : bytes = payloadBytes newestFirst

namespace DeferredQueue

/-- The queue that holds nothing. -/
def empty : DeferredQueue := ⟨[], 0, 0, rfl, rfl⟩

instance : Inhabited DeferredQueue := ⟨empty⟩

/-- A queue with one more operation at its end. -/
def push (queue : DeferredQueue) (message : ReplicationMessage) : DeferredQueue :=
  ⟨message :: queue.newestFirst, queue.depth + 1, message.payload.size + queue.bytes,
    by simp [queue.depth_eq], by simp [payloadBytes, queue.bytes_eq]⟩

/-- The operations in the order of their arrival. -/
def toList (queue : DeferredQueue) : List ReplicationMessage := queue.newestFirst.reverse

/-- The empty queue lists nothing. -/
@[simp] theorem toList_empty : empty.toList = [] := rfl

/-- An operation held back is the last to be listed. -/
@[simp] theorem toList_push (queue : DeferredQueue) (message : ReplicationMessage) :
    (queue.push message).toList = queue.toList ++ [message] := by
  simp [toList, push]

/-- The depth is the number of listed operations. -/
theorem depth_eq_length (queue : DeferredQueue) : queue.depth = queue.toList.length := by
  simp [toList, queue.depth_eq]

/-- The bytes are those of the listed operations. -/
theorem bytes_eq_payloadBytes (queue : DeferredQueue) :
    queue.bytes = payloadBytes queue.toList := by
  rw [queue.bytes_eq, toList, payloadBytes_reverse]

end DeferredQueue

/-- What becomes of an operation that is offered to be held back. -/
inductive DeferralDecision where
  /-- It is held; the depth counts it. -/
  | deferred (depth : Nat)
  /-- Its slot is not open. -/
  | notDeferring (message : ReplicationMessage)
  /-- Holding it would pass a bound. -/
  | overflow (kind : OverflowKind) (limit : UInt64)
  deriving DecidableEq

/-- The queues of the open slots. -/
structure DeferralTable where
  /-- The queue of each open slot. -/
  queues : SortedMap Slot DeferredQueue
  /-- The most operations in a queue. -/
  maxEvents : UInt64
  /-- The most payload bytes in a queue. -/
  maxBytes : UInt64

namespace DeferralTable

/-- A table without open slots. -/
def ofLimits (limits : Limits) : DeferralTable :=
  ⟨.empty, limits.deferredEvents, limits.deferredBytes⟩

/-- A slot has a queue. -/
def isOpen (table : DeferralTable) (slot : Slot) : Bool := table.queues.contains slot

/-- The operations held back for a slot, the oldest first. -/
def held (table : DeferralTable) (slot : Slot) : List ReplicationMessage :=
  ((table.queues.get? slot).getD .empty).toList

/-- The number of operations held back for a slot. -/
def depth (table : DeferralTable) (slot : Slot) : Nat :=
  ((table.queues.get? slot).getD .empty).depth

/-- Nothing is held back, though slots may be open. -/
def isEmpty (table : DeferralTable) : Bool := table.queues.values.all fun queue => queue.depth == 0

/-- Begin to hold back the operations of a slot; says whether it was closed before. -/
def openSlot (table : DeferralTable) (slot : Slot) : Bool × DeferralTable :=
  if table.isOpen slot then (false, table)
  else (true, { table with queues := table.queues.insert slot .empty })

/-- Hold an operation back if its slot is open and the bounds allow it. -/
def offer (table : DeferralTable) (message : ReplicationMessage) :
    DeferralDecision × DeferralTable :=
  match table.queues.get? message.slot with
  | none => (.notDeferring message, table)
  | some queue =>
    if table.maxEvents.toNat ≤ queue.depth then (.overflow .events table.maxEvents, table)
    else if table.maxBytes.toNat < queue.bytes + message.payload.size then
      (.overflow .bytes table.maxBytes, table)
    else
      let queue := queue.push message
      (.deferred queue.depth, { table with queues := table.queues.insert message.slot queue })

/-- Close a slot; the operations held back for it come in the order of their arrival. -/
def closeSlot (table : DeferralTable) (slot : Slot) : List ReplicationMessage × DeferralTable :=
  (table.held slot, { table with queues := table.queues.erase slot })

/-- Close every slot and drop what is held back; says how many operations and bytes it was. -/
def discardAll (table : DeferralTable) : (Nat × Nat) × DeferralTable :=
  (table.queues.values.foldr
      (fun queue (events, bytes) => (queue.depth + events, queue.bytes + bytes)) (0, 0),
    { table with queues := .empty })

end DeferralTable
end Standby
