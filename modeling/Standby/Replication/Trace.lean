import Standby.Replication.Surroundings

/-!
# Traces

What a trace says about entities and acknowledgements. Lanes run the requests of different slots
in any order between two barriers; the canonical order of a trace sorts them by their slots, so
that it does not depend on the lanes.
-/
namespace Standby

variable {host : Host}

namespace Delivery

variable {Handle Message Chunk : Type}

/-- A delivery that is ordered against those of every lane. -/
def isBarrier (delivery : Delivery Handle Message Chunk) : Bool :=
  delivery.request.action == .syncEntityStart || delivery.request.action == .syncEntityEnd
    || delivery.request.key == .universal

end Delivery

namespace Event

/-- The deliveries of a trace, in order. -/
def deliveries (trace : List (Event host)) :
    List (Delivery host.Handle host.Message host.Chunk) :=
  trace.filterMap fun
    | .delivered delivery => some delivery
    | _ => none

/-- The acknowledgements of a trace with the servers they were sent to, in order. -/
def acks (trace : List (Event host)) : List (ServerId × Ack) :=
  trace.filterMap fun
    | .acked target ack _ => some (target, ack)
    | _ => none

/-- Acknowledgements in the order of their operations. -/
def acksInSequence (acks : List (ServerId × Ack)) : List (ServerId × Ack) :=
  acks.mergeSort fun left right => left.2.sequence.number ≤ right.2.sequence.number

/-- The deliveries before the first barrier, sorted by slot, then the barrier, and so on. The second
argument holds deliveries that no barrier has followed yet, the latest first. -/
def canonicalFrom (slotOf : Delivery host.Handle host.Message host.Chunk → Slot) :
    List (Delivery host.Handle host.Message host.Chunk) →
      List (Delivery host.Handle host.Message host.Chunk) →
      List (Delivery host.Handle host.Message host.Chunk)
  | [], waiting => sorted waiting
  | delivery :: rest, waiting =>
    if delivery.isBarrier then sorted waiting ++ delivery :: canonicalFrom slotOf rest []
    else canonicalFrom slotOf rest (delivery :: waiting)
where
  /-- Deliveries, given the latest first, in the order of their slots. -/
  sorted (waiting : List (Delivery host.Handle host.Message host.Chunk)) :
      List (Delivery host.Handle host.Message host.Chunk) :=
    waiting.reverse.mergeSort fun left right => (compare (slotOf left) (slotOf right)).isLE

/-- Deliveries in their canonical order. -/
def canonical (deliveries : List (Delivery host.Handle host.Message host.Chunk)) :
    List (Delivery host.Handle host.Message host.Chunk) :=
  canonicalFrom (fun delivery => ⟨host.entityOf delivery.handle, delivery.request.key⟩)
    deliveries []

end Event
end Standby
