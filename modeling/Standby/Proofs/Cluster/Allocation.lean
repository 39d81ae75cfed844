import Standby.Proofs.Cluster.Channels

/-!
# Channels that are handed out

A channel is in use when a restored client has it, when it was handed out or when the node has
learned of it. What is handed out next was not in use before, as long as the last channel is not
(`Node.allocated_is_fresh_iff`); from then on the last channel is handed out again and again.
-/
namespace Standby

variable {Store : Type} {persistor : Persistor Store}

/-- The channel that an operation takes into use, by the answer to it: the one that is handed out,
or the one that the node learns of. -/
def NodeOperation.taken? (operation : NodeOperation) (answer : Except ClusterFault NodeReply) :
    Option ChannelId :=
  match operation, answer with
  | .allocateChannel, .ok (.channel channel) => some channel
  | operation, _ => operation.learned?

namespace Node

variable {node : Node Store}

/-- The channels that operations take into use, in order. -/
def taken (persistor : Persistor Store) : List NodeOperation → Node Store → List ChannelId
  | [], _ => []
  | operation :: rest, node =>
    let (answer, after) := node.carryOut persistor operation
    (operation.taken? answer).toList ++ taken persistor rest after

/-- The channels that are in use after some operations of a node that was opened. -/
def inUse (persistor : Persistor Store) (operations : List NodeOperation) (node : Node Store) :
    List ChannelId :=
  node.connections.toList.map (·.channel) ++ node.taken persistor operations

/-- An operation moves the next channel past the one that it takes into use. -/
theorem isPast_taken (node : Node Store) (persistor : Persistor Store)
    (operation : NodeOperation) :
    (node.carryOut persistor operation).2.nextChannel.IsPast
      (operation.taken? (node.carryOut persistor operation).1).toList := by
  rw [nextChannel_carryOut]
  have learns (same : operation.taken? (node.carryOut persistor operation).1 =
      operation.learned?) : (operation.advance node.nextChannel).IsPast
        (operation.taken? (node.carryOut persistor operation).1).toList := by
    rw [same]
    cases learned : operation.learned? with
    | none => exact ChannelId.isPast_nil _
    | some channel => exact NodeOperation.isPast_advance learned node.nextChannel
  cases operation with
  | allocateChannel => exact node.nextChannel.isPast_next
  | _ => exact learns rfl

/-- The next channel is past all that were taken into use. -/
theorem isPast_taken_carryOutAll (node : Node Store) (persistor : Persistor Store)
    (operations : List NodeOperation) :
    (node.carryOutAll persistor operations).nextChannel.IsPast
      (node.taken persistor operations) := by
  induction operations generalizing node with
  | nil => exact ChannelId.isPast_nil _
  | cons operation rest ih =>
    have onward := (node.carryOut persistor operation).2.le_nextChannel_carryOutAll persistor rest
    exact ((node.isPast_taken persistor operation).forward onward).append (ih _)

/-- A channel that is handed out was not in use before, unless the last channel was; then it is the
last channel that is handed out. -/
theorem allocated_is_fresh_iff {group : GroupId} {firstChannel : ChannelId}
    {store written : Store}
    (opens : openNode persistor group firstChannel store = (.ok node, written))
    (earlier : List NodeOperation) :
    ∃ channel, ((node.carryOutAll persistor earlier).carryOut persistor .allocateChannel).1 =
        .ok (.channel channel) ∧
      (channel ∉ node.inUse persistor earlier ↔ .last ∉ node.inUse persistor earlier) ∧
      (.last ∈ node.inUse persistor earlier → channel = .last) := by
  have onward := node.le_nextChannel_carryOutAll persistor earlier
  have past : (node.carryOutAll persistor earlier).nextChannel.IsPast
      (node.inUse persistor earlier) :=
    ((isPast_restored opens).2.forward onward).append
      (node.isPast_taken_carryOutAll persistor earlier)
  refine ⟨(node.carryOutAll persistor earlier).nextChannel, rfl, not_congr past.mem_iff, ?_⟩
  intro used
  rcases past .last used with below | final
  · have bound := (node.carryOutAll persistor earlier).nextChannel.toNat_le_last
    have below := ChannelId.lt_iff_toNat.mp below
    omega
  · exact final

/-- After a channel that a client had before the opening and one that was observed, a new one is
handed out. -/
theorem allocated_after_observation :
    let record := ClusterRecord.fresh.withState .passive (.ofList [⟨"jvm-a", ⟨20⟩⟩])
    ∃ node written, openNode Persistor.memory ⟨1⟩ ⟨5⟩ record = (.ok node, written) ∧
      let earlier : List NodeOperation := [.allocateChannel, .observeChannel ⟨30⟩]
      node.inUse Persistor.memory earlier = [⟨20⟩, ⟨21⟩, ⟨30⟩] ∧
      ∃ channel, ((node.carryOutAll Persistor.memory earlier).carryOut Persistor.memory
          .allocateChannel).1 = .ok (.channel channel) ∧
        channel ∉ node.inUse Persistor.memory earlier := by
  intro record
  have opens : openNode Persistor.memory ⟨1⟩ ⟨5⟩ record =
      (.ok ⟨⟨1⟩, none, ⟨21⟩, .ofList [⟨"jvm-a", ⟨20⟩⟩], .passive, ⟨.empty⟩,
        record.withGroupId ⟨1⟩⟩, record.withGroupId ⟨1⟩) := rfl
  obtain ⟨channel, answer, fresh, -⟩ :=
    allocated_is_fresh_iff opens [.allocateChannel, .observeChannel ⟨30⟩]
  exact ⟨_, _, opens, rfl, channel, answer, fresh.mpr (by decide)⟩

/-- The last channel is handed out although it was handed out before. -/
theorem last_channel_is_handed_out_again :
    ∃ node written, openNode Persistor.memory ⟨1⟩ .zero .fresh = (.ok node, written) ∧
      let earlier : List NodeOperation := [.setNextChannel .last, .allocateChannel]
      (((node.carryOutAll Persistor.memory [.setNextChannel .last]).carryOut Persistor.memory
        .allocateChannel).1 = .ok (.channel .last)) ∧
      (((node.carryOutAll Persistor.memory earlier).carryOut Persistor.memory
        .allocateChannel).1 = .ok (.channel .last)) ∧
      .last ∈ node.inUse Persistor.memory earlier :=
  ⟨_, _, rfl, rfl, rfl, by decide⟩

end Node
end Standby
