import Mathlib.Data.List.Induction
import Mathlib.Data.List.Perm.Basic
import Standby.Proofs.Cluster.Opening
import Standby.Proofs.Cluster.Transition
import Standby.Proofs.Ordered.Set

/-!
# The next channel

What an operation does to the next channel depends on the channel alone (`NodeOperation.advance`):
it moves forward or stays. A node that knows of some channels is past all of them, or it has arrived
at the last channel, after which there is none (`ChannelId.IsPast`). So the next channel is after
all that are known (`Node.next_channel_dominates`).
-/
namespace Standby

namespace ChannelId

variable {next later channel : ChannelId} {channels : List ChannelId}

/-- Channels with the same number are the same. -/
theorem ext_toNat {left right : ChannelId} (same : left.number.toNat = right.number.toNat) :
    left = right := by
  have words : left.number = right.number := UInt64.toNat_inj.mp same
  cases left; cases right; cases words; rfl

/-- Channels are ordered by their numbers. -/
theorem le_iff_toNat {left right : ChannelId} :
    left ≤ right ↔ left.number.toNat ≤ right.number.toNat := UInt64.le_iff_toNat_le

/-- A channel is below another if its number is. -/
theorem lt_iff_toNat {left right : ChannelId} :
    left < right ↔ left.number.toNat < right.number.toNat := UInt64.lt_iff_toNat_lt

/-- No channel is above the last one. -/
theorem toNat_le_last (channel : ChannelId) : channel.number.toNat ≤ last.number.toNat := by
  have below := channel.number.toNat_lt
  have top : last.number.toNat = 2 ^ 64 - 1 := by decide
  omega

/-- A channel is at most itself. -/
theorem le_refl (channel : ChannelId) : channel ≤ channel := le_iff_toNat.mpr (Nat.le_refl _)

/-- The order of channels is transitive. -/
theorem le_trans {first second third : ChannelId} (lower : first ≤ second)
    (upper : second ≤ third) : first ≤ third :=
  le_iff_toNat.mpr (Nat.le_trans (le_iff_toNat.mp lower) (le_iff_toNat.mp upper))

/-- The channel after a channel is one above it, or it is the last channel. -/
theorem toNat_next_cases (channel : ChannelId) :
    channel.next.number.toNat = channel.number.toNat + 1 ∨ channel.next = last := by
  have step := channel.toNat_number_next
  have bound := channel.toNat_le_last
  have top : last.number.toNat = UInt64.size - 1 := by decide
  by_cases inner : channel.number.toNat < last.number.toNat
  · exact .inl (by omega)
  · exact .inr (ext_toNat (by omega))

/-- The next channel is not below a channel. -/
theorem le_next (channel : ChannelId) : channel ≤ channel.next := by
  have step := channel.toNat_number_next
  have bound := channel.toNat_le_last
  have top : last.number.toNat = UInt64.size - 1 := by decide
  exact le_iff_toNat.mpr (by omega)

/-- Moving past a channel goes to the channel after it, if that is forward. -/
theorem toNat_past (next used : ChannelId) :
    (Node.past next used).number.toNat = max next.number.toNat used.next.number.toNat := by
  have onward := le_iff_toNat.mp used.le_next
  unfold Node.past
  split
  · rename_i reached
    have reached := le_iff_toNat.mp reached
    omega
  · rename_i passed
    have passed : used.number.toNat < next.number.toNat :=
      Nat.lt_of_not_le (mt le_iff_toNat.mpr passed)
    have step := used.toNat_number_next
    have bound := next.toNat_le_last
    have top : last.number.toNat = UInt64.size - 1 := by decide
    omega

/-- The order in which a node moves past channels makes no difference. -/
theorem past_right_comm (next first second : ChannelId) :
    Node.past (Node.past next first) second = Node.past (Node.past next second) first := by
  apply ext_toNat
  rw [toNat_past, toNat_past, toNat_past, toNat_past]
  omega

/-- A channel is past some channels: each is below it, unless it is the last channel, after which
there is none. -/
def IsPast (next : ChannelId) (channels : List ChannelId) : Prop :=
  ∀ channel ∈ channels, channel < next ∨ next = last

/-- A channel further on is past the same channels. -/
theorem IsPast.forward (past : next.IsPast channels) (onward : next ≤ later) :
    later.IsPast channels := by
  intro channel member
  have onward := le_iff_toNat.mp onward
  rcases past channel member with below | rfl
  · have below := lt_iff_toNat.mp below
    exact .inl (lt_iff_toNat.mpr (by omega))
  · have bound := later.toNat_le_last
    exact .inr (ext_toNat (by omega))

/-- A channel past some channels and past others is past all of them. -/
theorem IsPast.append {others : List ChannelId} (first : next.IsPast channels)
    (second : next.IsPast others) : next.IsPast (channels ++ others) := by
  intro channel member
  rcases List.mem_append.mp member with early | late
  · exact first channel early
  · exact second channel late

/-- Every channel is past none. -/
theorem isPast_nil (next : ChannelId) : next.IsPast [] := nofun

/-- The channel after a channel is past it. -/
theorem isPast_next (channel : ChannelId) : channel.next.IsPast [channel] := by
  intro found member
  obtain rfl : found = channel := List.mem_singleton.mp member
  rcases found.toNat_next_cases with above | final
  · exact .inl (lt_iff_toNat.mpr (by omega))
  · exact .inr final

/-- Moving past a channel gets past it. -/
theorem isPast_past (next used : ChannelId) : (Node.past next used).IsPast [used] := by
  refine used.isPast_next.forward (le_iff_toNat.mpr ?_)
  rw [toNat_past]
  exact Nat.le_max_right _ _

/-- Moving past channels goes forward and gets past each of them. -/
theorem isPast_foldl_past (next : ChannelId) (channels : List ChannelId) :
    next ≤ channels.foldl Node.past next ∧ (channels.foldl Node.past next).IsPast channels := by
  induction channels generalizing next with
  | nil => exact ⟨next.le_refl, isPast_nil _⟩
  | cons channel rest ih =>
    have forward : next ≤ Node.past next channel := by
      rw [le_iff_toNat, toNat_past]
      exact Nat.le_max_left _ _
    obtain ⟨onward, past⟩ := ih (Node.past next channel)
    exact ⟨le_trans forward onward, ((next.isPast_past channel).forward onward).append past⟩

/-- Of the channels that it is past a channel is none itself, unless it is the last one. -/
theorem IsPast.mem_iff (past : next.IsPast channels) : next ∈ channels ↔ last ∈ channels := by
  have final {channel : ChannelId} (member : channel ∈ channels)
      (top : next ≤ channel) : next = last := by
    rcases past channel member with below | final
    · have below := lt_iff_toNat.mp below
      have top := le_iff_toNat.mp top
      omega
    · exact final
  constructor
  · intro member
    have arrived := final member next.le_refl
    exact arrived ▸ member
  · intro member
    have arrived := final member (le_iff_toNat.mpr next.toNat_le_last)
    exact arrived ▸ member

end ChannelId

namespace NodeOperation

/-- The channel of which an operation tells the node that it is in use. -/
def learned? : NodeOperation → Option ChannelId
  | .observeChannel channel => some channel
  | .connect connection => some connection.channel
  | _ => none

/-- The next channel after an operation. -/
def advance (operation : NodeOperation) (next : ChannelId) : ChannelId :=
  match operation with
  | .allocateChannel => next.next
  | .setNextChannel wanted => if wanted < next then next else wanted
  | .observeChannel channel => Node.past next channel
  | .connect connection => Node.past next connection.channel
  | _ => next

/-- An operation that neither hands a channel out nor says which one comes next. -/
def isObservant : NodeOperation → Bool
  | .allocateChannel => false
  | .setNextChannel _ => false
  | _ => true

/-- The connected clients after an operation. -/
def attend (operation : NodeOperation) (clients : SortedSet ConnectionId) :
    SortedSet ConnectionId :=
  match operation with
  | .connect client => clients.insert client
  | .disconnect client => clients.erase client
  | _ => clients

variable {channel : ChannelId}

/-- The next channel never moves back. -/
theorem le_advance (operation : NodeOperation) (next : ChannelId) :
    next ≤ operation.advance next := by
  have forward (used : ChannelId) : next ≤ Node.past next used := by
    rw [ChannelId.le_iff_toNat, ChannelId.toNat_past]
    exact Nat.le_max_left _ _
  cases operation with
  | allocateChannel => exact next.le_next
  | setNextChannel wanted =>
    simp only [advance]
    split
    · exact next.le_refl
    · rename_i onward
      rw [ChannelId.lt_iff_toNat] at onward
      exact ChannelId.le_iff_toNat.mpr (Nat.le_of_not_lt onward)
  | observeChannel used => exact forward used
  | connect client => exact forward client.channel
  | _ => exact next.le_refl

/-- The next channel moves past what is learned. -/
theorem isPast_advance {operation : NodeOperation} (learned : operation.learned? = some channel)
    (next : ChannelId) : (operation.advance next).IsPast [channel] := by
  cases operation with
  | observeChannel used =>
    cases learned
    exact next.isPast_past channel
  | connect client =>
    cases learned
    exact next.isPast_past client.channel
  | _ => cases learned

/-- What an operation that hands nothing out does to the next channel is to move it past what is
learned. -/
theorem advance_of_isObservant {operation : NodeOperation} (observant : operation.isObservant)
    (next : ChannelId) :
    operation.advance next = operation.learned?.toList.foldl Node.past next := by
  cases operation with
  | allocateChannel => cases observant
  | setNextChannel wanted => cases observant
  | _ => rfl

end NodeOperation

namespace Node

variable {Store : Type} {persistor : Persistor Store} {node after : Node Store}
  {operation : NodeOperation} {outcome : Except ClusterFault NodeReply × Node Store}

/-- An operation that is not about the channels and the clients leaves both alone. -/
theorem Does.channels (does : node.Does persistor operation outcome)
    (other : operation.isUnwritten = false) :
    outcome.2.nextChannel = node.nextChannel ∧ outcome.2.connections = node.connections := by
  cases does with
  | adopted adoption adopts => cases adopts <;> exact ⟨rfl, rfl⟩
  | noted unwritten => cases other.symm.trans unwritten
  | _ => exact ⟨rfl, rfl⟩

/-- An operation moves the next channel as it would by itself. -/
theorem nextChannel_carryOut (node : Node Store) (persistor : Persistor Store)
    (operation : NodeOperation) :
    (node.carryOut persistor operation).2.nextChannel = operation.advance node.nextChannel := by
  have other := (node.does_carryOut persistor operation).channels
  cases operation with
  | setNextChannel wanted =>
    simp only [carryOut, setNextChannel, NodeOperation.advance]
    split
    · rfl
    · rfl
  | nextChannel | allocateChannel | observeChannel | connect | disconnect => rfl
  | _ => exact (other rfl).1

/-- An operation changes the connected clients as it would by itself. -/
theorem connections_carryOut (node : Node Store) (persistor : Persistor Store)
    (operation : NodeOperation) :
    (node.carryOut persistor operation).2.connections = operation.attend node.connections := by
  have other := (node.does_carryOut persistor operation).channels
  cases operation with
  | setNextChannel wanted =>
    simp only [carryOut, setNextChannel, NodeOperation.attend]
    split
    · rfl
    · rfl
  | nextChannel | allocateChannel | observeChannel | connect | disconnect => rfl
  | _ => exact (other rfl).2

/-- Some operations and then others are carried out one after the other. -/
theorem carryOutAll_append (node : Node Store) (earlier later : List NodeOperation) :
    node.carryOutAll persistor (earlier ++ later) =
      (node.carryOutAll persistor earlier).carryOutAll persistor later := List.foldl_append

/-- Operations move the next channel one after the other. -/
theorem nextChannel_carryOutAll (node : Node Store) (persistor : Persistor Store)
    (operations : List NodeOperation) :
    (node.carryOutAll persistor operations).nextChannel =
      operations.foldl (fun next operation => operation.advance next) node.nextChannel := by
  induction operations generalizing node with
  | nil => rfl
  | cons operation rest ih =>
    rw [List.foldl_cons, ← node.nextChannel_carryOut persistor operation]
    exact ih _

/-- Over time the next channel moves forward or stays. -/
theorem le_nextChannel_carryOutAll (node : Node Store) (persistor : Persistor Store)
    (operations : List NodeOperation) :
    node.nextChannel ≤ (node.carryOutAll persistor operations).nextChannel := by
  induction operations generalizing node with
  | nil => exact node.nextChannel.le_refl
  | cons operation rest ih =>
    have step := operation.le_advance node.nextChannel
    rw [← node.nextChannel_carryOut persistor operation] at step
    exact ChannelId.le_trans step (ih _)

/-- Where nothing is handed out, the next channel depends on what is learned. -/
theorem nextChannel_of_isObservant {operations : List NodeOperation}
    (observant : operations.all (·.isObservant)) (node : Node Store) :
    (node.carryOutAll persistor operations).nextChannel =
      (operations.filterMap (·.learned?)).foldl past node.nextChannel := by
  rw [nextChannel_carryOutAll]
  generalize node.nextChannel = next
  induction operations generalizing next with
  | nil => rfl
  | cons operation rest ih =>
    rw [List.all_cons, Bool.and_eq_true] at observant
    have step := NodeOperation.advance_of_isObservant observant.1 next
    have rest_eq := ih observant.2 (operation.advance next)
    rw [List.foldl_cons, rest_eq, step]
    cases learned : operation.learned? with
    | none => rw [List.filterMap_cons_none learned]; rfl
    | some channel => rw [List.filterMap_cons_some learned]; rfl

/-- A node that is read from a store has the clients that the store has, and begins with the first
channel that is past theirs. -/
theorem restored_of_load {group : GroupId} {firstChannel : ChannelId} {store : Store}
    (loaded : load persistor group firstChannel store = .ok node) :
    persistor.connections node.store = .ok node.connections ∧
      node.nextChannel =
        (node.connections.toList.map (·.channel)).foldl past firstChannel := by
  obtain ⟨stripe, -, loaded⟩ := ok_of_bind loaded
  obtain ⟨state, -, loaded⟩ := ok_of_bind loaded
  obtain ⟨connections, read, loaded⟩ := ok_of_bind loaded
  obtain ⟨registry, -, loaded⟩ := ok_of_bind loaded
  cases loaded
  exact ⟨read, List.foldl_map.symm⟩

/-- A node that is opened knows the recorded connections, and its next channel is past them. -/
theorem restored_of_openNode {group : GroupId} {firstChannel : ChannelId} {store written : Store}
    (opens : openNode persistor group firstChannel store = (.ok node, written)) :
    persistor.connections node.store = .ok node.connections ∧
      node.nextChannel =
        (node.connections.toList.map (·.channel)).foldl past firstChannel := by
  unfold openNode at opens
  split at opens
  · cases opens
  · split at opens
    · cases opens
    · rename_i loaded
      cases opens
      exact restored_of_load loaded

/-- The next channel is past those of the clients of a node that is opened. -/
theorem isPast_restored {group : GroupId} {firstChannel : ChannelId} {store written : Store}
    (opens : openNode persistor group firstChannel store = (.ok node, written)) :
    firstChannel ≤ node.nextChannel ∧
      node.nextChannel.IsPast (node.connections.toList.map (·.channel)) := by
  rw [(restored_of_openNode opens).2]
  exact firstChannel.isPast_foldl_past _

/-- The next channel is past those of the connected clients. -/
def IsPastClients (node : Node Store) : Prop :=
  node.nextChannel.IsPast (node.connections.toList.map (·.channel))

/-- A client that connects is passed, and every other one stays passed. -/
theorem IsPastClients.carryOut (past : node.IsPastClients) (operation : NodeOperation) :
    (node.carryOut persistor operation).2.IsPastClients := by
  have onward := operation.le_advance node.nextChannel
  unfold IsPastClients at past ⊢
  rw [nextChannel_carryOut, connections_carryOut]
  intro channel inUse
  obtain ⟨client, member, rfl⟩ := List.mem_map.mp inUse
  have kept (old : client ∈ node.connections.toList) :
      client.channel < operation.advance node.nextChannel ∨
        operation.advance node.nextChannel = .last :=
    past.forward onward client.channel (List.mem_map_of_mem old)
  cases operation with
  | connect added =>
    rcases SortedSet.mem_insertList_iff.mp member with rfl | old
    · have learned : (NodeOperation.connect client).learned? = some client.channel := rfl
      exact NodeOperation.isPast_advance learned node.nextChannel client.channel
        List.mem_cons_self
    · exact kept old
  | disconnect gone => exact kept (List.mem_of_mem_filter member)
  | _ => exact kept member

/-- The next channel stays past those of the clients. -/
theorem IsPastClients.carryOutAll (past : node.IsPastClients) (operations : List NodeOperation) :
    (node.carryOutAll persistor operations).IsPastClients := by
  induction operations generalizing node with
  | nil => exact past
  | cons operation rest ih => exact ih (past.carryOut operation)

/-- A client is connected after some operations: the last one that is about it connects it, or none
is about it and it was connected before. -/
def IsConnected (node : Node Store) (operations : List NodeOperation) (client : ConnectionId) :
    Prop :=
  (∃ earlier later, operations = earlier ++ .connect client :: later ∧
    .disconnect client ∉ later) ∨
  client ∈ node.connections.toList ∧ .disconnect client ∉ operations

/-- One more operation decides about the client that it is about. -/
theorem isConnected_concat {operations : List NodeOperation} {client : ConnectionId} :
    node.IsConnected (operations ++ [operation]) client ↔ operation = .connect client ∨
      operation ≠ .disconnect client ∧ node.IsConnected operations client := by
  constructor
  · rintro (⟨earlier, later, split, stays⟩ | ⟨before, stays⟩)
    · rcases List.eq_nil_or_concat later with rfl | ⟨front, final, rfl⟩
      · have parts := List.append_inj' split rfl
        exact .inl (List.singleton_inj.mp parts.2)
      · have shape : operations ++ [operation] =
            (earlier ++ .connect client :: front) ++ [final] := by simpa using split
        have parts := List.append_inj' shape rfl
        have same : operation = final := List.singleton_inj.mp parts.2
        rw [List.concat_eq_append, List.mem_append, List.mem_singleton, not_or] at stays
        exact .inr ⟨fun leaves => stays.2 (leaves ▸ same),
          .inl ⟨earlier, front, parts.1, stays.1⟩⟩
    · rw [List.mem_append, List.mem_singleton, not_or] at stays
      exact .inr ⟨fun leaves => stays.2 leaves.symm, .inr ⟨before, stays.1⟩⟩
  · rintro (rfl | ⟨other, ⟨earlier, later, rfl, stays⟩ | ⟨before, stays⟩⟩)
    · exact .inl ⟨operations, [], rfl, nofun⟩
    · refine .inl ⟨earlier, later ++ [operation], by simp, ?_⟩
      rw [List.mem_append, List.mem_singleton, not_or]
      exact ⟨stays, other.symm⟩
    · refine .inr ⟨before, ?_⟩
      rw [List.mem_append, List.mem_singleton, not_or]
      exact ⟨stays, other.symm⟩

/-- A client is connected after one more operation if that connects it, or if it was connected and
the operation does not disconnect it. -/
theorem mem_attend_iff (operation : NodeOperation) (clients : SortedSet ConnectionId)
    (client : ConnectionId) :
    client ∈ (operation.attend clients).toList ↔ operation = .connect client ∨
      operation ≠ .disconnect client ∧ client ∈ clients.toList := by
  rw [← SortedSet.contains_iff, ← SortedSet.contains_iff]
  cases operation with
  | connect added =>
    rw [NodeOperation.attend, SortedSet.contains_insert_iff, eq_comm]
    simp
  | disconnect gone =>
    rw [NodeOperation.attend, SortedSet.contains_erase_iff, ne_comm]
    simp
  | _ => simp [NodeOperation.attend]

/-- The clients that are connected are those whose last operation connects them. -/
theorem mem_connections_iff (node : Node Store) (persistor : Persistor Store)
    (operations : List NodeOperation) (client : ConnectionId) :
    client ∈ (node.carryOutAll persistor operations).connections.toList ↔
      node.IsConnected operations client := by
  -- By induction from the last operation, which is the one that decides.
  induction operations using List.reverseRecOn with
  | nil => simp [carryOutAll, IsConnected]
  | append_singleton operations operation ih =>
    have step : (node.carryOutAll persistor (operations ++ [operation])).connections =
        operation.attend (node.carryOutAll persistor operations).connections := by
      rw [carryOutAll_append]
      exact connections_carryOut _ persistor operation
    rw [step, mem_attend_iff, ih, isConnected_concat]

/-- A node that is opened has the clients of its store. From then on its next channel is at or above
the first one that was offered, it never moves back, and it is past the channels of all connected
clients, which are those whose last operation connects them. Where channels are neither handed out
nor set, the order in which the node learns of them makes no difference, whatever follows. The
bookkeeping of clients is told this channel and these clients. -/
theorem next_channel_dominates {group : GroupId} {firstChannel : ChannelId}
    {store written : Store}
    (opens : openNode persistor group firstChannel store = (.ok node, written))
    (operations : List NodeOperation) :
    let now := node.carryOutAll persistor operations
    persistor.connections node.store = .ok node.connections ∧
    (∀ client, client ∈ now.connections.toList ↔ node.IsConnected operations client) ∧
    firstChannel ≤ now.nextChannel ∧
    (∀ more, now.nextChannel ≤ (now.carryOutAll persistor more).nextChannel) ∧
    (∀ client ∈ now.connections.toList,
      client.channel < now.nextChannel ∨ now.nextChannel = .last) ∧
    (∀ run other later, run.all (·.isObservant) → other.all (·.isObservant) →
      (run.filterMap (·.learned?)).Perm (other.filterMap (·.learned?)) →
      (now.carryOutAll persistor (run ++ later)).nextChannel =
        (now.carryOutAll persistor (other ++ later)).nextChannel) ∧
    now.carryOut persistor .channelSeed =
      (match now.stripeId with
        | some stripe => .ok (.seed ⟨stripe.name, now.nextChannel, now.connections⟩)
        | none => .error .stripeMissing, now) := by
  intro now
  obtain ⟨first, seeded⟩ := isPast_restored opens
  have grown := node.le_nextChannel_carryOutAll persistor operations
  have past : now.IsPastClients := IsPastClients.carryOutAll seeded operations
  refine ⟨(restored_of_openNode opens).1, node.mem_connections_iff persistor operations,
    ChannelId.le_trans first grown, fun more => now.le_nextChannel_carryOutAll persistor more,
    fun client connected => past client.channel (List.mem_map_of_mem connected), ?_, ?_⟩
  · intro run other later runs others same
    have comm : RightCommutative Node.past := ⟨ChannelId.past_right_comm⟩
    have met : (now.carryOutAll persistor run).nextChannel =
        (now.carryOutAll persistor other).nextChannel := by
      rw [nextChannel_of_isObservant runs, nextChannel_of_isObservant others]
      exact same.foldl_eq _
    rw [carryOutAll_append, carryOutAll_append, nextChannel_carryOutAll,
      nextChannel_carryOutAll (now.carryOutAll persistor other), met]
  · cases named : now.stripeId with
    | none => simp only [carryOut, channelSeed, named, Except.map]
    | some stripe => simp only [carryOut, channelSeed, named, Except.map]

/-- A client that is restored is passed from the beginning, and so are the clients that connect
later, in whatever order the node learns of them. -/
theorem restored_client_is_passed :
    let client : ConnectionId := ⟨"jvm-a", ⟨20⟩⟩
    let other : ConnectionId := ⟨"jvm-b", ⟨41⟩⟩
    let record := ClusterRecord.fresh.withState .passive (.ofList [client])
    ∃ node written, openNode Persistor.memory ⟨1⟩ ⟨5⟩ record = (.ok node, written) ∧
      node.nextChannel = ⟨21⟩ ∧ client.channel < node.nextChannel ∧
      let now := node.carryOutAll Persistor.memory [.observeChannel ⟨30⟩, .disconnect client]
      (⟨5⟩ : ChannelId) ≤ now.nextChannel ∧ client ∉ now.connections.toList ∧
      (now.carryOutAll Persistor.memory
          [.observeChannel ⟨35⟩, .connect other, .allocateChannel]).nextChannel =
        (now.carryOutAll Persistor.memory
          [.connect other, .observeChannel ⟨35⟩, .allocateChannel]).nextChannel ∧
      now.carryOut Persistor.memory .channelSeed = (.error .stripeMissing, now) := by
  intro client other record
  have opens : openNode Persistor.memory ⟨1⟩ ⟨5⟩ record =
      (.ok ⟨⟨1⟩, none, ⟨21⟩, .ofList [client], .passive, ⟨.empty⟩, record.withGroupId ⟨1⟩⟩,
        record.withGroupId ⟨1⟩) := rfl
  refine ⟨_, _, opens, rfl, by decide, ?_⟩
  obtain ⟨-, clients, first, -, -, order, seed⟩ :=
    next_channel_dominates opens [.observeChannel ⟨30⟩, .disconnect client]
  have gone : ¬ IsConnected _ [.observeChannel ⟨30⟩, .disconnect client] client :=
    mt (clients client).mpr (by decide)
  refine ⟨first, mt (clients client).mp gone, ?_, seed⟩
  exact order [.observeChannel ⟨35⟩, .connect other] [.connect other, .observeChannel ⟨35⟩]
    [.allocateChannel] rfl rfl (by decide)

end Node
end Standby
