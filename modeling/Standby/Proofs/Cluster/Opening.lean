import Standby.Cluster.Node
import Standby.Proofs.Cluster.Persistence

/-!
# The opening of a node

A node that is read from a store is the one that the record describes (`Node.eq_of_load`). A record
that belongs to the group is opened as it stands, and nothing is written
(`Node.openNode_of_own`). A record that belongs to another group is refused, and nothing is written
either (`Node.openNode_of_other`).
-/
namespace Standby

variable {Store : Type} {persistor : Persistor Store} {record : Store → ClusterRecord}

/-- A computation that answers has an answer from its first step. -/
theorem ok_of_bind {ε α β : Type} {first : Except ε α} {next : α → Except ε β} {answer : β}
    (answered : first >>= next = .ok answer) :
    ∃ value, first = .ok value ∧ next value = .ok answer := by
  cases first with
  | error fault => cases answered
  | ok value => exact ⟨value, rfl, answered⟩

namespace Node

variable {node : Node Store} {group : GroupId} {store : Store}

/-- The node that a record describes. -/
def ofRecord (described : ClusterRecord) (group : GroupId) (nextChannel : ChannelId)
    (store : Store) : Node Store :=
  { group, stripeId := described.stripeId, nextChannel, connections := described.connections,
    state := described.state, registry := ⟨described.stripeMap⟩, store }

/-- A node that is read from a store is the one that the record describes. -/
theorem eq_of_load (faithful : persistor.Faithful record) {firstChannel : ChannelId}
    (loaded : load persistor group firstChannel store = .ok node) :
    node = ofRecord (record store) group node.nextChannel store := by
  obtain ⟨stripe, stripeRead, loaded⟩ := ok_of_bind loaded
  obtain ⟨state, stateRead, loaded⟩ := ok_of_bind loaded
  obtain ⟨connections, connectionsRead, loaded⟩ := ok_of_bind loaded
  obtain ⟨registry, registryRead, loaded⟩ := ok_of_bind loaded
  have stripes : stripe = (record store).stripeId := faithful.stripeId store stripe stripeRead
  have states : state = (record store).state := faithful.currentState store state stateRead
  have clients : connections = (record store).connections :=
    faithful.connections store connections connectionsRead
  have listing : registry = ⟨(record store).stripeMap⟩ := by
    unfold Registry.load at registryRead
    split at registryRead
    · cases registryRead
    · rename_i map read
      cases registryRead
      rw [faithful.stripeMap store map read]
  cases loaded
  rw [ofRecord, ← stripes, ← states, ← clients, ← listing]

/-- A node that is opened is the one that its record describes. -/
theorem eq_of_openNode (faithful : persistor.Faithful record) {firstChannel : ChannelId}
    {after : Store} (opens : openNode persistor group firstChannel store = (.ok node, after)) :
    node = ofRecord (record node.store) group node.nextChannel node.store := by
  unfold openNode at opens
  rcases claimed : claimGroup persistor group store with ⟨fault | done, taken⟩
  · rw [claimed] at opens
    cases opens
  · rw [claimed] at opens
    dsimp only at opens
    cases loaded : load persistor group firstChannel taken with
    | error fault =>
      rw [loaded] at opens
      cases opens
    | ok found =>
      have described := eq_of_load faithful loaded
      have kept : found.store = taken := congrArg Node.store described
      rw [← kept] at described
      rw [loaded] at opens
      cases opens
      exact described

/-- A store that answers is read. -/
theorem load_of_answers (answers : persistor.Answers record store) (group : GroupId)
    (firstChannel : ChannelId) : ∃ nextChannel,
      load persistor group firstChannel store =
        .ok (ofRecord (record store) group nextChannel store) := by
  have listing : Registry.load persistor store = .ok ⟨(record store).stripeMap⟩ := by
    rw [Registry.load, answers.stripeMap]
  unfold load
  rw [answers.stripeId, answers.currentState, answers.connections, listing]
  exact ⟨_, rfl⟩

/-- A record that belongs to the group, or to none as the node does, is left as it is. -/
theorem claimGroup_of_own (answers : persistor.Answers record store)
    (own : (record store).groupId = group) :
    claimGroup persistor group store = (.ok (), store) := by
  simp only [claimGroup, answers.groupId, own]
  split
  · rfl
  · rfl

/-- A record that belongs to the group is opened as it stands. -/
theorem openNode_of_own (answers : persistor.Answers record store)
    (own : (record store).groupId = group) (firstChannel : ChannelId) : ∃ nextChannel,
      openNode persistor group firstChannel store =
        (.ok (ofRecord (record store) group nextChannel store), store) := by
  obtain ⟨nextChannel, loaded⟩ := load_of_answers answers group firstChannel
  have claimed := claimGroup_of_own answers own
  refine ⟨nextChannel, ?_⟩
  simp only [openNode, claimed, loaded]

/-- A record that belongs to another group is refused and left as it is. -/
theorem openNode_of_other (read : persistor.groupId store = .ok (record store).groupId)
    (real : (record store).groupId.isNull = false) (other : group ≠ (record store).groupId)
    (firstChannel : ChannelId) :
    openNode persistor group firstChannel store =
      (.error (.groupMismatch (record store).groupId group), store) := by
  have refused : claimGroup persistor group store =
      (.error (.groupMismatch (record store).groupId group), store) := by
    simp only [claimGroup, read, real, Bool.false_eq_true, ↓reduceIte]
    exact if_neg other.symm
  simp only [openNode, refused]

end Node
end Standby
