import Standby.Proofs.Cluster.Tenancy

/-!
# Identity is written once

A node is given its stripe and its group once, and a group its stripe. Whatever happens to the node
afterwards, across restarts under any group and with writes that fail at any time, its record keeps
them. The main statement (`Tenancy.identity_written_once`) says so of every history, and of what
would change them that it is refused without a write.
-/
namespace Standby

variable {Store : Type} {persistor : Persistor Store} {record : Store → ClusterRecord}

namespace Node

variable {node : Node Store} {own : StripeId}

/-- A node that has a stripe confirms it and refuses any other one, and nothing is written. -/
theorem setStripeId_of_named (named : node.stripeId = some own) (persistor : Persistor Store)
    (id : StripeId) : node.setStripeId persistor id =
      (if own = id then .ok () else .error (.stripeMismatch own id), node) := by
  by_cases same : own = id
  · simp only [setStripeId, named, if_pos same]
  · simp only [setStripeId, named, if_neg same]

/-- A standby node makes no stripe. -/
theorem assignStripeIfAbsent_of_standby (waits : node.state.isStandby = true)
    (persistor : Persistor Store) (fresh : StripeId) :
    node.assignStripeIfAbsent persistor fresh =
      (.error (.stripeAssignment node.state), node) := if_pos waits

/-- A node that has a stripe makes none. -/
theorem assignStripeIfAbsent_of_named (named : node.stripeId = some own)
    (persistor : Persistor Store) (fresh : StripeId) :
    (node.assignStripeIfAbsent persistor fresh).2 = node := by
  unfold assignStripeIfAbsent
  split
  · rfl
  · simp only [named]

end Node

namespace Tenancy

/-- What a record says of the stripe and the group of its node and of the stripes of groups stays
so in every history. A record that belongs to a group is opened for no other one, null included. A
node that has a stripe confirms it and refuses any other one, and makes none; a node that is syncing
or passive makes none either. None of these writes anything. -/
theorem identity_written_once (faithful : persistor.Faithful record) (first : Store)
    (before : Tenancy Store) (reached : Reaches persistor record (vacant first) before) :
    (∀ after, Reaches persistor record before after →
      (∀ id, (record before.store).stripeId = some id → (record after.store).stripeId = some id) ∧
      ((record before.store).groupId.isNull = false →
        (record after.store).groupId = (record before.store).groupId) ∧
      ∀ group id, (record before.store).stripeMap.get? group = some id →
        (record after.store).stripeMap.get? group = some id) ∧
    (persistor.groupId before.store = .ok (record before.store).groupId →
      (record before.store).groupId.isNull = false →
      ∀ group firstChannel, group ≠ (record before.store).groupId →
        Node.openNode persistor group firstChannel before.store =
          (.error (.groupMismatch (record before.store).groupId group), before.store)) ∧
    ∀ node, before = occupied node →
      (∀ own id, node.stripeId = some own → node.setStripeId persistor id =
        (if own = id then .ok () else .error (.stripeMismatch own id), node)) ∧
      (∀ own fresh, (record node.store).stripeId = some own →
        (node.assignStripeIfAbsent persistor fresh).2 = node) ∧
      (node.state = .syncing ∨ node.state = .passive → ∀ fresh,
        node.assignStripeIfAbsent persistor fresh =
          (.error (.stripeAssignment node.state), node)) := by
  have start : (vacant first).Mirrors record := nofun
  have mirrors : before.Mirrors record := Reaches.mirrors faithful reached start
  refine ⟨fun after onward => ?_, fun read real group firstChannel other => ?_,
    fun node open? => ⟨fun own id named => ?_, fun own fresh written => ?_,
      fun standby fresh => ?_⟩⟩
  · have grows := Reaches.extends faithful onward mirrors
    exact ⟨grows.stripe, grows.group, grows.map⟩
  · exact Node.openNode_of_other read real other firstChannel
  · exact Node.setStripeId_of_named named persistor id
  · -- What is written is also known to the node.
    have honest : node.Mirrors record := mirrors node open?
    have named : node.stripeId = some own :=
      (congrArg Allegiance.stripe honest).symm.trans written
    exact Node.assignStripeIfAbsent_of_named named persistor fresh
  · have waits : node.state.isStandby = true := by
      rcases standby with syncing | passive
      · rw [syncing]; rfl
      · rw [passive]; rfl
    exact Node.assignStripeIfAbsent_of_standby waits persistor fresh

/-- A node that was opened for a group and has adopted a stripe belongs to both for good. -/
theorem adopted_for_good :
    let own : StripeId := ⟨⟨170⟩⟩
    let other : StripeId := ⟨⟨187⟩⟩
    let unnamed : Node ClusterRecord :=
      ⟨⟨1⟩, none, .zero, .empty, .uninitialized, ⟨.empty⟩, ClusterRecord.fresh.withGroupId ⟨1⟩⟩
    let node : Node ClusterRecord := (unnamed.carryOut .memory (.setStripeId own)).2
    Reaches .memory id (vacant ClusterRecord.fresh) (occupied node) ∧
      (∀ after, Reaches .memory id (occupied node) after →
        after.store.stripeId = some own ∧ after.store.groupId = ⟨1⟩ ∧
          after.store.stripeMap.get? ⟨1⟩ = some own) ∧
      Node.openNode .memory .null .zero node.store =
        (.error (.groupMismatch ⟨1⟩ .null), node.store) ∧
      node.setStripeId .memory other = (.error (.stripeMismatch own other), node) := by
  intro own other unnamed node
  have opens : Reaches .memory id (vacant ClusterRecord.fresh) (occupied unnamed) :=
    .single (.reopen (vacant ClusterRecord.fresh) ⟨1⟩ .zero)
  have reached : Reaches .memory id (vacant ClusterRecord.fresh) (occupied node) :=
    opens.tail (.operate unnamed (.setStripeId own))
  obtain ⟨stays, claimed, operations⟩ := identity_written_once Persistor.faithful_memory
    ClusterRecord.fresh (occupied node) reached
  refine ⟨reached, fun after onward => ?_, ?_, ?_⟩
  · obtain ⟨stripe, group, map⟩ := stays after onward
    exact ⟨stripe own rfl, group rfl, map ⟨1⟩ own rfl⟩
  · exact claimed rfl rfl .null .zero (by decide)
  · exact (operations node rfl).1 own other rfl

end Tenancy
end Standby
