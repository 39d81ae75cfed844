import Standby.Proofs.Cluster.Transition

/-!
# Refused operations of a node

An operation that is refused leaves the node and its record as they were, with one exception. A
node adopts a stripe by two writes: first its own stripe, then the registry, which gets the stripe
of the node's group. When the first one is made and the second one fails, the operation is refused,
and yet the node has the stripe, in memory and in its record (`Node.refused_unchanged_iff`).
-/
namespace Standby

variable {Store : Type} {persistor : Persistor Store} {record : Store → ClusterRecord}

namespace Node

variable {node after : Node Store} {operation : NodeOperation} {id : StripeId}
  {fault : ClusterFault}

/-- Nothing of a node or its record is different: at most its store fails in other ways. -/
def Same (record : Store → ClusterRecord) (node after : Node Store) : Prop :=
  ∃ store, after = { node with store } ∧ record store = record node.store

/-- An operation makes a node adopt a stripe, of whose two writes the first one is made. -/
def Begins (node : Node Store) (persistor : Persistor Store) (operation : NodeOperation)
    (id : StripeId) : Prop :=
  node.adoption? operation = some id ∧ node.checkRegistry id = .ok () ∧
    (persistor.setStripeId id node.store).1 = .ok ()

/-- The stripe of a node and of its record is another one, and nothing else is different. -/
def Named (record : Store → ClusterRecord) (node : Node Store) (id : StripeId)
    (after : Node Store) : Prop :=
  ∃ store, after = { node with stripeId := some id, store } ∧
    record store = (record node.store).withStripeId id

/-- A node that gets a stripe is not the same. -/
theorem Named.not_same (named : node.Named record id after) (unnamed : node.stripeId = none) :
    ¬ node.Same record after := by
  rintro ⟨store, same, -⟩
  obtain ⟨written, rfl, -⟩ := named
  have stripes : some id = node.stripeId := congrArg Node.stripeId same
  rw [unnamed] at stripes
  cases stripes

/-- A registration that is refused keeps the registry and the record. -/
theorem unchanged_of_verifies (faithful : persistor.Faithful record) {registry later : Registry}
    {group : GroupId} {store written : Store}
    (verified : registry.Verifies persistor group id store (.error fault, later, written)) :
    later = registry ∧ record written = record store := by
  rcases verified.effect faithful with kept | ⟨done, -⟩
  · exact kept
  · cases done

/-- An adoption that is refused before its first write changes nothing; one that is refused after it
leaves the stripe in place. -/
theorem Adopts.of_error (faithful : persistor.Faithful record)
    (adopts : node.Adopts persistor id (.error fault, after)) :
    ((persistor.setStripeId id node.store).1 ≠ .ok () ∨ node.checkRegistry id ≠ .ok ()) ∧
        node.Same record after ∨
      node.checkRegistry id = .ok () ∧ (persistor.setStripeId id node.store).1 = .ok () ∧
        node.Named record id after := by
  have wrote := faithful.setStripeId id node.store
  cases adopts with
  | barred conflict => exact .inl ⟨.inr (by simp [conflict]), node.store, rfl, rfl⟩
  | @unwritten cause written admitted failed =>
    rw [failed] at wrote
    exact .inl ⟨.inl (by simp [failed]), written, rfl, wrote⟩
  | @registered written store _ registry admitted made real verified =>
    obtain ⟨rfl, kept⟩ := unchanged_of_verifies faithful verified
    rw [made] at wrote
    exact .inr ⟨admitted, by rw [made], store, rfl, kept.trans wrote⟩

/-- An operation that is refused leaves the node as it was, or with the stripe of an adoption that
it began. -/
theorem Does.of_error (faithful : persistor.Faithful record)
    (does : node.Does persistor operation (.error fault, after)) :
    (∀ id, ¬ node.Begins persistor operation id) ∧ node.Same record after ∨
      ∃ id, node.Begins persistor operation id ∧ node.Named record id after := by
  have same : node.Same record node := ⟨node.store, rfl, rfl⟩
  -- An operation that adopts no stripe cannot have begun to.
  have idle {operation : NodeOperation} (none : node.adoption? operation = none) (id : StripeId) :
      ¬ node.Begins persistor operation id := fun begins => by
    have adoption := begins.1
    rw [none] at adoption
    cases adoption
  generalize step : (Except.error fault, after) = result at does
  cases does with
  | mismatched named differs asked =>
    cases step
    refine .inl ⟨idle ?_, same⟩
    rcases asked with rfl | rfl <;> simp only [adoption?, named]
  | standby waits =>
    cases step
    refine .inl ⟨idle ?_, same⟩
    unfold adoption?
    split <;> simp_all
  | @adopted _ id answer next adoption adopts =>
    cases answer with
    | ok done => cases step
    | error cause =>
      cases step
      rcases adopts.of_error faithful with ⟨unmade, kept⟩ | ⟨admitted, made, named⟩
      · refine .inl ⟨fun other begins => ?_, kept⟩
        obtain ⟨adoption', admitted, made⟩ := begins
        rw [adoption] at adoption'
        cases adoption'
        exact unmade.elim (fun unwritten => unwritten made) fun barred => barred admitted
      · exact .inr ⟨id, ⟨adoption, admitted, made⟩, named⟩
  | @registered group stripe answer registry store verified =>
    cases answer with
    | ok done => cases step
    | error cause =>
      cases step
      obtain ⟨rfl, kept⟩ := unchanged_of_verifies faithful verified
      refine .inl ⟨idle ?_, store, rfl, kept⟩
      unfold adoption?
      split <;> simp_all
  | @unmoved state cause written failed =>
    cases step
    have kept := faithful.setCurrentState state node.connections node.store
    rw [failed] at kept
    refine .inl ⟨idle ?_, written, rfl, kept⟩
    unfold adoption?
    split <;> simp_all
  | seeded =>
    refine .inl ⟨idle ?_, ?_⟩
    · unfold adoption?
      split <;> simp_all
    · have unmoved : after = node := congrArg Prod.snd step
      rw [unmoved]
      exact same
  | _ => cases step

/-- An operation that is refused leaves the node and its record as they were, unless it makes the
node adopt a stripe and the first write of that is made. In that case the node and its record have
the stripe, and nothing else is different. -/
theorem refused_unchanged_iff (faithful : persistor.Faithful record) (node : Node Store)
    (operation : NodeOperation) (fault : ClusterFault)
    (refused : (node.carryOut persistor operation).1 = .error fault) :
    (node.Same record (node.carryOut persistor operation).2 ↔
        ∀ id, ¬ node.Begins persistor operation id) ∧
      ∀ id, node.Begins persistor operation id →
        node.Named record id (node.carryOut persistor operation).2 := by
  have does := node.does_carryOut persistor operation
  have step : node.carryOut persistor operation =
      (.error fault, (node.carryOut persistor operation).2) := Prod.ext refused rfl
  rw [step] at does
  rcases does.of_error faithful with ⟨unbegun, same⟩ | ⟨id, begins, named⟩
  · exact ⟨⟨fun _ => unbegun, fun _ => same⟩, fun id begins => absurd begins (unbegun id)⟩
  · have unnamed := stripeId_of_adoption begins.1
    refine ⟨⟨fun same => absurd same (named.not_same unnamed),
      fun unbegun => absurd begins (unbegun id)⟩, fun other also => ?_⟩
    have adoption := also.1
    rw [begins.1] at adoption
    cases adoption
    exact named

/-- An adoption whose registration fails is refused, and the node has the stripe nevertheless. -/
theorem interrupted_adoption :
    let store : Persistor.Impaired ClusterRecord := ⟨.withGroupId .fresh ⟨1⟩, (· == .setStripeMap)⟩
    let node : Node (Persistor.Impaired ClusterRecord) :=
      ⟨⟨1⟩, none, .zero, .empty, .uninitialized, ⟨.empty⟩, store⟩
    let step := node.carryOut Persistor.memory.impaired (.setStripeId ⟨⟨170⟩⟩)
    step.1 = .error (.persist (Persistor.outOfOrder .setStripeMap)) ∧
      ¬ node.Same (·.store) step.2 ∧ node.Named (·.store) ⟨⟨170⟩⟩ step.2 := by
  intro store node step
  have begins : node.Begins Persistor.memory.impaired (.setStripeId ⟨⟨170⟩⟩) ⟨⟨170⟩⟩ :=
    ⟨rfl, rfl, rfl⟩
  have outcome := refused_unchanged_iff (Persistor.faithful_impaired Persistor.faithful_memory)
    node (.setStripeId ⟨⟨170⟩⟩) (.persist (Persistor.outOfOrder .setStripeMap)) rfl
  exact ⟨rfl, fun same => outcome.1.mp same _ begins, outcome.2 _ begins⟩

end Node
end Standby
