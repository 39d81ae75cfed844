import Standby.Cluster.Operation
import Standby.Proofs.Cluster.Persistence

/-!
# What a node does with one operation

`Registry.Verifies` lists what can become of a registration, and `Node.Does` what can become of an
operation of a node, each case with its guards, the answer and the node after it. A node does one
of these with every operation (`Node.does_carryOut`), so an invariant of nodes is proved by going
through the two lists. The writes that a case makes are named in it, and what they do to the record
of a store follows from `Persistor.Faithful`.
-/
namespace Standby

variable {Store : Type} {persistor : Persistor Store}

/-- The outcomes of a registration, with the registry and the store after it. -/
inductive Registry.Verifies (persistor : Persistor Store) (registry : Registry) (group : GroupId)
    (stripe : StripeId) (store : Store) : Except ClusterFault Unit × Registry × Store → Prop where
  /-- The group has the stripe. -/
  | confirmed (known : registry.stripeOf group = some stripe) :
      Verifies persistor registry group stripe store (.ok (), registry, store)
  /-- The group has another stripe. -/
  | conflicting {existing : StripeId} (known : registry.stripeOf group = some existing)
      (differs : existing ≠ stripe) : Verifies persistor registry group stripe store
        (.error (.stripeConflict group existing stripe), registry, store)
  /-- The group has no stripe, and the write fails. -/
  | unwritten {fault : PersistFault} {after : Store} (unknown : registry.stripeOf group = none)
      (failed : persistor.setStripeMap (registry.map.insert group stripe) store =
        (.error fault, after)) :
      Verifies persistor registry group stripe store (.error (.persist fault), registry, after)
  /-- The group had no stripe and gets this one. -/
  | written {after : Store} (unknown : registry.stripeOf group = none)
      (made : persistor.setStripeMap (registry.map.insert group stripe) store = (.ok (), after)) :
      Verifies persistor registry group stripe store
        (.ok (), ⟨registry.map.insert group stripe⟩, after)

/-- A registration has one of the listed outcomes. -/
theorem Registry.verifies (registry : Registry) (persistor : Persistor Store) (group : GroupId)
    (stripe : StripeId) (store : Store) : registry.Verifies persistor group stripe store
      (registry.verifyOrSave persistor group stripe store) := by
  unfold verifyOrSave
  split
  · rename_i existing known
    split
    · rename_i same
      exact .confirmed (same ▸ known)
    · rename_i differs
      exact .conflicting known differs
  · rename_i unknown
    dsimp only
    split
    · rename_i fault after failed
      exact .unwritten unknown failed
    · rename_i after made
      exact .written unknown made

/-- A registration changes nothing, or the group had no stripe and has this one in the registry and
in the record. -/
theorem Registry.Verifies.effect {record : Store → ClusterRecord}
    (faithful : persistor.Faithful record) {registry later : Registry} {group : GroupId}
    {stripe : StripeId} {store after : Store} {result : Except ClusterFault Unit}
    (verified : registry.Verifies persistor group stripe store (result, later, after)) :
    later = registry ∧ record after = record store ∨
      result = .ok () ∧ registry.stripeOf group = none ∧
        later = ⟨registry.map.insert group stripe⟩ ∧
        record after = (record store).withStripeMap (registry.map.insert group stripe) := by
  have wrote := faithful.setStripeMap (registry.map.insert group stripe) store
  cases verified with
  | confirmed known => exact .inl ⟨rfl, rfl⟩
  | conflicting known differs => exact .inl ⟨rfl, rfl⟩
  | unwritten unknown failed =>
    rw [failed] at wrote
    exact .inl ⟨rfl, wrote⟩
  | written unknown made =>
    rw [made] at wrote
    exact .inr ⟨rfl, unknown, rfl, wrote⟩

/-- An operation that writes nothing and answers in every state: it is about the channels and the
connected clients alone. -/
def NodeOperation.isUnwritten : NodeOperation → Bool
  | .nextChannel => true
  | .allocateChannel => true
  | .observeChannel _ => true
  | .setNextChannel _ => true
  | .connect _ => true
  | .disconnect _ => true
  | _ => false

namespace Node

variable {node : Node Store}

/-- The stripe that an operation makes a node adopt which has none. -/
def adoption? (node : Node Store) (operation : NodeOperation) : Option StripeId :=
  match node.stripeId, operation with
  | none, .setStripeId id => some id
  | none, .adoptHint hint => hint
  | none, .assignStripe fresh => if node.state.isStandby then none else some fresh
  | _, _ => none

/-- A node that adopts a stripe has none. -/
theorem stripeId_of_adoption {operation : NodeOperation} {id : StripeId}
    (adoption : node.adoption? operation = some id) : node.stripeId = none := by
  unfold adoption? at adoption
  split at adoption
  · assumption
  · assumption
  · assumption
  · cases adoption

/-- What a node answers once it has adopted a stripe. -/
def adoptionReply : NodeOperation → NodeReply
  | .assignStripe fresh => .stripe fresh
  | _ => .written

/-- The outcomes of an adoption, with the node after it. -/
inductive Adopts (persistor : Persistor Store) (node : Node Store) (id : StripeId) :
    Except ClusterFault Unit × Node Store → Prop where
  /-- The group of the node has another stripe. -/
  | barred {fault : ClusterFault} (conflict : node.checkRegistry id = .error fault) :
      Adopts persistor node id (.error fault, node)
  /-- The stripe is not written. -/
  | unwritten {fault : PersistFault} {after : Store} (admitted : node.checkRegistry id = .ok ())
      (failed : persistor.setStripeId id node.store = (.error fault, after)) :
      Adopts persistor node id (.error (.persist fault), { node with store := after })
  /-- The stripe is written, and a node without a group registers none. -/
  | groupless {after : Store} (admitted : node.checkRegistry id = .ok ())
      (made : persistor.setStripeId id node.store = (.ok (), after))
      (groupless : node.group.isNull = true) :
      Adopts persistor node id (.ok (), { node with store := after, stripeId := some id })
  /-- The stripe is written and then registered, which may fail. -/
  | registered {written store : Store} {result : Except ClusterFault Unit} {registry : Registry}
      (admitted : node.checkRegistry id = .ok ())
      (made : persistor.setStripeId id node.store = (.ok (), written))
      (real : node.group.isNull = false)
      (verified :
        node.registry.Verifies persistor node.group id written (result, registry, store)) :
      Adopts persistor node id (result, { node with stripeId := some id, registry, store })

/-- An adoption has one of the listed outcomes. -/
theorem adopts_adopt (node : Node Store) (persistor : Persistor Store) (id : StripeId) :
    node.Adopts persistor id (adopt persistor id node) := by
  unfold adopt
  split
  · rename_i fault conflict
    exact .barred conflict
  · rename_i admitted
    split
    · rename_i fault after failed
      exact .unwritten admitted failed
    · rename_i written made
      cases null : node.group.isNull with
      | true =>
        have unregistered :
            register persistor id { node with store := written, stripeId := some id } =
              (.ok (), { node with store := written, stripeId := some id }) := if_pos null
        rw [unregistered]
        exact .groupless admitted made null
      | false =>
        have verified := node.registry.verifies persistor node.group id written
        have registers : register persistor id { node with store := written, stripeId := some id } =
            ((node.registry.verifyOrSave persistor node.group id written).1,
              { node with
                stripeId := some id
                registry := (node.registry.verifyOrSave persistor node.group id written).2.1
                store := (node.registry.verifyOrSave persistor node.group id written).2.2 }) :=
          if_neg (by simp [null])
        rw [registers]
        exact .registered admitted made null verified

/-- The outcomes of an operation of a node, with the node after it. -/
inductive Does (persistor : Persistor Store) (node : Node Store) :
    NodeOperation → Except ClusterFault NodeReply × Node Store → Prop where
  /-- Nothing is hinted at. -/
  | unhinted : Does persistor node (.adoptHint none) (.ok .written, node)
  /-- The node has the stripe that it is to adopt. -/
  | known {operation : NodeOperation} {id : StripeId} (named : node.stripeId = some id)
      (asked : operation = .setStripeId id ∨ operation = .adoptHint (some id)) :
      Does persistor node operation (.ok .written, node)
  /-- The node has another stripe than it is to adopt. -/
  | mismatched {operation : NodeOperation} {current id : StripeId}
      (named : node.stripeId = some current) (differs : current ≠ id)
      (asked : operation = .setStripeId id ∨ operation = .adoptHint (some id)) :
      Does persistor node operation (.error (.stripeMismatch current id), node)
  /-- A standby node is to make a stripe. -/
  | standby {fresh : StripeId} (waits : node.state.isStandby = true) :
      Does persistor node (.assignStripe fresh) (.error (.stripeAssignment node.state), node)
  /-- The node has a stripe and makes none. -/
  | assigned {fresh id : StripeId} (serves : node.state.isStandby = false)
      (named : node.stripeId = some id) :
      Does persistor node (.assignStripe fresh) (.ok (.stripe id), node)
  /-- The node adopts a stripe. -/
  | adopted {operation : NodeOperation} {id : StripeId} {result : Except ClusterFault Unit}
      {after : Node Store} (adoption : node.adoption? operation = some id)
      (adopts : node.Adopts persistor id (result, after)) :
      Does persistor node operation (result.map fun _ => adoptionReply operation, after)
  /-- The stripe of a group is registered. -/
  | registered {group : GroupId} {stripe : StripeId} {result : Except ClusterFault Unit}
      {registry : Registry} {store : Store}
      (verified : node.registry.Verifies persistor group stripe node.store
        (result, registry, store)) :
      Does persistor node (.addToStripeMap group stripe)
        (result.map fun _ => .written, { node with registry, store })
  /-- The state is not written. -/
  | unmoved {state : LifecycleState} {fault : PersistFault} {after : Store}
      (failed : persistor.setCurrentState state node.connections node.store =
        (.error fault, after)) :
      Does persistor node (.transition state)
        (.error (.persist fault), { node with store := after })
  /-- The state is written with the connected clients. -/
  | moved {state : LifecycleState} {after : Store}
      (made : persistor.setCurrentState state node.connections node.store = (.ok (), after)) :
      Does persistor node (.transition state) (.ok .written, { node with store := after, state })
  /-- The channels and the connected clients alone are concerned. -/
  | noted {operation : NodeOperation} {reply : NodeReply} {nextChannel : ChannelId}
      {connections : SortedSet ConnectionId} (unwritten : operation.isUnwritten = true) :
      Does persistor node operation (.ok reply, { node with nextChannel, connections })
  /-- The bookkeeping of clients is told what it needs to know. -/
  | seeded : Does persistor node .channelSeed (node.channelSeed.map .seed, node)

/-- A node that is to adopt a stripe has it, has another one, or adopts it. -/
theorem does_setStripeId {operation : NodeOperation} {id : StripeId}
    (asked : operation = .setStripeId id ∨ operation = .adoptHint (some id)) :
    node.Does persistor operation
      ((node.setStripeId persistor id).1.map fun _ => .written,
        (node.setStripeId persistor id).2) := by
  cases named : node.stripeId with
  | none =>
    have adoption : node.adoption? operation = some id := by
      rcases asked with rfl | rfl <;> simp only [adoption?, named]
    have reply : adoptionReply operation = .written := by rcases asked with rfl | rfl <;> rfl
    have adopts : node.setStripeId persistor id = adopt persistor id node := by
      simp only [setStripeId, named]
    rw [adopts, ← reply]
    exact .adopted adoption (node.adopts_adopt persistor id)
  | some current =>
    by_cases same : current = id
    · have kept : node.setStripeId persistor id = (.ok (), node) := by
        simp only [setStripeId, named, if_pos same]
      rw [kept]
      exact .known (same ▸ named) asked
    · have refused : node.setStripeId persistor id =
          (.error (.stripeMismatch current id), node) := by
        simp only [setStripeId, named, if_neg same]
      rw [refused]
      exact .mismatched named same asked

/-- A node that is to have a stripe has one, makes none while it is a standby, or adopts the
fresh one. -/
theorem does_assignStripe (node : Node Store) (fresh : StripeId) :
    node.Does persistor (.assignStripe fresh) (node.carryOut persistor (.assignStripe fresh)) := by
  cases waits : node.state.isStandby with
  | true =>
    have refused : node.carryOut persistor (.assignStripe fresh) =
        (.error (.stripeAssignment node.state), node) := by
      simp only [carryOut, assignStripeIfAbsent, waits, ↓reduceIte, Except.map]
    rw [refused]
    exact .standby waits
  | false =>
    cases named : node.stripeId with
    | some id =>
      have kept : node.carryOut persistor (.assignStripe fresh) = (.ok (.stripe id), node) := by
        simp [carryOut, assignStripeIfAbsent, waits, named, Except.map]
      rw [kept]
      exact .assigned waits named
    | none =>
      have adoption : node.adoption? (.assignStripe fresh) = some fresh := by
        simp [adoption?, named, waits]
      have adopts := node.adopts_adopt persistor fresh
      have assigned : node.carryOut persistor (.assignStripe fresh) =
          ((adopt persistor fresh node).1.map fun _ => .stripe fresh,
            (adopt persistor fresh node).2) := by
        simp only [carryOut, assignStripeIfAbsent, waits, named, Bool.false_eq_true, ↓reduceIte]
        rcases adopt persistor fresh node with ⟨_ | _, _⟩ <;> rfl
      rw [assigned]
      exact .adopted adoption adopts

/-- A node does one of the listed things with every operation. -/
theorem does_carryOut (node : Node Store) (persistor : Persistor Store)
    (operation : NodeOperation) :
    node.Does persistor operation (node.carryOut persistor operation) := by
  cases operation with
  | adoptHint hint =>
    cases hint with
    | none => exact .unhinted
    | some id => exact does_setStripeId (.inr rfl)
  | setStripeId id => exact does_setStripeId (.inl rfl)
  | assignStripe fresh => exact does_assignStripe node fresh
  | addToStripeMap group stripe =>
    exact .registered (node.registry.verifies persistor group stripe node.store)
  | transition state =>
    simp only [carryOut, transitionTo]
    split
    · rename_i fault after failed
      exact .unmoved failed
    · rename_i after made
      exact .moved made
  | nextChannel => exact .noted rfl
  | allocateChannel => exact .noted rfl
  | observeChannel channel => exact .noted rfl
  | setNextChannel next =>
    simp only [carryOut, setNextChannel]
    split
    · exact .noted rfl
    · exact .noted rfl
  | connect connection => exact .noted rfl
  | disconnect connection => exact .noted rfl
  | channelSeed => exact .seeded

/-- An adoption that is answered without a fault gave the node and its record the stripe. -/
theorem Adopts.of_ok {record : Store → ClusterRecord} (faithful : persistor.Faithful record)
    {id : StripeId} {after : Node Store} (adopts : node.Adopts persistor id (.ok (), after)) :
    after.stripeId = some id ∧ (record after.store).stripeId = some id := by
  have wrote := faithful.setStripeId id node.store
  cases adopts with
  | groupless admitted made null =>
    rw [made] at wrote
    exact ⟨rfl, congrArg ClusterRecord.stripeId wrote⟩
  | @registered written store _ registry admitted made real verified =>
    rw [made] at wrote
    have named : (record written).stripeId = some id := congrArg ClusterRecord.stripeId wrote
    refine ⟨rfl, ?_⟩
    rcases verified.effect faithful with ⟨-, kept⟩ | ⟨-, -, -, listed⟩
    · exact (congrArg ClusterRecord.stripeId kept).trans named
    · exact (congrArg ClusterRecord.stripeId listed).trans named

/-- A node that is told a stripe without a fault has it, and so has its record, if the record had
the stripe that the node had before. -/
theorem stripeId_of_setStripeId {record : Store → ClusterRecord}
    (faithful : persistor.Faithful record) {id : StripeId} {after : Node Store}
    (told : node.setStripeId persistor id = (.ok (), after)) :
    after.stripeId = some id ∧
      ((record node.store).stripeId = node.stripeId →
        (record after.store).stripeId = some id) := by
  unfold setStripeId at told
  split at told
  · rename_i current named
    split at told
    · rename_i same
      cases told
      exact ⟨same ▸ named, fun recorded => recorded.trans (same ▸ named)⟩
    · cases told
  · have adopts := node.adopts_adopt persistor id
    rw [told] at adopts
    obtain ⟨stripe, recorded⟩ := adopts.of_ok faithful
    exact ⟨stripe, fun _ => recorded⟩

end Node
end Standby
