import Standby.Proofs.Cluster.Tenancy

/-!
# What is in memory and what is recorded

A node says of itself what its record says: it gets a stripe, a state or the stripe of a group when
that was written and at no other time. The connected clients are the exception. The record has those
that were connected when the state was last written, or those that were loaded if it was not written
since. A history of a node carries this set along (`Tenancy.Saved`), and the main statement
(`Tenancy.memory_is_recorded`) says of every history that node and record agree, so that a node that
is let go of and opened again is the same in all of this.
-/
namespace Standby

variable {Store : Type} {persistor : Persistor Store} {record : Store → ClusterRecord}

namespace ClusterRecord

/-- The state of the node, and the clients that were connected when it was written. -/
def standing (record : ClusterRecord) : LifecycleState × SortedSet ConnectionId :=
  (record.state, record.connections)

/-- The stripe of a record has no part in its standing. -/
@[simp] theorem standing_withStripeId (record : ClusterRecord) (id : StripeId) :
    (record.withStripeId id).standing = record.standing := rfl

/-- The group of a record has no part in its standing. -/
@[simp] theorem standing_withGroupId (record : ClusterRecord) (group : GroupId) :
    (record.withGroupId group).standing = record.standing := rfl

/-- The map of stripes has no part in the standing of a record. -/
@[simp] theorem standing_withStripeMap (record : ClusterRecord)
    (map : SortedMap GroupId StripeId) :
    (record.withStripeMap map).standing = record.standing := rfl

/-- The standing of a record is its state with the connections. -/
@[simp] theorem standing_withState (record : ClusterRecord) (state : LifecycleState)
    (connections : SortedSet ConnectionId) :
    (record.withState state connections).standing = (state, connections) := rfl

end ClusterRecord

namespace Node

variable {node after : Node Store} {operation : NodeOperation}

/-- The connected clients that an operation writes. -/
def saved? (persistor : Persistor Store) (operation : NodeOperation) (node : Node Store) :
    Option (SortedSet ConnectionId) :=
  match operation, (node.carryOut persistor operation).1 with
  | .transition _, .ok _ => some node.connections
  | _, _ => none

/-- The recorded state and clients stay, and so does the state of the node. -/
structure Stands (record : Store → ClusterRecord) (node after : Node Store) : Prop where
  state : after.state = node.state
  standing : (record after.store).standing = (record node.store).standing

/-- A node stands as it does. -/
theorem Stands.refl (node : Node Store) : node.Stands record node := ⟨rfl, rfl⟩

/-- An adoption concerns the stripe alone. -/
theorem Adopts.stands (faithful : persistor.Faithful record) {id : StripeId}
    {result : Except ClusterFault Unit} (adopts : node.Adopts persistor id (result, after)) :
    node.Stands record after := by
  have wrote := faithful.setStripeId id node.store
  cases adopts with
  | barred conflict => exact .refl node
  | unwritten admitted failed =>
    rw [failed] at wrote
    exact ⟨rfl, congrArg ClusterRecord.standing wrote⟩
  | @groupless written admitted made null =>
    rw [made] at wrote
    have named : record written = (record node.store).withStripeId id := wrote
    refine ⟨rfl, ?_⟩
    rw [named, ClusterRecord.standing_withStripeId]
  | @registered written store _ registry admitted made real verified =>
    rw [made] at wrote
    have named : record written = (record node.store).withStripeId id := wrote
    refine ⟨rfl, ?_⟩
    rcases verified.effect faithful with ⟨-, kept⟩ | ⟨-, -, -, listed⟩
    · rw [kept, named, ClusterRecord.standing_withStripeId]
    · rw [listed, named, ClusterRecord.standing_withStripeMap, ClusterRecord.standing_withStripeId]

/-- An operation leaves the recorded state and clients and the state of the node alone, or it is a
move to a state, which is written with the connected clients of the moment and then current. -/
theorem Does.stands (faithful : persistor.Faithful record)
    {outcome : Except ClusterFault NodeReply × Node Store}
    (does : node.Does persistor operation outcome) :
    ((∀ state reply, operation = .transition state → outcome.1 ≠ .ok reply) ∧
        node.Stands record outcome.2) ∨
      ∃ state, operation = .transition state ∧ outcome.1 = .ok .written ∧
        outcome.2.state = state ∧
        (record outcome.2.store).standing = (state, node.connections) := by
  cases does with
  | adopted adoption adopts =>
    refine .inl ⟨fun state _ asked => ?_, adopts.stands faithful⟩
    rw [asked] at adoption
    simp [adoption?] at adoption
  | registered verified =>
    refine .inl ⟨fun _ _ moved => (by cases moved), rfl, ?_⟩
    rcases verified.effect faithful with ⟨-, kept⟩ | ⟨-, -, -, listed⟩
    · exact congrArg ClusterRecord.standing kept
    · rw [listed, ClusterRecord.standing_withStripeMap]
  | @unmoved state fault store failed =>
    have kept := faithful.setCurrentState state node.connections node.store
    rw [failed] at kept
    exact .inl ⟨fun _ _ _ answer => (by cases answer), rfl, congrArg ClusterRecord.standing kept⟩
  | @moved state store made =>
    have wrote := faithful.setCurrentState state node.connections node.store
    rw [made] at wrote
    have wrote : record store = (record node.store).withState state node.connections := wrote
    refine .inr ⟨state, rfl, rfl, rfl, ?_⟩
    rw [wrote, ClusterRecord.standing_withState]
  | known named asked =>
    refine .inl ⟨fun state _ moved => ?_, .refl node⟩
    rw [moved] at asked
    simp at asked
  | noted unwritten =>
    refine .inl ⟨fun state _ moved => ?_, rfl, rfl⟩
    rw [moved] at unwritten
    cases unwritten
  | mismatched named differs asked =>
    exact .inl ⟨fun _ _ _ answer => (by cases answer), .refl node⟩
  | _ => exact .inl ⟨fun _ _ moved => (by cases moved), .refl node⟩

end Node

namespace Tenancy

/-- The connected clients of the node that is open, if one is. -/
def clients? : Tenancy Store → Option (SortedSet ConnectionId)
  | vacant _ => none
  | occupied node => some node.connections

/-- The histories that begin with a store, with the connected clients that were written or loaded
last. -/
inductive Saved (persistor : Persistor Store) (record : Store → ClusterRecord) (first : Store) :
    Tenancy Store → SortedSet ConnectionId → Prop where
  /-- No node was opened yet. -/
  | start : Saved persistor record first (vacant first) (record first).connections
  /-- The node carries an operation out, which may write its connected clients. -/
  | operate {node : Node Store} {saved : SortedSet ConnectionId} (operation : NodeOperation)
      (earlier : Saved persistor record first (occupied node) saved) :
      Saved persistor record first (occupied (node.carryOut persistor operation).2)
        ((node.saved? persistor operation).getD saved)
  /-- The node is let go of. -/
  | leave {node : Node Store} {saved : SortedSet ConnectionId}
      (earlier : Saved persistor record first (occupied node) saved) :
      Saved persistor record first (vacant node.store) saved
  /-- A node is opened, whose connected clients are loaded. -/
  | reopen {tenancy : Tenancy Store} {saved : SortedSet ConnectionId} (group : GroupId)
      (firstChannel : ChannelId) (earlier : Saved persistor record first tenancy saved) :
      Saved persistor record first (tenancy.opened persistor group firstChannel)
        ((tenancy.opened persistor group firstChannel).clients?.getD saved)
  /-- The store fails in other ways than before. -/
  | stir {tenancy : Tenancy Store} {saved : SortedSet ConnectionId} {store : Store}
      (same : record store = record tenancy.store)
      (earlier : Saved persistor record first tenancy saved) :
      Saved persistor record first (tenancy.withStore store) saved

variable {first : Store} {tenancy : Tenancy Store} {saved : SortedSet ConnectionId}

/-- The histories lead to what a tenancy can become, and to all of it. -/
theorem exists_saved_iff : (∃ saved, Saved persistor record first tenancy saved) ↔
    Reaches persistor record (vacant first) tenancy := by
  constructor
  · rintro ⟨saved, history⟩
    induction history with
    | start => exact .refl
    | operate operation _ ih => exact ih.tail (.operate _ operation)
    | leave _ ih => exact ih.tail (.leave _)
    | reopen group firstChannel _ ih => exact ih.tail (.reopen _ group firstChannel)
    | stir same _ ih => exact ih.tail (.stir _ same)
  · intro reached
    induction reached with
    | refl => exact ⟨_, .start⟩
    | tail _ step ih =>
      obtain ⟨saved, earlier⟩ := ih
      cases step with
      | operate node operation => exact ⟨_, .operate operation earlier⟩
      | leave node => exact ⟨_, .leave earlier⟩
      | reopen _ group firstChannel => exact ⟨_, .reopen group firstChannel earlier⟩
      | stir _ same => exact ⟨_, .stir same earlier⟩

/-- The state of the node that is open is the recorded one. -/
def InStep (record : Store → ClusterRecord) (tenancy : Tenancy Store) : Prop :=
  ∀ node, tenancy = occupied node → (record node.store).state = node.state

/-- A node that is opened is the one that its record describes. -/
theorem eq_of_opened (faithful : persistor.Faithful record) {group : GroupId}
    {firstChannel : ChannelId} {node : Node Store}
    (opens : tenancy.opened persistor group firstChannel = occupied node) :
    node = Node.ofRecord (record node.store) group node.nextChannel node.store := by
  unfold opened at opens
  split at opens
  · rename_i found store answer
    cases opens
    exact Node.eq_of_openNode faithful answer
  · cases opens

/-- Opening a node leaves the recorded state and clients alone. -/
theorem standing_opened (faithful : persistor.Faithful record) (tenancy : Tenancy Store)
    (group : GroupId) (firstChannel : ChannelId) :
    (record (tenancy.opened persistor group firstChannel).store).standing =
      (record tenancy.store).standing := by
  rcases (opened_effect faithful tenancy group firstChannel).2 with kept | ⟨-, -, joined⟩
  · rw [kept]
  · rw [joined, ClusterRecord.standing_withGroupId]

/-- In every history the recorded clients are those that were written or loaded last, and the node
that is open has the recorded state. -/
theorem Saved.recorded (faithful : persistor.Faithful record)
    (history : Saved persistor record first tenancy saved) :
    (record tenancy.store).connections = saved ∧ tenancy.InStep record := by
  induction history with
  | start => exact ⟨rfl, nofun⟩
  | @operate node saved operation earlier ih =>
    obtain ⟨clients, inStep⟩ := ih
    have current : (record node.store).state = node.state := inStep node rfl
    rcases (node.does_carryOut persistor operation).stands faithful with
      ⟨still, stands⟩ | ⟨state, rfl, answer, moved, wrote⟩
    · have unsaved : node.saved? persistor operation = none := by
        unfold Node.saved?
        split
        · rename_i state reply answer
          exact absurd answer (still state reply rfl)
        · rfl
      rw [unsaved]
      refine ⟨(congrArg Prod.snd stands.standing).trans clients, fun other same => ?_⟩
      cases same
      rw [stands.state, ← current]
      exact congrArg Prod.fst stands.standing
    · have saves : node.saved? persistor (.transition state) = some node.connections := by
        simp only [Node.saved?, answer]
      rw [saves]
      refine ⟨congrArg Prod.snd wrote, fun other same => ?_⟩
      cases same
      rw [moved]
      exact congrArg Prod.fst wrote
  | leave earlier ih => exact ⟨ih.1, nofun⟩
  | @reopen tenancy saved group firstChannel earlier ih =>
    have kept := standing_opened faithful tenancy group firstChannel
    cases opens : tenancy.opened persistor group firstChannel with
    | vacant store =>
      rw [opens] at kept
      exact ⟨(congrArg Prod.snd kept).trans ih.1, nofun⟩
    | occupied node =>
      -- What is loaded is what is recorded.
      have described := eq_of_opened faithful opens
      refine ⟨(congrArg Node.connections described).symm, fun other same => ?_⟩
      cases same
      exact (congrArg Node.state described).symm
  | @stir tenancy saved store same earlier ih =>
    obtain ⟨clients, inStep⟩ := ih
    cases tenancy with
    | vacant old => exact ⟨(congrArg ClusterRecord.connections same).trans clients, nofun⟩
    | occupied node =>
      refine ⟨(congrArg ClusterRecord.connections same).trans clients, fun other open? => ?_⟩
      cases open?
      exact (congrArg ClusterRecord.state same).trans (inStep node rfl)

/-- A node that is open has the stripe, the state, the group and the stripes of groups that its
record has. Every history that leads to it has an account of the connected clients, and the recorded
ones are those that were written or loaded last in it. So, while the record can be read, it reads
back as this, and a node that is let go of and opened again for the same group is the same, without
a write, but for the clients that were not written. -/
theorem memory_is_recorded (faithful : persistor.Faithful record) (first : Store)
    (node : Node Store) (reached : Reaches persistor record (vacant first) (occupied node)) :
    ((record node.store).stripeId = node.stripeId ∧ (record node.store).state = node.state ∧
      (record node.store).groupId = node.group ∧
      (record node.store).stripeMap = node.registry.map) ∧
    (∃ saved, Saved persistor record first (occupied node) saved) ∧
    ∀ saved, Saved persistor record first (occupied node) saved →
      (record node.store).connections = saved ∧
      (persistor.Answers record node.store →
        persistor.snapshot node.store = .ok
          ⟨node.stripeId, node.group, node.state, saved,
            ClusterRecord.entriesOf node.registry.map⟩ ∧
        ∀ firstChannel, ∃ nextChannel,
          Node.openNode persistor node.group firstChannel node.store =
            (.ok { node with nextChannel, connections := saved }, node.store)) := by
  have start : (vacant first).Mirrors record := nofun
  have mirrors : node.Mirrors record := Reaches.mirrors faithful reached start node rfl
  obtain ⟨account, history⟩ := exists_saved_iff.mpr reached
  have state : (record node.store).state = node.state := (history.recorded faithful).2 node rfl
  have stripe : (record node.store).stripeId = node.stripeId := congrArg Allegiance.stripe mirrors
  have group : (record node.store).groupId = node.group := congrArg Allegiance.group mirrors
  have map : (record node.store).stripeMap = node.registry.map := congrArg Allegiance.map mirrors
  refine ⟨⟨stripe, state, group, map⟩, ⟨account, history⟩, fun saved told => ?_⟩
  have clients : (record node.store).connections = saved := (told.recorded faithful).1
  refine ⟨clients, fun answers => ⟨?_, fun firstChannel => ?_⟩⟩
  · unfold Persistor.snapshot
    rw [answers.stripeId, answers.groupId, answers.currentState, answers.connections,
      answers.stripeMap, stripe, group, state, clients, map]
    rfl
  · obtain ⟨nextChannel, opens⟩ := Node.openNode_of_own answers group firstChannel
    refine ⟨nextChannel, opens.trans ?_⟩
    rw [Node.ofRecord, stripe, state, map, clients]

/-- A client that went after the state was written is still recorded, also when the state could not
be written since, and it comes back when the node is opened again. -/
theorem departed_client_is_recorded :
    let client : ConnectionId := ⟨"jvm-a", ⟨4⟩⟩
    let persistor : Persistor (Persistor.Impaired ClusterRecord) := Persistor.memory.impaired
    let first : Persistor.Impaired ClusterRecord := ⟨.fresh, fun _ => false⟩
    let unsaved : Node (Persistor.Impaired ClusterRecord) :=
      ⟨⟨1⟩, none, ⟨5⟩, .ofList [client], .uninitialized, ⟨.empty⟩,
        ⟨ClusterRecord.fresh.withGroupId ⟨1⟩, fun _ => false⟩⟩
    let written := (unsaved.carryOut persistor (.transition .passive)).2
    let left := (written.carryOut persistor (.disconnect client)).2
    let troubled : Node (Persistor.Impaired ClusterRecord) :=
      { left with store := { left.store with failing := (· == .setCurrentState) } }
    let node := (troubled.carryOut persistor (.transition .active)).2
    Reaches persistor (·.store) (vacant first) (occupied node) ∧
      node.connections = .empty ∧ node.state = .passive ∧
      Saved persistor (·.store) first (occupied node) (.ofList [client]) ∧
      node.store.store.connections = .ofList [client] ∧ node.store.store.state = .passive ∧
      ∃ nextChannel, Node.openNode persistor node.group .zero node.store =
        (.ok { node with nextChannel, connections := .ofList [client] }, node.store) := by
  intro client persistor first unsaved written left troubled node
  let opened : Node (Persistor.Impaired ClusterRecord) :=
    ⟨⟨1⟩, none, .zero, .empty, .uninitialized, ⟨.empty⟩,
      ⟨ClusterRecord.fresh.withGroupId ⟨1⟩, fun _ => false⟩⟩
  have opens : Saved persistor (·.store) first (occupied opened) .empty :=
    .reopen ⟨1⟩ .zero .start
  have connects : Saved persistor (·.store) first (occupied unsaved) .empty :=
    .operate (.connect client) opens
  have writes : Saved persistor (·.store) first (occupied written) (.ofList [client]) :=
    .operate (.transition .passive) connects
  have leaves : Saved persistor (·.store) first (occupied left) (.ofList [client]) :=
    .operate (.disconnect client) writes
  have same : troubled.store.store = (occupied left).store.store := rfl
  have breaks : Saved persistor (·.store) first (occupied troubled) (.ofList [client]) :=
    .stir same leaves
  have history : Saved persistor (·.store) first (occupied node) (.ofList [client]) :=
    .operate (.transition .active) breaks
  have reached := exists_saved_iff.mp ⟨_, history⟩
  obtain ⟨⟨-, state, -, -⟩, -, recorded⟩ := memory_is_recorded
    (Persistor.faithful_impaired Persistor.faithful_memory) first node reached
  obtain ⟨clients, readable⟩ := recorded _ history
  -- Only the write of the state is out of order.
  have inOrder : ∀ method ∈
      [Persistor.Method.stripeId, .groupId, .currentState, .connections, .stripeMap],
      node.store.failing method = false := by decide
  have answers : persistor.Answers (·.store) node.store :=
    Persistor.answers_impaired (Persistor.answers_ofRecord id _ node.store.store) inOrder
  obtain ⟨-, reopens⟩ := readable answers
  exact ⟨reached, by decide, rfl, history, clients, state, reopens .zero⟩

end Tenancy
end Standby
