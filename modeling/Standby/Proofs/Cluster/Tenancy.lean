import Mathlib.Logic.Relation
import Standby.Proofs.Cluster.Opening
import Standby.Proofs.Cluster.Transition

/-!
# Nodes that come and go

The record of a node outlives the node: it is let go of and opened again, under any group that the
opening accepts, while writes fail or not. A tenancy is a store with the node that is open on it,
and `Tenancy.Step` is everything that can become of it. What a node says of its stripe, of its group
and of the stripes of groups is what its record says (`Reaches.mirrors`), and once something of this
is known it stays known (`Reaches.extends`).
-/
namespace Standby

variable {Store : Type} {persistor : Persistor Store} {record : Store → ClusterRecord}

/-- Which stripe and which group a node belongs to, and what it knows of the stripes of groups. -/
structure Allegiance where
  stripe : Option StripeId
  group : GroupId
  map : SortedMap GroupId StripeId

namespace Allegiance

/-- What one allegiance fixes is fixed in the other one in the same way. -/
structure Extends (before after : Allegiance) : Prop where
  stripe : ∀ id, before.stripe = some id → after.stripe = some id
  group : before.group.isNull = false → after.group = before.group
  map : ∀ group id, before.map.get? group = some id → after.map.get? group = some id

/-- An allegiance extends itself. -/
theorem Extends.refl (allegiance : Allegiance) : allegiance.Extends allegiance :=
  ⟨fun _ => id, fun _ => rfl, fun _ _ => id⟩

/-- What extends an allegiance is extended in turn. -/
theorem Extends.trans {first second third : Allegiance} (early : first.Extends second)
    (late : second.Extends third) : first.Extends third where
  stripe id named := late.stripe id (early.stripe id named)
  group real := by
    have same := early.group real
    rw [late.group (same ▸ real), same]
  map group id listed := late.map group id (early.map group id listed)

end Allegiance

/-- A listed group is found, and every other group is found as before. -/
theorem Registry.get?_insert (map : SortedMap GroupId StripeId) (group sought : GroupId)
    (stripe : StripeId) : (map.insert group stripe).get? sought =
      if sought = group then some stripe else map.get? sought := by
  rw [SortedMap.get?_insert]
  by_cases same : sought = group
  · rw [if_pos (Std.LawfulEqOrd.compare_eq_iff_eq.mpr same), if_pos same]
  · rw [if_neg (mt Std.LawfulEqOrd.compare_eq_iff_eq.mp same), if_neg same]

/-- A group that had no stripe is listed without a change to another group. -/
theorem Registry.extends_insert {map : SortedMap GroupId StripeId} {group known : GroupId}
    {stripe id : StripeId} (unlisted : map.get? group = none)
    (listed : map.get? known = some id) : (map.insert group stripe).get? known = some id := by
  have other : known ≠ group := fun same => by
    rw [same, unlisted] at listed
    cases listed
  rw [get?_insert, if_neg other, listed]

namespace ClusterRecord

/-- What a record says. -/
def allegiance (record : ClusterRecord) : Allegiance :=
  ⟨record.stripeId, record.groupId, record.stripeMap⟩

/-- To write the stripe of a record is to write that of its allegiance. -/
@[simp] theorem allegiance_withStripeId (record : ClusterRecord) (id : StripeId) :
    (record.withStripeId id).allegiance = { record.allegiance with stripe := some id } := rfl

/-- To write the group of a record is to write that of its allegiance. -/
@[simp] theorem allegiance_withGroupId (record : ClusterRecord) (group : GroupId) :
    (record.withGroupId group).allegiance = { record.allegiance with group } := rfl

/-- The state of a record has no part in its allegiance. -/
@[simp] theorem allegiance_withState (record : ClusterRecord) (state : LifecycleState)
    (connections : SortedSet ConnectionId) :
    (record.withState state connections).allegiance = record.allegiance := rfl

/-- To write the map of a record is to write that of its allegiance. -/
@[simp] theorem allegiance_withStripeMap (record : ClusterRecord)
    (map : SortedMap GroupId StripeId) :
    (record.withStripeMap map).allegiance = { record.allegiance with map } := by
  rw [allegiance, stripeMap_withStripeMap]
  rfl

end ClusterRecord

namespace Node

variable {node after : Node Store} {operation : NodeOperation}

/-- What a node says. -/
def allegiance (node : Node Store) : Allegiance := ⟨node.stripeId, node.group, node.registry.map⟩

/-- A node says what its record says. -/
def Mirrors (record : Store → ClusterRecord) (node : Node Store) : Prop :=
  (record node.store).allegiance = node.allegiance

/-- What a node may say after an operation. -/
inductive Commits (node : Node Store) (operation : NodeOperation) : Allegiance → Prop where
  /-- Nothing else. -/
  | kept : Commits node operation node.allegiance
  /-- It has adopted a stripe and not registered it. -/
  | named {id : StripeId} (adoption : node.adoption? operation = some id)
      (admitted : node.checkRegistry id = .ok ()) :
      Commits node operation ⟨some id, node.group, node.registry.map⟩
  /-- It has adopted a stripe and registered it for its group. -/
  | registered {id : StripeId} (adoption : node.adoption? operation = some id)
      (unlisted : node.registry.stripeOf node.group = none) :
      Commits node operation ⟨some id, node.group, node.registry.map.insert node.group id⟩
  /-- It has listed the stripe of some group. -/
  | listed {group : GroupId} {stripe : StripeId} (asked : operation = .addToStripeMap group stripe)
      (unlisted : node.registry.stripeOf group = none) :
      Commits node operation ⟨node.stripeId, node.group, node.registry.map.insert group stripe⟩

/-- After an adoption a node says what it may, and its record says the same. -/
theorem Adopts.commits {id : StripeId} {result : Except ClusterFault Unit}
    (faithful : persistor.Faithful record) (mirrors : node.Mirrors record)
    (adoption : node.adoption? operation = some id)
    (adopts : node.Adopts persistor id (result, after)) :
    node.Commits operation after.allegiance ∧ after.Mirrors record := by
  have wrote := faithful.setStripeId id node.store
  unfold Mirrors at mirrors ⊢
  cases adopts with
  | barred conflict => exact ⟨.kept, mirrors⟩
  | @unwritten fault store admitted failed =>
    rw [failed] at wrote
    exact ⟨.kept, (congrArg ClusterRecord.allegiance wrote).trans mirrors⟩
  | @groupless store admitted made null =>
    rw [made] at wrote
    have said : record store = (record node.store).withStripeId id := wrote
    refine ⟨.named adoption admitted, ?_⟩
    rw [said, ClusterRecord.allegiance_withStripeId, mirrors]
    rfl
  | @registered written store _ registry admitted made real verified =>
    rw [made] at wrote
    have said : record written = (record node.store).withStripeId id := wrote
    rcases verified.effect faithful with ⟨rfl, kept⟩ | ⟨-, unlisted, rfl, listed⟩
    · refine ⟨.named adoption admitted, ?_⟩
      rw [kept, said, ClusterRecord.allegiance_withStripeId, mirrors]
      rfl
    · refine ⟨.registered adoption unlisted, ?_⟩
      rw [listed, said, ClusterRecord.allegiance_withStripeMap,
        ClusterRecord.allegiance_withStripeId, mirrors]
      rfl

/-- After an operation a node says what it may, and its record says the same. -/
theorem Does.commits {outcome : Except ClusterFault NodeReply × Node Store}
    (faithful : persistor.Faithful record) (mirrors : node.Mirrors record)
    (does : node.Does persistor operation outcome) :
    node.Commits operation outcome.2.allegiance ∧ outcome.2.Mirrors record := by
  cases does with
  | adopted adoption adopts => exact adopts.commits faithful mirrors adoption
  | @registered group stripe _ registry store verified =>
    unfold Mirrors at mirrors ⊢
    rcases verified.effect faithful with ⟨rfl, kept⟩ | ⟨-, unlisted, rfl, listed⟩
    · exact ⟨.kept, (congrArg ClusterRecord.allegiance kept).trans mirrors⟩
    · refine ⟨.listed rfl unlisted, ?_⟩
      rw [listed, ClusterRecord.allegiance_withStripeMap, mirrors]
      rfl
  | @unmoved state fault store failed =>
    have kept := faithful.setCurrentState state node.connections node.store
    rw [failed] at kept
    exact ⟨.kept, (congrArg ClusterRecord.allegiance kept).trans mirrors⟩
  | @moved state store made =>
    have wrote := faithful.setCurrentState state node.connections node.store
    rw [made] at wrote
    exact ⟨.kept, (congrArg ClusterRecord.allegiance wrote).trans mirrors⟩
  | _ => exact ⟨.kept, mirrors⟩

/-- An operation unsays nothing. -/
theorem Commits.extends {later : Allegiance} (commits : node.Commits operation later) :
    node.allegiance.Extends later := by
  -- A node that adopts a stripe has none.
  have unnamed {id known : StripeId} (adoption : node.adoption? operation = some id)
      (named : node.stripeId = some known) : False := by
    rw [stripeId_of_adoption adoption] at named
    cases named
  cases commits with
  | kept => exact .refl _
  | named adoption admitted =>
    exact ⟨fun _ named => (unnamed adoption named).elim, fun _ => rfl, fun _ _ => id⟩
  | registered adoption unlisted =>
    exact ⟨fun _ named => (unnamed adoption named).elim, fun _ => rfl,
      fun _ _ listed => Registry.extends_insert unlisted listed⟩
  | listed asked unlisted =>
    exact ⟨fun _ => id, fun _ => rfl, fun _ _ listed => Registry.extends_insert unlisted listed⟩

/-- The outcomes of claiming a group, with the record of the store after it. -/
inductive Claims (record : Store → ClusterRecord) (group : GroupId) (store : Store) :
    Except ClusterFault Unit × Store → Prop where
  /-- The record belongs to the group, or neither one is real. -/
  | own (same : (record store).groupId = group) : Claims record group store (.ok (), store)
  /-- The record belonged to no group and joins this one. -/
  | joined {after : Store} (null : (record store).groupId.isNull = true)
      (real : group.isNull = false) (wrote : record after = (record store).withGroupId group) :
      Claims record group store (.ok (), after)
  /-- The record stays as it was. -/
  | refused {fault : ClusterFault} {after : Store} (kept : record after = record store) :
      Claims record group store (.error fault, after)

/-- Claiming a group has one of the listed outcomes. -/
theorem claims_claimGroup (faithful : persistor.Faithful record) (group : GroupId)
    (store : Store) : Claims record group store (claimGroup persistor group store) := by
  unfold claimGroup
  cases read : persistor.groupId store with
  | error fault => exact .refused rfl
  | ok persisted =>
    have known := faithful.groupId store persisted read
    subst known
    dsimp only
    split
    · rename_i null
      split
      · rename_i groupless
        exact .own ((eq_of_beq null).trans (eq_of_beq groupless).symm)
      · rename_i real
        have wrote := faithful.setGroupId group store
        rcases made : persistor.setGroupId group store with ⟨_ | _, after⟩ <;> rw [made] at wrote
        · exact .refused wrote
        · exact .joined null (Bool.eq_false_iff.mpr real) wrote
    · split
      · rename_i same
        exact .own same
      · exact .refused rfl

/-- A node that is read for the group of its record says what the record says. -/
theorem mirrors_load (faithful : persistor.Faithful record) {group : GroupId}
    {firstChannel : ChannelId} {store : Store} (own : (record store).groupId = group)
    (loaded : load persistor group firstChannel store = .ok node) :
    node.store = store ∧ node.Mirrors record := by
  rw [eq_of_load faithful loaded]
  refine ⟨rfl, ?_⟩
  rw [Mirrors, ClusterRecord.allegiance, show (ofRecord _ _ _ store).store = store from rfl, own]
  rfl

end Node

/-- A store with the node that is open on it, if one is. -/
inductive Tenancy (Store : Type) where
  | vacant (store : Store)
  | occupied (node : Node Store)

namespace Tenancy

/-- The store. -/
def store : Tenancy Store → Store
  | vacant store => store
  | occupied node => node.store

/-- The same with another store. -/
def withStore (store : Store) : Tenancy Store → Tenancy Store
  | vacant _ => vacant store
  | occupied node => occupied { node with store }

/-- What a node is let go of and opened again for a group gives. -/
def opened (persistor : Persistor Store) (group : GroupId) (firstChannel : ChannelId)
    (tenancy : Tenancy Store) : Tenancy Store :=
  match Node.openNode persistor group firstChannel tenancy.store with
  | (.ok node, _) => occupied node
  | (.error _, store) => vacant store

/-- What can become of a tenancy. -/
inductive Step (persistor : Persistor Store) (record : Store → ClusterRecord) :
    Tenancy Store → Tenancy Store → Prop where
  /-- The node carries an operation out. -/
  | operate (node : Node Store) (operation : NodeOperation) :
      Step persistor record (occupied node) (occupied (node.carryOut persistor operation).2)
  /-- The node is let go of. -/
  | leave (node : Node Store) : Step persistor record (occupied node) (vacant node.store)
  /-- A node is opened, after the one that is open was let go of. -/
  | reopen (tenancy : Tenancy Store) (group : GroupId) (firstChannel : ChannelId) :
      Step persistor record tenancy (tenancy.opened persistor group firstChannel)
  /-- The store fails in other ways than before. -/
  | stir (tenancy : Tenancy Store) {store : Store} (same : record store = record tenancy.store) :
      Step persistor record tenancy (tenancy.withStore store)

/-- What can become of a tenancy over time. -/
abbrev Reaches (persistor : Persistor Store) (record : Store → ClusterRecord) :
    Tenancy Store → Tenancy Store → Prop :=
  Relation.ReflTransGen (Step persistor record)

/-- What the record says. -/
def allegiance (record : Store → ClusterRecord) (tenancy : Tenancy Store) : Allegiance :=
  (record tenancy.store).allegiance

/-- The node says what its record says. -/
def Mirrors (record : Store → ClusterRecord) (tenancy : Tenancy Store) : Prop :=
  ∀ node, tenancy = occupied node → node.Mirrors record

variable {before after : Tenancy Store}

/-- A node that is opened says what its record says, to which nothing happens but that it may join
the group. -/
theorem opened_effect (faithful : persistor.Faithful record) (tenancy : Tenancy Store)
    (group : GroupId) (firstChannel : ChannelId) :
    (tenancy.opened persistor group firstChannel).Mirrors record ∧
      (record (tenancy.opened persistor group firstChannel).store = record tenancy.store ∨
        (record tenancy.store).groupId.isNull = true ∧ group.isNull = false ∧
          record (tenancy.opened persistor group firstChannel).store =
            (record tenancy.store).withGroupId group) := by
  have claims := Node.claims_claimGroup faithful group tenancy.store
  unfold opened Node.openNode
  rcases claimed : Node.claimGroup persistor group tenancy.store with ⟨fault | done, store⟩
  · rw [claimed] at claims
    cases claims with
    | refused kept => exact ⟨nofun, .inl kept⟩
  · rw [claimed] at claims
    have own : (record store).groupId = group := by
      cases claims with
      | own same => exact same
      | joined null real wrote => rw [wrote]; rfl
    -- Reading the node changes nothing in the store, whether it succeeds or not.
    have effect : record store = record tenancy.store ∨
        (record tenancy.store).groupId.isNull = true ∧ group.isNull = false ∧
          record store = (record tenancy.store).withGroupId group := by
      cases claims with
      | own same => exact .inl rfl
      | joined null real wrote => exact .inr ⟨null, real, wrote⟩
    dsimp only
    cases loaded : Node.load persistor group firstChannel store with
    | error fault => exact ⟨nofun, effect⟩
    | ok node =>
      obtain ⟨rfl, mirrors⟩ := Node.mirrors_load faithful own loaded
      exact ⟨fun _ same => by cases same; exact mirrors, effect⟩

/-- What a step does to what is said: an operation of the node commits it to more, the record joins
a group as a node is opened, and else nothing changes. -/
theorem Step.effect (faithful : persistor.Faithful record)
    (step : Step persistor record before after) (mirrors : before.Mirrors record) :
    after.Mirrors record ∧
      (after.allegiance record = before.allegiance record ∨
        (∃ node operation, before = .occupied node ∧
          after = .occupied (node.carryOut persistor operation).2 ∧
          node.Commits operation (after.allegiance record)) ∨
        (before.allegiance record).group.isNull = true ∧ ∃ group firstChannel,
          group.isNull = false ∧ after = before.opened persistor group firstChannel ∧
          after.allegiance record = { before.allegiance record with group }) := by
  cases step with
  | operate node operation =>
    obtain ⟨commits, honest⟩ :=
      (node.does_carryOut persistor operation).commits faithful (mirrors node rfl)
    refine ⟨fun _ same => by cases same; exact honest, .inr (.inl ⟨node, operation, rfl, rfl, ?_⟩)⟩
    have said : (occupied (node.carryOut persistor operation).2).allegiance record =
        (node.carryOut persistor operation).2.allegiance := honest
    rw [said]
    exact commits
  | leave node => exact ⟨nofun, .inl rfl⟩
  | reopen _ group firstChannel =>
    obtain ⟨honest, kept | ⟨null, real, wrote⟩⟩ :=
      opened_effect faithful before group firstChannel
    · exact ⟨honest, .inl (congrArg ClusterRecord.allegiance kept)⟩
    · exact ⟨honest, .inr (.inr ⟨null, group, firstChannel, real, rfl,
        congrArg ClusterRecord.allegiance wrote⟩)⟩
  | @stir _ store same =>
    cases before with
    | vacant old => exact ⟨nofun, .inl (congrArg ClusterRecord.allegiance same)⟩
    | occupied node =>
      have said := congrArg ClusterRecord.allegiance same
      exact ⟨fun _ same => by cases same; exact said.trans (mirrors node rfl), .inl said⟩

/-- A step unsays nothing. -/
theorem Step.extends (faithful : persistor.Faithful record)
    (step : Step persistor record before after) (mirrors : before.Mirrors record) :
    (before.allegiance record).Extends (after.allegiance record) := by
  rcases (step.effect faithful mirrors).2 with kept | ⟨node, operation, rfl, -, commits⟩ |
    ⟨null, group, _, real, -, joined⟩
  · rw [kept]
    exact .refl _
  · have said : (occupied node).allegiance record = node.allegiance := mirrors node rfl
    rw [said]
    exact commits.extends
  · rw [joined]
    exact ⟨fun _ => id, fun own => absurd own (by simp [null]), fun _ _ => id⟩

/-- A node that is open later says what its record says. -/
theorem Reaches.mirrors (faithful : persistor.Faithful record)
    (reaches : Reaches persistor record before after) (mirrors : before.Mirrors record) :
    after.Mirrors record := by
  induction reaches with
  | refl => exact mirrors
  | tail _ step ih => exact (step.effect faithful ih).1

/-- What is known stays known. -/
theorem Reaches.extends (faithful : persistor.Faithful record)
    (reaches : Reaches persistor record before after) (mirrors : before.Mirrors record) :
    (before.allegiance record).Extends (after.allegiance record) := by
  induction reaches with
  | refl => exact .refl _
  | tail reached step ih =>
    exact ih.trans (step.extends faithful (Reaches.mirrors faithful reached mirrors))

/-- A stripe that is registered stays so. -/
theorem Reaches.stripeOf (faithful : persistor.Faithful record) {node later : Node Store}
    {group : GroupId} {id : StripeId} (mirrors : node.Mirrors record)
    (registered : node.registry.stripeOf group = some id)
    (reaches : Reaches persistor record (occupied node) (occupied later)) :
    later.registry.stripeOf group = some id := by
  have honest : (occupied node).Mirrors record := fun _ same => by cases same; exact mirrors
  have now : (occupied node).allegiance record = node.allegiance := mirrors
  have latest : (occupied later).allegiance record = later.allegiance :=
    Reaches.mirrors faithful reaches honest later rfl
  have grows := Reaches.extends faithful reaches honest
  rw [now, latest] at grows
  exact grows.map group id registered

end Tenancy
end Standby
