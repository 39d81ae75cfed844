import Standby.Proofs.Cluster.Tenancy

/-!
# The stripe of a node and the stripe of its group

A node that adopts a stripe registers it for its group, but only then: a node that has its stripe
already confirms it without a look at the registry. So the registration may be owed, after a write
that failed or after an adoption without a group, and nothing makes up for it. The main statement
says exactly when the group of a node has the node's stripe once the node has affirmed it, and which
steps lead to a group with another stripe than its node (`Tenancy.agreement_iff`).
-/
namespace Standby

variable {Store : Type} {persistor : Persistor Store} {record : Store → ClusterRecord}

/-- The stripe that an answer says is the node's. -/
def NodeOperation.affirmed? : NodeOperation → NodeReply → Option StripeId
  | .setStripeId id, .written => some id
  | .adoptHint hint, .written => hint
  | .assignStripe _, .stripe id => some id
  | _, _ => none

/-- The group has another stripe than the node. -/
def Allegiance.AtOdds (allegiance : Allegiance) : Prop :=
  allegiance.group.isNull = false ∧ ∃ own other, allegiance.stripe = some own ∧
    allegiance.map.get? allegiance.group = some other ∧ other ≠ own

/-- What is at odds stays so. -/
theorem Allegiance.AtOdds.extends {before after : Allegiance} (odds : before.AtOdds)
    (later : before.Extends after) : after.AtOdds := by
  obtain ⟨real, own, other, named, listed, differs⟩ := odds
  have same := later.group real
  exact ⟨same ▸ real, own, other, later.stripe own named, by
    rw [same]
    exact later.map _ other listed, differs⟩

namespace Node

variable {node : Node Store} {operation : NodeOperation}

/-- The stripe of a group that has none is listed, or the operation is refused. -/
theorem carryOut_addToStripeMap (node : Node Store) (persistor : Persistor Store)
    {group : GroupId} (stripe : StripeId) (unlisted : node.registry.stripeOf group = none) :
    let step := node.carryOut persistor (.addToStripeMap group stripe)
    step.1 = .ok .written ∧ step.2.registry.map = node.registry.map.insert group stripe ∨
      (∃ fault, step.1 = .error fault) ∧ step.2.registry = node.registry := by
  have verified := node.registry.verifies persistor group stripe node.store
  simp only [carryOut, addToStripeMap]
  generalize node.registry.verifyOrSave persistor group stripe node.store = outcome at verified
  cases verified with
  | confirmed known => rw [unlisted] at known; cases known
  | conflicting known differs => rw [unlisted] at known; cases known
  | @unwritten fault after unknown failed => exact .inr ⟨⟨.persist fault, rfl⟩, rfl⟩
  | written unknown made => exact .inl ⟨rfl, rfl⟩

/-- The stripe that a node adopts is the one that it answers with. -/
theorem affirmed?_adoptionReply {id : StripeId} (adoption : node.adoption? operation = some id) :
    operation.affirmed? (adoptionReply operation) = some id := by
  unfold adoption? at adoption
  split at adoption
  · exact adoption
  · exact adoption
  · split at adoption
    · cases adoption
    · exact adoption
  · cases adoption

/-- A node that affirms a stripe has it and does nothing, or it adopts the stripe. -/
theorem Does.of_affirmed {reply : NodeReply} {id : StripeId} {after : Node Store}
    (affirmed : operation.affirmed? reply = some id)
    (does : node.Does persistor operation (.ok reply, after)) :
    node.stripeId = some id ∧ after = node ∨
      node.adoption? operation = some id ∧ node.Adopts persistor id (.ok (), after) := by
  generalize step : (Except.ok reply, after) = outcome at does
  cases does with
  | known named asked =>
    cases step
    rcases asked with rfl | rfl <;> cases affirmed <;> exact .inl ⟨named, rfl⟩
  | assigned serves named =>
    cases step
    cases affirmed
    exact .inl ⟨named, rfl⟩
  | @adopted _ adopted result next adoption adopts =>
    cases result with
    | error fault => cases step
    | ok done =>
      cases step
      rw [affirmed?_adoptionReply adoption] at affirmed
      cases affirmed
      exact .inr ⟨adoption, adopts⟩
  | @registered group stripe result registry store verified =>
    cases result with
    | error fault => cases step
    | ok done => cases step; cases affirmed
  | noted unwritten =>
    cases operation with
    | adoptHint hint => cases unwritten
    | setStripeId id => cases unwritten
    | assignStripe fresh => cases unwritten
    | _ => cases affirmed
  | seeded => cases affirmed
  | _ => cases step <;> cases affirmed

/-- An adoption that succeeds leaves the stripe of a real group in the registry. -/
theorem Adopts.registered_of_ok {id : StripeId} {after : Node Store}
    (real : node.group.isNull = false) (adopts : node.Adopts persistor id (.ok (), after)) :
    after.registry.stripeOf node.group = some id := by
  cases adopts with
  | groupless admitted made null =>
    rw [real] at null
    cases null
  | registered admitted made _ verified =>
    cases verified with
    | confirmed known => exact known
    | written unknown wrote =>
      exact (Registry.get?_insert _ _ _ _).trans (if_pos rfl)

/-- An operation sets a node and its group at odds only by listing another stripe for the group,
while the node has a stripe and the group has none. -/
theorem Commits.strays {later : Allegiance} (commits : node.Commits operation later)
    (agreed : ¬ node.allegiance.AtOdds) (odds : later.AtOdds) :
    ∃ own other, node.group.isNull = false ∧ node.stripeId = some own ∧
      node.registry.stripeOf node.group = none ∧ other ≠ own ∧
      operation = .addToStripeMap node.group other ∧
      later.map = node.registry.map.insert node.group other := by
  obtain ⟨real, own, other, named, listed, differs⟩ := odds
  cases commits with
  | kept => exact absurd ⟨real, own, other, named, listed, differs⟩ agreed
  | @named id adoption admitted =>
    have known : node.registry.stripeOf node.group = some other := listed
    have own' : id = own := Option.some.inj named
    have check : node.checkRegistry id = node.registry.admits node.group id :=
      if_neg (by simpa using real)
    rw [check, Registry.admits, known] at admitted
    by_cases same : other = id
    · exact absurd (same.trans own') differs
    · simp [same] at admitted
  | @registered id adoption unlisted =>
    have own' : id = own := Option.some.inj named
    rw [Registry.get?_insert, if_pos rfl] at listed
    exact absurd (own' ▸ (Option.some.inj listed).symm) differs
  | @listed group stripe asked unlisted =>
    rw [Registry.get?_insert] at listed
    by_cases same : node.group = group
    · subst same
      rw [if_pos rfl] at listed
      cases listed
      exact ⟨own, other, real, named, unlisted, differs, asked, rfl⟩
    · have before : node.allegiance.map.get? node.allegiance.group = some other := by
        rw [if_neg same] at listed
        exact listed
      exact absurd ⟨real, own, other, named, before, differs⟩ agreed

end Node

namespace Tenancy

variable {before after : Tenancy Store}

/-- The steps that set a node and its group at odds. -/
inductive Slips (persistor : Persistor Store) (record : Store → ClusterRecord) :
    Tenancy Store → Tenancy Store → Prop where
  /-- The registration of the node's stripe is owed, and another stripe is listed for its group. -/
  | strayed {node : Node Store} {own other : StripeId} (real : node.group.isNull = false)
      (named : node.stripeId = some own) (owed : node.registry.stripeOf node.group = none)
      (differs : other ≠ own)
      (accepted : (node.carryOut persistor (.addToStripeMap node.group other)).1 = .ok .written) :
      Slips persistor record (occupied node)
        (occupied (node.carryOut persistor (.addToStripeMap node.group other)).2)
  /-- A record without a group joins one that is listed with another stripe. -/
  | joined {tenancy : Tenancy Store} {group : GroupId} {own other : StripeId}
      (firstChannel : ChannelId) (null : (record tenancy.store).groupId.isNull = true)
      (real : group.isNull = false) (named : (record tenancy.store).stripeId = some own)
      (listed : (record tenancy.store).stripeMap.get? group = some other) (differs : other ≠ own)
      (claimed : (record (tenancy.opened persistor group firstChannel).store).groupId = group) :
      Slips persistor record tenancy (tenancy.opened persistor group firstChannel)

/-- A step that sets a node and its group at odds is one of the listed ones. -/
theorem Step.slips (faithful : persistor.Faithful record)
    (step : Step persistor record before after) (mirrors : before.Mirrors record)
    (agreed : ¬ (before.allegiance record).AtOdds) (odds : (after.allegiance record).AtOdds) :
    Slips persistor record before after := by
  obtain ⟨honest, kept | ⟨node, operation, rfl, rfl, commits⟩ |
    ⟨null, group, firstChannel, real, rfl, joined⟩⟩ := step.effect faithful mirrors
  · rw [kept] at odds
    exact absurd odds agreed
  · have said : (occupied node).allegiance record = node.allegiance := mirrors node rfl
    rw [said] at agreed
    obtain ⟨own, other, real, named, owed, differs, rfl, listed⟩ := commits.strays agreed odds
    rcases node.carryOut_addToStripeMap persistor other owed with
      ⟨accepted, -⟩ | ⟨-, kept⟩
    · exact .strayed real named owed differs accepted
    · -- A refused operation lists nothing.
      have later : ((occupied (node.carryOut persistor
          (.addToStripeMap node.group other)).2).allegiance record).map = node.registry.map :=
        (congrArg Allegiance.map (honest _ rfl)).trans (congrArg Registry.map kept)
      have found := congrArg (fun map => map.get? node.group) (listed.symm.trans later)
      simp only [Registry.get?_insert, ↓reduceIte] at found
      rw [Registry.stripeOf, ← found] at owed
      cases owed
  · rw [joined] at odds
    obtain ⟨-, own, other, named, listed, differs⟩ := odds
    exact .joined firstChannel null real named listed differs (congrArg Allegiance.group joined)

/-- The listed steps are steps. -/
theorem Slips.step (slips : Slips persistor record before after) :
    Step persistor record before after := by
  cases slips with
  | strayed => exact .operate _ _
  | joined => exact .reopen _ _ _

/-- The listed steps set a node and its group at odds. -/
theorem Slips.atOdds (faithful : persistor.Faithful record)
    (slips : Slips persistor record before after) (mirrors : before.Mirrors record) :
    (after.allegiance record).AtOdds := by
  have grows := slips.step.extends faithful mirrors
  have honest := (slips.step.effect faithful mirrors).1
  cases slips with
  | @strayed node own other real named owed differs accepted =>
    have said : (occupied node).allegiance record = node.allegiance := mirrors node rfl
    rw [said] at grows
    refine ⟨?_, own, other, grows.stripe own named, ?_, differs⟩
    · rw [grows.group real]
      exact real
    · rw [grows.group real]
      rcases node.carryOut_addToStripeMap persistor other owed with
        ⟨-, listed⟩ | ⟨⟨fault, refused⟩, -⟩
      · have later := (congrArg Allegiance.map (honest _ rfl)).trans listed
        rw [allegiance, store, later]
        exact (Registry.get?_insert _ _ _ _).trans (if_pos rfl)
      · rw [refused] at accepted
        cases accepted
  | @joined _ group own other firstChannel null real named listed differs claimed =>
    have joins : ((before.opened persistor group firstChannel).allegiance record).group = group :=
      claimed
    refine ⟨joins.symm ▸ real, own, other, grows.stripe own named, ?_, differs⟩
    rw [joins]
    exact grows.map group other listed

/-- From a fresh record on, what is said is at odds exactly after one of the listed steps. -/
theorem atOdds_iff_slips (faithful : persistor.Faithful record) {first : Store}
    (fresh : record first = .fresh) {tenancy : Tenancy Store}
    (reached : Reaches persistor record (vacant first) tenancy) :
    (tenancy.allegiance record).AtOdds ↔
      ∃ before after, Reaches persistor record (vacant first) before ∧
        Slips persistor record before after ∧ Reaches persistor record after tenancy := by
  have start : (vacant first).Mirrors record := nofun
  constructor
  · intro odds
    induction reached with
    | refl =>
      -- A fresh record belongs to no group.
      have real := odds.1
      rw [allegiance, store, fresh] at real
      cases real
    | @tail before after earlier step ih =>
      by_cases already : (before.allegiance record).AtOdds
      · obtain ⟨sound, slipped, reaches, slips, onward⟩ := ih already
        exact ⟨sound, slipped, reaches, slips, onward.tail step⟩
      · have mirrors := Reaches.mirrors faithful earlier start
        exact ⟨before, after, earlier, step.slips faithful mirrors already odds, .refl⟩
  · rintro ⟨before, after, earlier, slips, onward⟩
    have mirrors := Reaches.mirrors faithful earlier start
    have honest := (slips.step.effect faithful mirrors).1
    exact (slips.atOdds faithful mirrors).extends (Reaches.extends faithful onward honest)

/-- From a fresh record on: the group of a node has another stripe than the node exactly after one
of the listed steps. And a node that belongs to a group and has affirmed its stripe has it
registered from then on exactly when this operation made it adopt the stripe or it was registered
before. -/
theorem agreement_iff (faithful : persistor.Faithful record) (first : Store)
    (fresh : record first = .fresh) (node : Node Store)
    (reached : Reaches persistor record (vacant first) (occupied node)) :
    (node.allegiance.AtOdds ↔ ∃ before after, Reaches persistor record (vacant first) before ∧
      Slips persistor record before after ∧ Reaches persistor record after (occupied node)) ∧
    ∀ operation reply id, node.group.isNull = false →
      (node.carryOut persistor operation).1 = .ok reply → operation.affirmed? reply = some id →
      ((∀ later, Reaches persistor record (occupied (node.carryOut persistor operation).2)
          (occupied later) → later.registry.stripeOf node.group = some id) ↔
        node.stripeId = none ∨ node.registry.stripeOf node.group = some id) := by
  have start : (vacant first).Mirrors record := nofun
  have mirrors : node.Mirrors record := Reaches.mirrors faithful reached start node rfl
  constructor
  · rw [← show (occupied node).allegiance record = node.allegiance from mirrors]
    exact atOdds_iff_slips faithful fresh reached
  · intro operation reply id real answered affirmed
    have does := node.does_carryOut persistor operation
    have honest := (does.commits faithful mirrors).2
    rw [show node.carryOut persistor operation = (.ok reply, (node.carryOut persistor operation).2)
      from Prod.ext answered rfl] at does
    constructor
    · intro always
      have now := always _ .refl
      rcases does.of_affirmed affirmed with ⟨-, same⟩ | ⟨adoption, -⟩
      · rw [same] at now
        exact .inr now
      · exact .inl (Node.stripeId_of_adoption adoption)
    · intro held later reaches
      refine Reaches.stripeOf faithful honest ?_ reaches
      rcases does.of_affirmed affirmed with ⟨named, same⟩ | ⟨-, adopts⟩
      · rw [same]
        exact held.resolve_left (by simp [named])
      · exact adopts.registered_of_ok real

/-- A registration that failed is not made up for: the node affirms the stripe that it adopted, and
the stripe of its group stays unknown. -/
theorem owed_registration :
    let id : StripeId := ⟨⟨170⟩⟩
    let node : Node (Persistor.Impaired ClusterRecord) :=
      ⟨⟨1⟩, some id, .zero, .empty, .uninitialized, ⟨.empty⟩,
        ⟨(ClusterRecord.fresh.withGroupId ⟨1⟩).withStripeId id, fun _ => false⟩⟩
    Reaches Persistor.memory.impaired (·.store) (vacant ⟨.fresh, fun _ => false⟩)
        (occupied node) ∧
      (node.carryOut Persistor.memory.impaired (.setStripeId id)).1 = .ok .written ∧
      ¬ ∀ later, Reaches Persistor.memory.impaired (·.store)
          (occupied (node.carryOut Persistor.memory.impaired (.setStripeId id)).2)
          (occupied later) → later.registry.stripeOf ⟨1⟩ = some id := by
  intro id node
  let first : Persistor.Impaired ClusterRecord := ⟨.fresh, fun _ => false⟩
  let opened : Node (Persistor.Impaired ClusterRecord) :=
    ⟨⟨1⟩, none, .zero, .empty, .uninitialized, ⟨.empty⟩, ⟨.withGroupId .fresh ⟨1⟩, fun _ => false⟩⟩
  let troubled : Node (Persistor.Impaired ClusterRecord) :=
    { opened with store := ⟨opened.store.store, (· == .setStripeMap)⟩ }
  -- The node is opened, its registry goes out of order, it adopts a stripe, the registry is back.
  have opens : Reaches Persistor.memory.impaired (·.store) (vacant first) (occupied opened) :=
    .single (.reopen (vacant first) ⟨1⟩ .zero)
  have breaks : Reaches Persistor.memory.impaired (·.store) (vacant first) (occupied troubled) :=
    opens.tail (.stir (occupied opened) rfl)
  have adopts := breaks.tail (.operate troubled (.setStripeId id))
  have reached : Reaches Persistor.memory.impaired (·.store) (vacant first) (occupied node) :=
    adopts.tail (.stir (occupied (troubled.carryOut Persistor.memory.impaired (.setStripeId id)).2)
      rfl)
  have outcome := (agreement_iff (Persistor.faithful_impaired Persistor.faithful_memory) first rfl
    node reached).2 (.setStripeId id) .written id rfl rfl rfl
  refine ⟨reached, rfl, fun always => ?_⟩
  rcases outcome.mp always with unnamed | listed
  · cases unnamed
  · cases listed

end Tenancy
end Standby
