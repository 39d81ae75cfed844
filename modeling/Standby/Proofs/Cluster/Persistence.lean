import Standby.Cluster.FlatFile

/-!
# Faithful access to a record

A persistor is faithful to the record that its store holds when every read that succeeds gives the
part of the record that it is about, every write that succeeds makes its change, and every write
that fails leaves the record as it was. Access to a record in memory is faithful, so is access to
the record in a file, and both stay so when operations are out of order.
-/
namespace Standby

variable {Store : Type}

namespace ClusterRecord

/-- The stripes of groups that are put into a record are read back. -/
@[simp] theorem stripeMap_withStripeMap (record : ClusterRecord)
    (map : SortedMap GroupId StripeId) : (record.withStripeMap map).stripeMap = map := by
  have entries : (entriesOf map).map (fun entry => (entry.group, entry.stripe)) = map.toList := by
    simp only [entriesOf, List.map_map, Function.comp_def, List.map_id']
  rw [stripeMap, withStripeMap, entries, SortedMap.ofList_toList]

end ClusterRecord

namespace Persistor

/-- A write makes a change to the record of a store, or it fails and leaves the record as it
was. -/
def Changes (record : Store → ClusterRecord) (change : ClusterRecord → ClusterRecord)
    (store : Store) (step : WriteStep Store) : Prop :=
  record step.2 = match step.1 with
    | .ok _ => change (record store)
    | .error _ => record store

/-- The parts of a record are read and written as they are. -/
structure Faithful (persistor : Persistor Store) (record : Store → ClusterRecord) : Prop where
  stripeId : ∀ store found, persistor.stripeId store = .ok found → found = (record store).stripeId
  groupId : ∀ store found, persistor.groupId store = .ok found → found = (record store).groupId
  currentState : ∀ store found,
    persistor.currentState store = .ok found → found = (record store).state
  connections : ∀ store found,
    persistor.connections store = .ok found → found = (record store).connections
  stripeMap : ∀ store found,
    persistor.stripeMap store = .ok found → found = (record store).stripeMap
  setStripeId : ∀ id store,
    Changes record (·.withStripeId id) store (persistor.setStripeId id store)
  setGroupId : ∀ group store,
    Changes record (·.withGroupId group) store (persistor.setGroupId group store)
  setCurrentState : ∀ state connections store, Changes record (·.withState state connections) store
    (persistor.setCurrentState state connections store)
  setStripeMap : ∀ map store,
    Changes record (·.withStripeMap map) store (persistor.setStripeMap map store)

variable {record : Store → ClusterRecord}

/-- Access to a record that is replaced as a whole is faithful when the replacement is. -/
theorem faithful_ofRecord {put : ClusterRecord → Store → WriteStep Store}
    (replaces : ∀ next store, Changes record (fun _ => next) store (put next store)) :
    (ofRecord record put).Faithful record where
  stripeId _ _ read := (Except.ok.inj read).symm
  groupId _ _ read := (Except.ok.inj read).symm
  currentState _ _ read := (Except.ok.inj read).symm
  connections _ _ read := (Except.ok.inj read).symm
  stripeMap _ _ read := (Except.ok.inj read).symm
  setStripeId id store := replaces ((record store).withStripeId id) store
  setGroupId group store := replaces ((record store).withGroupId group) store
  setCurrentState state connections store :=
    replaces ((record store).withState state connections) store
  setStripeMap map store := replaces ((record store).withStripeMap map) store

/-- Access to a record in memory is faithful. -/
theorem faithful_memory : memory.Faithful id := faithful_ofRecord fun _ _ => rfl

/-- Access to the record in a file is faithful: the record in memory changes when the file did. -/
theorem faithful_flatFile : FlatFile.persistor.Faithful (·.file.record) := by
  apply faithful_ofRecord
  intro next mounted
  unfold Changes FlatFile.put
  dsimp only
  split
  · rfl
  · split
    · rfl
    · rfl

/-- Every read of a store answers. -/
structure Answers (persistor : Persistor Store) (record : Store → ClusterRecord) (store : Store) :
    Prop where
  stripeId : persistor.stripeId store = .ok (record store).stripeId
  groupId : persistor.groupId store = .ok (record store).groupId
  currentState : persistor.currentState store = .ok (record store).state
  connections : persistor.connections store = .ok (record store).connections
  stripeMap : persistor.stripeMap store = .ok (record store).stripeMap

/-- A record that is replaced as a whole is always read. -/
theorem answers_ofRecord (record : Store → ClusterRecord)
    (put : ClusterRecord → Store → WriteStep Store) (store : Store) :
    (ofRecord record put).Answers record store :=
  ⟨rfl, rfl, rfl, rfl, rfl⟩

/-- A store whose reads are in order is read, whichever writes are out of order. -/
theorem answers_impaired {inner : Persistor Store} {outer : Impaired Store}
    (answers : inner.Answers record outer.store)
    (reads : ∀ method ∈ [Method.stripeId, .groupId, .currentState, .connections, .stripeMap],
      outer.failing method = false) :
    inner.impaired.Answers (fun outer => record outer.store) outer := by
  have read {α : Type} (method : Method) (get : Store → Except PersistFault α) {found : α}
      (inOrder : outer.failing method = false) (known : get outer.store = .ok found) :
      (if outer.failing method then .error (outOfOrder method) else get outer.store) =
        .ok found := by
    rw [inOrder]
    exact known
  exact
    { stripeId := read .stripeId inner.stripeId (reads _ (by simp)) answers.stripeId
      groupId := read .groupId inner.groupId (reads _ (by simp)) answers.groupId
      currentState := read .currentState inner.currentState (reads _ (by simp))
        answers.currentState
      connections := read .connections inner.connections (reads _ (by simp)) answers.connections
      stripeMap := read .stripeMap inner.stripeMap (reads _ (by simp)) answers.stripeMap }

/-- Access stays faithful when operations are out of order. -/
theorem faithful_impaired {inner : Persistor Store} (faithful : inner.Faithful record) :
    inner.impaired.Faithful fun outer => record outer.store := by
  have read {α : Type} (method : Method) (get : Store → Except PersistFault α)
      (part : ClusterRecord → α) (honest : ∀ store found, get store = .ok found →
        found = part (record store)) (outer : Impaired Store) (found : α)
      (answer : (if outer.failing method then .error (outOfOrder method) else get outer.store) =
        .ok found) : found = part (record outer.store) := by
    split at answer
    · cases answer
    · exact honest _ _ answer
  have write (method : Method) (set : Store → WriteStep Store)
      (change : ClusterRecord → ClusterRecord)
      (honest : ∀ store, Changes record change store (set store)) (outer : Impaired Store) :
      Changes (fun outer => record outer.store) change outer
        (if outer.failing method then (.error (outOfOrder method), outer)
          else ((set outer.store).1, { outer with store := (set outer.store).2 })) := by
    split
    · rfl
    · exact honest outer.store
  exact
    { stripeId := read .stripeId _ (·.stripeId) faithful.stripeId
      groupId := read .groupId _ (·.groupId) faithful.groupId
      currentState := read .currentState _ (·.state) faithful.currentState
      connections := read .connections _ (·.connections) faithful.connections
      stripeMap := read .stripeMap _ (·.stripeMap) faithful.stripeMap
      setStripeId := fun id => write .setStripeId _ _ (faithful.setStripeId id)
      setGroupId := fun group => write .setGroupId _ _ (faithful.setGroupId group)
      setCurrentState := fun state connections =>
        write .setCurrentState _ _ (faithful.setCurrentState state connections)
      setStripeMap := fun map => write .setStripeMap _ _ (faithful.setStripeMap map) }

end Persistor
end Standby
