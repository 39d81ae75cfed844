import Standby.Proofs.Ordered.Set
import Standby.Proofs.Replication.Nesting

/-!
# The grammar of a copy

A stream of copies is described twice: by syntax trees, whose items are listed from left to
right, and by the places of `Nesting`, which are gone through item by item. Both descriptions
allow the same beginnings of streams (`Nesting.inGrammar_iff`).
-/
namespace Standby

/-- The copy of a key: its pieces. -/
structure KeyCopy where
  /-- The key. -/
  key : ConcurrencyKey
  /-- The pieces, in order. -/
  pieces : List ByteArray

/-- The items of the copy of a key. -/
def KeyCopy.items (entity : EntityId) (version : UInt64) (copy : KeyCopy) : List SyncMessage :=
  .startKey entity version copy.key ::
    copy.pieces.map (.payload entity version copy.key) ++ [.endKey entity version copy.key]

/-- A key that was not copied before leaves the keys distinct. -/
theorem KeyCopy.nodup_concat {keys : List KeyCopy} {last : KeyCopy}
    (distinct : (keys.map (·.key)).Nodup) (fresh : last.key ∉ keys.map (·.key)) :
    ((keys ++ [last]).map (·.key)).Nodup := by
  rw [List.map_append, List.nodup_append]
  refine ⟨distinct, by simp, fun key member other isLast same => ?_⟩
  have found : key = last.key := by simpa [same] using isLast
  exact fresh (found ▸ member)

/-- The copy of an entity: the copies of some of its keys, each at most once. -/
structure EntityCopy where
  /-- The entity. -/
  id : EntityId
  /-- Its version. -/
  version : UInt64
  /-- Its configuration. -/
  config : ByteArray
  /-- It is said to be new. -/
  isNew : Bool
  /-- The copies of its keys, in order. -/
  keys : List KeyCopy
  /-- No key is copied twice. -/
  distinct : (keys.map (·.key)).Nodup

/-- The items of the copy of an entity. -/
def EntityCopy.items (copy : EntityCopy) : List SyncMessage :=
  .startEntity copy.id copy.version copy.config copy.isNew ::
    copy.keys.flatMap (KeyCopy.items copy.id copy.version) ++ [.endEntity copy.id copy.version]

/-- A whole copy: the copies of some entities. -/
structure WholeCopy where
  /-- The copies of the entities, in order. -/
  entities : List EntityCopy
  /-- What comes with the end. -/
  finalBytes : ByteArray

/-- The items of a whole copy. -/
def WholeCopy.items (copy : WholeCopy) : List SyncMessage :=
  .startSync :: copy.entities.flatMap EntityCopy.items ++ [.endSync copy.finalBytes]

/-- The end of a copy is not within the copy of an entity. -/
theorem EntityCopy.endSync_notMem (copy : EntityCopy) (bytes : ByteArray) :
    .endSync bytes ∉ copy.items := by
  simp [items, KeyCopy.items]

/-- A whole copy has one end, which is its last item. -/
theorem WholeCopy.endSync_notMem {copy : WholeCopy} {before : List SyncMessage} {last : SyncMessage}
    (whole : before ++ [last] = copy.items) (bytes : ByteArray) : .endSync bytes ∉ before := by
  obtain ⟨rfl, -⟩ := List.append_inj' whole rfl
  simp only [List.mem_cons, reduceCtorEq, List.mem_flatMap, false_or, not_exists, not_and]
  exact fun entity _ => entity.endSync_notMem bytes

/-- Whole copies of which only the last item is an end are one whole copy. -/
theorem WholeCopy.exists_eq_items {copies : List WholeCopy} {before : List SyncMessage}
    {last : SyncMessage} (whole : before ++ [last] = copies.flatMap WholeCopy.items)
    (first : ∀ bytes, .endSync bytes ∉ before) :
    ∃ copy : WholeCopy, before ++ [last] = copy.items := by
  cases copies with
  | nil => simp at whole
  | cons copy rest =>
    rw [List.flatMap_cons] at whole
    rcases (rest.flatMap WholeCopy.items).eq_nil_or_concat with nothing | ⟨more, final, isMore⟩
    · rw [nothing, List.append_nil] at whole
      exact ⟨copy, whole⟩
    · -- What comes after the first copy would come after its end.
      rw [isMore, List.concat_eq_append, ← List.append_assoc] at whole
      have early : before = copy.items ++ more := (List.append_inj' whole rfl).1
      have isEnd : .endSync copy.finalBytes ∈ copy.items := by simp [items]
      exact absurd (early ▸ List.mem_append_left more isEnd) (first copy.finalBytes)

/-- Some items are the beginning of one whole copy after another. -/
def InGrammar (items : List SyncMessage) : Prop :=
  ∃ copies : List WholeCopy, items <+: copies.flatMap WholeCopy.items

namespace Nesting

/-- The items that lead from the outside of a copy to a place: whole copies, whole entities, whole
keys and pieces, each with what was begun and not yet ended before it. -/
def Reaches (items : List SyncMessage) : Nesting → Prop
  | idle => ∃ copies : List WholeCopy, items = copies.flatMap WholeCopy.items
  | copy => ∃ (copies : List WholeCopy) (entities : List EntityCopy),
      items = copies.flatMap WholeCopy.items ++ .startSync :: entities.flatMap EntityCopy.items
  | entity id version synced =>
    ∃ (copies : List WholeCopy) (entities : List EntityCopy) (config : ByteArray) (isNew : Bool)
      (keys : List KeyCopy), (keys.map (·.key)).Nodup ∧
      (∀ key, synced.contains key = true ↔ key ∈ keys.map (·.key)) ∧
      items = copies.flatMap WholeCopy.items ++ .startSync :: entities.flatMap EntityCopy.items ++
        .startEntity id version config isNew :: keys.flatMap (KeyCopy.items id version)
  | key id version synced current =>
    ∃ (copies : List WholeCopy) (entities : List EntityCopy) (config : ByteArray) (isNew : Bool)
      (keys : List KeyCopy) (pieces : List ByteArray), (keys.map (·.key)).Nodup ∧
      (∀ key, synced.contains key = true ↔ key ∈ keys.map (·.key)) ∧
      current ∉ keys.map (·.key) ∧
      items = copies.flatMap WholeCopy.items ++ .startSync :: entities.flatMap EntityCopy.items ++
        .startEntity id version config isNew :: keys.flatMap (KeyCopy.items id version) ++
        .startKey id version current :: pieces.map (.payload id version current)

/-- An item that may come leads from a place that was reached to the next one. -/
theorem Reaches.next {place next : Nesting} {items : List SyncMessage} {message : SyncMessage}
    (reached : place.Reaches items) (moved : place.next? message = some next) :
    next.Reaches (items ++ [message]) := by
  cases place with
  | idle =>
    obtain ⟨copies, rfl⟩ := reached
    cases message with
    | startSync =>
      cases moved
      exact ⟨copies, [], rfl⟩
    | _ => simp [next?] at moved
  | copy =>
    obtain ⟨copies, entities, rfl⟩ := reached
    cases message with
    | startEntity id version config isNew =>
      cases moved
      exact ⟨copies, entities, config, isNew, [], by simp, by simp [SortedSet.contains_iff], rfl⟩
    | endSync finalBytes =>
      cases moved
      refine ⟨copies ++ [⟨entities, finalBytes⟩], ?_⟩
      simp [WholeCopy.items]
    | _ => simp [next?] at moved
  | entity id version synced =>
    obtain ⟨copies, entities, config, isNew, keys, distinct, listed, rfl⟩ := reached
    cases message with
    | startKey otherId otherVersion other =>
      simp only [next?, Option.ite_none_right_eq_some, Option.some.injEq] at moved
      obtain ⟨⟨rfl, rfl, fresh⟩, rfl⟩ := moved
      refine ⟨copies, entities, config, isNew, keys, [], distinct, listed, ?_, rfl⟩
      rw [← listed other, fresh]
      exact Bool.false_ne_true
    | endEntity otherId otherVersion =>
      simp only [next?, Option.ite_none_right_eq_some, Option.some.injEq] at moved
      obtain ⟨⟨rfl, rfl⟩, rfl⟩ := moved
      refine ⟨copies, entities ++ [⟨id, version, config, isNew, keys, distinct⟩], ?_⟩
      simp [EntityCopy.items]
    | _ => simp [next?] at moved
  | key id version synced current =>
    obtain ⟨copies, entities, config, isNew, keys, pieces, distinct, listed, fresh, rfl⟩ := reached
    cases message with
    | payload otherId otherVersion other bytes =>
      simp only [next?, Option.ite_none_right_eq_some, Option.some.injEq] at moved
      obtain ⟨⟨rfl, rfl, rfl⟩, rfl⟩ := moved
      refine ⟨copies, entities, config, isNew, keys, pieces ++ [bytes], distinct, listed, fresh, ?_⟩
      simp
    | endKey otherId otherVersion other =>
      simp only [next?, Option.ite_none_right_eq_some, Option.some.injEq] at moved
      obtain ⟨⟨rfl, rfl, rfl⟩, rfl⟩ := moved
      refine ⟨copies, entities, config, isNew, keys ++ [⟨current, pieces⟩],
        KeyCopy.nodup_concat distinct fresh, fun key => ?_, ?_⟩
      · rw [SortedSet.contains_insert_iff, listed key]
        simp [or_comm]
      · simp [KeyCopy.items]
    | _ => simp [next?] at moved

/-- Items that may come one after the other lead from a place that was reached to the last one. -/
theorem Reaches.run {place last : Nesting} {items more : List SyncMessage}
    (reached : place.Reaches items) (ran : place.run? more = some last) :
    last.Reaches (items ++ more) := by
  induction more generalizing place items with
  | nil =>
    cases ran
    rwa [List.append_nil]
  | cons message rest ih =>
    obtain ⟨next, moved, ran⟩ := Option.bind_eq_some_iff.mp ran
    have whole := ih (reached.next moved) ran
    rwa [List.append_assoc] at whole

/-- Items that lead to a place are the beginning of copies: whatever was begun can be ended. -/
theorem Reaches.inGrammar {place : Nesting} {items : List SyncMessage}
    (reached : place.Reaches items) : InGrammar items := by
  cases place with
  | idle =>
    obtain ⟨copies, rfl⟩ := reached
    exact ⟨copies, List.prefix_rfl⟩
  | copy =>
    obtain ⟨copies, entities, rfl⟩ := reached
    refine ⟨copies ++ [⟨entities, .empty⟩], [.endSync .empty], ?_⟩
    simp [WholeCopy.items]
  | entity id version synced =>
    obtain ⟨copies, entities, config, isNew, keys, distinct, -, rfl⟩ := reached
    refine ⟨copies ++ [⟨entities ++ [⟨id, version, config, isNew, keys, distinct⟩], .empty⟩],
      [.endEntity id version, .endSync .empty], ?_⟩
    simp [WholeCopy.items, EntityCopy.items]
  | key id version synced current =>
    obtain ⟨copies, entities, config, isNew, keys, pieces, distinct, -, fresh, rfl⟩ := reached
    refine ⟨copies ++ [⟨entities ++ [⟨id, version, config, isNew, keys ++ [⟨current, pieces⟩],
      KeyCopy.nodup_concat distinct fresh⟩], .empty⟩],
      [.endKey id version current, .endEntity id version, .endSync .empty], ?_⟩
    simp [WholeCopy.items, EntityCopy.items, KeyCopy.items]

/-- The pieces of an open key may come. -/
theorem run?_pieces (id : EntityId) (version : UInt64) (synced : SortedSet ConcurrencyKey)
    (current : ConcurrencyKey) (pieces : List ByteArray) :
    (key id version synced current).run? (pieces.map (.payload id version current)) =
      some (key id version synced current) := by
  induction pieces with
  | nil => rfl
  | cons bytes rest ih =>
    rw [List.map_cons, run?, next?_payload]
    exact ih

/-- The copy of a key that is not yet whole may come. -/
theorem run?_keyCopy {id : EntityId} {version : UInt64} {synced : SortedSet ConcurrencyKey}
    {copy : KeyCopy} (fresh : synced.contains copy.key = false) :
    (entity id version synced).run? (copy.items id version) =
      some (entity id version (synced.insert copy.key)) := by
  rw [KeyCopy.items, List.cons_append, run?, next?_startKey fresh, Option.bind_some, run?_append,
    run?_pieces, Option.bind_some, run?, next?_endKey]
  rfl

/-- The copies of keys that are distinct and not yet whole may come. -/
theorem run?_keyCopies {id : EntityId} {version : UInt64} {keys : List KeyCopy}
    {synced : SortedSet ConcurrencyKey} (distinct : (keys.map (·.key)).Nodup)
    (fresh : ∀ copy ∈ keys, synced.contains copy.key = false) :
    ∃ whole, (entity id version synced).run? (keys.flatMap (KeyCopy.items id version)) =
      some (entity id version whole) := by
  induction keys generalizing synced with
  | nil => exact ⟨synced, rfl⟩
  | cons copy rest ih =>
    rw [List.map_cons, List.nodup_cons] at distinct
    rw [List.flatMap_cons, run?_append, run?_keyCopy (fresh copy List.mem_cons_self)]
    refine ih distinct.2 fun other member => ?_
    rw [Bool.eq_false_iff, ne_eq, SortedSet.contains_insert_iff, not_or]
    refine ⟨fun same => distinct.1 (same ▸ List.mem_map_of_mem member), ?_⟩
    rw [fresh other (List.mem_cons_of_mem _ member)]
    exact Bool.false_ne_true

/-- The copy of an entity may come. -/
theorem run?_entityCopy (entities : EntityCopy) : copy.run? entities.items = some copy := by
  obtain ⟨whole, keys⟩ : ∃ whole, (entity entities.id entities.version .empty).run?
      (entities.keys.flatMap (KeyCopy.items entities.id entities.version)) =
        some (entity entities.id entities.version whole) :=
    run?_keyCopies entities.distinct fun _ _ => rfl
  rw [EntityCopy.items, List.cons_append, run?]
  change (run? (entity entities.id entities.version .empty) _) = _
  rw [run?_append, keys, Option.bind_some, run?, next?_endEntity]
  rfl

/-- Whole copies may come. -/
theorem run?_wholeCopies (copies : List WholeCopy) :
    idle.run? (copies.flatMap WholeCopy.items) = some idle := by
  induction copies with
  | nil => rfl
  | cons first rest ih =>
    have entities : copy.run? (first.entities.flatMap EntityCopy.items) = some copy := by
      induction first.entities with
      | nil => rfl
      | cons head tail later => rw [List.flatMap_cons, run?_append, run?_entityCopy]; exact later
    rw [List.flatMap_cons, run?_append, WholeCopy.items, List.cons_append, run?]
    change (copy.run? _).bind _ = _
    rw [run?_append, entities]
    exact ih

/-- Items may come one after the other exactly when they are the beginning of whole copies. -/
theorem inGrammar_iff {items : List SyncMessage} :
    InGrammar items ↔ ∃ place, idle.run? items = some place := by
  constructor
  · rintro ⟨copies, rest, whole⟩
    have ran := run?_wholeCopies copies
    rw [← whole, run?_append] at ran
    obtain ⟨place, reached, -⟩ := Option.bind_eq_some_iff.mp ran
    exact ⟨place, reached⟩
  · rintro ⟨place, ran⟩
    have start : idle.Reaches [] := ⟨[], rfl⟩
    exact (start.run ran).inGrammar

end Nesting
end Standby
