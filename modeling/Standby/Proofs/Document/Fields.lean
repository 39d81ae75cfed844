import Mathlib.Data.List.Basic
import Mathlib.Data.List.Nodup
import Standby.Document.Decode

/-!
# The fields of a table

A table whose names are distinct gives every field its own document (`fields_table`), so what is
decoded from a record depends on the documents of its parts alone.
-/
namespace Standby.Document

variable {name : String} {entries : List (String × Document)} {value : Document}

/-- Values that are each decoded are decoded in order. -/
theorem mapM_eq_some_map {α β : Type} {values : List α} {decode : α → Option β} {result : α → β}
    (each : ∀ value ∈ values, decode value = some (result value)) :
    values.mapM decode = some (values.map result) := by
  induction values with
  | nil => rfl
  | cons value rest ih =>
    rw [List.mapM_cons, each value List.mem_cons_self,
      ih fun other member => each other (List.mem_cons_of_mem _ member)]
    rfl

/-- Each value of a list is decoded from an item, and each item is decoded to a value. -/
theorem mem_of_mapM_eq_some {α β : Type} {items : List α} {decode : α → Option β}
    {values : List β} (decoded : items.mapM decode = some values) :
    (∀ value ∈ values, ∃ item ∈ items, decode item = some value) ∧
      ∀ item ∈ items, ∃ value ∈ values, decode item = some value := by
  induction items generalizing values with
  | nil =>
    cases decoded
    simp
  | cons item items ih =>
    rw [List.mapM_cons] at decoded
    obtain ⟨first, read, decoded⟩ := Option.bind_eq_some_iff.mp decoded
    obtain ⟨rest, others, decoded⟩ := Option.bind_eq_some_iff.mp decoded
    cases decoded
    obtain ⟨from_items, from_values⟩ := ih others
    simp only [List.forall_mem_cons, List.exists_mem_cons_iff, read, true_or, true_and]
    exact ⟨fun value member => .inr (from_items value member),
      fun found member => .inr (from_values found member)⟩

/-- Nothing is under a name that is not given. -/
theorem underName_eq_nil (absent : name ∉ entries.map (·.1)) : underName name entries = [] := by
  rw [underName, List.map_eq_nil_iff, List.filter_eq_nil_iff]
  intro entry member same
  exact absent (eq_of_beq same ▸ List.mem_map_of_mem member)

/-- An entry with a name of its own is all that is under its name. -/
theorem underName_eq_singleton (distinct : (entries.map (·.1)).Nodup)
    (member : (name, value) ∈ entries) : underName name entries = [value] := by
  obtain ⟨front, back, rfl⟩ := List.append_of_mem member
  rw [List.map_append, List.map_cons, List.nodup_middle, List.nodup_cons, List.mem_append,
    not_or] at distinct
  have before : underName name front = [] := underName_eq_nil distinct.1.1
  have after : underName name back = [] := underName_eq_nil distinct.1.2
  rw [underName, List.map_eq_nil_iff] at before after
  simp [underName, before, after]

/-- A table with distinct names gives each field what it holds under the name. -/
theorem givenField_eq_lookup (distinct : (entries.map (·.1)).Nodup) (name : String) :
    givenField entries name = some (entries.lookup name) := by
  rw [givenField]
  cases found : entries.lookup name with
  | none =>
    have absent : name ∉ entries.map (·.1) := by
      intro given
      obtain ⟨entry, member, rfl⟩ := List.mem_map.mp given
      simpa using List.lookup_eq_none_iff.mp found entry member
    rw [underName_eq_nil absent]
  | some document =>
    obtain ⟨before, after, rfl, -⟩ := List.lookup_eq_some_iff.mp found
    rw [underName_eq_singleton distinct (List.mem_append_right before List.mem_cons_self)]

/-- The fields of a record are what a table with distinct names holds under their names. -/
theorem fieldsIn_table (dialect : Dialect) (completeness : Completeness)
    (distinct : (entries.map (·.1)).Nodup) (names : List String) :
    fieldsIn dialect completeness names (.table entries) =
      some (names.map fun name => entries.lookup name) :=
  mapM_eq_some_map fun name _ => givenField_eq_lookup distinct name

/-- A table with distinct names gives its documents to the fields of these names. -/
theorem fields_table (completeness : Completeness) (distinct : (entries.map (·.1)).Nodup) :
    fields completeness (entries.map (·.1)) (.table entries) =
      some (entries.map fun entry => some entry.2) := by
  change (entries.map (·.1)).mapM (givenField entries) = _
  rw [List.mapM_map]
  refine mapM_eq_some_map fun entry member => ?_
  change givenField entries entry.1 = some (some entry.2)
  rw [givenField, underName_eq_singleton distinct member]

/-- Values are decoded from the documents they are written as. -/
theorem listOf_map {α : Type} {decode : Decoder α} {encode : α → Document}
    (back : ∀ value, decode (encode value) = some value) (values : List α) :
    listOf decode (.list (values.map encode)) = some values := by
  rw [listOf, List.mapM_map]
  exact (mapM_eq_some_map fun value _ => back value).trans (by rw [List.map_id'])

/-- A word is decoded from the integer it is written as. -/
theorem uint64_ofUInt64 (value : UInt64) : uint64 (ofUInt64 value) = some value := by
  have below := value.toNat_lt
  have within : (0 : Int) ≤ value.toNat ∧ (value.toNat : Int) ≤ UInt64.size - 1 := by
    simp only [UInt64.size]
    omega
  simp only [uint64, intWithin, int, ofUInt64, Option.bind_some, if_pos within, Option.map_some,
    Int.toNat_natCast, UInt64.ofNat_toNat]

/-- A word of half the length is decoded from the integer it is written as. -/
theorem uint32_toNat (value : UInt32) : uint32 (.integer value.toNat) = some value := by
  have below := value.toNat_lt
  have within : (0 : Int) ≤ value.toNat ∧ (value.toNat : Int) ≤ UInt32.size - 1 := by
    simp only [UInt32.size]
    omega
  simp only [uint32, intWithin, int, Option.bind_some, if_pos within, Option.map_some,
    Int.toNat_natCast, UInt32.ofNat_toNat]

/-- A signed word is decoded from the integer it is written as. -/
theorem int32_toInt (value : Int32) : int32 (.integer value.toInt) = some value := by
  have within : Int32.minValue.toInt ≤ value.toInt ∧ value.toInt ≤ Int32.maxValue.toInt :=
    ⟨value.minValue_le_toInt, value.toInt_le⟩
  simp only [int32, intWithin, int, Option.bind_some, if_pos within, Option.map_some,
    Int32.ofInt_toInt]

end Standby.Document
