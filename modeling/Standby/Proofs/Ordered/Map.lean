import Mathlib.Data.List.Nodup
import Standby.Ordered.Map

/-!
# Entries of sorted maps

A map lists each of its keys once, and a key has the value that is listed beside it.
-/
namespace Standby.SortedMap

variable {κ ν : Type} [Ord κ] {map : SortedMap κ ν}

/-- The value of an entry is that of its key. -/
theorem get?_of_mem [Std.TransOrd κ] {entry : κ × ν} (member : entry ∈ map.toList) :
    map.get? entry.1 = some entry.2 := by
  obtain ⟨items, increasing⟩ := map
  simp only [get?]
  induction items with
  | nil => exact absurd member List.not_mem_nil
  | cons head rest ih =>
    obtain ⟨below, tail⟩ := List.pairwise_cons.mp increasing
    rcases List.mem_cons.mp member with rfl | later
    · simp [lookupList, Std.ReflOrd.compare_self]
    · have greater : compare entry.1 head.1 = .gt :=
        Std.OrientedCmp.gt_iff_lt.mpr (below entry later)
      have found := ih tail later
      simpa [lookupList, greater] using found

/-- A key has a value exactly if the two are listed together. -/
theorem get?_eq_some_iff [Std.TransOrd κ] [Std.LawfulEqOrd κ] {key : κ} {value : ν} :
    map.get? key = some value ↔ (key, value) ∈ map.toList := by
  refine ⟨fun found => ?_, fun member => get?_of_mem member⟩
  obtain ⟨entry, listed, rfl⟩ := Option.map_eq_some_iff.mp found
  have same : key = entry.1 :=
    Std.LawfulEqOrd.eq_of_compare (by simpa using List.find?_some listed)
  rw [same]
  exact List.mem_of_find?_eq_some listed

/-- A map in which all keys are one has one entry at most. -/
theorem toList_eq_of_sole [Std.TransOrd κ] {key : κ}
    (sole : ∀ found, map.contains found = true → found = key) :
    map.toList = [] ∨ ∃ value, map.toList = [(key, value)] := by
  have same {entry : κ × ν} (member : entry ∈ map.toList) : entry.1 = key :=
    sole entry.1 (by rw [contains, get?_of_mem member]; rfl)
  have increasing := map.increasing
  cases entries : map.toList with
  | nil => exact .inl rfl
  | cons first rest =>
    rw [entries] at same increasing
    have own : first.1 = key := same List.mem_cons_self
    cases rest with
    | nil => exact .inr ⟨first.2, by rw [← own]⟩
    | cons second others =>
      have less := (List.pairwise_cons.mp increasing).1 second List.mem_cons_self
      rw [own, same (List.mem_cons_of_mem _ List.mem_cons_self), Std.ReflOrd.compare_self] at less
      contradiction

/-- Every key of a map is listed once. -/
theorem nodup_keys [Std.TransOrd κ] (map : SortedMap κ ν) : map.keys.Nodup := by
  refine List.pairwise_map.mpr (map.increasing.imp fun {first second} less same => ?_)
  rw [same, Std.ReflOrd.compare_self] at less
  contradiction

/-- The keys of a map are those that have a value. -/
theorem contains_iff_mem_keys [Std.LawfulEqOrd κ] (map : SortedMap κ ν) (key : κ) :
    map.contains key = true ↔ key ∈ map.keys := by
  simp only [contains, get?, lookupList, Option.isSome_map, List.find?_isSome, keys, List.mem_map,
    beq_iff_eq, Std.LawfulEqOrd.compare_eq_iff_eq]
  exact exists_congr fun entry => and_congr_right fun _ => eq_comm

/-- A key that is not listed is inserted beside the listed ones. -/
theorem insertList_perm [Std.LawfulEqOrd κ] {key : κ} {value : ν} {items : List (κ × ν)}
    (absent : key ∉ items.map (·.1)) :
    (insertList key value items).Perm ((key, value) :: items) := by
  induction items with
  | nil => exact .refl _
  | cons head rest ih =>
    obtain ⟨other, later⟩ := not_or.mp (mt List.mem_cons.mpr absent)
    simp only [insertList]
    split
    · exact .refl _
    · rename_i equal
      exact absurd (Std.LawfulEqOrd.eq_of_compare equal) other
    · exact ((ih later).cons head).trans (.swap _ _ _)

/-- The map of entries with distinct keys lists exactly those entries. -/
theorem toList_ofList_perm [Std.TransOrd κ] [Std.LawfulEqOrd κ] {entries : List (κ × ν)}
    (distinct : (entries.map (·.1)).Nodup) : (ofList entries).toList.Perm entries := by
  suffices folded : ∀ map : SortedMap κ ν, (map.toList.map (·.1) ++ entries.map (·.1)).Nodup →
      (entries.foldl (fun map entry => map.insert entry.1 entry.2) map).toList.Perm
        (map.toList ++ entries) by
    exact folded empty distinct
  clear distinct
  induction entries with
  | nil => simp
  | cons entry rest ih =>
    intro map distinct
    obtain ⟨absent, others⟩ := List.nodup_cons.mp (List.nodup_middle.mp distinct)
    have inserted : (map.insert entry.1 entry.2).toList.Perm (entry :: map.toList) :=
      insertList_perm fun listed => absent (List.mem_append_left _ listed)
    have fresh : ((map.insert entry.1 entry.2).toList.map (·.1) ++ rest.map (·.1)).Nodup :=
      (((inserted.map _).append_right _).nodup_iff).mpr (List.nodup_cons.mpr ⟨absent, others⟩)
    exact (ih _ fresh).trans ((inserted.append_right rest).trans List.perm_middle.symm)

end Standby.SortedMap
