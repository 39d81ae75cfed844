import Standby.Ordered.Set

/-!
# Members of sorted sets

A set has exactly the values that it lists, and insertion and removal concern one value each.
-/
namespace Standby.SortedSet

variable {α : Type} [Ord α] [Std.LawfulEqOrd α]

/-- A set contains what it lists. -/
theorem contains_iff {set : SortedSet α} {value : α} :
    set.contains value = true ↔ value ∈ set.toList := by
  simp [contains]

/-- Insertion adds the inserted value and nothing else. -/
theorem mem_insertList_iff {value found : α} {items : List α} :
    found ∈ insertList value items ↔ found = value ∨ found ∈ items := by
  refine ⟨mem_of_mem_insertList, ?_⟩
  induction items with
  | nil => simp [insertList]
  | cons head rest ih =>
    intro member
    simp only [insertList]
    split
    · simpa using member
    · rename_i equal
      have same : value = head := Std.LawfulEqOrd.eq_of_compare equal
      simpa [same] using member
    · rcases member with rfl | old
      · exact List.mem_cons_of_mem _ (ih (.inl rfl))
      · rcases List.mem_cons.mp old with rfl | later
        · exact List.mem_cons_self
        · exact List.mem_cons_of_mem _ (ih (.inr later))

/-- A set with one more value contains that value and what it contained. -/
theorem contains_insert_iff [Std.TransOrd α] {set : SortedSet α} {value sought : α} :
    (set.insert value).contains sought = true ↔ sought = value ∨ set.contains sought = true := by
  rw [contains_iff, contains_iff, toList_insert, mem_insertList_iff]

/-- A removed value is gone and every other one stays. -/
theorem contains_erase_iff {set : SortedSet α} {value sought : α} :
    (set.erase value).contains sought = true ↔ sought ≠ value ∧ set.contains sought = true := by
  rw [contains_iff, contains_iff, erase, List.mem_filter, bne_iff_ne, ne_eq,
    Std.LawfulEqOrd.compare_eq_iff_eq, and_comm, ne_comm, ne_eq]

/-- The set of a list lists what the list lists. -/
theorem mem_ofList_iff [Std.TransOrd α] {items : List α} {value : α} :
    value ∈ (ofList items).toList ↔ value ∈ items := by
  suffices folded : ∀ set : SortedSet α,
      value ∈ (items.foldl insert set).toList ↔ value ∈ items ∨ value ∈ set.toList by
    simpa [ofList] using folded empty
  induction items with
  | nil => simp
  | cons head rest ih =>
    intro set
    rw [List.foldl_cons, ih, toList_insert, mem_insertList_iff, List.mem_cons, or_left_comm,
      or_assoc]

end Standby.SortedSet
