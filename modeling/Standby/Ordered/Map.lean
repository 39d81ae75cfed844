/-!
# Sorted maps

A finite map is the list of its entries in strictly increasing order of their keys.
-/
namespace Standby

/-- A finite map over ordered keys. -/
structure SortedMap (κ ν : Type) [Ord κ] where
  /-- The entries, each before those of greater keys. -/
  toList : List (κ × ν)
  /-- No key is repeated or out of order. -/
  increasing : toList.Pairwise fun left right => compare left.1 right.1 = .lt

namespace SortedMap

variable {κ ν : Type} [Ord κ]

/-- Insertion before the first greater key; the value of an equal key is replaced. -/
def insertList (key : κ) (value : ν) : List (κ × ν) → List (κ × ν)
  | [] => [(key, value)]
  | head :: rest =>
    match compare key head.1 with
    | .lt => (key, value) :: head :: rest
    | .eq => (head.1, value) :: rest
    | .gt => head :: insertList key value rest

/-- Insertion adds at most the inserted key. -/
theorem mem_of_mem_insertList {key : κ} {value : ν} {found : κ × ν} {items : List (κ × ν)}
    (member : found ∈ insertList key value items) :
    found.1 = key ∨ ∃ old ∈ items, found.1 = old.1 := by
  induction items with
  | nil =>
    simp only [insertList, List.mem_singleton] at member
    exact .inl (by rw [member])
  | cons head rest ih =>
    simp only [insertList] at member
    split at member
    · rcases List.mem_cons.1 member with rfl | old
      · exact .inl rfl
      · exact .inr ⟨found, old, rfl⟩
    · rcases List.mem_cons.1 member with rfl | old
      · exact .inr ⟨head, List.mem_cons_self, rfl⟩
      · exact .inr ⟨found, List.mem_cons_of_mem _ old, rfl⟩
    · rcases List.mem_cons.1 member with rfl | later
      · exact .inr ⟨found, List.mem_cons_self, rfl⟩
      · rcases ih later with same | ⟨old, before, same⟩
        · exact .inl same
        · exact .inr ⟨old, List.mem_cons_of_mem _ before, same⟩

/-- Insertion keeps the strict order of the keys. -/
theorem increasing_insertList [Std.TransOrd κ] (key : κ) (value : ν) {items : List (κ × ν)}
    (increasing : items.Pairwise fun left right => compare left.1 right.1 = .lt) :
    (insertList key value items).Pairwise fun left right => compare left.1 right.1 = .lt := by
  induction items with
  | nil => simp [insertList]
  | cons head rest ih =>
    obtain ⟨below, tail⟩ := List.pairwise_cons.1 increasing
    simp only [insertList]
    split
    case h_1 less =>
      refine List.pairwise_cons.2 ⟨fun other member => ?_, increasing⟩
      rcases List.mem_cons.1 member with rfl | later
      · exact less
      · exact Std.TransCmp.lt_trans less (below other later)
    case h_2 => exact List.pairwise_cons.2 ⟨below, tail⟩
    case h_3 greater =>
      refine List.pairwise_cons.2 ⟨fun other member => ?_, ih tail⟩
      rcases mem_of_mem_insertList member with same | ⟨old, before, same⟩
      · rw [same]; exact Std.OrientedCmp.gt_iff_lt.1 greater
      · rw [same]; exact below old before

/-- The map without entries. -/
def empty : SortedMap κ ν := ⟨[], .nil⟩

instance : Inhabited (SortedMap κ ν) := ⟨empty⟩

/-- The map with a key set to a value. -/
def insert [Std.TransOrd κ] (map : SortedMap κ ν) (key : κ) (value : ν) : SortedMap κ ν :=
  ⟨insertList key value map.toList, increasing_insertList key value map.increasing⟩

/-- The map of the entries of a list; of entries with equal keys the last one holds. -/
def ofList [Std.TransOrd κ] (entries : List (κ × ν)) : SortedMap κ ν :=
  entries.foldl (fun map entry => map.insert entry.1 entry.2) empty

/-- The entry listed under a key. -/
def lookupList (key : κ) (entries : List (κ × ν)) : Option ν :=
  (entries.find? fun entry => compare key entry.1 == .eq).map (·.2)

/-- The value of a key. -/
def get? (map : SortedMap κ ν) (key : κ) : Option ν := lookupList key map.toList

/-- A key with an entry. -/
def contains (map : SortedMap κ ν) (key : κ) : Bool := (map.get? key).isSome

/-- The map without a key. -/
def erase (map : SortedMap κ ν) (key : κ) : SortedMap κ ν :=
  ⟨map.toList.filter fun entry => compare key entry.1 != .eq,
    map.increasing.sublist List.filter_sublist⟩

/-- The keys in order. -/
def keys (map : SortedMap κ ν) : List κ := map.toList.map (·.1)

/-- The values in the order of their keys. -/
def values (map : SortedMap κ ν) : List ν := map.toList.map (·.2)

/-- The empty map has no values. -/
@[simp] theorem get?_empty (key : κ) : (empty : SortedMap κ ν).get? key = none := rfl

/-- An insertion decides what is listed under its own key and nothing else. -/
theorem lookupList_insertList [Std.TransOrd κ] (key sought : κ) (value : ν)
    (items : List (κ × ν)) :
    lookupList sought (insertList key value items) =
      if compare sought key = .eq then some value else lookupList sought items := by
  induction items with
  | nil => by_cases same : compare sought key = .eq <;> simp [insertList, lookupList, same]
  | cons head rest ih =>
    simp only [insertList]
    split
    · by_cases same : compare sought key = .eq <;> simp [lookupList, same]
    · rename_i equal
      have swap : compare sought head.1 = compare sought key :=
        (Std.TransCmp.congr_right equal).symm
      by_cases same : compare sought key = .eq <;> simp [lookupList, swap, same]
    · rename_i greater
      by_cases here : compare sought head.1 = .eq
      · have differs : compare sought key ≠ .eq := fun same => by
          have equal : compare key head.1 = .eq := by
            rw [← Std.TransCmp.congr_left same]
            exact here
          rw [equal] at greater
          cases greater
        simp [lookupList, here, differs]
      · simpa [lookupList, here] using ih

/-- An inserted key has the inserted value; every other key keeps its own. -/
theorem get?_insert [Std.TransOrd κ] (map : SortedMap κ ν) (key sought : κ) (value : ν) :
    (map.insert key value).get? sought =
      if compare sought key = .eq then some value else map.get? sought :=
  lookupList_insertList key sought value map.toList

/-- A removed key has no value; every key different from it keeps its own. -/
theorem get?_erase [Std.TransOrd κ] (map : SortedMap κ ν) (key sought : κ) :
    (map.erase key).get? sought = if compare sought key = .eq then none else map.get? sought := by
  obtain ⟨items, increasing⟩ := map
  simp only [get?, erase]
  clear increasing
  induction items with
  | nil => simp [lookupList]
  | cons head rest ih =>
    by_cases removed : compare key head.1 = .eq
    · rw [List.filter_cons_of_neg (by simp [removed]), ih]
      split
      · rfl
      · rename_i differs
        have elsewhere : compare sought head.1 ≠ .eq := by
          rw [← Std.TransCmp.congr_right removed]
          exact differs
        simp [lookupList, elsewhere]
    · rw [List.filter_cons_of_pos (by simp [removed])]
      by_cases here : compare sought head.1 = .eq
      · have differs : compare sought key ≠ .eq := fun same => removed (by
          rw [← Std.TransCmp.congr_left same]
          exact here)
        simp [lookupList, here, differs]
      · simpa [lookupList, here] using ih

/-- Maps with one listing are equal. -/
theorem ext_toList {left right : SortedMap κ ν} (same : left.toList = right.toList) :
    left = right := by
  cases left; cases right; cases same; rfl

/-- A key greater than every listed one is listed last. -/
theorem insertList_of_all_lt [Std.OrientedOrd κ] {key : κ} {value : ν} {items : List (κ × ν)}
    (below : ∀ entry ∈ items, compare entry.1 key = .lt) :
    insertList key value items = items ++ [(key, value)] := by
  induction items with
  | nil => rfl
  | cons head rest ih =>
    have greater : compare key head.1 = .gt :=
      Std.OrientedCmp.gt_iff_lt.2 (below head List.mem_cons_self)
    simp only [insertList, greater, List.cons_append]
    rw [ih fun entry member => below entry (List.mem_cons_of_mem _ member)]

/-- Inserting an increasing continuation of a listing appends it. -/
theorem toList_foldl_insert [Std.TransOrd κ] (items : List (κ × ν)) (map : SortedMap κ ν)
    (increasing : (map.toList ++ items).Pairwise fun left right =>
      compare left.1 right.1 = .lt) :
    (items.foldl (fun map entry => map.insert entry.1 entry.2) map).toList =
      map.toList ++ items := by
  induction items generalizing map with
  | nil => simp
  | cons head rest ih =>
    have before : ∀ entry ∈ map.toList, compare entry.1 head.1 = .lt := fun entry member =>
      (List.pairwise_append.1 increasing).2.2 entry member head List.mem_cons_self
    have step : (map.insert head.1 head.2).toList = map.toList ++ [head] :=
      insertList_of_all_lt before
    rw [List.foldl_cons, ih]
    · rw [step, List.append_assoc, List.singleton_append]
    · rw [step, List.append_assoc, List.singleton_append]
      exact increasing

/-- The map of its own entries is the map itself. -/
theorem ofList_toList [Std.TransOrd κ] (map : SortedMap κ ν) : ofList map.toList = map :=
  ext_toList (toList_foldl_insert map.toList empty map.increasing)

end SortedMap
end Standby
