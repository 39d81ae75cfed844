/-!
# Sorted sets

A finite set is the list of its elements in strictly increasing order, so two sets with the
same elements are equal and the order in which a set is listed is part of its meaning.
-/
namespace Standby

/-- A finite set of ordered values. -/
structure SortedSet (α : Type) [Ord α] where
  /-- The elements, each before every greater one. -/
  toList : List α
  /-- No element is repeated or out of order. -/
  increasing : toList.Pairwise fun left right => compare left right = .lt

namespace SortedSet

variable {α : Type} [Ord α]

/-- Insertion before the first greater element; an equal element stays as it is. -/
def insertList (value : α) : List α → List α
  | [] => [value]
  | head :: rest =>
    match compare value head with
    | .lt => value :: head :: rest
    | .eq => head :: rest
    | .gt => head :: insertList value rest

/-- Insertion adds at most the inserted value. -/
theorem mem_of_mem_insertList {value found : α} {items : List α}
    (member : found ∈ insertList value items) : found = value ∨ found ∈ items := by
  induction items with
  | nil => simpa [insertList] using member
  | cons head rest ih =>
    simp only [insertList] at member
    split at member
    · simpa using member
    · exact .inr member
    · rcases List.mem_cons.1 member with rfl | later
      · exact .inr List.mem_cons_self
      · rcases ih later with rfl | old
        · exact .inl rfl
        · exact .inr (List.mem_cons_of_mem _ old)

/-- Insertion keeps the strict order. -/
theorem increasing_insertList [Std.TransOrd α] (value : α) {items : List α}
    (increasing : items.Pairwise fun left right => compare left right = .lt) :
    (insertList value items).Pairwise fun left right => compare left right = .lt := by
  induction items with
  | nil => simp [insertList]
  | cons head rest ih =>
    obtain ⟨below, tail⟩ := List.pairwise_cons.1 increasing
    simp only [insertList]
    split
    case h_1 less =>
      refine List.pairwise_cons.2 ⟨fun other member => ?_, increasing⟩
      rcases List.mem_cons.1 member with rfl | later
      · exact less
      · exact Std.TransCmp.lt_trans less (below other later)
    case h_2 => exact increasing
    case h_3 greater =>
      refine List.pairwise_cons.2 ⟨fun other member => ?_, ih tail⟩
      rcases mem_of_mem_insertList member with rfl | old
      · exact Std.OrientedCmp.gt_iff_lt.1 greater
      · exact below other old

/-- The set without elements. -/
def empty : SortedSet α := ⟨[], .nil⟩

instance : Inhabited (SortedSet α) := ⟨empty⟩

instance [DecidableEq α] : DecidableEq (SortedSet α) := fun left right =>
  if same : left.toList = right.toList then
    .isTrue (by cases left; cases right; cases same; rfl)
  else .isFalse fun equal => same (congrArg toList equal)

/-- The set with one more value. -/
def insert [Std.TransOrd α] (set : SortedSet α) (value : α) : SortedSet α :=
  ⟨insertList value set.toList, increasing_insertList value set.increasing⟩

/-- The set of the values of a list. -/
def ofList [Std.TransOrd α] (items : List α) : SortedSet α := items.foldl insert empty

/-- A value equal to an element. -/
def contains (set : SortedSet α) (value : α) : Bool :=
  set.toList.any fun element => compare value element == .eq

/-- The set without the elements equal to a value. -/
def erase (set : SortedSet α) (value : α) : SortedSet α :=
  ⟨set.toList.filter fun element => compare value element != .eq,
    set.increasing.sublist List.filter_sublist⟩

/-- The number of elements. -/
def size (set : SortedSet α) : Nat := set.toList.length

/-- The empty set lists nothing. -/
@[simp] theorem toList_empty : (empty : SortedSet α).toList = [] := rfl

/-- Insertion acts on the listing. -/
@[simp] theorem toList_insert [Std.TransOrd α] (set : SortedSet α) (value : α) :
    (set.insert value).toList = insertList value set.toList := rfl

/-- Sets with one listing are equal. -/
theorem ext_toList {left right : SortedSet α} (same : left.toList = right.toList) :
    left = right := by
  cases left; cases right; cases same; rfl

/-- A value greater than every listed one is listed last. -/
theorem insertList_of_all_lt [Std.OrientedOrd α] {value : α} {items : List α}
    (below : ∀ element ∈ items, compare element value = .lt) :
    insertList value items = items ++ [value] := by
  induction items with
  | nil => rfl
  | cons head rest ih =>
    have greater : compare value head = .gt :=
      Std.OrientedCmp.gt_iff_lt.2 (below head List.mem_cons_self)
    simp only [insertList, greater, List.cons_append]
    rw [ih fun element member => below element (List.mem_cons_of_mem _ member)]

/-- Inserting an increasing continuation of a listing appends it. -/
theorem toList_foldl_insert [Std.TransOrd α] (items : List α) (set : SortedSet α)
    (increasing : (set.toList ++ items).Pairwise fun left right => compare left right = .lt) :
    (items.foldl insert set).toList = set.toList ++ items := by
  induction items generalizing set with
  | nil => simp
  | cons head rest ih =>
    have before : ∀ element ∈ set.toList, compare element head = .lt := fun element member =>
      (List.pairwise_append.1 increasing).2.2 element member head List.mem_cons_self
    have step : (set.insert head).toList = set.toList ++ [head] :=
      insertList_of_all_lt before
    rw [List.foldl_cons, ih]
    · rw [step, List.append_assoc, List.singleton_append]
    · rw [step, List.append_assoc, List.singleton_append]
      exact increasing

/-- The set of its own listing is the set itself. -/
theorem ofList_toList [Std.TransOrd α] (set : SortedSet α) : ofList set.toList = set :=
  ext_toList (by
    rw [ofList, toList_foldl_insert _ _ (by simpa using set.increasing)]
    simp)

end SortedSet
end Standby
