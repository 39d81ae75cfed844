import Standby.FileTree.Basic
import Standby.Proofs.Ordered.Map

/-!
# What a directory lists

A directory lists what stands under a name in it, each name once. What has a name that is no text
comes behind the rest.
-/
namespace Standby

/-- A name that was made of a text is that text, and no other name is. -/
theorem FileName.text?_eq_some_iff {name : FileName} {text : String} :
    name.text? = some text ↔ name = .text text := by
  cases name <;> simp [FileName.text?]

/-- A site is known by its place. -/
theorem Site.eq_ofPlace_iff {site : Site} {place : Place} :
    site = .ofPlace place ↔ site.place = place := by
  constructor
  · rintro rfl
    rfl
  · rintro rfl
    obtain ⟨depth, place, counted⟩ := site
    subst counted
    rfl

namespace FileTree

variable {tree : FileTree} {directory : Place} {node : FileNode}

/-- A site one name below a directory is known by that name. -/
theorem eq_ofPlace_iff {site : Site} {name : String} :
    site = .ofPlace (directory ++ [name]) ↔
      (site.depth = directory.length + 1 ∧ isUnder directory site.place = true) ∧
        site.place.getLast? = some name := by
  constructor
  · rintro rfl
    simp [Site.ofPlace, isUnder]
  · rintro ⟨⟨depth, under⟩, last⟩
    obtain ⟨below, split⟩ := List.isPrefixOf_iff_prefix.mp under
    obtain ⟨depths, place, counted⟩ := site
    subst counted split
    have single : below.length = 1 := by simpa using depth
    obtain ⟨other, rfl⟩ := List.length_eq_one_iff.mp single
    obtain rfl : other = name := by simpa using last
    rfl

/-- The entry under which a listing of a directory shows what stands at a site. -/
theorem listed_eq_some_iff (entry : Site × FileNode) (found : FileName × FileNode) :
    (if entry.1.depth = directory.length + 1 ∧ isUnder directory entry.1.place = true then
      entry.1.place.getLast?.map fun name => (FileName.text name, entry.2) else none) =
        some found ↔
      ∃ name, found.1 = .text name ∧ entry = (.ofPlace (directory ++ [name]), found.2) := by
  simp only [Prod.ext_iff (x := entry), eq_ofPlace_iff]
  split
  · rename_i below
    rw [Option.map_eq_some_iff]
    constructor
    · rintro ⟨name, last, rfl⟩
      exact ⟨name, rfl, ⟨below, last⟩, rfl⟩
    · rintro ⟨name, named, ⟨-, last⟩, same⟩
      exact ⟨name, last, Prod.ext named.symm same⟩
  · rename_i elsewhere
    refine iff_of_false nofun ?_
    rintro ⟨name, -, ⟨below, -⟩, -⟩
    exact elsewhere below

/-- The entry under which a listing of a directory shows what has a name that is no text. -/
theorem stray_eq_some_iff (entry : Stray × FileNode) (found : FileName × FileNode) :
    (if entry.1.directory.place = directory then
      some (FileName.bytes entry.1.bytes entry.1.untold, entry.2) else none) = some found ↔
      ∃ bytes untold, found.1 = .bytes bytes untold ∧
        entry = (⟨.ofPlace directory, bytes, untold⟩, found.2) := by
  obtain ⟨⟨site, bytes, untold⟩, node⟩ := entry
  rw [Option.ite_none_right_eq_some, ← Site.eq_ofPlace_iff]
  constructor
  · rintro ⟨rfl, same⟩
    cases same
    exact ⟨bytes, untold, rfl, rfl⟩
  · rintro ⟨other, _, named, same⟩
    cases same
    exact ⟨rfl, congrArg some (Prod.ext named.symm rfl)⟩

/-- A directory lists what stands under a name in it. -/
theorem mem_children_iff {name : FileName} :
    (name, node) ∈ tree.children directory ↔ tree.named? directory name = some node := by
  simp only [children, List.mem_append, List.mem_filterMap, listed_eq_some_iff, stray_eq_some_iff]
  cases name with
  | text name =>
    have stands : tree.node? (directory ++ [name]) =
        tree.nodes.get? (.ofPlace (directory ++ [name])) := by
      rw [node?, List.isEmpty_eq_false_iff.mpr (by simp), if_neg Bool.false_ne_true]
    rw [named?, stands, SortedMap.get?_eq_some_iff]
    simp
  | bytes name untold =>
    rw [named?, SortedMap.get?_eq_some_iff]
    constructor
    · rintro (⟨entry, -, other, named, -⟩ | ⟨entry, stored, bytes, other, named, rfl⟩)
      · cases named
      · cases named
        exact stored
    · exact fun stored => .inr ⟨_, stored, name, untold, rfl, rfl⟩

/-- A directory lists a name once. -/
theorem nodup_children (tree : FileTree) (directory : Place) :
    ((tree.children directory).map (·.1)).Nodup := by
  rw [children, List.map_append, List.nodup_append]
  refine ⟨List.pairwise_map.mpr (List.Pairwise.filterMap _ ?_ tree.nodes.increasing),
    List.pairwise_map.mpr (List.Pairwise.filterMap _ ?_ tree.strays.increasing), ?_⟩
  · intro left right less first shown second again same
    obtain ⟨name, named, rfl⟩ := (listed_eq_some_iff left first).mp shown
    obtain ⟨other, also, rfl⟩ := (listed_eq_some_iff right second).mp again
    cases named.symm.trans (same.trans also)
    rw [Std.ReflOrd.compare_self] at less
    contradiction
  · intro left right less first shown second again same
    obtain ⟨name, untold, named, rfl⟩ := (stray_eq_some_iff left first).mp shown
    obtain ⟨other, _, also, rfl⟩ := (stray_eq_some_iff right second).mp again
    cases named.symm.trans (same.trans also)
    rw [Std.ReflOrd.compare_self] at less
    contradiction
  · simp only [List.mem_map, List.mem_filterMap, listed_eq_some_iff, stray_eq_some_iff]
    rintro _ ⟨first, ⟨-, -, name, named, -⟩, rfl⟩ _ ⟨second, ⟨-, -, _, _, also, -⟩, rfl⟩ same
    cases named.symm.trans (same.trans also)

end FileTree
end Standby
