import Standby.FileTree.Path
import Standby.IoFault
import Standby.Ordered.Map

/-!
# File trees

A file tree is the content of a file system: what stands at each place, a place being the names
from the root. Relative routes begin at a directory of the tree. A walk follows the links on its
way, and an operation on a link itself does not follow the last one.

A file system takes any bytes as a name. What has a name that is no text is kept apart: no path
leads to it, and only the listing of its directory shows it.
-/
namespace Standby

/-- What stands at a place. -/
inductive FileNode where
  /-- A file with its bytes, its permission bits and the time of its last change in
  milliseconds. -/
  | file (bytes : ByteArray) (mode : Nat) (modified : Int)
  /-- A directory with its permission bits. -/
  | directory (mode : Nat)
  /-- A link to a path. -/
  | link (target : String)

/-- The names from the root to a place. -/
abbrev Place : Type := List String

/-- A place with its depth, by which places are told apart before their names are compared. -/
structure Site where
  /-- The number of names. -/
  depth : Nat
  /-- The names. -/
  place : Place
  /-- The depth counts the names. -/
  counted : depth = place.length

namespace Site

/-- The site of a place. -/
def ofPlace (place : Place) : Site := ⟨place.length, place, rfl⟩

instance : Ord Site := ⟨compareLex (compareOn (·.depth)) (compareOn (·.place))⟩

instance : Std.TransOrd Site :=
  inferInstanceAs (Std.TransCmp (compareLex (compareOn _) (compareOn _)))

instance : Std.LawfulEqOrd Site where
  compare_self {_} :=
    compareLex_eq_eq.2 ⟨Std.ReflOrd.compare_self (α := Nat), Std.ReflOrd.compare_self (α := Place)⟩
  eq_of_compare {left right} same := by
    have parts := compareLex_eq_eq.1 same
    have depths : left.depth = right.depth := Std.LawfulEqOrd.eq_of_compare parts.1
    have places : left.place = right.place := Std.LawfulEqOrd.eq_of_compare parts.2
    cases left; cases right; cases depths; cases places; rfl

/-- Two places are at one site only if they are the same. -/
theorem compare_ofPlace {left right : Place} :
    compare (ofPlace left) (ofPlace right) = .eq ↔ left = right := by
  rw [Std.LawfulEqOrd.compare_eq_iff_eq]
  constructor
  · intro same
    exact congrArg Site.place same
  · rintro rfl
    rfl

end Site

/-- Some bytes are a text. -/
def isText (bytes : List UInt8) : Bool := (String.fromUTF8? ⟨bytes.toArray⟩).isSome

/-- The name of something in a directory. -/
inductive FileName where
  /-- A text. -/
  | text (value : String)
  /-- Bytes that are no text. -/
  | bytes (value : List UInt8) (untold : isText value = false)

/-- The text that a name is, if it is one. -/
def FileName.text? : FileName → Option String
  | text value => some value
  | bytes _ _ => none

/-- A place in a directory under a name that is no text. -/
structure Stray where
  /-- The directory. -/
  directory : Site
  /-- The name. -/
  bytes : List UInt8
  /-- The name is no text. -/
  untold : isText bytes = false

namespace Stray

instance : Ord Stray := ⟨compareLex (compareOn (·.directory)) (compareOn (·.bytes))⟩

instance : Std.TransOrd Stray :=
  inferInstanceAs (Std.TransCmp (compareLex (compareOn _) (compareOn _)))

instance : Std.LawfulEqOrd Stray where
  compare_self {_} := compareLex_eq_eq.2
    ⟨Std.ReflOrd.compare_self (α := Site), Std.ReflOrd.compare_self (α := List UInt8)⟩
  eq_of_compare {left right} same := by
    have parts := compareLex_eq_eq.1 same
    have directories : left.directory = right.directory := Std.LawfulEqOrd.eq_of_compare parts.1
    have names : left.bytes = right.bytes := Std.LawfulEqOrd.eq_of_compare parts.2
    cases left; cases right; cases directories; cases names; rfl

end Stray

/-- The content of a file system. -/
structure FileTree where
  /-- What stands at each place but the root, which is a directory. -/
  nodes : SortedMap Site FileNode
  /-- Where relative routes begin. -/
  home : Place
  /-- What stands in directories under names that are no texts. -/
  strays : SortedMap Stray FileNode := .empty

namespace FileTree

/-- The permission bits of a new directory. -/
def newDirectoryMode : Nat := 0o755

/-- A tree with nothing but the way to its home. -/
def ofHome (home : Place) : FileTree :=
  { home
    nodes := .ofList ((List.range home.length).map fun depth =>
      (.ofPlace (home.take (depth + 1)), .directory newDirectoryMode)) }

instance : Inhabited FileTree := ⟨ofHome []⟩

/-- What stands at a place. -/
def node? (tree : FileTree) (place : Place) : Option FileNode :=
  if place.isEmpty then some (.directory newDirectoryMode) else tree.nodes.get? (.ofPlace place)

/-- The tree with something at a place. -/
def put (tree : FileTree) (place : Place) (node : FileNode) : FileTree :=
  { tree with nodes := tree.nodes.insert (.ofPlace place) node }

/-- The tree without what stands at a place. -/
def delete (tree : FileTree) (place : Place) : FileTree :=
  { tree with nodes := tree.nodes.erase (.ofPlace place) }

/-- What is put somewhere stands there, and nothing changes elsewhere. -/
theorem node?_put (tree : FileTree) (place sought : Place) (node : FileNode)
    (inside : sought ≠ []) :
    (tree.put place node).node? sought =
      if sought = place then some node else tree.node? sought := by
  have asked : sought.isEmpty = false := List.isEmpty_eq_false_iff.2 inside
  simp only [node?, put, asked, SortedMap.get?_insert, Site.compare_ofPlace, Bool.false_eq_true,
    ↓reduceIte]

/-- Nothing stands where something was deleted, and nothing changes elsewhere. -/
theorem node?_delete (tree : FileTree) (place sought : Place) (inside : sought ≠ []) :
    (tree.delete place).node? sought = if sought = place then none else tree.node? sought := by
  have asked : sought.isEmpty = false := List.isEmpty_eq_false_iff.2 inside
  simp only [node?, delete, asked, SortedMap.get?_erase, Site.compare_ofPlace, Bool.false_eq_true,
    ↓reduceIte]

/-- What is put in one place does not matter to the others. -/
theorem node?_put_of_ne (tree : FileTree) (node : FileNode) {place sought : Place}
    (apart : sought ≠ place) : (tree.put place node).node? sought = tree.node? sought := by
  by_cases inside : sought = []
  · subst inside
    rfl
  · rw [node?_put _ _ _ _ inside, if_neg apart]

/-- What is deleted in one place does not matter to the others. -/
theorem node?_delete_of_ne (tree : FileTree) {place sought : Place} (apart : sought ≠ place) :
    (tree.delete place).node? sought = tree.node? sought := by
  by_cases inside : sought = []
  · subst inside
    rfl
  · rw [node?_delete _ _ _ inside, if_neg apart]

/-- What is put under a name in a directory stands there, and nothing else changes. -/
theorem node?_put_name (tree : FileTree) (place : Place) (name : String) (node : FileNode)
    (sought : Place) :
    (tree.put (place ++ [name]) node).node? sought =
      if sought = place ++ [name] then some node else tree.node? sought := by
  split
  · rename_i here
    rw [node?_put _ _ _ _ (by simp [here]), if_pos here]
  · rename_i apart
    exact node?_put_of_ne tree node apart

/-- What is deleted under a name in a directory is gone, and nothing else changes. -/
theorem node?_delete_name (tree : FileTree) (place : Place) (name : String) (sought : Place) :
    (tree.delete (place ++ [name])).node? sought =
      if sought = place ++ [name] then none else tree.node? sought := by
  split
  · rename_i here
    rw [node?_delete _ _ _ (by simp [here]), if_pos here]
  · rename_i apart
    exact node?_delete_of_ne tree apart

/-- The number of bytes that the name of a file may have. -/
def nameLimit : Nat := 255

/-- The number of links that one walk may follow. -/
def linkLimit : Nat := 40

/-- Walk from a place along steps. The result is the place reached and what stands there, which is
nothing where only the last name is missing. -/
def walk (tree : FileTree) (followLast : Bool) (links : Nat) (here : Place)
    (steps : List String) : Except IoFault (Place × Option FileNode) :=
  match steps with
  | [] => .ok (here, tree.node? here)
  | step :: rest =>
    if step = "." then walk tree followLast links here rest
    else if step = ".." then walk tree followLast links here.dropLast rest
    else if step.utf8ByteSize ≤ nameLimit then
      let next := here ++ [step]
      match tree.node? next with
      | none => if rest.isEmpty then .ok (next, none) else .error .notFound
      | some (.directory _) => walk tree followLast links next rest
      | some (.file bytes mode modified) =>
        if rest.isEmpty then .ok (next, some (.file bytes mode modified))
        else .error .notDirectory
      | some (.link target) =>
        if rest.isEmpty && !followLast then .ok (next, some (.link target))
        else
          match links with
          | 0 => .error .linkLoop
          | links + 1 =>
            let route := Route.ofPath target
            walk tree followLast links (if route.isAbsolute then [] else here)
              (route.wholeSteps ++ rest)
    else .error .badName
termination_by (links, steps.length)

/-- Walk the given steps of a route from where it begins. -/
def follow (tree : FileTree) (followLast : Bool) (route : Route) (steps : List String) :
    Except IoFault (Place × Option FileNode) :=
  if !route.isSound then .error .badName
  else if route.isEmpty then .error .notFound
  else tree.walk followLast linkLimit (if route.isAbsolute then [] else tree.home) steps

/-- The place that a route leads to and what stands there. -/
def locate (tree : FileTree) (followLast : Bool) (route : Route) :
    Except IoFault (Place × Option FileNode) :=
  tree.follow followLast route route.wholeSteps

/-- The place that a route names in the directory it is in, and what stands there. A link there is
not followed, not even before a slash. -/
def entry (tree : FileTree) (route : Route) : Except IoFault (Place × Option FileNode) :=
  tree.follow false route route.steps

/-- What a route leads to. -/
def status (tree : FileTree) (followLast : Bool) (route : Route) : Except IoFault FileNode :=
  match tree.locate followLast route with
  | .error fault => .error fault
  | .ok (_, none) => .error .notFound
  | .ok (_, some node) => .ok node

/-- A route leads to a directory. -/
def isDirectory (tree : FileTree) (route : Route) : Bool :=
  match tree.status true route with
  | .ok (.directory _) => true
  | _ => false

/-- A route leads to something. -/
def isPresent (tree : FileTree) (route : Route) : Bool :=
  match tree.status true route with
  | .ok _ => true
  | .error _ => false

/-- Make a directory. -/
def makeDirectory (tree : FileTree) (route : Route) : Except IoFault FileTree :=
  match tree.entry route with
  | .error fault => .error fault
  | .ok (_, some _) => .error .alreadyExists
  | .ok (place, none) => .ok (tree.put place (.directory newDirectoryMode))

/-- Set the permission bits of what a route leads to. -/
def setMode (tree : FileTree) (route : Route) (mode : Nat) : Except IoFault FileTree :=
  match tree.locate true route with
  | .error fault => .error fault
  | .ok (_, none) => .error .notFound
  | .ok (place, some (.directory _)) => .ok (tree.put place (.directory mode))
  | .ok (place, some (.file bytes _ modified)) => .ok (tree.put place (.file bytes mode modified))
  | .ok (_, some (.link _)) => .error .linkLoop

/-- Make an empty file where nothing stands. -/
def createNew (tree : FileTree) (route : Route) (mode : Nat) : Except IoFault FileTree :=
  match tree.entry route with
  | .error fault => .error fault
  | .ok (_, some _) => .error .alreadyExists
  | .ok (place, none) =>
    if route.isTrailing then .error .isDirectory else .ok (tree.put place (.file .empty mode 0))

/-- Make an empty file where a route leads to nothing; a file that is there stays. -/
def touch (tree : FileTree) (route : Route) (mode : Nat) : Except IoFault FileTree :=
  match tree.locate true route with
  | .error fault => .error fault
  | .ok (_, some (.file ..)) => .ok tree
  | .ok (_, some (.directory _)) => .error .isDirectory
  | .ok (_, some (.link _)) => .error .linkLoop
  | .ok (place, none) => .ok (tree.put place (.file .empty mode 0))

/-- Give a file new content. -/
def overwrite (tree : FileTree) (route : Route) (bytes : ByteArray) : Except IoFault FileTree :=
  match tree.locate true route with
  | .error fault => .error fault
  | .ok (place, some (.file _ mode modified)) => .ok (tree.put place (.file bytes mode modified))
  | .ok (_, some (.directory _)) => .error .isDirectory
  | .ok (_, some (.link _)) => .error .linkLoop
  | .ok (_, none) => .error .notFound

/-- The content of a file. -/
def read (tree : FileTree) (route : Route) : Except IoFault ByteArray :=
  match tree.status true route with
  | .error fault => .error fault
  | .ok (.file bytes _ _) => .ok bytes
  | .ok (.directory _) => .error .isDirectory
  | .ok (.link _) => .error .linkLoop

/-- Remove a file or a link. -/
def removeFile (tree : FileTree) (route : Route) : Except IoFault FileTree :=
  match tree.entry route with
  | .error fault => .error fault
  | .ok (_, none) => .error .notFound
  | .ok (_, some (.directory _)) => .error .isDirectory
  | .ok (place, some _) =>
    if route.isTrailing then .error .notDirectory else .ok (tree.delete place)

/-- Put a whole file in the place that a route names, whatever file stood there before. -/
def replaceFile (tree : FileTree) (route : Route) (bytes : ByteArray) (mode : Nat) :
    Except IoFault FileTree :=
  match tree.entry route with
  | .error fault => .error fault
  | .ok (_, some (.directory _)) => .error .isDirectory
  | .ok (place, _) =>
    if route.isTrailing then .error .notDirectory else .ok (tree.put place (.file bytes mode 0))

/-- Make a link to a path; something that is there already is refused, and so is a path to which
no route leads. -/
def makeLink (tree : FileTree) (route : Route) (target : String) : Except IoFault FileTree :=
  let aim := Route.ofPath target
  if !aim.isSound then .error .badName
  else if aim.isEmpty then .error .notFound
  else
    match tree.entry route with
    | .error fault => .error fault
    | .ok (_, some _) => .error .alreadyExists
    | .ok (place, none) =>
      if route.isTrailing then .error .notFound else .ok (tree.put place (.link target))

/-- Whether a place is at or under another. -/
def isUnder (base place : Place) : Bool := base.isPrefixOf place

/-- Remove a directory with everything under it. One that is named by a step that stays or goes up
is only emptied. -/
def removeAll (tree : FileTree) (route : Route) : Except IoFault FileTree :=
  match tree.entry route with
  | .error fault => .error fault
  | .ok (_, none) => .error .notFound
  | .ok (place, some (.directory _)) =>
    let isUnnamed := route.steps.getLast?.all fun step => step = "." || step = ".."
    let isKept (site : Site) := !isUnder place site.place || (isUnnamed && site.place == place)
    .ok { tree with
      nodes := .ofList (tree.nodes.toList.filter fun found => isKept found.1)
      strays := .ofList
        (tree.strays.toList.filter fun found => !isUnder place found.1.directory.place) }
  | .ok (_, some _) => .error .notDirectory

/-- What stands in a directory under a name. -/
def named? (tree : FileTree) (directory : Place) : FileName → Option FileNode
  | .text name => tree.node? (directory ++ [name])
  | .bytes name untold => tree.strays.get? ⟨.ofPlace directory, name, untold⟩

/-- What stands directly in a directory, by name. -/
def children (tree : FileTree) (directory : Place) : List (FileName × FileNode) :=
  (tree.nodes.toList.filterMap fun (site, node) =>
    if site.depth = directory.length + 1 ∧ isUnder directory site.place then
      site.place.getLast?.map fun name => (.text name, node)
    else none) ++
  tree.strays.toList.filterMap fun (stray, node) =>
    if stray.directory.place = directory then some (.bytes stray.bytes stray.untold, node)
    else none

/-- What stands anywhere under a place and is led to by a path, by the names from the place. -/
def below (tree : FileTree) (base : Place) : List (Place × FileNode) :=
  tree.nodes.toList.filterMap fun (site, node) =>
    if base.length < site.depth ∧ isUnder base site.place then
      some (site.place.drop base.length, node)
    else none

/-- The marks behind the paths of a listing: a slash for a directory and an at sign for a link. -/
def mark : FileNode → String
  | .directory _ => "/"
  | .link _ => "@"
  | .file .. => ""

/-- The sorted paths of everything under a place, with their marks. -/
def listing (tree : FileTree) (base : Place) : List String :=
  ((tree.below base).map fun (place, node) => "/".intercalate place ++ mark node).mergeSort
    fun left right => left ≤ right

end FileTree
end Standby
