import Standby.FileTree.Disk
import Standby.Proofs.FileTree.Walk

/-!
# Files that take the place of others

A file that has been put in the place that a route names is what the route leads to, unless the
route leads through the link whose place the file took (`IsClear`). The directories that are made on
the way change nothing that was there.
-/
namespace Standby

namespace FileTree

variable {tree before after : FileTree} {route : Route} {place : Place} {node : Option FileNode}
  {bytes : ByteArray} {mode : Nat}

/-- The place that a route names is not on the way to it: the route leads there even if nothing
stands there. -/
def IsClear (tree : FileTree) (route : Route) : Prop :=
  ∃ place node, tree.entry route = .ok (place, node) ∧
    (tree.delete place).entry route = .ok (place, none)

/-- Only a route that a file system takes leads somewhere. -/
theorem isSound_of_follow {followLast : Bool} {steps : List String}
    {found : Place × Option FileNode} (led : tree.follow followLast route steps = .ok found) :
    route.isSound = true ∧ route.isEmpty = false := by
  rw [follow] at led
  split at led
  · cases led
  · split at led
    · cases led
    · simp_all

/-- To follow a sound route is to walk from the root or from home. -/
theorem follow_eq_walk (sound : route.isSound = true) (some_step : route.isEmpty = false)
    (tree : FileTree) (followLast : Bool) (steps : List String) :
    tree.follow followLast route steps =
      tree.walk followLast linkLimit (if route.isAbsolute then [] else tree.home) steps := by
  rw [follow, sound, some_step]
  rfl

/-- The way to the place that a route names. -/
theorem leads_of_entry (found : tree.entry route = .ok (place, node)) :
    Leads tree false place node linkLimit (if route.isAbsolute then [] else tree.home)
      route.steps := by
  rw [entry] at found
  obtain ⟨sound, some_step⟩ := isSound_of_follow found
  rw [follow_eq_walk sound some_step] at found
  exact leads_of_walk found

/-- A replacement puts a file in the place of what is no directory. -/
theorem replaceFile_cases (replaced : tree.replaceFile route bytes mode = .ok after) :
    ∃ place node, tree.entry route = .ok (place, node) ∧
      (∀ mode, node ≠ some (.directory mode)) ∧ route.isTrailing = false ∧
      after = tree.put place (.file bytes mode 0) := by
  rw [replaceFile] at replaced
  split at replaced
  · cases replaced
  · cases replaced
  · rename_i place node noDirectory found
    split at replaced
    · cases replaced
    · rename_i untrailed
      cases replaced
      refine ⟨place, node, found, ?_, Bool.eq_false_iff.mpr untrailed, rfl⟩
      rintro mode rfl
      exact noDirectory mode rfl

/-- A removal takes away what stands in the place. -/
theorem removeFile_cases (removed : tree.removeFile route = .ok after) :
    ∃ place node, tree.entry route = .ok (place, some node) ∧ after = tree.delete place := by
  rw [removeFile] at removed
  split at removed
  · cases removed
  · cases removed
  · cases removed
  · rename_i place node _ found
    split at removed
    · cases removed
    · cases removed
      exact ⟨place, node, found, rfl⟩

/-- What a route leads to after a file took the place that it names. Where the route names no link,
that is the file. -/
theorem read_of_replaceFile (replaced : tree.replaceFile route bytes mode = .ok after) :
    (tree.IsClear route ∧ after.read route = .ok bytes) ∨
    ((∃ place target, tree.entry route = .ok (place, some (.link target))) ∧
      ¬ tree.IsClear route ∧ after.read route = .error .notDirectory) := by
  obtain ⟨place, node, found, noDirectory, untrailed, rfl⟩ := replaceFile_cases replaced
  obtain ⟨sound, some_step⟩ := isSound_of_follow found
  have whole : route.wholeSteps = route.steps := by rw [Route.wholeSteps, untrailed]; rfl
  have locate_eq : (tree.put place (.file bytes mode 0)).locate true route =
      (tree.put place (.file bytes mode 0)).walk true linkLimit
        (if route.isAbsolute then [] else tree.home) route.steps := by
    rw [locate, whole, follow_eq_walk sound some_step]
    rfl
  have entry_eq : (tree.delete place).entry route = (tree.delete place).walk false linkLimit
      (if route.isAbsolute then [] else tree.home) route.steps :=
    follow_eq_walk sound some_step _ _ _
  rcases (leads_of_entry found).replaced noDirectory bytes mode 0 with
    ⟨without, with_file⟩ | ⟨⟨target, link⟩, without, with_file⟩
  · refine .inl ⟨⟨place, node, found, entry_eq.trans without⟩, ?_⟩
    rw [read, status, locate_eq, with_file]
  · refine .inr ⟨⟨place, target, link ▸ found⟩, ?_, ?_⟩
    · rintro ⟨other, _, same, clear⟩
      rw [found] at same
      cases same
      rw [entry_eq, without] at clear
      cases clear
    · rw [read, status, locate_eq, with_file]

/-- A new directory is all that is new. -/
theorem extends_of_makeDirectory (made : tree.makeDirectory route = .ok after) :
    Extends tree after := by
  rw [makeDirectory] at made
  split at made
  · cases made
  · cases made
  · rename_i place found
    cases made
    refine ⟨rfl, fun sought => ?_⟩
    have absent := (leads_of_entry found).node_eq
    by_cases inside : sought = []
    · subst inside
      exact .inl rfl
    · rw [node?_put _ _ _ _ inside]
      split
      · rename_i same
        exact .inr ⟨same ▸ absent, rfl⟩
      · exact .inl rfl

/-- What could be read can be read in a tree with more directories. -/
theorem Extends.read (grown : Extends before after) (found : before.read route = .ok bytes) :
    after.read route = .ok bytes := by
  rw [FileTree.read] at found ⊢
  split at found
  · cases found
  · rename_i mode modified there
    cases found
    rw [status] at there
    split at there
    · cases there
    · cases there
    · rename_i place located
      cases there
      obtain ⟨sound, some_step⟩ := isSound_of_follow located
      rw [locate, follow_eq_walk sound some_step] at located
      have reached := grown.walk (leads_of_walk located)
      rw [← grown.home, ← follow_eq_walk sound some_step, ← locate] at reached
      rw [status, reached]
  · cases found
  · cases found

end FileTree

namespace Disk

variable {disk next : Disk}

/-- An operation that succeeds changes the tree as it says. -/
theorem tree_of_alter {operation : FileTree → Except IoFault FileTree}
    (altered : disk.alter operation = (.ok (), next)) : operation disk.tree = .ok next.tree := by
  rw [alter] at altered
  split at altered
  · cases altered
  · split at altered
    · cases altered
    · rename_i made
      cases altered
      exact made

/-- An attempt to make a directory makes nothing else. -/
theorem extends_of_alter {route : Route} {result : Except IoFault Unit}
    (altered : disk.alter (·.makeDirectory route) = (result, next)) :
    FileTree.Extends disk.tree next.tree := by
  cases result with
  | ok => exact FileTree.extends_of_makeDirectory (tree_of_alter altered)
  | error fault =>
    have same := disk.tree_alter_of_error (·.makeDirectory route) fault (by rw [altered])
    rw [altered] at same
    rw [same]
    exact .refl _

/-- What every attempt to make a directory keeps is kept by making directories. -/
theorem go_of_attempts (Related : Disk → Disk → Prop) (refl : ∀ disk, Related disk disk)
    (trans : ∀ {first second third}, Related first second → Related second third →
      Related first third)
    (attempt : ∀ route disk, Related disk (disk.alter (·.makeDirectory route)).2)
    (fuel : Nat) (path : String) (disk : Disk) :
    Related disk (makeDirectories.go fuel path disk).2 := by
  have tried {route : Route} {disk next : Disk} {result : Except IoFault Unit}
      (altered : disk.alter (·.makeDirectory route) = (result, next)) : Related disk next := by
    have related := attempt route disk
    rw [altered] at related
    exact related
  fun_induction makeDirectories.go fuel path disk with
  | case1 => exact refl _
  | case2 _ _ _ _ _ _ _ made => exact tried made
  | case3 _ _ _ _ _ first _ _ _ _ _ parent ih =>
    rw [parent] at ih
    exact trans (tried first) ih
  | case4 _ _ _ _ _ first _ _ _ _ _ parent _ _ second ih
  | case5 _ _ _ _ _ first _ _ _ _ _ parent _ _ second _ ih
  | case6 _ _ _ _ _ first _ _ _ _ _ parent _ _ second _ ih =>
    rw [parent] at ih
    exact trans (tried first) (trans ih (tried second))
  | case7 _ _ _ _ _ _ refused => exact tried refused
  | case8 _ _ _ _ _ _ _ _ refused => exact tried refused
  | case9 _ _ _ _ _ _ _ _ refused => exact tried refused

/-- Making directories is a number of attempts to make one directory: what each attempt keeps, all
of them keep. -/
theorem makeDirectories_of_attempts (Related : Disk → Disk → Prop)
    (refl : ∀ disk, Related disk disk)
    (trans : ∀ {first second third}, Related first second → Related second third →
      Related first third)
    (attempt : ∀ route disk, Related disk (disk.alter (·.makeDirectory route)).2)
    (path : String) (disk : Disk) : Related disk (disk.makeDirectories path).2 :=
  go_of_attempts Related refl trans attempt _ path disk

/-- Making directories makes nothing else, whether or not it succeeds. -/
theorem extends_makeDirectories (disk : Disk) (path : String) :
    FileTree.Extends disk.tree (disk.makeDirectories path).2.tree :=
  makeDirectories_of_attempts (fun before after => FileTree.Extends before.tree after.tree)
    (fun disk => .refl disk.tree) .trans (fun _ _ => extends_of_alter rfl) path disk

/-- A question leaves the tree. -/
theorem tree_inquire {α : Type} (disk : Disk) (operation : FileTree → Except IoFault α) :
    (disk.inquire operation).2.tree = disk.tree := by
  rw [inquire]
  split <;> rfl

/-- A question counts as an operation, and it is answered by an outage or from the tree. -/
theorem inquire_cases {α : Type} {operation : FileTree → Except IoFault α}
    {answer : Except IoFault α} (asked : disk.inquire operation = (answer, next)) :
    next = { disk with operations := disk.operations + 1 } ∧
      ((∃ fault, disk.outage disk.operations = some fault ∧ answer = .error fault) ∨
        operation disk.tree = answer) := by
  rw [inquire] at asked
  split at asked
  · rename_i fault outage
    cases asked
    exact ⟨rfl, .inl ⟨fault, outage, rfl⟩⟩
  · cases asked
    exact ⟨rfl, .inr rfl⟩

/-- A replacement that succeeds is that of the tree. -/
theorem tree_of_replaceFile {directory target : String} {bytes : ByteArray}
    (replaced : disk.replaceFile directory target bytes = (.ok (), next)) :
    disk.tree.replaceFile (.ofPath target) bytes 0o600 = .ok next.tree := by
  rw [replaceFile] at replaced
  split at replaced
  · cases replaced
  · rename_i one first
    have treeOne : one.tree = disk.tree := by rw [← tree_inquire disk _, first]
    split at replaced
    · cases replaced
    · rename_i two second
      have treeTwo : two.tree = disk.tree := by rw [← treeOne, ← tree_inquire one _, second]
      split at replaced
      · cases replaced
      · rename_i three third
        have treeThree : three.tree = disk.tree := by rw [← treeTwo, ← tree_inquire two _, third]
        rw [← treeThree]
        exact tree_of_alter replaced

/-- Nothing is made where a directory is. -/
theorem makeDirectories_of_there {path : String} {place : Place} {node : FileNode}
    (named : path.isEmpty = false) (works : disk.outage disk.operations = none)
    (there : disk.tree.entry (.ofPath path) = .ok (place, some node))
    (directory : disk.tree.isDirectory (.ofPath path) = true) :
    disk.makeDirectories path = (.ok (), { disk with operations := disk.operations + 1 }) := by
  have refused : disk.alter (·.makeDirectory (.ofPath path)) =
      (.error .alreadyExists, { disk with operations := disk.operations + 1 }) := by
    simp only [alter, works, FileTree.makeDirectory, there]
  rw [makeDirectories, makeDirectories.go, if_neg (Bool.eq_false_iff.mp named)]
  simp only [refused, directory, ↓reduceIte]

/-- A directory of which only the last name is missing is made at once. -/
theorem makeDirectories_of_made {path : String} {tree : FileTree}
    (named : path.isEmpty = false) (works : disk.outage disk.operations = none)
    (made : disk.tree.makeDirectory (.ofPath path) = .ok tree) :
    disk.makeDirectories path =
      (.ok (), { disk with tree, operations := disk.operations + 1 }) := by
  have altered : disk.alter (·.makeDirectory (.ofPath path)) =
      (.ok (), { disk with tree, operations := disk.operations + 1 }) := by
    simp only [alter, works, made]
  rw [makeDirectories, makeDirectories.go, if_neg (Bool.eq_false_iff.mp named)]
  simp only [altered]

/-- A replacement succeeds as it does on the tree if the disk works for four operations and the
directory is there. -/
theorem replaceFile_of_ready {directory target : String} {bytes : ByteArray} {mode : Nat}
    {tree : FileTree} (works : ∀ step < 4, disk.outage (disk.operations + step) = none)
    (there : disk.tree.status true (.ofPath directory) = .ok (.directory mode))
    (replaced : disk.tree.replaceFile (.ofPath target) bytes 0o600 = .ok tree) :
    disk.replaceFile directory target bytes =
      (.ok (), { disk with tree, operations := disk.operations + 4 }) := by
  have first := works 0 (by omega)
  have second := works 1 (by omega)
  have third := works 2 (by omega)
  have fourth := works 3 (by omega)
  simp only [Nat.add_zero] at first
  simp only [replaceFile, inquire, alter, first, second, third, fourth, there, replaced]

end Disk
end Standby
