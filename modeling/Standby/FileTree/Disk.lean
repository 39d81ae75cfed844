import Standby.FileTree.Basic

/-!
# Disks

A disk is a file tree whose operations may fail for reasons of their own. Which operations fail is
said beforehand by their numbers, so that any pattern of failures can be described; an operation
that fails leaves the tree as it was.
-/
namespace Standby

/-- A file tree and the operations on it that fail. -/
structure Disk where
  /-- What is stored. -/
  tree : FileTree
  /-- The number of operations so far. -/
  operations : Nat
  /-- The failure of an operation, by its number. -/
  outage : Nat → Option IoFault

namespace Disk

/-- A disk that never fails by itself. -/
def ofTree (tree : FileTree) : Disk := ⟨tree, 0, fun _ => none⟩

instance : Inhabited Disk := ⟨ofTree default⟩

/-- One operation that reads the tree. -/
def inquire {α : Type} (disk : Disk) (operation : FileTree → Except IoFault α) :
    Except IoFault α × Disk :=
  let next := { disk with operations := disk.operations + 1 }
  match disk.outage disk.operations with
  | some fault => (.error fault, next)
  | none => (operation disk.tree, next)

/-- One operation that changes the tree. -/
def alter (disk : Disk) (operation : FileTree → Except IoFault FileTree) :
    Except IoFault Unit × Disk :=
  let next := { disk with operations := disk.operations + 1 }
  match disk.outage disk.operations with
  | some fault => (.error fault, next)
  | none =>
    match operation disk.tree with
    | .error fault => (.error fault, next)
    | .ok tree => (.ok (), { next with tree })

/-- Make a directory with every directory on the way to it that is missing. A directory that is
there already is as good as a new one. -/
def makeDirectories (disk : Disk) (path : String) : Except IoFault Unit × Disk :=
  go (pathParts path).length path disk
where
  /-- The bound is the number of parts, of which the path of each parent has fewer. -/
  go : Nat → String → Disk → Except IoFault Unit × Disk
    | fuel, path, disk =>
      if path.isEmpty then (.ok (), disk)
      else
        let route := Route.ofPath path
        match disk.alter (·.makeDirectory route) with
        | (.ok _, disk) => (.ok (), disk)
        | (.error .notFound, disk) =>
          match fuel, parentPath? path with
          | fuel + 1, some parent =>
            match go fuel parent disk with
            | (.error fault, disk) => (.error fault, disk)
            | (.ok _, disk) =>
              match disk.alter (·.makeDirectory route) with
              | (.ok _, disk) => (.ok (), disk)
              | (.error fault, disk) =>
                if disk.tree.isDirectory route then (.ok (), disk) else (.error fault, disk)
          | _, _ => (.error .notFound, disk)
        | (.error fault, disk) =>
          if disk.tree.isDirectory route then (.ok (), disk) else (.error fault, disk)

/-- Put a whole file in the place of another: write it beside the place, flush it, and rename it. A
file that was not renamed is gone again. -/
def replaceFile (disk : Disk) (directory target : String) (bytes : ByteArray) :
    Except IoFault Unit × Disk :=
  match disk.inquire fun tree =>
      match tree.status true (.ofPath directory) with
      | .error fault => .error fault
      | .ok (.directory _) => .ok ()
      | .ok _ => .error .notDirectory with
  | (.error fault, disk) => (.error fault, disk)
  | (.ok _, disk) =>
    match disk.inquire fun _ => .ok () with
    | (.error fault, disk) => (.error fault, disk)
    | (.ok _, disk) =>
      match disk.inquire fun _ => .ok () with
      | (.error fault, disk) => (.error fault, disk)
      | (.ok _, disk) => disk.alter (·.replaceFile (.ofPath target) bytes 0o600)

/-- Write a file at a path, with every directory on the way to it that is missing. -/
def writeFile (disk : Disk) (path : String) (bytes : ByteArray) : Except IoFault Unit × Disk :=
  let route := Route.ofPath path
  match disk.makeDirectories ((parentPath? path).getD "") with
  | (.error fault, disk) => (.error fault, disk)
  | (.ok _, disk) =>
    match disk.alter (·.touch route 0o644) with
    | (.error fault, disk) => (.error fault, disk)
    | (.ok _, disk) => disk.alter (·.overwrite route bytes)

/-- A disk without outages answers a question from its tree. -/
theorem inquire_of_no_outage {α : Type} (disk : Disk) (operation : FileTree → Except IoFault α)
    (works : disk.outage disk.operations = none) :
    (disk.inquire operation).1 = operation disk.tree := by
  simp [inquire, works]

/-- An operation that fails leaves the tree as it was. -/
theorem tree_alter_of_error (disk : Disk) (operation : FileTree → Except IoFault FileTree)
    (fault : IoFault) (failed : (disk.alter operation).1 = .error fault) :
    (disk.alter operation).2.tree = disk.tree := by
  unfold alter at failed ⊢
  split
  · rfl
  · rename_i works
    simp only [works] at failed
    split
    · rfl
    · rename_i found
      simp only [found] at failed
      cases failed

/-- A replacement that fails leaves the tree as it was. -/
theorem tree_replaceFile_of_error (disk : Disk) (directory target : String) (bytes : ByteArray)
    (fault : IoFault) (failed : (disk.replaceFile directory target bytes).1 = .error fault) :
    (disk.replaceFile directory target bytes).2.tree = disk.tree := by
  have keeps : ∀ {α : Type} (disk : Disk) (operation : FileTree → Except IoFault α),
      (disk.inquire operation).2.tree = disk.tree := by
    intro α disk operation
    unfold inquire
    split <;> rfl
  unfold replaceFile at failed ⊢
  split
  · rename_i first
    rw [← keeps disk _, first]
  · rename_i one first
    simp only [first] at failed
    have treeOne : one.tree = disk.tree := by rw [← keeps disk _, first]
    split
    · rename_i second
      rw [← treeOne, ← keeps one _, second]
    · rename_i two second
      simp only [second] at failed
      have treeTwo : two.tree = disk.tree := by rw [← treeOne, ← keeps one _, second]
      split
      · rename_i third
        rw [← treeTwo, ← keeps two _, third]
      · rename_i three third
        simp only [third] at failed
        rw [tree_alter_of_error _ _ _ failed, ← treeTwo, ← keeps two _, third]

end Disk
end Standby
