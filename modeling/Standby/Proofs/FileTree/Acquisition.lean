import Standby.FileTree.Lock
import Standby.Proofs.FileTree.Directory

/-!
# What an acquisition does

An acquisition of a directory first makes the directory ready, by which the tree is furnished with
directories and permission bits and with nothing else (`Furnishes`). Then it claims the directory,
by a lock file where nothing stood (`claim`), and then it writes the holder into the file. It
succeeds exactly if the directory is claimed and the file written and flushed (`acquire_ok`,
`acquire_error`); a lock file that could not be written stays.
-/
namespace Standby

/-- A node without its permission bits. -/
def FileNode.withoutMode : FileNode → FileNode
  | .file bytes _ modified => .file bytes 0 modified
  | .directory _ => .directory 0
  | .link target => .link target

namespace FileTree

/-- A tree has become another by new directories and by other permission bits. -/
structure Furnishes (before after : FileTree) : Prop where
  /-- Relative routes begin where they did. -/
  home : after.home = before.home
  /-- What stood at a place stands there still, and what is new is a directory. -/
  node : ∀ place, (after.node? place).map (·.withoutMode) =
      (before.node? place).map (·.withoutMode) ∨
    before.node? place = none ∧ (after.node? place).map (·.withoutMode) = some (.directory 0)

namespace Furnishes

variable {tree before middle after : FileTree} {place : Place}

/-- A tree is furnished as it is. -/
theorem refl (tree : FileTree) : Furnishes tree tree := ⟨rfl, fun _ => .inl rfl⟩

/-- A tree that is furnished twice is furnished. -/
theorem trans (first : Furnishes before middle) (second : Furnishes middle after) :
    Furnishes before after := by
  refine ⟨second.home.trans first.home, fun place => ?_⟩
  rcases second.node place with same | ⟨absent, made⟩
  · rw [same]
    exact first.node place
  · rcases first.node place with same | ⟨absent, there⟩
    · rw [absent, Option.map_none] at same
      exact .inr ⟨Option.map_eq_none_iff.mp same.symm, made⟩
    · exact .inr ⟨absent, made⟩

/-- New directories furnish a tree. -/
theorem of_extends (grown : Extends before after) : Furnishes before after := by
  refine ⟨grown.home, fun place => ?_⟩
  rcases grown.node place with same | ⟨absent, made⟩
  · exact .inl (congrArg _ same)
  · exact .inr ⟨absent, congrArg _ made⟩

/-- What stands somewhere stays there, up to its permission bits. -/
theorem stays (furnished : Furnishes before after) {node : FileNode}
    (there : before.node? place = some node) :
    ∃ other, after.node? place = some other ∧ other.withoutMode = node.withoutMode := by
  rcases furnished.node place with same | ⟨absent, -⟩
  · rw [there] at same
    exact Option.map_eq_some_iff.mp same
  · cases there.symm.trans absent

/-- What stands somewhere and is no directory stood there, up to its permission bits. -/
theorem stood (furnished : Furnishes before after) {node : FileNode}
    (there : after.node? place = some node) (noDirectory : node.withoutMode ≠ .directory 0) :
    ∃ other, before.node? place = some other ∧ other.withoutMode = node.withoutMode := by
  rcases furnished.node place with same | ⟨-, made⟩
  · rw [there] at same
    exact Option.map_eq_some_iff.mp same.symm
  · rw [there] at made
    exact absurd (Option.some.inj made) noDirectory

/-- A file that stands somewhere stood there with the same content. -/
theorem file_before (furnished : Furnishes before after) {bytes : ByteArray} {mode : Nat}
    {modified : Int} (there : after.node? place = some (.file bytes mode modified)) :
    ∃ mode, before.node? place = some (.file bytes mode modified) := by
  obtain ⟨node, stands, same⟩ := furnished.stood there nofun
  cases node with
  | file _ mode _ =>
    cases same
    exact ⟨mode, stands⟩
  | _ => cases same

/-- A link that stands somewhere stood there. -/
theorem link_before (furnished : Furnishes before after) {target : String}
    (there : after.node? place = some (.link target)) :
    before.node? place = some (.link target) := by
  obtain ⟨node, stands, same⟩ := furnished.stood there nofun
  cases node with
  | link =>
    cases same
    exact stands
  | _ => cases same

/-- A file stays where it is. -/
theorem file_after (furnished : Furnishes before after) {bytes : ByteArray} {mode : Nat}
    {modified : Int} (there : before.node? place = some (.file bytes mode modified)) :
    ∃ mode, after.node? place = some (.file bytes mode modified) := by
  obtain ⟨node, stands, same⟩ := furnished.stays there
  cases node with
  | file _ mode _ =>
    cases same
    exact ⟨mode, stands⟩
  | _ => cases same

/-- Nothing stood where nothing stands. -/
theorem absent_before (furnished : Furnishes before after) (absent : after.node? place = none) :
    before.node? place = none := by
  rcases furnished.node place with same | ⟨absent, -⟩
  · rw [absent, Option.map_none] at same
    exact Option.map_eq_none_iff.mp same.symm
  · exact absent

/-- Every way stays. -/
theorem retains (furnished : Furnishes before after) : Retains before after := by
  refine ⟨furnished.home, fun place mode there => ?_, fun place target there => ?_⟩
  · obtain ⟨node, stands, same⟩ := furnished.stays there
    cases node with
    | directory mode => exact ⟨mode, stands⟩
    | _ => cases same
  · obtain ⟨node, stands, same⟩ := furnished.stays there
    cases node with
    | link =>
      cases same
      exact stands
    | _ => cases same

/-- A node with other permission bits is the same node. -/
theorem put {node other : FileNode} (there : tree.node? place = some node)
    (same : other.withoutMode = node.withoutMode) : Furnishes tree (tree.put place other) := by
  refine ⟨rfl, fun sought => .inl ?_⟩
  by_cases inside : sought = []
  · subst inside
    rfl
  · rw [node?_put _ _ _ _ inside]
    split
    · rename_i here
      rw [here, there]
      exact congrArg some same
    · rfl

/-- Permission bits are all that a change of them changes. -/
theorem of_setMode {route : Route} {mode : Nat} (changed : tree.setMode route mode = .ok after) :
    Furnishes tree after := by
  rw [setMode] at changed
  split at changed
  · cases changed
  · cases changed
  · rename_i located
    cases changed
    exact put (node?_of_locate located) rfl
  · rename_i located
    cases changed
    exact put (node?_of_locate located) rfl
  · cases changed

end Furnishes

/-- That something is there already is not what stops a walk. -/
theorem walk_ne_alreadyExists (tree : FileTree) (followLast : Bool) (links : Nat) (here : Place)
    (steps : List String) : tree.walk followLast links here steps ≠ .error .alreadyExists := by
  fun_induction walk tree followLast links here steps <;> simp_all

/-- A new file is refused because something is there already only where something is there. -/
theorem entry_of_createNew {tree : FileTree} {route : Route} {mode : Nat}
    (refused : tree.createNew route mode = .error .alreadyExists) :
    ∃ place node, tree.entry route = .ok (place, some node) := by
  rw [createNew] at refused
  cases found : tree.entry route with
  | error fault =>
    simp only [found] at refused
    cases refused
    rw [entry, follow] at found
    split at found
    · cases found
    · split at found
      · cases found
      · exact absurd found (walk_ne_alreadyExists _ _ _ _ _)
  | ok answer =>
    obtain ⟨place, _ | node⟩ := answer
    · simp only [found] at refused
      split at refused <;> cases refused
    · exact ⟨place, node, rfl⟩

end FileTree

namespace Disk

/-- An operation changes the tree as it says, or not at all. -/
theorem tree_alter (disk : Disk) (operation : FileTree → Except IoFault FileTree) :
    (disk.alter operation).2.tree = disk.tree ∨
      operation disk.tree = .ok (disk.alter operation).2.tree := by
  generalize answer : disk.alter operation = altered
  obtain ⟨result, after⟩ := altered
  cases result with
  | ok => exact .inr (tree_of_alter answer)
  | error fault =>
    have kept := disk.tree_alter_of_error operation fault (by rw [answer])
    rw [answer] at kept
    exact .inl kept

/-- Which operations fail does not change. -/
@[simp] theorem outage_inquire {α : Type} (disk : Disk) (operation : FileTree → Except IoFault α) :
    (disk.inquire operation).2.outage = disk.outage := by
  rw [inquire]
  split <;> rfl

/-- Which operations fail does not change as the tree is changed. -/
@[simp] theorem outage_alter (disk : Disk) (operation : FileTree → Except IoFault FileTree) :
    (disk.alter operation).2.outage = disk.outage := by
  rw [alter]
  split
  · rfl
  · split <;> rfl

/-- Which operations fail does not change as directories are made. -/
@[simp] theorem outage_makeDirectories (disk : Disk) (path : String) :
    (disk.makeDirectories path).2.outage = disk.outage :=
  makeDirectories_of_attempts (fun before after => after.outage = before.outage)
    (fun _ => rfl) (fun first second => second.trans first)
    (fun route disk => disk.outage_alter (·.makeDirectory route)) path disk

end Disk

open FileTree

/-- The name of a lock file is that of an entry. -/
theorem isEntryName_lockFileName : IsEntryName lockFileName :=
  ⟨⟨by decide, by decide, by decide +kernel⟩, by decide +kernel, by decide⟩

namespace DirectoryLock

variable {owner : LockOwner} {server : ServerId} {directory path : String}
  {disk made after : Disk}

/-- The end of making a directory ready: only its owner can enter it from then on. -/
def restrict (path : String) (disk : Disk) : Except LockFault Unit × Disk :=
  match disk.alter (·.setMode (.ofPath path) 0o700) with
  | (.error cause, disk) => (.error (.io cause), disk)
  | (.ok _, disk) => (.ok (), disk)

/-- Making a directory ready is a question, directories that are made and permission bits that are
set: what each of them keeps, the whole keeps, wherever it stops. -/
theorem ensureDirectory_of_parts (Related : Disk → Disk → Prop) {path : String}
    (trans : ∀ {first second third}, Related first second → Related second third →
      Related first third)
    (asks : ∀ disk, Related disk (disk.inquire (·.status false (.ofPath path))).2)
    (makes : ∀ disk, Related disk (disk.makeDirectories path).2)
    (sets : ∀ disk, Related disk (disk.alter (·.setMode (.ofPath path) 0o700)).2) (disk : Disk) :
    Related disk (ensureDirectory path disk).2 := by
  have closed (disk : Disk) : Related disk (restrict path disk).2 := by
    have set := sets disk
    rw [restrict]
    split <;> rename_i done <;> rw [done] at set <;> exact set
  have asked := asks disk
  rw [ensureDirectory]
  generalize disk.inquire (·.status false (.ofPath path)) = answer at asked ⊢
  obtain ⟨found, seen⟩ := answer
  have made := makes seen
  dsimp only
  split
  · rename_i same
    cases same
    exact asked
  · rename_i same
    cases same
    exact asked
  · rename_i same
    cases same
    exact trans asked (closed seen)
  · rename_i same
    cases same
    split
    · rename_i failed
      rw [failed] at made
      exact trans asked made
    · rename_i built ready
      rw [ready] at made
      exact trans asked (trans made (closed built))
  · rename_i same
    cases same
    exact asked

/-- Making a directory ready furnishes the tree, whether or not it succeeds. -/
theorem furnishes_ensureDirectory (path : String) (disk : Disk) :
    Furnishes disk.tree (ensureDirectory path disk).2.tree := by
  refine ensureDirectory_of_parts (fun before after => Furnishes before.tree after.tree) .trans
    (fun disk => ?_) (fun disk => ?_) (fun disk => ?_) disk
  · rw [disk.tree_inquire]
    exact .refl _
  · exact .of_extends (disk.extends_makeDirectories path)
  · rcases disk.tree_alter (·.setMode (.ofPath path) 0o700) with same | changed
    · rw [same]
      exact .refl _
    · exact .of_setMode changed

/-- Which operations fail does not change as a directory is made sure of. -/
theorem outage_ensureDirectory (path : String) (disk : Disk) :
    (ensureDirectory path disk).2.outage = disk.outage :=
  ensureDirectory_of_parts (fun before after => after.outage = before.outage)
    (fun first second => second.trans first) (fun disk => disk.outage_inquire _)
    (fun disk => disk.outage_makeDirectories path) (fun disk => disk.outage_alter _) disk

/-- Looking for a link leaves the tree. -/
theorem tree_rejectLink (path : String) (disk : Disk) :
    (rejectLink path disk).2.tree = disk.tree := by
  have looked := disk.tree_inquire (·.status false (.ofPath path))
  rw [rejectLink]
  generalize disk.inquire (·.status false (.ofPath path)) = answer at looked ⊢
  split <;> exact looked

/-- Reading a holder leaves the tree. -/
theorem tree_readHolder (path : String) (disk : Disk) :
    (readHolder path disk).2.tree = disk.tree := by
  have looked := tree_rejectLink path disk
  rw [readHolder]
  split
  · rename_i rejected
    rw [rejected] at looked
    exact looked
  · rename_i passed rejected
    rw [rejected] at looked
    have read := passed.tree_inquire (·.read (.ofPath path))
    rw [looked] at read
    split
    · rename_i failed
      rw [failed] at read
      exact read
    · rename_i bytes final found
      rw [found] at read
      split <;> exact read

/-- Which operations fail does not change as a link is looked for. -/
theorem outage_rejectLink (path : String) (disk : Disk) :
    (rejectLink path disk).2.outage = disk.outage := by
  have looked := disk.outage_inquire (·.status false (.ofPath path))
  rw [rejectLink]
  generalize disk.inquire (·.status false (.ofPath path)) = answer at looked ⊢
  split <;> exact looked

/-- The first half of an acquisition: the directory is made ready, and its lock file is made where
nothing stands. -/
def claim (directory : String) (disk : Disk) : Except LockFault Unit × Disk :=
  let path := joinPath directory lockFileName
  match ensureDirectory directory disk with
  | (.error fault, disk) => (.error fault, disk)
  | (.ok _, disk) =>
    match rejectLink path disk with
    | (.error fault, disk) => (.error fault, disk)
    | (.ok _, disk) =>
      match disk.alter (·.createNew (.ofPath path) 0o600) with
      | (.error .alreadyExists, disk) =>
        match readHolder path disk with
        | (.ok other, disk) => (.error (.held path (some other) none), disk)
        | (.error fault, disk) => (.error (.held path none (some fault.message)), disk)
      | (.error cause, disk) => (.error (.io cause), disk)
      | (.ok _, disk) => (.ok (), disk)

/-- The lock of an owner in a directory. -/
def lockOf (owner : LockOwner) (directory : String) (server : ServerId) : DirectoryLock :=
  ⟨joinPath directory lockFileName, ⟨server, owner.pid, owner.now, lockVersion⟩⟩

/-- An acquisition is a claim, after which the holder is written. -/
theorem acquire_eq (owner : LockOwner) (directory : String) (server : ServerId) (disk : Disk) :
    acquire owner directory server disk =
      match claim directory disk with
      | (.error fault, disk) => (.error fault, disk)
      | (.ok _, disk) =>
        match writeHolder (joinPath directory lockFileName) (lockOf owner directory server).holder
            disk with
        | (.error fault, disk) => (.error fault, disk)
        | (.ok _, disk) => (.ok (lockOf owner directory server), disk) := by
  rw [acquire, claim]
  generalize ensureDirectory directory disk = answer
  obtain ⟨_ | _, ready⟩ := answer
  · rfl
  dsimp only
  generalize rejectLink (joinPath directory lockFileName) ready = answer
  obtain ⟨_ | _, looked⟩ := answer
  · rfl
  dsimp only
  generalize looked.alter (·.createNew (.ofPath (joinPath directory lockFileName)) 0o600) = answer
  obtain ⟨cause | _, tried⟩ := answer
  · cases cause with
    | alreadyExists =>
      dsimp only
      generalize readHolder (joinPath directory lockFileName) tried = answer
      obtain ⟨_ | _, _⟩ := answer <;> rfl
    | _ => rfl
  · rfl

/-- That a lock is held is not found out while the directory is made ready. -/
theorem ensureDirectory_ne_held (path : String) (disk : Disk) (other : String)
    (holder : Option LockMeta) (reason : Option String) :
    (ensureDirectory path disk).1 ≠ .error (.held other holder reason) := by
  rw [ensureDirectory]
  dsimp only
  split
  · simp
  · simp
  · split <;> simp
  · split
    · simp
    · split <;> simp
  · simp

/-- Looking for a link never finds a lock held. -/
theorem rejectLink_ne_held (path : String) (disk : Disk) (other : String)
    (holder : Option LockMeta) (reason : Option String) :
    (rejectLink path disk).1 ≠ .error (.held other holder reason) := by
  rw [rejectLink]
  split <;> simp

/-- Writing the holder of a lock never finds it held. -/
theorem writeHolder_ne_held (path : String) (content : LockMeta) (disk : Disk) (other : String)
    (holder : Option LockMeta) (reason : Option String) :
    (writeHolder path content disk).1 ≠ .error (.held other holder reason) := by
  rw [writeHolder]
  split
  · simp
  · split <;> simp

/-- How a claim ends, on a disk that has been furnished. -/
inductive ClaimOutcome (directory : String) (disk : Disk) : Except LockFault Unit → Disk → Prop
  where
  /-- The claim failed, and not because the lock is held. -/
  | failed {fault : LockFault} {after : Disk} (furnished : Furnishes disk.tree after.tree)
    (unheld : ∀ path holder reason, fault ≠ .held path holder reason) :
    ClaimOutcome directory disk (.error fault) after
  /-- Something stands in the place of the lock file. -/
  | held {looked tried after : Disk} {holder : Option LockMeta} {reason : Option String}
    (furnished : Furnishes disk.tree looked.tree) (outages : looked.outage = disk.outage)
    (refused : looked.alter (·.createNew (.ofPath (joinPath directory lockFileName)) 0o600) =
      (.error .alreadyExists, tried)) (same : after.tree = looked.tree) :
    ClaimOutcome directory disk (.error (.held (joinPath directory lockFileName) holder reason))
      after
  /-- The lock file is made. -/
  | made {looked after : Disk} (furnished : Furnishes disk.tree looked.tree)
    (created : looked.alter (·.createNew (.ofPath (joinPath directory lockFileName)) 0o600) =
      (.ok (), after)) :
    ClaimOutcome directory disk (.ok ()) after

/-- A claim has one of these outcomes. -/
theorem claim_outcome (directory : String) (disk : Disk) :
    ClaimOutcome directory disk (claim directory disk).1 (claim directory disk).2 := by
  have furnished := furnishes_ensureDirectory directory disk
  have outages := outage_ensureDirectory directory disk
  have unheld := ensureDirectory_ne_held directory disk
  rw [claim]
  generalize ensureDirectory directory disk = answer at furnished outages unheld ⊢
  obtain ⟨fault | _, ready⟩ := answer
  · refine .failed furnished fun path holder reason same => unheld path holder reason ?_
    rw [same]
  dsimp only at furnished outages ⊢
  have looked_tree := tree_rejectLink (joinPath directory lockFileName) ready
  have looked_outage := outage_rejectLink (joinPath directory lockFileName) ready
  have unheld := rejectLink_ne_held (joinPath directory lockFileName) ready
  generalize rejectLink (joinPath directory lockFileName) ready = answer
    at looked_tree looked_outage unheld ⊢
  obtain ⟨fault | _, looked⟩ := answer
  · refine .failed (looked_tree ▸ furnished) fun path holder reason same =>
      unheld path holder reason ?_
    rw [same]
  dsimp only at looked_tree looked_outage ⊢
  rw [← looked_tree] at furnished
  rw [← looked_outage] at outages
  have kept (cause : IoFault) := looked.tree_alter_of_error
    (·.createNew (.ofPath (joinPath directory lockFileName)) 0o600) cause
  generalize created : looked.alter
    (·.createNew (.ofPath (joinPath directory lockFileName)) 0o600) = answer at kept ⊢
  obtain ⟨cause | _, tried⟩ := answer
  · have same : tried.tree = looked.tree := kept cause rfl
    have read := tree_readHolder (joinPath directory lockFileName) tried
    cases cause with
    | alreadyExists =>
      dsimp only
      generalize readHolder (joinPath directory lockFileName) tried = answer at read ⊢
      obtain ⟨_ | _, after⟩ := answer
      · exact .held furnished outages created (read.trans same)
      · exact .held furnished outages created (read.trans same)
    | _ => exact .failed (same ▸ furnished) (by simp)
  · exact .made furnished created

/-- The lock file of a directory is the one thing by which a tree differs from a furnished one. -/
structure Locked (directory : String) (furnished : FileTree) (place : Place) (bytes : ByteArray)
    (tree : FileTree) : Prop where
  /-- The path leads to the directory. -/
  enters : ∃ left, furnished.EntersPath directory place left
  /-- The path of the lock file is one that a file system takes. -/
  sound : (Route.ofPath (joinPath directory lockFileName)).isSound = true
  /-- Nothing stood in the place of the lock file. -/
  vacant : furnished.node? (place ++ [lockFileName]) = none
  /-- Relative routes begin where they did. -/
  home : tree.home = furnished.home
  /-- The lock file stands there, and nothing else is new. -/
  node : ∀ sought, tree.node? sought =
    if sought = place ++ [lockFileName] then some (.file bytes 0o600 0)
    else furnished.node? sought

namespace Locked

variable {furnished tree next : FileTree} {place : Place} {bytes content : ByteArray}

/-- The lock file stands in its place. -/
theorem node_self (locked : Locked directory furnished place bytes tree) :
    tree.node? (place ++ [lockFileName]) = some (.file bytes 0o600 0) := by
  rw [locked.node, if_pos rfl]

/-- A locked tree retains what was there before. -/
theorem retains (locked : Locked directory furnished place bytes tree) :
    Retains furnished tree := by
  have leaf : IsLeaf (furnished.node? (place ++ [lockFileName])) := by
    rw [locked.vacant]
    trivial
  refine retains_of_leaf locked.home leaf fun sought apart => ?_
  rw [locked.node, if_neg apart]

/-- The path of the lock file leads to it. -/
theorem entry (locked : Locked directory furnished place bytes tree) :
    tree.entry (.ofPath (joinPath directory lockFileName)) =
      .ok (place ++ [lockFileName], some (.file bytes 0o600 0)) := by
  obtain ⟨left, enters⟩ := locked.enters
  rw [(locked.retains.entersPath enters).entry_joinPath isEntryName_lockFileName locked.sound,
    locked.node_self]

/-- The lock file is overwritten. -/
theorem overwrite (locked : Locked directory furnished place bytes tree) (content : ByteArray) :
    ∃ next, tree.overwrite (.ofPath (joinPath directory lockFileName)) content = .ok next ∧
      Locked directory furnished place content next := by
  obtain ⟨left, enters⟩ := locked.enters
  have located := (locked.retains.entersPath enters).locate_joinPath isEntryName_lockFileName
    locked.sound (by simp [locked.node_self])
  rw [locked.node_self] at located
  refine ⟨tree.put (place ++ [lockFileName]) (.file content 0o600 0), ?_, ?_⟩
  · rw [FileTree.overwrite, located]
  · refine ⟨locked.enters, locked.sound, locked.vacant, locked.home, fun sought => ?_⟩
    rw [node?_put_name]
    split
    · rfl
    · rename_i apart
      rw [locked.node, if_neg apart]

/-- Without the lock file the tree is the furnished one. -/
theorem removeFile (locked : Locked directory furnished place bytes tree) :
    ∃ next, tree.removeFile (.ofPath (joinPath directory lockFileName)) = .ok next ∧
      Furnishes furnished next := by
  refine ⟨tree.delete (place ++ [lockFileName]), ?_, locked.home, fun sought => .inl ?_⟩
  · rw [FileTree.removeFile, locked.entry]
    simp only [isTrailing_joinPath isEntryName_lockFileName, Bool.false_eq_true, ↓reduceIte]
  · congr 1
    rw [node?_delete_name]
    split
    · rename_i same
      rw [same, locked.vacant]
    · rename_i apart
      rw [locked.node, if_neg apart]

end Locked

/-- A claim makes an empty lock file where nothing stood. -/
theorem locked_of_claim (claimed : claim directory disk = (.ok (), made)) :
    ∃ furnished place, Furnishes disk.tree furnished ∧
      Locked directory furnished place .empty made.tree := by
  have outcome := claim_outcome directory disk
  rw [claimed] at outcome
  obtain ⟨⟩ | ⟨⟩ | ⟨furnishes, created⟩ := outcome
  rename_i looked
  have new := Disk.tree_of_alter created
  rw [createNew] at new
  split at new
  · cases new
  · cases new
  · rename_i found named
    obtain ⟨place, left, enters, rfl, absent, sound⟩ :=
      entersPath_of_entry isEntryName_lockFileName named
    rw [isTrailing_joinPath isEntryName_lockFileName, if_neg Bool.false_ne_true] at new
    rw [← Except.ok.inj new]
    exact ⟨looked.tree, place, furnishes, ⟨left, enters⟩, sound, absent.symm, rfl,
      node?_put_name _ _ _ _⟩

/-- A directory that is there is made ready if the disk works for two operations. -/
theorem ensureDirectory_of_there {place : Place} {mode : Nat}
    (works : ∀ step < 2, disk.outage (disk.operations + step) = none)
    (there : disk.tree.locate false (.ofPath directory) = .ok (place, some (.directory mode))) :
    (∃ left, disk.tree.EntersPath directory place left) ∧
      disk.tree.node? place = some (.directory mode) ∧
      ensureDirectory directory disk =
        (.ok (), { disk with
          tree := disk.tree.put place (.directory 0o700)
          operations := disk.operations + 2 }) := by
  have node_there := node?_of_locate there
  obtain ⟨left, enters⟩ := entersPath_of_locate there
  have status : disk.tree.status false (.ofPath directory) = .ok (.directory mode) := by
    rw [FileTree.status, there]
  have set : disk.tree.setMode (.ofPath directory) 0o700 =
      .ok (disk.tree.put place (.directory 0o700)) := by
    have located := enters.locate_directory (isSound_of_follow there).1 (isSound_of_follow there).2
    rw [node_there] at located
    rw [setMode, located]
  refine ⟨⟨left, enters⟩, node_there, ?_⟩
  have first := works 0 (by omega)
  have second := works 1 (by omega)
  simp only [ensureDirectory, Disk.inquire, Disk.alter, Nat.add_zero] at first ⊢
  simp only [first, second, status, set]

/-- A directory that is missing in another one can be made, and the path then leads there. -/
theorem makeDirectory_of_absent {tree : FileTree} {place : Place} {left : Nat} {name : String}
    (enters : tree.EntersPath directory place left) (entry : IsEntryName name)
    (sound : (Route.ofPath (joinPath directory name)).isSound = true)
    (absent : tree.node? (place ++ [name]) = none) :
    ∃ made, tree.makeDirectory (.ofPath (joinPath directory name)) = .ok made ∧
      made = tree.put (place ++ [name]) (.directory newDirectoryMode) ∧
      made.EntersPath directory place left := by
  have named := enters.entry_joinPath entry sound
  rw [absent] at named
  have leaf : IsLeaf (tree.node? (place ++ [name])) := by
    rw [absent]
    trivial
  refine ⟨_, ?_, rfl, (retains_put leaf _).entersPath enters⟩
  rw [makeDirectory, named]

/-- A directory that is missing in another one is made if the disk works for three operations. -/
theorem ensureDirectory_of_absent {place : Place} {left : Nat} {name : String}
    (works : ∀ step < 3, disk.outage (disk.operations + step) = none)
    (enters : disk.tree.EntersPath directory place left) (entry : IsEntryName name)
    (sound : (Route.ofPath (joinPath directory name)).isSound = true)
    (absent : disk.tree.node? (place ++ [name]) = none) :
    ∃ ready, ensureDirectory (joinPath directory name) disk =
        (.ok (), { disk with tree := ready, operations := disk.operations + 3 }) ∧
      (∃ left, ready.EntersPath (joinPath directory name) (place ++ [name]) left) ∧
      ∀ sought, ready.node? sought =
        if sought = place ++ [name] then some (.directory 0o700) else disk.tree.node? sought := by
  have status := enters.status_joinPath_of_absent entry sound absent
  obtain ⟨made, makes, same, entered⟩ := makeDirectory_of_absent enters entry sound absent
  have there : made.node? (place ++ [name]) = some (.directory newDirectoryMode) := by
    rw [same, node?_put_name, if_pos rfl]
  have sets : made.setMode (.ofPath (joinPath directory name)) 0o700 =
      .ok (made.put (place ++ [name]) (.directory 0o700)) := by
    rw [setMode, entered.locate_joinPath entry sound (by simp [there]), there]
  have set : Furnishes made (made.put (place ++ [name]) (.directory 0o700)) := .put there rfl
  obtain ⟨left, inside⟩ := entered.joinPath entry sound there
  refine ⟨made.put (place ++ [name]) (.directory 0o700), ?_,
    ⟨left, set.retains.entersPath inside⟩, fun sought => ?_⟩
  · have first := works 0 (by omega)
    have second := works 1 (by omega)
    have third := works 2 (by omega)
    have next : ({ disk with operations := disk.operations + 1 } : Disk).makeDirectories
        (joinPath directory name) =
        (.ok (), { disk with tree := made, operations := disk.operations + 2 }) :=
      Disk.makeDirectories_of_made (joinPath_ne_empty entry directory) second makes
    simp only [ensureDirectory, Disk.inquire, Disk.alter, Nat.add_zero] at first ⊢
    simp only [first, third, status, next, sets]
  · rw [node?_put_name]
    split
    · rfl
    · rename_i apart
      rw [same, node?_put_of_ne _ _ apart]

/-- A directory that is ready is claimed if the disk works for two operations and nothing stands in
the place of the lock file. -/
theorem claim_of_ready {ready : Disk} {place : Place} {left : Nat}
    (ensured : ensureDirectory directory disk = (.ok (), ready))
    (works : ∀ step < 2, ready.outage (ready.operations + step) = none)
    (enters : ready.tree.EntersPath directory place left)
    (sound : (Route.ofPath (joinPath directory lockFileName)).isSound = true)
    (vacant : ready.tree.node? (place ++ [lockFileName]) = none) :
    ∃ made, claim directory disk = (.ok (), made) ∧ made.operations = ready.operations + 2 ∧
      made.outage = ready.outage ∧ Locked directory ready.tree place .empty made.tree := by
  have named := enters.entry_joinPath isEntryName_lockFileName sound
  rw [vacant] at named
  have unlinked := enters.status_joinPath_of_absent isEntryName_lockFileName sound vacant
  have created : ready.tree.createNew (.ofPath (joinPath directory lockFileName)) 0o600 =
      .ok (ready.tree.put (place ++ [lockFileName]) (.file .empty 0o600 0)) := by
    rw [createNew, named]
    simp only [isTrailing_joinPath isEntryName_lockFileName, Bool.false_eq_true, ↓reduceIte]
  refine ⟨⟨ready.tree.put (place ++ [lockFileName]) (.file .empty 0o600 0), ready.operations + 2,
    ready.outage⟩, ?_, rfl, rfl, ⟨left, enters⟩, sound, vacant, rfl, node?_put_name _ _ _ _⟩
  have first := works 0 (by omega)
  have second := works 1 (by omega)
  rw [claim, ensured]
  simp only [rejectLink, Disk.inquire, Disk.alter, Nat.add_zero] at first ⊢
  simp only [first, second, unlinked, created]

/-- A directory that is there is claimed if the disk works for four operations and nothing stands in
the place of the lock file. -/
theorem claim_of_vacant {place : Place} {mode : Nat}
    (works : ∀ step < 4, disk.outage (disk.operations + step) = none)
    (there : disk.tree.locate false (.ofPath directory) = .ok (place, some (.directory mode)))
    (sound : (Route.ofPath (joinPath directory lockFileName)).isSound = true)
    (vacant : disk.tree.node? (place ++ [lockFileName]) = none) :
    ∃ made, claim directory disk = (.ok (), made) ∧ made.operations = disk.operations + 4 ∧
      made.outage = disk.outage := by
  obtain ⟨⟨left, enters⟩, node_there, ensured⟩ :=
    ensureDirectory_of_there (fun step early => works step (by omega)) there
  have furnished : Furnishes disk.tree (disk.tree.put place (.directory 0o700)) :=
    .put node_there rfl
  have absent :
      (disk.tree.put place (.directory 0o700)).node? (place ++ [lockFileName]) = none := by
    rw [node?_put_of_ne _ _ (by simp), vacant]
  obtain ⟨made, claimed, operations, outages, -⟩ := claim_of_ready ensured
    (fun step early => by
      have working := works (2 + step) (by omega)
      rw [← Nat.add_assoc] at working
      exact working)
    (furnished.retains.entersPath enters) sound absent
  exact ⟨made, claimed, operations, outages⟩

/-- The disk takes the content of a new lock file and flushes it. -/
def IsWritten (made : Disk) : Prop :=
  made.outage made.operations = none ∧ made.outage (made.operations + 1) = none

section Writing

variable {furnished : FileTree} {place : Place} {bytes : ByteArray}

/-- The holder is written into a lock file if the disk works. -/
theorem writeHolder_of_written (locked : Locked directory furnished place bytes made.tree)
    (holder : LockMeta) (written : IsWritten made) :
    ∃ next, writeHolder (joinPath directory lockFileName) holder made =
        (.ok (), { made with tree := next, operations := made.operations + 2 }) ∧
      Locked directory furnished place holder.encode next := by
  obtain ⟨next, overwritten, relocked⟩ := locked.overwrite holder.encode
  refine ⟨next, ?_, relocked⟩
  simp only [writeHolder, Disk.alter, Disk.inquire, written.1, written.2, overwritten]

/-- Where the disk does not work, the lock file stays as it was, or with a content that is not
flushed. -/
theorem writeHolder_of_unwritten (locked : Locked directory furnished place bytes made.tree)
    (holder : LockMeta) (unwritten : ¬ IsWritten made) :
    ∃ fault after content,
      writeHolder (joinPath directory lockFileName) holder made = (.error fault, after) ∧
      Locked directory furnished place content after.tree := by
  obtain ⟨next, overwritten, relocked⟩ := locked.overwrite holder.encode
  cases write : made.outage made.operations with
  | some cause =>
    refine ⟨.corrupt (joinPath directory lockFileName) cause.message,
      { made with operations := made.operations + 1 }, bytes, ?_, locked⟩
    simp only [writeHolder, Disk.alter, write]
  | none =>
    cases flush : made.outage (made.operations + 1) with
    | none => exact absurd ⟨write, flush⟩ unwritten
    | some cause =>
      refine ⟨.io cause, { made with tree := next, operations := made.operations + 2 },
        holder.encode, ?_, relocked⟩
      simp only [writeHolder, Disk.alter, Disk.inquire, write, flush, overwritten]

end Writing

/-- A directory that is missing in another one is acquired if the disk works for seven
operations. -/
theorem acquire_of_absent {place : Place} {left : Nat} {name : String} (owner : LockOwner)
    (server : ServerId) (works : ∀ step < 7, disk.outage (disk.operations + step) = none)
    (enters : disk.tree.EntersPath directory place left) (entry : IsEntryName name)
    (sound : (Route.ofPath (joinPath directory name)).isSound = true)
    (lockSound : (Route.ofPath (joinPath (joinPath directory name) lockFileName)).isSound = true)
    (absent : disk.tree.node? (place ++ [name]) = none)
    (vacant : disk.tree.node? (place ++ [name] ++ [lockFileName]) = none) :
    ∃ next, acquire owner (joinPath directory name) server disk =
        (.ok (lockOf owner (joinPath directory name) server),
          { disk with tree := next, operations := disk.operations + 7 }) ∧
      (∃ left, next.EntersPath (joinPath directory name) (place ++ [name]) left) ∧
      next.node? (place ++ [name]) = some (.directory 0o700) ∧
      ∀ other ≠ lockFileName, next.node? (place ++ [name] ++ [other]) =
        disk.tree.node? (place ++ [name] ++ [other]) := by
  obtain ⟨ready, ensured, ⟨_, entered⟩, node⟩ := ensureDirectory_of_absent
    (fun step early => works step (by omega)) enters entry sound absent
  have inside (other : String) : place ++ [name] ++ [other] ≠ place ++ [name] := by simp
  have unlocked : ready.node? (place ++ [name] ++ [lockFileName]) = none := by
    rw [node, if_neg (inside _), vacant]
  obtain ⟨⟨_, _, _⟩, claimed, rfl, rfl, locked⟩ := claim_of_ready ensured
    (fun step early => by simpa [Nat.add_assoc] using works (3 + step) (by omega)) entered
    lockSound unlocked
  obtain ⟨next, wrote, relocked⟩ := writeHolder_of_written locked
    (lockOf owner (joinPath directory name) server).holder
    ⟨works 5 (by omega), works 6 (by omega)⟩
  refine ⟨next, ?_, ⟨_, relocked.retains.entersPath entered⟩, ?_, fun other apart => ?_⟩
  · rw [acquire_eq]
    simp only [claimed, wrote]
  · rw [relocked.node, if_neg (by simp), node, if_pos rfl]
  · rw [relocked.node, if_neg (by simpa using apart), node, if_neg (inside _)]

/-- What is behind a lock that was taken: the directory was claimed, the lock file written, and
nothing else but furniture is new. -/
theorem acquire_ok {lock : DirectoryLock}
    (taken : acquire owner directory server disk = (.ok lock, after)) :
    lock = lockOf owner directory server ∧
      (∃ made, claim directory disk = (.ok (), made) ∧ IsWritten made) ∧
      ∃ furnished place, Furnishes disk.tree furnished ∧
        Locked directory furnished place lock.holder.encode after.tree := by
  rw [acquire_eq] at taken
  generalize claimed : claim directory disk = answer at taken ⊢
  obtain ⟨fault | _, made⟩ := answer
  · cases taken
  obtain ⟨furnished, place, furnishes, locked⟩ := locked_of_claim claimed
  dsimp only at taken
  by_cases written : IsWritten made
  · obtain ⟨next, answer, relocked⟩ :=
      writeHolder_of_written locked (lockOf owner directory server).holder written
    rw [answer] at taken
    cases taken
    exact ⟨rfl, ⟨made, rfl, written⟩, furnished, place, furnishes, relocked⟩
  · obtain ⟨fault, _, _, answer, -⟩ :=
      writeHolder_of_unwritten locked (lockOf owner directory server).holder written
    rw [answer] at taken
    cases taken

/-- A directory is claimed and its lock file then not written. -/
def LeavesUnwritten (directory : String) (disk : Disk) : Prop :=
  ∃ made, claim directory disk = (.ok (), made) ∧ ¬ IsWritten made

/-- What is behind a failure: the directory was claimed and the lock file, which was not written,
stays, or nothing but furniture is new. -/
theorem acquire_error {fault : LockFault}
    (failed : acquire owner directory server disk = (.error fault, after)) :
    (LeavesUnwritten directory disk ∧ ∃ furnished place bytes, Furnishes disk.tree furnished ∧
      Locked directory furnished place bytes after.tree) ∨
    (¬ LeavesUnwritten directory disk ∧ Furnishes disk.tree after.tree) := by
  have outcome := claim_outcome directory disk
  rw [LeavesUnwritten]
  rw [acquire_eq] at failed
  generalize claimed : claim directory disk = answer at failed outcome ⊢
  obtain ⟨_ | _, made⟩ := answer
  · cases failed
    refine .inr ⟨by rintro ⟨_, ⟨⟩, -⟩, ?_⟩
    cases outcome with
    | failed furnished _ => exact furnished
    | held furnished _ _ same => exact same ▸ furnished
  obtain ⟨furnished, place, furnishes, locked⟩ := locked_of_claim claimed
  dsimp only at failed
  by_cases written : IsWritten made
  · obtain ⟨_, answer, -⟩ :=
      writeHolder_of_written locked (lockOf owner directory server).holder written
    rw [answer] at failed
    cases failed
  · obtain ⟨_, _, bytes, answer, relocked⟩ :=
      writeHolder_of_unwritten locked (lockOf owner directory server).holder written
    rw [answer] at failed
    cases failed
    exact .inl ⟨⟨made, rfl, written⟩, furnished, place, bytes, furnishes, relocked⟩

/-- An acquisition that is refused because the lock is held has furnished the tree at most, and
something stands in the place of the lock file, unless the disk says so by itself. -/
theorem acquire_of_held {holder : Option LockMeta} {reason : Option String}
    (honest : ∀ operation, disk.outage operation ≠ some .alreadyExists)
    (refused : acquire owner directory server disk = (.error (.held path holder reason), after)) :
    Furnishes disk.tree after.tree ∧ path = joinPath directory lockFileName ∧
      ∃ place node, after.tree.entry (.ofPath path) = .ok (place, some node) := by
  have outcome := claim_outcome directory disk
  rw [acquire_eq] at refused
  generalize claim directory disk = answer at refused outcome
  obtain ⟨fault | _, claimed⟩ := answer
  · cases refused
    cases outcome with
    | failed _ unheld => exact absurd rfl (unheld path holder reason)
    | @held looked _ _ _ _ furnished outages tried same =>
      rw [same]
      suffices found : looked.tree.createNew (.ofPath (joinPath directory lockFileName)) 0o600 =
          .error .alreadyExists from ⟨furnished, rfl, entry_of_createNew found⟩
      rw [Disk.alter] at tried
      split at tried
      · rename_i cause outage
        cases tried
        rw [outages] at outage
        exact absurd outage (honest _)
      · split at tried
        · rename_i found
          cases tried
          exact found
        · cases tried
  · dsimp only at refused
    have unheld := writeHolder_ne_held (joinPath directory lockFileName)
      (lockOf owner directory server).holder claimed path holder reason
    split at refused
    · rename_i failed
      cases refused
      rw [failed] at unheld
      exact absurd rfl unheld
    · cases refused

/-- A directory with something in the place of its lock file is not acquired. -/
theorem acquire_ne_ok {place : Place} {left : Nat} {node : FileNode}
    (enters : disk.tree.EntersPath directory place left)
    (occupied : disk.tree.node? (place ++ [lockFileName]) = some node) (lock : DirectoryLock) :
    (acquire owner directory server disk).1 ≠ .ok lock := by
  intro taken
  obtain ⟨-, -, furnished, other, furnishes, locked⟩ := acquire_ok (Prod.ext taken rfl)
  obtain ⟨_, entered⟩ := locked.enters
  have same : place = other := (furnishes.retains.entersPath enters).place_eq entered
  have absent := furnishes.absent_before locked.vacant
  rw [← same, occupied] at absent
  cases absent

end DirectoryLock
end Standby
