import Standby.Proofs.Cluster.Abandonment
import Standby.Proofs.FileTree.Holder

/-!
# One owner of a directory

Owners take the locks of directories and give them up, in any order, on a disk that works, and the
lock files are theirs alone (`Custody`). A lock that is given up is given up once, although its
guard is finished again at the end of its life. At any time each live lock guards one directory, no
two guard the same one, and the lock files are those of the live locks (`Kept`), so an acquisition
of a directory that is guarded names the owner, and one of another directory succeeds unless
something that is no lock file bears its name there (`one_owner_per_directory`).
-/
namespace Standby

open FileTree DirectoryLock

namespace DirectoryLock

variable {lock : DirectoryLock} {place other : Place} {tree before after furnished : FileTree}
  {directory : String} {bytes : ByteArray}

/-- A lock file is the file of that name. -/
theorem lockFiles_eq_some_iff : tree.lockFiles (place ++ [lockFileName]) = some bytes ↔
    ∃ mode modified, tree.node? (place ++ [lockFileName]) = some (.file bytes mode modified) := by
  rw [lockFiles, if_pos (by simp)]
  cases tree.node? (place ++ [lockFileName]) with
  | none => simp
  | some node => cases node <;> simp

/-- A new lock file is new among the lock files, and nothing else is. -/
theorem Locked.lockFiles (locked : Locked directory furnished place bytes tree) (sought : Place) :
    tree.lockFiles sought =
      if sought = place ++ [lockFileName] then some bytes else furnished.lockFiles sought := by
  split
  · rename_i here
    rw [here, lockFiles_eq_some_iff]
    exact ⟨_, _, locked.node_self⟩
  · rename_i apart
    rw [FileTree.lockFiles, FileTree.lockFiles, locked.node, if_neg apart]

/-- Deleting a lock file leaves the others. -/
theorem lockFiles_delete (tree : FileTree) (place sought : Place) :
    (tree.delete (place ++ [lockFileName])).lockFiles sought =
      if sought = place ++ [lockFileName] then none else tree.lockFiles sought := by
  split
  · rename_i here
    rw [FileTree.lockFiles, here, node?_delete_name, if_pos rfl]
    split <;> rfl
  · rename_i apart
    rw [FileTree.lockFiles, FileTree.lockFiles, node?_delete_of_ne _ apart]

/-- A lock guards a directory: its path leads there, and what stands there is its own lock file. -/
structure Guards (lock : DirectoryLock) (place : Place) (tree : FileTree) : Prop where
  /-- The path of the lock is that of a lock file in the directory. -/
  path : ∃ directory left, lock.path = joinPath directory lockFileName ∧
    tree.EntersPath directory place left
  /-- The path is one that a file system takes. -/
  sound : (Route.ofPath lock.path).isSound = true
  /-- The lock file names the holder of the lock. -/
  file : tree.lockFiles (place ++ [lockFileName]) = some lock.holder.encode

namespace Guards

/-- The path of a lock that guards a place leads to its lock file. -/
theorem entry (guards : lock.Guards place tree) :
    ∃ mode modified, tree.entry (.ofPath lock.path) =
      .ok (place ++ [lockFileName], some (.file lock.holder.encode mode modified)) := by
  obtain ⟨directory, left, path, enters⟩ := guards.path
  obtain ⟨mode, modified, there⟩ := lockFiles_eq_some_iff.mp guards.file
  have sound := guards.sound
  rw [path] at sound ⊢
  rw [enters.entry_joinPath isEntryName_lockFileName sound, there]
  exact ⟨mode, modified, rfl⟩

/-- A lock guards one directory. -/
theorem place_eq (guards : lock.Guards place tree) (again : lock.Guards other tree) :
    place = other := by
  obtain ⟨_, _, first⟩ := guards.entry
  obtain ⟨_, _, second⟩ := again.entry
  rw [first] at second
  exact List.append_cancel_right (Prod.mk.inj (Except.ok.inj second)).1

/-- A lock guards its directory as long as the ways and its lock file stay. -/
theorem of_retains (guards : lock.Guards place before) (retains : Retains before after)
    (same : after.lockFiles (place ++ [lockFileName]) =
      before.lockFiles (place ++ [lockFileName])) : lock.Guards place after where
  path := by
    obtain ⟨directory, left, path, enters⟩ := guards.path
    exact ⟨directory, left, path, retains.entersPath enters⟩
  sound := guards.sound
  file := same.trans guards.file

/-- The lock file of a guarded directory can be removed. -/
theorem removeFile (guards : lock.Guards place tree) :
    tree.removeFile (.ofPath lock.path) = .ok (tree.delete (place ++ [lockFileName])) := by
  obtain ⟨_, _, entry⟩ := guards.entry
  obtain ⟨directory, _, path, -⟩ := guards.path
  rw [FileTree.removeFile, entry]
  simp [path, isTrailing_joinPath isEntryName_lockFileName]

/-- A new lock guards its directory. -/
theorem of_locked {holder : LockMeta}
    (locked : Locked directory furnished place holder.encode after) :
    Guards ⟨joinPath directory lockFileName, holder⟩ place after where
  path := by
    obtain ⟨left, enters⟩ := locked.enters
    exact ⟨directory, left, rfl, locked.retains.entersPath enters⟩
  sound := locked.sound
  file := by rw [locked.lockFiles, if_pos rfl]

end Guards

/-- The locks are those of the directories: each guards one, no two guard the same one, and every
lock file is that of a lock. -/
structure Kept (locks : List DirectoryLock) (tree : FileTree) : Prop where
  /-- Each lock guards a directory. -/
  guards : ∀ lock ∈ locks, ∃ place, lock.Guards place tree
  /-- No two locks guard the same directory. -/
  apart : locks.Pairwise fun one other => ∀ place, one.Guards place tree →
    ¬ other.Guards place tree
  /-- Every lock file is that of a lock. -/
  owned : ∀ place bytes, tree.lockFiles (place ++ [lockFileName]) = some bytes →
    ∃ lock ∈ locks, lock.Guards place tree

namespace Kept

variable {locks front back : List DirectoryLock}

/-- A tree without lock files is kept by no lock. -/
theorem nil (vacant : ∀ place, tree.lockFiles place = none) : Kept [] tree where
  guards _ member := absurd member List.not_mem_nil
  apart := .nil
  owned place bytes there := by
    rw [vacant] at there
    cases there

/-- A lock guards after a change what it guarded before, if it is still one of those that guard. -/
theorem guards_before (kept : Kept locks before)
    (stays : ∀ place, lock.Guards place before → lock.Guards place after) (member : lock ∈ locks)
    (guards : lock.Guards place after) : lock.Guards place before := by
  obtain ⟨other, guarded⟩ := kept.guards lock member
  rwa [(stays other guarded).place_eq guards] at guarded

/-- Locks are kept as long as the ways and the lock files stay. -/
theorem of_retains (kept : Kept locks before) (retains : Retains before after)
    (same : after.lockFiles = before.lockFiles) : Kept locks after := by
  have stays (lock : DirectoryLock) (place : Place) (guards : lock.Guards place before) :
      lock.Guards place after := guards.of_retains retains (by rw [same])
  refine ⟨fun lock member => (kept.guards lock member).imp (stays lock),
    kept.apart.imp_of_mem fun one other alone place guards again => ?_,
    fun place bytes there => ?_⟩
  · exact alone place (kept.guards_before (stays _) one guards)
      (kept.guards_before (stays _) other again)
  · rw [same] at there
    obtain ⟨lock, member, guards⟩ := kept.owned place bytes there
    exact ⟨lock, member, stays lock place guards⟩

/-- A lock that is taken is kept with the others. -/
theorem cons {holder : LockMeta} (kept : Kept locks furnished)
    (locked : Locked directory furnished place holder.encode after) :
    Kept (⟨joinPath directory lockFileName, holder⟩ :: locks) after := by
  have new := Guards.of_locked locked
  have vacant : furnished.lockFiles (place ++ [lockFileName]) = none := by
    rw [lockFiles, locked.vacant, ite_self]
  have elsewhere {lock : DirectoryLock} {other : Place} (guards : lock.Guards other furnished) :
      other ≠ place := by
    rintro rfl
    cases vacant.symm.trans guards.file
  have stays (lock : DirectoryLock) (other : Place) (guards : lock.Guards other furnished) :
      lock.Guards other after := by
    refine guards.of_retains locked.retains ?_
    rw [locked.lockFiles, if_neg (by simpa using elsewhere guards)]
  refine ⟨fun lock member => ?_, .cons (fun lock member other guards again => ?_)
    (kept.apart.imp_of_mem fun one other alone place guards again => ?_),
    fun other bytes there => ?_⟩
  · rcases List.mem_cons.mp member with rfl | member
    · exact ⟨place, new⟩
    · exact (kept.guards lock member).imp (stays lock)
  · have before := kept.guards_before (stays lock) member again
    exact elsewhere before (guards.place_eq new)
  · exact alone place (kept.guards_before (stays _) one guards)
      (kept.guards_before (stays _) other again)
  · rw [locked.lockFiles] at there
    split at there
    · rename_i here
      rw [List.append_cancel_right here]
      exact ⟨_, List.mem_cons_self, new⟩
    · obtain ⟨lock, member, guards⟩ := kept.owned other bytes there
      exact ⟨lock, List.mem_cons_of_mem _ member, stays lock other guards⟩

/-- The other locks are kept when one is given up. -/
theorem remove (kept : Kept (front ++ lock :: back) tree) (guards : lock.Guards place tree) :
    Kept (front ++ back) (tree.delete (place ++ [lockFileName])) := by
  have leaf : IsLeaf (tree.node? (place ++ [lockFileName])) := by
    obtain ⟨_, _, there⟩ := lockFiles_eq_some_iff.mp guards.file
    rw [there]
    trivial
  obtain ⟨alone, apart⟩ := List.pairwise_cons.mp
    ((List.pairwise_middle fun disjoint place one other => disjoint place other one).mp kept.apart)
  have elsewhere {other : DirectoryLock} {found : Place} (member : other ∈ front ++ back)
      (guarded : other.Guards found tree) : found ≠ place := by
    rintro rfl
    exact alone other member found guards guarded
  have stays (other : DirectoryLock) (member : other ∈ front ++ back) (found : Place)
      (guarded : other.Guards found tree) :
      other.Guards found (tree.delete (place ++ [lockFileName])) := by
    refine guarded.of_retains (retains_delete leaf) ?_
    rw [lockFiles_delete, if_neg (by simpa using elsewhere member guarded)]
  have among (other : DirectoryLock) (member : other ∈ front ++ back) :
      other ∈ front ++ lock :: back := by
    simp only [List.mem_append, List.mem_cons] at member ⊢
    tauto
  have before {other : DirectoryLock} {found : Place} (member : other ∈ front ++ back)
      (guarded : other.Guards found (tree.delete (place ++ [lockFileName]))) :=
    kept.guards_before (stays other member) (among other member) guarded
  refine ⟨fun other member => (kept.guards other (among other member)).imp (stays other member),
    apart.imp_of_mem fun one other alone found guarded again =>
      alone found (before one guarded) (before other again), fun found bytes there => ?_⟩
  rw [lockFiles_delete] at there
  split at there
  · cases there
  · rename_i apart
    obtain ⟨other, member, guarded⟩ := kept.owned found bytes there
    have remains : other ∈ front ++ back := by
      simp only [List.mem_append, List.mem_cons] at member ⊢
      rcases member with first | rfl | last
      · exact .inl first
      · exact absurd (congrArg (· ++ [lockFileName]) (guarded.place_eq guards)) apart
      · exact .inr last
    exact ⟨other, remains, stays other remains found guarded⟩

end Kept

/-- Every lock file is that of one of the locks that are kept. -/
theorem Kept.lockFiles_eq_some_iff {locks : List DirectoryLock} (kept : Kept locks tree) :
    tree.lockFiles (place ++ [lockFileName]) = some bytes ↔
      ∃ lock ∈ locks, lock.Guards place tree ∧ lock.holder.encode = bytes := by
  constructor
  · intro there
    obtain ⟨lock, member, guards⟩ := kept.owned place bytes there
    exact ⟨lock, member, guards, Option.some.inj (guards.file.symm.trans there)⟩
  · rintro ⟨lock, -, guards, rfl⟩
    exact guards.file

end DirectoryLock

/-- A lock in the hands of its owner. The lock is given up when the guard is released or, at the
latest, when the guard is finished. -/
structure LockGuard where
  /-- The lock. -/
  lock : DirectoryLock
  /-- The lock has been given up. -/
  isReleased : Bool

namespace LockGuard

/-- Give the lock up, if it is not given up yet, and say whether its file was removed. -/
def release (guard : LockGuard) (disk : Disk) : Except LockFault Unit × LockGuard × Disk :=
  if guard.isReleased then (.ok (), guard, disk)
  else
    let (result, disk) := guard.lock.release disk
    (result, { guard with isReleased := true }, disk)

/-- The end of a guard, which gives the lock up if it is not given up yet. -/
def finish (guard : LockGuard) (disk : Disk) : Disk :=
  if guard.isReleased then disk else guard.lock.drop disk

/-- The locks that are not given up. -/
def live (guards : List LockGuard) : List DirectoryLock :=
  (guards.filter (!·.isReleased)).map (·.lock)

/-- The guards that hold locks among some and then others. -/
@[simp] theorem live_append (front back : List LockGuard) :
    live (front ++ back) = live front ++ live back := by
  simp [live]

/-- A guard holds its lock until it is released. -/
@[simp] theorem live_cons (guard : LockGuard) (guards : List LockGuard) :
    live (guard :: guards) =
      if guard.isReleased then live guards else guard.lock :: live guards := by
  cases released : guard.isReleased <;> simp [live, released]

end LockGuard

open LockGuard

/-- The guards that are in the hands of owners and the disk, after a history that began with a
tree. -/
inductive Custody (start : FileTree) : List LockGuard → Disk → Prop where
  /-- Nothing has happened. -/
  | start : Custody start [] (.ofTree start)
  /-- An owner takes a lock. -/
  | taken {guards : List LockGuard} {disk after : Disk} {owner : LockOwner} {directory : String}
    {server : ServerId} {lock : DirectoryLock} (before : Custody start guards disk)
    (acquired : acquire owner directory server disk = (.ok lock, after)) :
    Custody start (⟨lock, false⟩ :: guards) after
  /-- An owner is refused. -/
  | refused {guards : List LockGuard} {disk after : Disk} {owner : LockOwner} {directory : String}
    {server : ServerId} {fault : LockFault} (before : Custody start guards disk)
    (failed : acquire owner directory server disk = (.error fault, after)) :
    Custody start guards after
  /-- A guard is released, and is still to be finished. -/
  | released {front back : List LockGuard} {guard : LockGuard} {disk : Disk}
    (before : Custody start (front ++ guard :: back) disk) :
    Custody start (front ++ (guard.release disk).2.1 :: back) (guard.release disk).2.2
  /-- A guard is finished. -/
  | finished {front back : List LockGuard} {guard : LockGuard} {disk : Disk}
    (before : Custody start (front ++ guard :: back) disk) :
    Custody start (front ++ back) (guard.finish disk)
  /-- The tree is changed by others, who leave the ways and the lock files. -/
  | changed {guards : List LockGuard} {disk : Disk} {after : FileTree}
    (before : Custody start guards disk) (retains : Retains disk.tree after)
    (same : after.lockFiles = disk.tree.lockFiles) :
    Custody start guards { disk with tree := after }

namespace DirectoryLock

variable {lock : DirectoryLock} {place : Place} {disk : Disk}

/-- On a disk that works a lock that guards a directory is given up. -/
theorem Guards.release (guards : lock.Guards place disk.tree) (works : disk.Works) :
    lock.release disk = (.ok (), { disk with
      tree := disk.tree.delete (place ++ [lockFileName])
      operations := disk.operations + 1 }) := by
  rw [DirectoryLock.release, works.alter, guards.removeFile]

/-- To drop a lock is to release it and to ignore the answer. -/
theorem drop_eq (lock : DirectoryLock) (disk : Disk) : lock.drop disk = (lock.release disk).2 := by
  rw [DirectoryLock.drop, DirectoryLock.release]
  split <;> rename_i altered <;> rw [altered]

end DirectoryLock

namespace Custody

variable {start : FileTree} {guards : List LockGuard} {disk : Disk}

/-- A lock that is given up for the first time leaves the others as they were. -/
theorem kept_of_release {front back : List LockGuard} {guard : LockGuard} (works : disk.Works)
    (kept : Kept (live (front ++ guard :: back)) disk.tree) (fresh : guard.isReleased = false) :
    (guard.lock.release disk).2.Works ∧
      Kept (live (front ++ back)) (guard.lock.release disk).2.tree := by
  have split : live (front ++ guard :: back) = live front ++ guard.lock :: live back := by
    simp [fresh]
  rw [split] at kept
  obtain ⟨place, guarded⟩ := kept.guards guard.lock (by simp)
  rw [guarded.release works, live_append]
  exact ⟨works, kept.remove guarded⟩

/-- At any time of a history the disk works, and the live locks are those of the directories. -/
theorem kept (vacant : ∀ place, start.lockFiles place = none)
    (history : Custody start guards disk) :
    disk.Works ∧ Kept (live guards) disk.tree := by
  induction history with
  | start => exact ⟨fun _ => rfl, .nil vacant⟩
  | taken _ acquired ih =>
    obtain ⟨works, kept⟩ := ih
    refine ⟨works_of_acquire works acquired, ?_⟩
    obtain ⟨rfl, -, furnished, place, furnishes, locked⟩ := acquire_ok acquired
    exact (kept.of_retains furnishes.retains (lockFiles_of_furnishes furnishes)).cons locked
  | refused _ failed ih =>
    obtain ⟨works, kept⟩ := ih
    have furnishes := furnishes_of_error works failed
    exact ⟨works_of_acquire works failed,
      kept.of_retains furnishes.retains (lockFiles_of_furnishes furnishes)⟩
  | @released front back guard disk _ ih =>
    obtain ⟨works, kept⟩ := ih
    rw [LockGuard.release]
    split
    · exact ⟨works, kept⟩
    · rename_i fresh
      have spent : live (front ++ { guard with isReleased := true } :: back) =
          live (front ++ back) := by simp
      rw [spent]
      exact kept_of_release works kept (Bool.eq_false_iff.mpr fresh)
  | @finished front back guard disk _ ih =>
    obtain ⟨works, kept⟩ := ih
    rw [LockGuard.finish]
    split
    · rename_i released
      have split : live (front ++ guard :: back) = live (front ++ back) := by simp [released]
      exact ⟨works, split ▸ kept⟩
    · rename_i fresh
      rw [drop_eq]
      exact kept_of_release works kept (Bool.eq_false_iff.mpr fresh)
  | changed _ retains same ih => exact ⟨ih.1, ih.2.of_retains retains same⟩

end Custody

/-- What the acquisition of a path finds out about the directory at a place, given the live
locks. -/
structure Answers (locks : List DirectoryLock) (before after : FileTree) (owner : LockOwner)
    (directory : String) (server : ServerId) (result : Except LockFault DirectoryLock)
    (place : Place) : Prop where
  /-- The path leads to the directory in the end. -/
  enters : ∃ left, after.EntersPath directory place left
  /-- If the path led to a directory before, it is this one. -/
  stays : ∀ other left, before.EntersPath directory other left → other = place
  /-- If a live lock guards the directory, its holder is named, and every lock file stays. -/
  held : ∀ lock ∈ locks, lock.Guards place before →
    result = .error (.held (joinPath directory lockFileName) (some lock.holder) none) ∧
      after.lockFiles = before.lockFiles
  /-- If no live lock guards the directory, the lock is taken, and other lock files stay; or
  something that is no lock file bears its name, and every lock file stays. -/
  free : (∀ lock ∈ locks, ¬ lock.Guards place before) →
    (result = .ok (lockOf owner directory server) ∧
      (lockOf owner directory server).Guards place after ∧
      ∀ other, other ≠ place ++ [lockFileName] → after.lockFiles other = before.lockFiles other) ∨
    ∃ fault node, result = .error fault ∧ after.node? (place ++ [lockFileName]) = some node ∧
      (∀ bytes mode modified, node ≠ .file bytes mode modified) ∧
      after.lockFiles = before.lockFiles

/-- What holds of the guards in the hands of owners: they are the only owners of their directories,
and whoever wants a directory finds that out. -/
structure OneOwner (guards : List LockGuard) (disk : Disk) : Prop where
  /-- Each live lock guards a directory. -/
  guarded : ∀ lock ∈ live guards, ∃ place, lock.Guards place disk.tree
  /-- No two live locks guard the same directory. -/
  apart : (live guards).Pairwise fun one other => ∀ place, one.Guards place disk.tree →
    ¬ other.Guards place disk.tree
  /-- A lock file is in a directory exactly as long as a live lock guards the directory, and it
  names the holder of that lock. -/
  lockFile_iff : ∀ place bytes, disk.tree.lockFiles (place ++ [lockFileName]) = some bytes ↔
    ∃ lock ∈ live guards, lock.Guards place disk.tree ∧ lock.holder.encode = bytes
  /-- A path at which a directory is or can be made is not that of a link, and the file system does
  not refuse its acquisition. -/
  available : ∀ owner directory server, IsAvailable disk.tree directory →
    (Route.ofPath (joinPath directory lockFileName)).isSound = true →
    (∀ target, disk.tree.status false (.ofPath directory) ≠ .ok (.link target)) ∧
      ∀ cause, (DirectoryLock.acquire owner directory server disk).1 ≠ .error (.io cause)
  /-- An acquisition finds out about one directory, unless its path is that of a link or the file
  system refuses. -/
  acquire : ∀ owner directory server result after,
    DirectoryLock.acquire owner directory server disk = (result, after) →
    (∀ target, disk.tree.status false (.ofPath directory) ≠ .ok (.link target)) →
    (∀ cause, result ≠ .error (.io cause)) →
    ∃ place, Answers (live guards) disk.tree after.tree owner directory server result place
  /-- A live lock that is released, or finished without, removes its own lock file and no other. -/
  giveUp : ∀ guard ∈ guards, guard.isReleased = false →
    ∃ place, guard.lock.Guards place disk.tree ∧ (guard.release disk).1 = .ok () ∧
      (guard.release disk).2.2.tree = disk.tree.delete (place ++ [lockFileName]) ∧
      (guard.finish disk).tree = disk.tree.delete (place ++ [lockFileName])
  /-- A lock that was given up removes nothing any more, whoever owns its directory now. -/
  spent : ∀ guard ∈ guards, guard.isReleased = true →
    guard.release disk = (.ok (), guard, disk) ∧ guard.finish disk = disk

section Exclusion

variable {locks : List DirectoryLock} {disk after : Disk} {before tree : FileTree}
  {owner : LockOwner} {server : ServerId} {directory : String} {place : Place} {left : Nat}
  {node : FileNode} {fault : LockFault}

/-- A directory with something that names no holder in the place of its lock file is obstructed. -/
theorem Answers.of_obstructed (kept : Kept locks before) (furnishes : Furnishes before tree)
    (enters : tree.EntersPath directory place left)
    (there : tree.node? (place ++ [lockFileName]) = some node)
    (undecoded : ∀ bytes mode modified, node = .file bytes mode modified →
      LockMeta.decode bytes = none) :
    Answers locks before tree owner directory server (.error fault) place := by
  have same := lockFiles_of_furnishes furnishes
  have unguarded : ∀ lock ∈ locks, ¬ lock.Guards place before := by
    intro lock _ guards
    have file := guards.file
    rw [← same, lockFiles_eq_some_iff, there] at file
    obtain ⟨mode, modified, stands⟩ := file
    have unnamed := undecoded _ mode modified (Option.some.inj stands)
    rw [LockMeta.decode_encode] at unnamed
    cases unnamed
  refine ⟨⟨left, enters⟩,
    fun other _ entered => (furnishes.retains.entersPath entered).place_eq enters,
    fun lock member guards => absurd guards (unguarded lock member),
    fun _ => .inr ⟨fault, node, rfl, there, ?_, same⟩⟩
  rintro bytes mode modified rfl
  have file := lockFiles_eq_some_iff.mpr ⟨mode, modified, there⟩
  rw [same] at file
  obtain ⟨lock, member, guards⟩ := kept.owned place bytes file
  exact unguarded lock member guards

/-- A directory with a lock file that names its holder is guarded by the lock of that holder. -/
theorem Answers.of_held {bytes : ByteArray} {mode : Nat} {modified : Int} {holder : LockMeta}
    (kept : Kept locks before) (furnishes : Furnishes before tree)
    (enters : tree.EntersPath directory place left)
    (there : tree.node? (place ++ [lockFileName]) = some (.file bytes mode modified))
    (named : LockMeta.decode bytes = some holder) :
    Answers locks before tree owner directory server
      (.error (.held (joinPath directory lockFileName) (some holder) none)) place := by
  have same := lockFiles_of_furnishes furnishes
  have file := lockFiles_eq_some_iff.mpr ⟨mode, modified, there⟩
  rw [same] at file
  refine ⟨⟨left, enters⟩,
    fun other _ entered => (furnishes.retains.entersPath entered).place_eq enters,
    fun lock _ guards => ⟨?_, same⟩, fun free => ?_⟩
  · have content := guards.file
    rw [file] at content
    rw [Option.some.inj content, LockMeta.decode_encode] at named
    rw [Option.some.inj named]
  · obtain ⟨lock, member, guards⟩ := kept.owned place bytes file
    exact absurd guards (free lock member)

/-- A lock is taken of a directory that no lock guards. -/
theorem Answers.of_taken {lock : DirectoryLock}
    (acquired : acquire owner directory server disk = (.ok lock, after)) :
    ∃ place, Answers locks disk.tree after.tree owner directory server (.ok lock) place := by
  obtain ⟨rfl, -, furnished, place, furnishes, locked⟩ := acquire_ok acquired
  have same := lockFiles_of_furnishes furnishes
  obtain ⟨left, enters⟩ := locked.enters
  refine ⟨place, ⟨left, locked.retains.entersPath enters⟩,
    fun other _ entered => (furnishes.retains.entersPath entered).place_eq enters,
    fun lock _ guards => ?_, fun _ => .inl
      ⟨rfl, .of_locked locked, fun other apart => by rw [locked.lockFiles, if_neg apart, same]⟩⟩
  have file := guards.file
  rw [← same, lockFiles, locked.vacant, ite_self] at file
  cases file

/-- An acquisition that reaches a directory finds out about it. -/
theorem Answers.of_ready {result : Except LockFault DirectoryLock} (kept : Kept locks disk.tree)
    (works : disk.Works) (acquired : acquire owner directory server disk = (result, after))
    (outcome : ReadyOutcome directory result after.tree) :
    ∃ place, Answers locks disk.tree after.tree owner directory server result place := by
  have furnishes {fault : LockFault} (failed : result = .error fault) :
      Furnishes disk.tree after.tree := furnishes_of_error works (failed ▸ acquired)
  generalize tree_eq : after.tree = tree at outcome furnishes ⊢
  cases outcome with
  | taken =>
    rw [← tree_eq]
    exact Answers.of_taken acquired
  | held enters there named => exact ⟨_, .of_held kept (furnishes rfl) enters there named⟩
  | unnamed enters there undecoded =>
    exact ⟨_, .of_obstructed kept (furnishes rfl) enters there undecoded⟩
  | linked enters there => exact ⟨_, .of_obstructed kept (furnishes rfl) enters there (by simp)⟩

end Exclusion

/-- Owners who take and give up the locks of directories in any order, on a disk that works and
without lock files at first, are the only owners of their directories. -/
theorem one_owner_per_directory {start : FileTree} {guards : List LockGuard} {disk : Disk}
    (vacant : ∀ place, start.lockFiles place = none) (history : Custody start guards disk) :
    OneOwner guards disk := by
  obtain ⟨works, kept⟩ := history.kept vacant
  refine ⟨kept.guards, kept.apart, fun _ _ => kept.lockFiles_eq_some_iff,
    fun owner directory server available sound => ⟨available.unlinked sound, ?_⟩,
    fun owner directory server result after acquired unlinked passed => ?_,
    fun guard member fresh => ?_, fun guard member released => ?_⟩
  · have outcome := acquire_of_available owner server works available sound
    intro cause refused
    rw [refused] at outcome
    cases outcome
  · have outcome : AcquireOutcome directory disk _ _ := acquire_outcome owner server works
    rw [acquired] at outcome
    cases outcome with
    | ready outcome => exact Answers.of_ready kept works acquired outcome
    | linked link => exact absurd link (unlinked _)
    | refused cause => exact absurd rfl (passed cause)
  · obtain ⟨place, guarded⟩ := kept.guards guard.lock (by
      simpa [live] using ⟨guard, ⟨member, fresh⟩, rfl⟩)
    have given := guarded.release works
    refine ⟨place, guarded, ?_⟩
    simp [LockGuard.release, LockGuard.finish, fresh, drop_eq, given]
  · simp [LockGuard.release, LockGuard.finish, released]

/-- A tree in which nothing stands. -/
def emptyTree : FileTree := .ofHome []

/-- Nothing stands in the empty tree. -/
theorem emptyTree_node? (name : String) (place : Place) :
    emptyTree.node? (name :: place) = none := rfl

/-- There is no lock file in the empty tree. -/
theorem emptyTree_lockFiles (place : Place) : emptyTree.lockFiles place = none := by
  cases place with
  | nil => rfl
  | cons name rest => rw [lockFiles, emptyTree_node?, ite_self]

/-- A directory in an empty tree is acquired. -/
theorem acquire_in_emptyTree (owner : LockOwner) (server : ServerId) {name : String}
    (entry : IsEntryName name) (sound : (Route.ofPath (joinPath "/" name)).isSound = true)
    (lockSound : (Route.ofPath (joinPath (joinPath "/" name) lockFileName)).isSound = true) :
    ∃ after, Custody emptyTree [⟨lockOf owner (joinPath "/" name) server, false⟩] after ∧
      (∃ left, after.tree.EntersPath (joinPath "/" name) [name] left) ∧
      after.tree.node? [name] = some (.directory 0o700) := by
  have works : ∀ step < 7, (Disk.ofTree emptyTree).outage
      ((Disk.ofTree emptyTree).operations + step) = none := fun _ _ => rfl
  obtain ⟨next, acquired, enters, there, -⟩ := acquire_of_absent owner server works
    (entersPath_root emptyTree) entry sound lockSound rfl rfl
  exact ⟨_, .taken .start acquired, enters, there⟩

/-- A second owner of a directory in an empty tree is told who the first one is. -/
theorem second_owner_is_refused : (∀ place, emptyTree.lockFiles place = none) ∧
    ∃ guard disk, Custody emptyTree [guard] disk ∧ OneOwner [guard] disk ∧
      guard.isReleased = false ∧
      (acquire ⟨2, 10⟩ "/data" ⟨"server-2", by decide⟩ disk).1 =
        .error (.held "/data/startup.lck" (some guard.lock.holder) none) := by
  have entry : IsEntryName "data" :=
    ⟨⟨by decide, by decide, by decide +kernel⟩, by decide +kernel, by decide⟩
  obtain ⟨disk, history, ⟨_, enters⟩, there⟩ := acquire_in_emptyTree ⟨1, 0⟩ ⟨"server-1", by decide⟩
    entry (by decide +kernel) (by decide +kernel)
  have owner := one_owner_per_directory emptyTree_lockFiles history
  refine ⟨emptyTree_lockFiles, _, disk, history, owner, rfl, ?_⟩
  have sound : (Route.ofPath "/data").isSound = true := by decide +kernel
  have located : disk.tree.locate false (.ofPath "/data") =
      .ok (["data"], some (.directory 0o700)) := by
    have named := (entersPath_root disk.tree).entry_joinPath entry sound
    rw [← locate_eq_entry entry] at named
    exact named.trans (by rw [List.nil_append, there])
  obtain ⟨unlinked, passed⟩ := owner.available ⟨2, 10⟩ "/data" ⟨"server-2", by decide⟩
    (.there located) (by decide +kernel)
  obtain ⟨place, answers⟩ := owner.acquire _ _ _ _ _ rfl unlinked passed
  obtain ⟨other, guards⟩ := owner.guarded _ List.mem_cons_self
  have first : other = ["data"] := by
    obtain ⟨_, _, found⟩ := guards.entry
    have named := enters.entry_joinPath isEntryName_lockFileName guards.sound
    rw [lockOf, named] at found
    exact List.append_cancel_right (Prod.mk.inj (Except.ok.inj found)).1.symm
  have second : ["data"] = place := answers.stays _ _ enters
  exact (answers.held _ List.mem_cons_self (second ▸ first ▸ guards)).1

/-- The directory of a lock that bears the name of a lock file itself stands in the way of every
owner of the directory that it is in, where there is no lock file. -/
theorem directory_without_lock_file_is_refused : (∀ place, emptyTree.lockFiles place = none) ∧
    ∃ guards disk, Custody emptyTree guards disk ∧
      disk.tree.locate false (.ofPath "/") = .ok ([], some (.directory newDirectoryMode)) ∧
      disk.tree.lockFiles [lockFileName] = none ∧
      ∀ owner server lock, (acquire owner "/" server disk).1 ≠ .ok lock := by
  obtain ⟨disk, history, -, there⟩ := acquire_in_emptyTree ⟨1, 0⟩ ⟨"server-1", by decide⟩
    isEntryName_lockFileName (by decide +kernel) (by decide +kernel)
  refine ⟨emptyTree_lockFiles, _, disk, history, ?_, ?_, fun owner server lock =>
    acquire_ne_ok (entersPath_root disk.tree) there lock⟩
  · have steps : (Route.ofPath "/").wholeSteps = ["."] := by decide +kernel
    rw [locate, follow_eq_walk_start (by decide +kernel) (by decide +kernel), steps, walk_stay,
      walk_nil, FileTree.start, if_pos (by decide +kernel)]
    rfl
  · rw [lockFiles, there]
    rfl

end Standby
