import Standby.Proofs.FileTree.Making
import Standby.Proofs.Identity.Spelling
import Standby.Proofs.Json.Spelling

/-!
# Directories that are held

A lock file names its holder: what is written into it is read back (`LockMeta.decode_encode`). On a
disk that works, a directory that is made ready is one that its path leads to
(`entersPath_of_ensureDirectory`), and what stands in the place of its lock file then decides how
the acquisition ends (`acquire_outcome`): where nothing stands the lock is taken, and where a lock
file stands its holder is named.
-/
namespace Standby

open Document FileTree

namespace LockMeta

/-- The holder of a lock is decoded from the document that it is stored as. -/
theorem ofDocument_toDocument (holder : LockMeta) : ofDocument holder.toDocument = some holder := by
  have parts : fields .whole ["server", "pid", "started_at_ms", "version"] holder.toDocument =
      some [some holder.server.toDocument, some (.integer holder.pid.toNat),
        some (ofUInt64 holder.startedAt), some (.text holder.version)] :=
    fields_table .whole (by simp)
  rw [ofDocument, parts]
  simp [required, ServerId.ofDocument_toDocument, uint32_toNat, uint64_ofUInt64, string]

/-- A lock file names the holder that was written into it. -/
theorem decode_encode (holder : LockMeta) : decode holder.encode = some holder := by
  have plain : Json.isPlain holder.toDocument = true := rfl
  have read : Json.ofBytes holder.encode = some holder.toDocument := by
    rw [Json.ofBytes, encode, Json.symbols_toUTF8]
    exact Json.ofText_compactText plain
  rw [decode, read, Option.bind_some, ofDocument_toDocument]

end LockMeta

namespace FileTree

variable {tree : FileTree} {directory name : String} {place : Place} {left : Nat} {node : FileNode}

/-- What stands under a name in a directory is found there. -/
theorem EntersPath.status_joinPath (enters : tree.EntersPath directory place left)
    (entry : IsEntryName name)
    (sound : (Route.ofPath (Standby.joinPath directory name)).isSound = true)
    (there : tree.node? (place ++ [name]) = some node) :
    tree.status false (.ofPath (Standby.joinPath directory name)) = .ok node := by
  rw [FileTree.status, locate_eq_entry entry, enters.entry_joinPath entry sound, there]

/-- What stands under a name in a directory is read if it is a file. -/
theorem EntersPath.read_joinPath (enters : tree.EntersPath directory place left)
    (entry : IsEntryName name)
    (sound : (Route.ofPath (Standby.joinPath directory name)).isSound = true)
    (there : tree.node? (place ++ [name]) = some node)
    (noLink : ∀ target, node ≠ .link target) :
    tree.read (.ofPath (Standby.joinPath directory name)) =
      match node with
      | .file bytes _ _ => .ok bytes
      | _ => .error .isDirectory := by
  have located := enters.locate_joinPath entry sound
    (by simpa [there] using noLink)
  rw [there] at located
  rw [FileTree.read, FileTree.status, located]
  cases node with
  | link target => exact absurd rfl (noLink target)
  | _ => rfl

end FileTree

/-- Permission bits are set at no path without a name. -/
theorem FileTree.isEmpty_of_setMode {tree after : FileTree} {path : String} {mode : Nat}
    (changed : tree.setMode (.ofPath path) mode = .ok after) : path.isEmpty = false := by
  cases empty : path.isEmpty with
  | false => rfl
  | true =>
    rw [String.isEmpty_iff.mp empty] at changed
    cases changed

namespace DirectoryLock

variable {owner : LockOwner} {server : ServerId} {directory : String} {disk ready : Disk}

/-- How making a directory ready ends on a disk that works. -/
inductive EnsureOutcome (directory : String) (disk : Disk) : Except LockFault Unit → Disk → Prop
  where
  /-- The path leads to the directory. -/
  | ready {after : Disk} {place : Place} {left : Nat}
    (enters : after.tree.EntersPath directory place left) :
    EnsureOutcome directory disk (.ok ()) after
  /-- The path is that of a link. -/
  | linked {after : Disk} {target : String}
    (link : disk.tree.status false (.ofPath directory) = .ok (.link target)) :
    EnsureOutcome directory disk (.error (.symlink directory)) after
  /-- The file system refuses. -/
  | refused {after : Disk} (cause : IoFault) :
    EnsureOutcome directory disk (.error (.io cause)) after

/-- Making sure of a directory has one of these outcomes. -/
theorem ensureDirectory_outcome (works : disk.Works) :
    EnsureOutcome directory disk (ensureDirectory directory disk).1
      (ensureDirectory directory disk).2 := by
  -- Permission bits are set last. That closes no way, and it fails for the path without a name.
  have closed {seen : Disk} (enters : directory.isEmpty = false →
      ∃ place left, seen.tree.EntersPath directory place left) :
      EnsureOutcome directory disk (restrict directory seen).1 (restrict directory seen).2 := by
    rw [restrict]
    split
    · exact .refused _
    · rename_i set
      have changed := Disk.tree_of_alter set
      obtain ⟨place, left, entered⟩ := enters (isEmpty_of_setMode changed)
      exact .ready ((Furnishes.of_setMode changed).retains.entersPath entered)
  rw [ensureDirectory]
  simp only [works.inquire]
  cases found : disk.tree.status false (.ofPath directory) with
  | error fault =>
    cases fault with
    | notFound =>
      dsimp only
      split
      · exact .refused _
      · rename_i made
        exact closed fun named =>
          entersPath_of_isDirectory (Disk.isDirectory_of_makeDirectories made named)
    | _ => exact .refused _
  | ok node =>
    cases node with
    | link target => exact .linked found
    | file => exact .refused _
    | directory mode => exact closed fun _ => entersPath_of_status found

/-- How the acquisition of a directory that is ready ends on a disk that works: what stands in the
place of the lock file decides. -/
inductive ReadyOutcome (directory : String) :
    Except LockFault DirectoryLock → FileTree → Prop where
  /-- The lock is taken. -/
  | taken {lock : DirectoryLock} {after : FileTree} : ReadyOutcome directory (.ok lock) after
  /-- A lock file stands there and names its holder. -/
  | held {after : FileTree} {place : Place} {left : Nat} {bytes : ByteArray} {mode : Nat}
    {modified : Int} {holder : LockMeta} (enters : after.EntersPath directory place left)
    (there : after.node? (place ++ [lockFileName]) = some (.file bytes mode modified))
    (named : LockMeta.decode bytes = some holder) :
    ReadyOutcome directory
      (.error (.held (joinPath directory lockFileName) (some holder) none)) after
  /-- A file stands there that names no holder, or a directory. -/
  | unnamed {after : FileTree} {place : Place} {left : Nat} {node : FileNode}
    (enters : after.EntersPath directory place left)
    (there : after.node? (place ++ [lockFileName]) = some node)
    (undecoded : ∀ bytes mode modified, node = .file bytes mode modified →
      LockMeta.decode bytes = none) (reason : String) :
    ReadyOutcome directory
      (.error (.held (joinPath directory lockFileName) none (some reason))) after
  /-- A link stands there. -/
  | linked {after : FileTree} {place : Place} {left : Nat} {target : String}
    (enters : after.EntersPath directory place left)
    (there : after.node? (place ++ [lockFileName]) = some (.link target)) :
    ReadyOutcome directory (.error (.symlink (joinPath directory lockFileName))) after

/-- Once there is a directory, locking it has one of these outcomes. -/
theorem acquire_of_ready {place : Place} {left : Nat}
    (ensured : ensureDirectory directory disk = (.ok (), ready)) (works : ready.Works)
    (enters : ready.tree.EntersPath directory place left)
    (sound : (Route.ofPath (joinPath directory lockFileName)).isSound = true) :
    ReadyOutcome directory (acquire owner directory server disk).1
      (acquire owner directory server disk).2.tree := by
  have working (operation : Nat) : ready.outage operation = none := works operation
  cases there : ready.tree.node? (place ++ [lockFileName]) with
  | none =>
    obtain ⟨made, claimed, -, outages, locked⟩ :=
      claim_of_ready ensured (fun _ _ => working _) enters sound there
    obtain ⟨next, wrote, -⟩ := writeHolder_of_written locked
      (lockOf owner directory server).holder ⟨by rw [outages, working], by rw [outages, working]⟩
    rw [acquire_eq]
    simp only [claimed, wrote]
    exact .taken
  | some node =>
    have found := enters.status_joinPath isEntryName_lockFileName sound there
    have named := enters.entry_joinPath isEntryName_lockFileName sound
    have read := enters.read_joinPath isEntryName_lockFileName sound there
    rw [there] at named
    cases node with
    | link target =>
      simp only [acquire, ensured, rejectLink, Disk.inquire, working, found]
      exact .linked enters there
    | directory mode =>
      simp only [acquire, ensured, rejectLink, readHolder, Disk.inquire, Disk.alter, working,
        found, createNew, named, read (by simp)]
      exact .unnamed enters there (by simp) _
    | file bytes mode modified =>
      simp only [acquire, ensured, rejectLink, readHolder, Disk.inquire, Disk.alter, working,
        found, createNew, named, read (by simp)]
      cases decoded : LockMeta.decode bytes with
      | none =>
        dsimp only
        refine .unnamed enters there (fun other mode modified same => ?_) _
        cases same
        exact decoded
      | some holder => exact .held enters there decoded

/-- How an acquisition ends on a disk that works. -/
inductive AcquireOutcome (directory : String) (disk : Disk) :
    Except LockFault DirectoryLock → Disk → Prop where
  /-- The directory is ready. -/
  | ready {result : Except LockFault DirectoryLock} {after : Disk}
    (outcome : ReadyOutcome directory result after.tree) :
    AcquireOutcome directory disk result after
  /-- The path is that of a link. -/
  | linked {after : Disk} {target : String}
    (link : disk.tree.status false (.ofPath directory) = .ok (.link target)) :
    AcquireOutcome directory disk (.error (.symlink directory)) after
  /-- The file system refuses. -/
  | refused {after : Disk} (cause : IoFault) :
    AcquireOutcome directory disk (.error (.io cause)) after

/-- Locking a directory has one of these outcomes. -/
theorem acquire_outcome (owner : LockOwner) (server : ServerId) (works : disk.Works) :
    AcquireOutcome directory disk (acquire owner directory server disk).1
      (acquire owner directory server disk).2 := by
  have outcome : EnsureOutcome directory disk _ _ := ensureDirectory_outcome works
  have outages := outage_ensureDirectory directory disk
  generalize ensured : ensureDirectory directory disk = answer at outcome outages
  obtain ⟨fault | _, ready⟩ := answer
  · rw [acquire]
    simp only [ensured]
    cases outcome with
    | linked link => exact .linked link
    | refused cause => exact .refused cause
  have working (operation : Nat) : ready.outage operation = none := by rw [outages, works]
  cases outcome with
  | ready enters =>
  cases sound : (Route.ofPath (joinPath directory lockFileName)).isSound with
  | true => exact .ready (acquire_of_ready ensured working enters sound)
  | false =>
    have lost (followLast : Bool) (steps : List String) : ready.tree.follow followLast
        (.ofPath (joinPath directory lockFileName)) steps = .error .badName := by
      rw [follow, sound]
      rfl
    simp only [acquire, ensured, rejectLink, Disk.inquire, Disk.alter, working, status, locate,
      createNew, entry, lost]
    exact .refused .badName

/-- A path that is that of a directory, or of one that is missing in a directory, with no file and
no link on the way to it. -/
inductive IsAvailable (tree : FileTree) : String → Prop where
  /-- The directory is there. -/
  | there {directory : String} {place : Place} {mode : Nat}
    (located : tree.locate false (.ofPath directory) = .ok (place, some (.directory mode))) :
    IsAvailable tree directory
  /-- The path continues that of a directory by names. -/
  | missing {base : String} {place : Place} {left : Nat} {names : List String}
    (enters : tree.EntersPath base place left) (entries : ∀ name ∈ names, IsEntryName name)
    (some_name : names ≠ []) (passable : tree.IsPassable place names) :
    IsAvailable tree (names.foldl joinPath base)

/-- The path of an available directory is not that of a link. -/
theorem IsAvailable.unlinked {tree : FileTree} (available : IsAvailable tree directory)
    (sound : (Route.ofPath (joinPath directory lockFileName)).isSound = true) (target : String) :
    tree.status false (.ofPath directory) ≠ .ok (.link target) := by
  cases available with
  | there located => simp [status, located]
  | missing enters entries some_name passable =>
    rcases locate_of_passable enters entries some_name
      (isSound_of_joinPath isEntryName_lockFileName sound) passable with ⟨_, _, located⟩ | absent
    · simp [status, located]
    · simp [absent]

/-- An available directory is made ready. -/
theorem ensureDirectory_of_available (works : disk.Works)
    (available : IsAvailable disk.tree directory)
    (sound : (Route.ofPath directory).isSound = true) :
    ∃ ready, ensureDirectory directory disk = (.ok (), ready) := by
  have of_there {place : Place} {mode : Nat}
      (located : disk.tree.locate false (.ofPath directory) = .ok (place, some (.directory mode))) :
      ∃ ready, ensureDirectory directory disk = (.ok (), ready) := by
    obtain ⟨-, -, ensured⟩ := ensureDirectory_of_there (fun _ _ => works _) located
    exact ⟨_, ensured⟩
  cases available with
  | there located => exact of_there located
  | missing enters entries some_name passable =>
    rcases locate_of_passable enters entries some_name sound passable with
      ⟨_, _, located⟩ | absent
    · exact of_there located
    -- The question what is there is the first operation; then the directories are made.
    have next : ({ disk with operations := disk.operations + 1 } : Disk).Works := works
    obtain ⟨made, makes, -⟩ :=
      Disk.makeDirectories_of_passable next enters entries some_name sound passable
    obtain ⟨ready, sets⟩ := setMode_of_isDirectory (Disk.isDirectory_of_makeDirectories makes
      (foldl_joinPath_ne_empty entries some_name _)) 0o700
    refine ⟨{ made with tree := ready, operations := made.operations + 1 }, ?_⟩
    simp only [ensureDirectory, works.inquire, absent, makes, (next.of_makeDirectories makes).alter,
      sets]

/-- The acquisition of an available directory does not fail for any other reason than what stands in
the place of its lock file. -/
theorem acquire_of_available (owner : LockOwner) (server : ServerId) (works : disk.Works)
    (available : IsAvailable disk.tree directory)
    (sound : (Route.ofPath (joinPath directory lockFileName)).isSound = true) :
    ReadyOutcome directory (acquire owner directory server disk).1
      (acquire owner directory server disk).2.tree := by
  obtain ⟨ready, ensured⟩ := ensureDirectory_of_available works available
    (isSound_of_joinPath isEntryName_lockFileName sound)
  have outcome : EnsureOutcome directory disk _ _ := ensureDirectory_outcome works
  have outages := outage_ensureDirectory directory disk
  rw [ensured] at outcome outages
  cases outcome with
  | ready enters =>
    exact acquire_of_ready ensured (fun operation => by rw [outages, works]) enters sound

/-- Which operations fail does not change as the holder of a lock is read. -/
theorem outage_readHolder (path : String) (disk : Disk) :
    (readHolder path disk).2.outage = disk.outage := by
  have looked := outage_rejectLink path disk
  rw [readHolder]
  generalize rejectLink path disk = answer at looked ⊢
  obtain ⟨_ | _, passed⟩ := answer
  · exact looked
  have read := passed.outage_inquire (·.read (.ofPath path))
  dsimp only at looked ⊢
  rw [looked] at read
  generalize passed.inquire (·.read (.ofPath path)) = answer at read ⊢
  obtain ⟨_ | _, _⟩ := answer
  · exact read
  · dsimp only
    split <;> exact read

/-- Which operations fail does not change as the holder of a lock is written. -/
theorem outage_writeHolder (path : String) (holder : LockMeta) (disk : Disk) :
    (writeHolder path holder disk).2.outage = disk.outage := by
  have wrote := disk.outage_alter (·.overwrite (.ofPath path) holder.encode)
  rw [writeHolder]
  generalize disk.alter (·.overwrite (.ofPath path) holder.encode) = answer at wrote ⊢
  obtain ⟨_ | _, written⟩ := answer
  · exact wrote
  have flushed := written.outage_inquire fun _ => .ok ()
  dsimp only at wrote ⊢
  rw [wrote] at flushed
  generalize (written.inquire fun _ => .ok ()) = answer at flushed ⊢
  obtain ⟨_ | _, _⟩ := answer <;> exact flushed

/-- Which operations fail does not change with a claim. -/
theorem outage_claim (directory : String) (disk : Disk) :
    (claim directory disk).2.outage = disk.outage := by
  have kept := outage_ensureDirectory directory disk
  rw [claim]
  generalize ensureDirectory directory disk = answer at kept ⊢
  obtain ⟨_ | _, ready⟩ := answer
  · exact kept
  dsimp only at kept ⊢
  rw [← kept, ← outage_rejectLink (joinPath directory lockFileName) ready]
  generalize rejectLink (joinPath directory lockFileName) ready = answer
  obtain ⟨_ | _, looked⟩ := answer
  · rfl
  dsimp only
  rw [← looked.outage_alter (·.createNew (.ofPath (joinPath directory lockFileName)) 0o600)]
  generalize looked.alter (·.createNew (.ofPath (joinPath directory lockFileName)) 0o600) = answer
  obtain ⟨cause | _, tried⟩ := answer
  · have read := outage_readHolder (joinPath directory lockFileName) tried
    cases cause with
    | alreadyExists =>
      dsimp only
      generalize readHolder (joinPath directory lockFileName) tried = answer at read ⊢
      obtain ⟨_ | _, _⟩ := answer <;> exact read
    | _ => rfl
  · rfl

/-- Which operations fail does not change with an acquisition. -/
theorem outage_acquire (owner : LockOwner) (directory : String) (server : ServerId) (disk : Disk) :
    (acquire owner directory server disk).2.outage = disk.outage := by
  have claimed := outage_claim directory disk
  rw [acquire_eq]
  generalize claim directory disk = answer at claimed ⊢
  obtain ⟨_ | _, made⟩ := answer
  · exact claimed
  have wrote := outage_writeHolder (joinPath directory lockFileName)
    (lockOf owner directory server).holder made
  dsimp only at claimed ⊢
  rw [claimed] at wrote
  generalize writeHolder (joinPath directory lockFileName) (lockOf owner directory server).holder
    made = answer at wrote ⊢
  obtain ⟨_ | _, _⟩ := answer <;> exact wrote

/-- A disk that works does so after an acquisition. -/
theorem works_of_acquire (works : disk.Works) {result : Except LockFault DirectoryLock}
    {after : Disk} (acquired : acquire owner directory server disk = (result, after)) :
    after.Works := by
  have outages := outage_acquire owner directory server disk
  rw [acquired] at outages
  exact fun operation => by rw [outages, works]

/-- On a disk that works a lock file that is made is written. -/
theorem not_leavesUnwritten (works : disk.Works) : ¬ LeavesUnwritten directory disk := by
  rintro ⟨made, claimed, unwritten⟩
  have outages := outage_claim directory disk
  rw [claimed] at outages
  exact unwritten ⟨by rw [outages, works], by rw [outages, works]⟩

/-- On a disk that works an acquisition that fails furnishes the tree at most. -/
theorem furnishes_of_error (works : disk.Works) {fault : LockFault} {after : Disk}
    (failed : acquire owner directory server disk = (.error fault, after)) :
    Furnishes disk.tree after.tree :=
  ((acquire_error failed).resolve_left fun left => not_leavesUnwritten works left.1).2

/-- A directory that is there is acquired if nothing stands in the place of its lock file. -/
theorem acquire_of_there {place : Place} {mode : Nat} (owner : LockOwner) (server : ServerId)
    (works : disk.Works)
    (there : disk.tree.locate false (.ofPath directory) = .ok (place, some (.directory mode)))
    (sound : (Route.ofPath (joinPath directory lockFileName)).isSound = true)
    (vacant : disk.tree.node? (place ++ [lockFileName]) = none) :
    ∃ after, acquire owner directory server disk =
      (.ok (lockOf owner directory server), after) := by
  obtain ⟨made, claimed, -, outages⟩ := claim_of_vacant (fun _ _ => works _) there sound vacant
  obtain ⟨_, _, -, locked⟩ := locked_of_claim claimed
  obtain ⟨next, wrote, -⟩ := writeHolder_of_written locked (lockOf owner directory server).holder
    ⟨by rw [outages, works], by rw [outages, works]⟩
  refine ⟨{ made with tree := next, operations := made.operations + 2 }, ?_⟩
  rw [acquire_eq]
  simp only [claimed, wrote]

end DirectoryLock
end Standby
