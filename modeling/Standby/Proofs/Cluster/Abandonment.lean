import Standby.Cluster.FlatFile
import Standby.Proofs.FileTree.Acquisition

/-!
# What a failed acquisition leaves behind

An acquisition that fails before its lock file is made leaves every lock file as it was, and so does
one whose lock is given up again because the record cannot be read. An acquisition that fails
between the two, when the lock file is made and not yet held, leaves the file behind, and the
directory can never be acquired again (`lock_files_after_failure`). Directories that were made on
the way stay in any case; one of the name of a lock file stands in the way of later acquisitions.
-/
namespace Standby

open FileTree

/-- The content of the lock file at a place, if one stands there. -/
def FileTree.lockFiles (tree : FileTree) (place : Place) : Option ByteArray :=
  if place.getLast? = some lockFileName then
    match tree.node? place with
    | some (.file bytes _ _) => some bytes
    | _ => none
  else none

namespace DirectoryLock

/-- A directory is not acquired any more, by whomever and on whatever disk. -/
def IsBlocked (directory : String) (tree : FileTree) : Prop :=
  ∀ (owner : LockOwner) (server : ServerId) (later : Disk), later.tree = tree →
    ∀ lock, (acquire owner directory server later).1 ≠ .ok lock

/-- Whenever a later acquisition of any directory is refused because the lock is held, what stands
in its way stood there before, or not even afterwards; the disk does not say by itself that
something is there. -/
def IsHarmless (before after : FileTree) : Prop :=
  ∀ (owner : LockOwner) (directory : String) (server : ServerId) (later last : Disk),
    later.tree = after → (∀ operation, later.outage operation ≠ some .alreadyExists) →
    ∀ path holder reason,
      acquire owner directory server later = (.error (.held path holder reason), last) →
      ∃ place node, last.tree.entry (.ofPath path) = .ok (place, some node) ∧
        (before.node? place ≠ none ∨ after.node? place = none)

/-- A directory of the name of a lock file is new. -/
def HasNewLockDirectory (before after : FileTree) : Prop :=
  ∃ place mode, place.getLast? = some lockFileName ∧ before.node? place = none ∧
    after.node? place = some (.directory mode)

/-- What a failed call leaves behind of an acquisition of a directory, and when. -/
structure Aftermath (directory : String) (before after : FileTree) (abandoned : Prop) : Prop where
  /-- The lock files are the same with the same content, unless a lock was abandoned. -/
  kept : after.lockFiles = before.lockFiles ↔ ¬ abandoned
  /-- Where no lock was abandoned, no later acquisition is refused because of the failed call,
  unless that made a directory of the name of a lock file. -/
  harmless : ¬ abandoned → IsHarmless before after ∨ HasNewLockDirectory before after
  /-- An abandoned lock is one new lock file, and it blocks the directory. -/
  blocked : abandoned → IsBlocked directory after ∧
    ∃ place bytes, before.lockFiles place = none ∧ after.lockFiles place = some bytes ∧
      ∀ other, other ≠ place → after.lockFiles other = before.lockFiles other

section Aftermath

variable {directory : String} {before after furnished : FileTree} {place : Place}
  {bytes : ByteArray} {abandoned : Prop}

/-- Furniture is no lock file. -/
theorem lockFiles_of_furnishes (furnishes : Furnishes before after) :
    after.lockFiles = before.lockFiles := by
  funext place
  rw [lockFiles, lockFiles]
  split
  · cases there : after.node? place with
    | none => rw [furnishes.absent_before there]
    | some node =>
      cases node with
      | file bytes mode modified =>
        obtain ⟨_, stood⟩ := furnishes.file_before there
        rw [stood]
      | _ =>
        cases stood : before.node? place with
        | none => rfl
        | some node =>
          cases node with
          | file bytes mode modified =>
            obtain ⟨_, stands⟩ := furnishes.file_after stood
            rw [there] at stands
            cases stands
          | _ => rfl
  · rfl

/-- Of furniture only a directory of the name of a lock file stands in the way of anyone. -/
theorem isHarmless_of_furnishes (furnishes : Furnishes before after) :
    IsHarmless before after ∨ HasNewLockDirectory before after := by
  by_cases new : HasNewLockDirectory before after
  · exact .inr new
  refine .inl fun owner directory server later last same honest path holder reason refused => ?_
  obtain ⟨-, rfl, place, node, there⟩ := acquire_of_held honest refused
  refine ⟨place, node, there, ?_⟩
  obtain ⟨_, _, -, rfl, -⟩ := entersPath_of_entry isEntryName_lockFileName there
  rcases furnishes.node (_ ++ [lockFileName]) with kept | ⟨absent, made⟩
  · cases stands : after.node? (_ ++ [lockFileName]) with
    | none => exact .inr rfl
    | some found =>
      refine .inl fun absent => ?_
      rw [stands, absent] at kept
      cases kept
  · obtain ⟨found, stands, bare⟩ := Option.map_eq_some_iff.mp made
    cases found with
    | directory mode => exact absurd ⟨_, mode, by simp, absent, stands⟩ new
    | _ => cases bare

/-- A call that only furnished the tree abandoned nothing. -/
theorem aftermath_of_furnishes (furnishes : Furnishes before after) (none_left : ¬ abandoned) :
    Aftermath directory before after abandoned where
  kept := ⟨fun _ => none_left, fun _ => lockFiles_of_furnishes furnishes⟩
  harmless _ := isHarmless_of_furnishes furnishes
  blocked left := absurd left none_left

/-- A call that left the lock file behind abandoned the lock. -/
theorem aftermath_of_locked (furnishes : Furnishes before furnished)
    (locked : Locked directory furnished place bytes after) (left : abandoned) :
    Aftermath directory before after abandoned := by
  have last : (place ++ [lockFileName]).getLast? = some lockFileName := by simp
  have absent : before.lockFiles (place ++ [lockFileName]) = none := by
    rw [lockFiles, if_pos last, furnishes.absent_before locked.vacant]
  have present : after.lockFiles (place ++ [lockFileName]) = some bytes := by
    rw [lockFiles, if_pos last, locked.node_self]
  refine ⟨⟨fun same => ?_, fun kept => absurd left kept⟩, fun kept => absurd left kept,
    fun _ => ⟨?_, place ++ [lockFileName], bytes, absent, present, fun other apart => ?_⟩⟩
  · rw [same, absent] at present
    cases present
  · intro owner server later same lock
    obtain ⟨_, enters⟩ := locked.enters
    have entered := locked.retains.entersPath enters
    rw [← same] at entered
    exact acquire_ne_ok entered (by rw [same]; exact locked.node_self) lock
  · rw [← lockFiles_of_furnishes furnishes, lockFiles, lockFiles, locked.node, if_neg apart]

end Aftermath
end DirectoryLock

namespace FlatFile

open DirectoryLock

variable {owner : LockOwner} {dataDirectory : String} {server : ServerId} {disk after : Disk}

/-- The ways in which a file is opened or not. -/
inductive Opens (owner : LockOwner) (dataDirectory : String) (server : ServerId) (disk : Disk) :
    Except PersistFault FlatFile × Disk → Prop where
  /-- The directory is not acquired. -/
  | refused {cause : LockFault} {after : Disk}
    (failed : acquire owner (directoryOf dataDirectory server) server disk =
      (.error cause, after)) :
    Opens owner dataDirectory server disk (.error (.lock cause), after)
  /-- The record is read. -/
  | found {lock : DirectoryLock} {taken next : Disk} {bytes : ByteArray} {record : ClusterRecord}
    (acquired : acquire owner (directoryOf dataDirectory server) server disk = (.ok lock, taken))
    (asked : taken.inquire (·.read (.ofPath (joinPath (directoryOf dataDirectory server)
      stateFileName))) = (.ok bytes, next))
    (decoded : decode bytes = some record) :
    Opens owner dataDirectory server disk
      (.ok ⟨joinPath (directoryOf dataDirectory server) stateFileName, record, lock⟩, next)
  /-- There is no record yet. -/
  | missing {lock : DirectoryLock} {taken next : Disk}
    (acquired : acquire owner (directoryOf dataDirectory server) server disk = (.ok lock, taken))
    (asked : taken.inquire (·.read (.ofPath (joinPath (directoryOf dataDirectory server)
      stateFileName))) = (.error .notFound, next)) :
    Opens owner dataDirectory server disk
      (.ok ⟨joinPath (directoryOf dataDirectory server) stateFileName, .fresh, lock⟩, next)
  /-- What is read is no record, and the lock is given up. -/
  | corrupt {lock : DirectoryLock} {taken next : Disk} {bytes : ByteArray}
    (acquired : acquire owner (directoryOf dataDirectory server) server disk = (.ok lock, taken))
    (asked : taken.inquire (·.read (.ofPath (joinPath (directoryOf dataDirectory server)
      stateFileName))) = (.ok bytes, next))
    (undecoded : decode bytes = none) :
    Opens owner dataDirectory server disk
      (.error (.corrupt (joinPath (directoryOf dataDirectory server) stateFileName)
        "not a record"), lock.drop next)
  /-- The record cannot be read, and the lock is given up. -/
  | unread {lock : DirectoryLock} {taken next : Disk} {cause : IoFault}
    (acquired : acquire owner (directoryOf dataDirectory server) server disk = (.ok lock, taken))
    (asked : taken.inquire (·.read (.ofPath (joinPath (directoryOf dataDirectory server)
      stateFileName))) = (.error cause, next)) :
    Opens owner dataDirectory server disk
      (.error (.io (joinPath (directoryOf dataDirectory server) stateFileName) cause),
        lock.drop next)

/-- Opening the record of a server does one of these. -/
theorem opens_openIn (owner : LockOwner) (dataDirectory : String) (server : ServerId)
    (disk : Disk) :
    Opens owner dataDirectory server disk (openIn owner dataDirectory server disk) := by
  rw [openIn]
  dsimp only
  split
  · rename_i failed
    exact .refused failed
  · rename_i acquired
    split
    · rename_i asked
      split
      · rename_i decoded
        exact .found acquired asked decoded
      · rename_i undecoded
        exact .corrupt acquired asked undecoded
    · rename_i asked
      exact .missing acquired asked
    · rename_i asked
      exact .unread acquired asked

/-- The opening of a file fails because its lock is not taken, or the lock is taken and then given
up with one more question to the disk in between. -/
theorem openIn_error {fault : PersistFault}
    (failed : openIn owner dataDirectory server disk = (.error fault, after)) :
    (∃ cause, acquire owner (directoryOf dataDirectory server) server disk =
      (.error cause, after)) ∨
    ∃ lock taken, acquire owner (directoryOf dataDirectory server) server disk =
        (.ok lock, taken) ∧
      after = lock.drop { taken with operations := taken.operations + 1 } := by
  have opens := opens_openIn owner dataDirectory server disk
  rw [failed] at opens
  cases opens with
  | refused failed => exact .inl ⟨_, failed⟩
  | corrupt acquired asked _ | unread acquired asked =>
    exact .inr ⟨_, _, acquired, by rw [(Disk.inquire_cases asked).1]⟩

/-- The lock is taken or its file made, and the file then stays although the opening fails: it is
not written, or it is to be removed and the disk refuses. -/
def LeavesLocked (owner : LockOwner) (dataDirectory : String) (server : ServerId) (disk : Disk) :
    Prop :=
  LeavesUnwritten (directoryOf dataDirectory server) disk ∨
    ∃ lock taken, acquire owner (directoryOf dataDirectory server) server disk = (.ok lock, taken) ∧
      taken.outage (taken.operations + 1) ≠ none

/-- A failed call leaves the lock files as they were, with one exception: an acquisition that made
its lock file and could not write it leaves the file behind, and an opening does so, too, when it
cannot remove the lock file that it made. Otherwise the call stands in nobody's way, but for a
directory that it may have made in the place of a lock file. -/
theorem lock_files_after_failure (owner : LockOwner) (server : ServerId) (disk : Disk) :
    (∀ directory fault after, acquire owner directory server disk = (.error fault, after) →
      Aftermath directory disk.tree after.tree (LeavesUnwritten directory disk)) ∧
    (∀ dataDirectory fault after,
      openIn owner dataDirectory server disk = (.error fault, after) →
      Aftermath (directoryOf dataDirectory server) disk.tree after.tree
        (LeavesLocked owner dataDirectory server disk)) := by
  refine ⟨fun directory fault after failed => ?_, fun dataDirectory fault after failed => ?_⟩
  · rcases acquire_error failed with ⟨left, _, _, _, furnishes, locked⟩ | ⟨none_left, furnishes⟩
    · exact aftermath_of_locked furnishes locked left
    · exact aftermath_of_furnishes furnishes none_left
  · rcases openIn_error failed with ⟨cause, refused⟩ | ⟨lock, taken, acquired, rfl⟩
    · rcases acquire_error refused with ⟨left, _, _, _, furnishes, locked⟩ | ⟨none_left, furnishes⟩
      · exact aftermath_of_locked furnishes locked (.inl left)
      · refine aftermath_of_furnishes furnishes ?_
        rintro (left | ⟨_, _, acquired, -⟩)
        · exact none_left left
        · rw [refused] at acquired
          cases acquired
    · obtain ⟨rfl, ⟨made, claimed, written⟩, furnished, place, furnishes, locked⟩ :=
        acquire_ok acquired
      cases outage : taken.outage (taken.operations + 1) with
      | some cause =>
        have kept : ((lockOf owner (directoryOf dataDirectory server) server).drop
            { taken with operations := taken.operations + 1 }).tree = taken.tree := by
          simp only [DirectoryLock.drop, Disk.alter, outage]
        rw [kept]
        refine aftermath_of_locked furnishes locked (.inr ⟨_, taken, acquired, ?_⟩)
        simp [outage]
      | none =>
        obtain ⟨next, removed, emptied⟩ := locked.removeFile
        have dropped : ((lockOf owner (directoryOf dataDirectory server) server).drop
            { taken with operations := taken.operations + 1 }).tree = next := by
          simp only [DirectoryLock.drop, lockOf, Disk.alter, outage, removed]
        rw [dropped]
        refine aftermath_of_furnishes (furnishes.trans emptied) ?_
        rintro (⟨_, again, unwritten⟩ | ⟨_, _, again, failing⟩)
        · rw [claimed] at again
          cases again
          exact unwritten written
        · rw [acquired] at again
          cases again
          exact failing outage

/-- A disk on which nothing stands and that is full when the first lock file is to be written. -/
def fullDisk : Disk :=
  { Disk.ofTree (.ofHome []) with
    outage := fun operation => if operation = 4 then some (.other "no space left") else none }

/-- The working directory of a full disk is claimed before the disk is full, and then lost. -/
theorem lock_abandoned_on_full_disk :
    LeavesUnwritten "." fullDisk ∧
    ∃ fault after, acquire ⟨1, 0⟩ "." ⟨"server-1", by decide⟩ fullDisk = (.error fault, after) ∧
      after.tree.lockFiles ≠ fullDisk.tree.lockFiles ∧ IsBlocked "." after.tree := by
  have there : fullDisk.tree.locate false (.ofPath ".") = .ok ([], some (.directory 0o755)) := by
    have steps : (Route.ofPath ".").wholeSteps = ["."] := by decide +kernel
    rw [locate, steps, follow_eq_walk (by decide +kernel) (by decide +kernel), walk_stay, walk_nil]
    rfl
  have works : ∀ step < 4, fullDisk.outage (fullDisk.operations + step) = none := by decide
  obtain ⟨made, claimed, operations, outages⟩ :=
    claim_of_vacant works there (by decide +kernel) (by decide +kernel)
  have unwritten : ¬ IsWritten made := by
    rintro ⟨write, -⟩
    rw [operations, outages] at write
    cases write
  have left : LeavesUnwritten "." fullDisk := ⟨made, claimed, unwritten⟩
  have failed : ∃ fault after,
      acquire ⟨1, 0⟩ "." ⟨"server-1", by decide⟩ fullDisk = (.error fault, after) := by
    obtain ⟨furnished, place, -, locked⟩ := locked_of_claim claimed
    obtain ⟨fault, after, _, answer, -⟩ := writeHolder_of_unwritten locked
      (lockOf ⟨1, 0⟩ "." ⟨"server-1", by decide⟩).holder unwritten
    refine ⟨fault, after, ?_⟩
    rw [acquire_eq, claimed]
    simp only [answer]
  obtain ⟨fault, after, failed⟩ := failed
  have aftermath := (lock_files_after_failure _ _ fullDisk).1 "." fault after failed
  exact ⟨left, fault, after, failed, fun same => aftermath.kept.mp same left,
    (aftermath.blocked left).1⟩

end FlatFile
end Standby
