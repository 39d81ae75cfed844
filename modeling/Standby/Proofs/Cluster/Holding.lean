import Standby.Proofs.Cluster.Abandonment
import Standby.Proofs.Cluster.Record

/-!
# What a server's directory holds

A directory holds a record if the record's file decodes to it, and the record of a node that has not
begun if there is no such file (`Holds`). This is said of wherever the path of the directory may
lead, so it stays true when directories are made on the way. A record that is put into an open file
is the one that the directory holds from then on (`IsHeld.of_replaceFile`). Opening the directory
finds the record that it holds (`IsHeld.of_openIn`), and neither giving it up nor a failure to open
it changes the record.
-/
namespace Standby

open FileTree

namespace FlatFile

open DirectoryLock

variable {owner : LockOwner} {dataDirectory directory : String} {server : ServerId}
  {disk after : Disk} {file : FlatFile} {record memory : ClusterRecord} {tree next : FileTree}
  {place : Place} {left : Nat}

/-- Wherever the path of a directory leads, once directories were made on its way, no record stood
there. -/
def HasNoRecord (directory : String) (tree : FileTree) : Prop :=
  ∀ after place left, Furnishes tree after → after.EntersPath directory place left →
    tree.node? (place ++ [stateFileName]) = none

section Holding

/-- What stands in the place of a record's file gives the record: a file holds it, and where
none stands it is the record of a node that has not begun. -/
def IsRecord (record : ClusterRecord) : Option FileNode → Prop
  | some (.file bytes _ _) => decode bytes = some record
  | some (.link _) => False
  | _ => record = .fresh

/-- A record that is there stays when directories are made. -/
theorem IsRecord.of_furnishes {before after : FileTree} (furnishes : Furnishes before after)
    (there : IsRecord record (before.node? place)) : IsRecord record (after.node? place) := by
  cases stood : before.node? place with
  | none =>
    rw [stood] at there
    rcases furnishes.node place with same | ⟨-, made⟩
    · rw [stood, Option.map_none, Option.map_eq_none_iff] at same
      rw [same]
      exact there
    · obtain ⟨found, stands, bare⟩ := Option.map_eq_some_iff.mp made
      cases found with
      | directory mode =>
        rw [stands]
        exact there
      | _ => cases bare
  | some node =>
    rw [stood] at there
    cases node with
    | file =>
      obtain ⟨_, stands⟩ := furnishes.file_after stood
      rw [stands]
      exact there
    | directory =>
      obtain ⟨_, stands⟩ := furnishes.retains.directory _ _ stood
      rw [stands]
      exact there
    | link => exact there.elim

/-- No link stands in the place of a record's file. -/
theorem IsRecord.noLink {node : Option FileNode} (there : IsRecord record node)
    (target : String) : node ≠ some (.link target) := by
  rintro rfl
  exact there

/-- A directory holds a record, wherever its path leads once directories are made on its way. -/
def Holds (directory : String) (record : ClusterRecord) (tree : FileTree) : Prop :=
  ∀ after place left, Furnishes tree after → after.EntersPath directory place left →
    IsRecord record (after.node? (place ++ [stateFileName]))

/-- The name of the state file is that of an entry. -/
theorem isEntryName_stateFileName : IsEntryName stateFileName :=
  ⟨⟨by decide, by decide, by decide +kernel⟩, by decide +kernel, by decide⟩

/-- A directory without a record holds the one of a node that has not begun. -/
theorem HasNoRecord.holds (vacant : HasNoRecord directory tree) :
    Holds directory .fresh tree := by
  intro after place left furnishes enters
  refine IsRecord.of_furnishes furnishes ?_
  rw [vacant after place left furnishes enters]
  rfl

namespace Holds

/-- A directory holds its record still when directories are made. -/
theorem of_furnishes (holds : Holds directory record tree) (furnishes : Furnishes tree next) :
    Holds directory record next :=
  fun after place left more enters => holds after place left (furnishes.trans more) enters

/-- A directory to which the path leads holds the record that stands there. -/
theorem of_enters (enters : tree.EntersPath directory place left)
    (there : IsRecord record (tree.node? (place ++ [stateFileName]))) :
    Holds directory record tree := by
  intro after other more furnishes again
  have same : place = other := (furnishes.retains.entersPath enters).place_eq again
  exact same ▸ there.of_furnishes furnishes

/-- The record that a directory holds is in its state file. -/
theorem isRecord (holds : Holds directory record tree)
    (enters : tree.EntersPath directory place left) :
    IsRecord record (tree.node? (place ++ [stateFileName])) :=
  holds tree place left (.refl tree) enters

/-- The lock file is not the record. -/
theorem of_locked {bytes : ByteArray} (holds : Holds directory record tree)
    (locked : Locked directory tree place bytes next) : Holds directory record next := by
  obtain ⟨left, enters⟩ := locked.enters
  refine of_enters (locked.retains.entersPath enters) ?_
  have apart : place ++ [stateFileName] ≠ place ++ [lockFileName] := by
    simp [stateFileName, lockFileName]
  rw [locked.node, if_neg apart]
  exact holds.isRecord enters

/-- What is read where the record's file should stand is what stands there. -/
theorem read (holds : Holds directory record tree)
    (enters : tree.EntersPath directory place left)
    (sound : (Route.ofPath (joinPath directory stateFileName)).isSound = true) :
    tree.read (.ofPath (joinPath directory stateFileName)) =
      match tree.node? (place ++ [stateFileName]) with
      | some (.file bytes _ _) => .ok bytes
      | some _ => .error .isDirectory
      | none => .error .notFound := by
  have there := holds.isRecord enters
  rw [FileTree.read, status, enters.locate_joinPath isEntryName_stateFileName sound there.noLink]
  cases stands : tree.node? (place ++ [stateFileName]) with
  | none => rfl
  | some node =>
    cases node with
    | link target => exact absurd stands (there.noLink target)
    | _ => rfl

/-- The record is found where it should stand: the file decodes to it, and if there is none, the
node has not begun. -/
theorem record_of_read (holds : Holds directory record tree)
    (enters : tree.EntersPath directory place left) :
    match tree.read (.ofPath (joinPath directory stateFileName)) with
    | .ok bytes => decode bytes = some record
    | .error .notFound => record = .fresh
    | .error _ => True := by
  cases sound : (Route.ofPath (joinPath directory stateFileName)).isSound with
  | false =>
    rw [read_of_unsound sound]
    trivial
  | true =>
    have there := holds.isRecord enters
    rw [holds.read enters sound]
    cases stands : tree.node? (place ++ [stateFileName]) with
    | none =>
      rw [stands] at there
      exact there
    | some node =>
      rw [stands] at there
      cases node with
      | file => exact there
      | directory => trivial
      | link target => exact absurd there id

end Holds

/-- A directory is held by an open file: its path leads to a place with the lock file. -/
structure IsHeld (directory : String) (file : FlatFile) (tree : FileTree) (place : Place) :
    Prop where
  /-- The path leads to the place. -/
  enters : ∃ left, tree.EntersPath directory place left
  /-- The lock file stands there. -/
  locked : ∃ bytes mode modified,
    tree.node? (place ++ [lockFileName]) = some (.file bytes mode modified)
  /-- The file of the record stands there, too. -/
  path : file.path = joinPath directory stateFileName
  /-- The lock is the one of the directory. -/
  lockPath : file.lock.path = joinPath directory lockFileName

end Holding

section Writing

variable {mounted done : Mounted}

/-- A record that is put is put into the file and into memory. -/
theorem put_ok (wrote : put record mounted = (.ok (), done)) :
    done.file = { mounted.file with record } ∧
      mounted.disk.tree.replaceFile (.ofPath mounted.file.path) (encode record) 0o600 =
        .ok done.disk.tree := by
  rw [put] at wrote
  dsimp only at wrote
  split at wrote
  · cases wrote
  · split at wrote
    · cases wrote
    · rename_i replaced
      cases wrote
      exact ⟨rfl, Disk.tree_of_replaceFile replaced⟩

/-- A record that is not put changes nothing. -/
theorem put_error {fault : PersistFault} (failed : put record mounted = (.error fault, done)) :
    done.file = mounted.file ∧ done.disk.tree = mounted.disk.tree := by
  rw [put] at failed
  dsimp only at failed
  split at failed
  · cases failed
    exact ⟨rfl, rfl⟩
  · rename_i parent _
    split at failed
    · rename_i cause disk replaced
      cases failed
      have kept := mounted.disk.tree_replaceFile_of_error parent mounted.file.path (encode record)
        cause (by rw [replaced])
      rw [replaced] at kept
      exact ⟨rfl, kept⟩
    · cases failed

/-- A record that is put is the one that the directory holds and that is read. -/
theorem IsHeld.of_replaceFile (held : IsHeld directory file tree place)
    (holds : Holds directory memory tree)
    (replaced : tree.replaceFile (.ofPath file.path) (encode record) 0o600 = .ok next) :
    IsHeld directory { file with record } next place ∧ Holds directory record next ∧
      next.read (.ofPath file.path) = .ok (encode record) := by
  obtain ⟨left, enters⟩ := held.enters
  obtain ⟨bytes, mode, modified, locked⟩ := held.locked
  rw [held.path] at replaced ⊢
  obtain ⟨found, node, named, noDirectory, -, rfl⟩ := replaceFile_cases replaced
  obtain ⟨other, more, again, rfl, rfl, sound⟩ :=
    entersPath_of_entry isEntryName_stateFileName named
  obtain rfl : place = other := enters.place_eq again
  have leaf : IsLeaf (tree.node? (place ++ [stateFileName])) := by
    have there := holds.isRecord enters
    cases stands : tree.node? (place ++ [stateFileName]) with
    | none => trivial
    | some node =>
      cases node with
      | file => trivial
      | directory mode => exact absurd stands (noDirectory mode)
      | link target => exact absurd stands (there.noLink target)
  have retains := retains_put leaf (.file (encode record) 0o600 0)
  have entered := retains.entersPath enters
  have stands : (tree.put (place ++ [stateFileName]) (.file (encode record) 0o600 0)).node?
      (place ++ [stateFileName]) = some (.file (encode record) 0o600 0) := by
    rw [node?_put_name, if_pos rfl]
  have kept : (tree.put (place ++ [stateFileName]) (.file (encode record) 0o600 0)).node?
      (place ++ [lockFileName]) = some (.file bytes mode modified) := by
    rw [node?_put_name, if_neg (by simp [stateFileName, lockFileName]), locked]
  have written : Holds directory record
      (tree.put (place ++ [stateFileName]) (.file (encode record) 0o600 0)) := by
    refine .of_enters entered ?_
    rw [stands]
    exact decode_encode record
  refine ⟨⟨⟨left, entered⟩, ⟨bytes, mode, modified, kept⟩, rfl, held.lockPath⟩, written, ?_⟩
  rw [written.read entered sound, stands]

end Writing

section Opening

/-- The disk does not pretend by itself that the record's file is missing when it is read. -/
def IsReadTruly (owner : LockOwner) (dataDirectory : String) (server : ServerId) (disk : Disk) :
    Prop :=
  ∀ lock taken, acquire owner (directoryOf dataDirectory server) server disk = (.ok lock, taken) →
    taken.outage taken.operations ≠ some .notFound

/-- A directory that is given up holds its record. -/
theorem IsHeld.holds_close (held : IsHeld directory file disk.tree place)
    (holds : Holds directory memory disk.tree) : Holds directory memory (file.close disk).tree := by
  obtain ⟨left, enters⟩ := held.enters
  obtain ⟨bytes, mode, modified, locked⟩ := held.locked
  rcases disk.tree_alter (·.removeFile (.ofPath file.lock.path)) with same | removed
  · exact same ▸ holds
  · rw [held.lockPath] at removed
    obtain ⟨found, node, named, emptied⟩ := removeFile_cases removed
    obtain ⟨other, more, again, rfl, -, -⟩ := entersPath_of_entry isEntryName_lockFileName named
    obtain rfl : place = other := enters.place_eq again
    have leaf : IsLeaf (disk.tree.node? (place ++ [lockFileName])) := by
      rw [locked]
      trivial
    have there := holds.isRecord enters
    rw [close, DirectoryLock.drop, held.lockPath, emptied]
    refine .of_enters ((retains_delete leaf).entersPath enters) ?_
    rw [node?_delete_name, if_neg (by simp [stateFileName, lockFileName])]
    exact there

/-- A directory that is acquired holds its record still. -/
theorem Holds.of_acquire {lock : DirectoryLock} {taken : Disk}
    (holds : Holds (directoryOf dataDirectory server) memory disk.tree)
    (acquired : acquire owner (directoryOf dataDirectory server) server disk =
      (.ok lock, taken)) :
    Holds (directoryOf dataDirectory server) memory taken.tree ∧
      ∃ place left, taken.tree.EntersPath (directoryOf dataDirectory server) place left ∧
        (∃ bytes mode modified,
          taken.tree.node? (place ++ [lockFileName]) = some (.file bytes mode modified)) ∧
        lock.path = joinPath (directoryOf dataDirectory server) lockFileName := by
  obtain ⟨rfl, -, furnished, place, furnishes, locked⟩ := acquire_ok acquired
  obtain ⟨left, enters⟩ := locked.enters
  exact ⟨(holds.of_furnishes furnishes).of_locked locked, place, left,
    locked.retains.entersPath enters, ⟨_, _, _, locked.node_self⟩, rfl⟩

/-- A directory that was opened holds the record that was found. -/
theorem IsHeld.of_openIn (holds : Holds (directoryOf dataDirectory server) memory disk.tree)
    (truly : IsReadTruly owner dataDirectory server disk)
    (opened : openIn owner dataDirectory server disk = (.ok file, after)) :
    file.record = memory ∧ Holds (directoryOf dataDirectory server) memory after.tree ∧
      ∃ place, IsHeld (directoryOf dataDirectory server) file after.tree place := by
  have opens := opens_openIn owner dataDirectory server disk
  rw [opened] at opens
  cases opens with
  | found acquired asked decoded =>
    obtain ⟨kept, place, left, enters, locked, lock⟩ := holds.of_acquire acquired
    obtain ⟨rfl, ⟨_, _, ⟨⟩⟩ | read⟩ := Disk.inquire_cases asked
    have record := kept.record_of_read enters
    rw [read] at record
    have same := Option.some.inj (decoded.symm.trans record)
    exact ⟨same, kept, place, ⟨left, enters⟩, locked, rfl, lock⟩
  | missing acquired asked =>
    obtain ⟨kept, place, left, enters, locked, lock⟩ := holds.of_acquire acquired
    obtain ⟨rfl, ⟨_, outage, ⟨⟩⟩ | read⟩ := Disk.inquire_cases asked
    · exact absurd outage (truly _ _ acquired)
    · have record := kept.record_of_read enters
      rw [read] at record
      exact ⟨record.symm, kept, place, ⟨left, enters⟩, locked, rfl, lock⟩

/-- No opening fails because of what the file holds. -/
theorem Holds.ne_corrupt (holds : Holds (directoryOf dataDirectory server) memory disk.tree)
    (path reason : String) :
    openIn owner dataDirectory server disk ≠ (.error (.corrupt path reason), after) := by
  intro failed
  have opens := opens_openIn owner dataDirectory server disk
  rw [failed] at opens
  cases opens with
  | corrupt acquired asked undecoded =>
    obtain ⟨kept, place, left, enters, -⟩ := holds.of_acquire acquired
    obtain ⟨-, ⟨_, _, ⟨⟩⟩ | read⟩ := Disk.inquire_cases asked
    have record := kept.record_of_read enters
    rw [read] at record
    cases undecoded.symm.trans record

/-- What an opening that fails leaves: furniture and perhaps a lock file. -/
theorem tree_of_openIn_error {fault : PersistFault}
    (refused : openIn owner dataDirectory server disk = (.error fault, after)) :
    Furnishes disk.tree after.tree ∨ ∃ furnished place bytes, Furnishes disk.tree furnished ∧
      Locked (directoryOf dataDirectory server) furnished place bytes after.tree := by
  rcases openIn_error refused with ⟨cause, failed⟩ | ⟨lock, taken, acquired, rfl⟩
  · rcases acquire_error failed with ⟨-, locked⟩ | ⟨-, furnishes⟩
    · exact .inr locked
    · exact .inl furnishes
  · obtain ⟨rfl, -, furnished, place, furnishes, locked⟩ := acquire_ok acquired
    rcases Disk.tree_alter { taken with operations := taken.operations + 1 }
      (·.removeFile (.ofPath (lockOf owner (directoryOf dataDirectory server) server).path))
      with same | removed
    · exact .inr ⟨furnished, place, _, furnishes, same ▸ locked⟩
    · obtain ⟨next, removed_too, emptied⟩ := locked.removeFile
      have reached : next = _ := Except.ok.inj (removed_too.symm.trans removed)
      exact .inl (furnishes.trans (reached ▸ emptied))

/-- A directory that is not opened holds its record as before. -/
theorem Holds.of_openIn_error {fault : PersistFault}
    (holds : Holds (directoryOf dataDirectory server) memory disk.tree)
    (refused : openIn owner dataDirectory server disk = (.error fault, after)) :
    Holds (directoryOf dataDirectory server) memory after.tree := by
  rcases tree_of_openIn_error refused with furnishes | ⟨_, _, _, furnishes, locked⟩
  · exact holds.of_furnishes furnishes
  · exact (holds.of_furnishes furnishes).of_locked locked

/-- A directory that is held stays held when it is refused to another. -/
theorem IsHeld.of_openIn_error {fault : PersistFault}
    (held : IsHeld (directoryOf dataDirectory server) file disk.tree place)
    (refused : openIn owner dataDirectory server disk = (.error fault, after)) :
    IsHeld (directoryOf dataDirectory server) file after.tree place := by
  obtain ⟨left, enters⟩ := held.enters
  obtain ⟨bytes, mode, modified, locked⟩ := held.locked
  rcases tree_of_openIn_error refused with furnishes | ⟨furnished, other, _, furnishes, taken⟩
  · obtain ⟨mode, stands⟩ := furnishes.file_after locked
    exact ⟨⟨left, furnishes.retains.entersPath enters⟩, ⟨_, _, _, stands⟩, held.path,
      held.lockPath⟩
  · -- The lock file is there already, so no other one was made.
    obtain ⟨_, again⟩ := taken.enters
    obtain rfl : place = other := (furnishes.retains.entersPath enters).place_eq again
    obtain ⟨_, stands⟩ := furnishes.file_after locked
    have vacant := taken.vacant
    rw [stands] at vacant
    cases vacant

end Opening

section Start

/-- An empty data directory has no record of a server whose name does not lead out of it. -/
theorem hasNoRecord_of_empty (enters : tree.EntersPath dataDirectory place left)
    (empty : ∀ name rest, tree.node? (place ++ name :: rest) = none)
    (relative : isAbsolutePath server.name = false)
    (inward : ".." ∉ (Route.ofPath server.name).steps) :
    HasNoRecord (directoryOf dataDirectory server) tree := by
  intro after found more furnishes entered
  have kept := furnishes.retains.entersPath enters
  have linkless (name : String) (rest : List String) (target : String) :
      after.node? (place ++ name :: rest) ≠ some (.link target) := by
    intro link
    have stood := furnishes.node (place ++ name :: rest)
    rw [link, empty] at stood
    rcases stood with ⟨⟨⟩⟩ | ⟨-, ⟨⟩⟩
  rw [EntersPath, directoryOf, steps_joinPath_of_relative relative, start_joinPath relative]
    at entered
  obtain ⟨names, rfl⟩ : ∃ names, found = place ++ names := by
    cases steps : (Route.ofPath server.name).steps with
    | nil =>
      rw [steps, List.append_nil] at entered
      exact ⟨[], by rw [List.append_nil]; exact (kept.place_eq entered).symm⟩
    | cons step rest =>
      rw [steps] at entered inward
      have walked := Enters.walk_append kept true (List.cons_ne_nil step rest)
      rw [Enters.walk entered] at walked
      exact (leads_of_walk walked.symm).under inward linkless
  cases names with
  | nil => simpa using empty stateFileName []
  | cons name rest => simpa using empty name (rest ++ [stateFileName])

/-- In an empty data directory a server's directory is opened if the disk works for eight
operations. -/
theorem openIn_of_empty (owner : LockOwner)
    (works : ∀ step < 8, disk.outage (disk.operations + step) = none)
    (enters : disk.tree.EntersPath dataDirectory place left)
    (empty : ∀ name rest, disk.tree.node? (place ++ name :: rest) = none)
    (entry : IsEntryName server.name)
    (sound : (Route.ofPath (directoryOf dataDirectory server)).isSound = true)
    (lockSound : (Route.ofPath
      (joinPath (directoryOf dataDirectory server) lockFileName)).isSound = true)
    (fileSound : (Route.ofPath
      (joinPath (directoryOf dataDirectory server) stateFileName)).isSound = true) :
    IsReadTruly owner dataDirectory server disk ∧
    ∃ file next, openIn owner dataDirectory server disk =
        (.ok file, { disk with tree := next, operations := disk.operations + 8 }) ∧
      file.path = joinPath (directoryOf dataDirectory server) stateFileName ∧
      (∃ left, next.EntersPath (directoryOf dataDirectory server) (place ++ [server.name]) left) ∧
      next.node? (place ++ [server.name]) = some (.directory 0o700) ∧
      next.node? (place ++ [server.name] ++ [stateFileName]) = none := by
  obtain ⟨next, acquired, ⟨_, entered⟩, there, others⟩ := acquire_of_absent owner server
    (fun step early => works step (by omega)) enters entry sound lockSound (empty _ _)
    (by simpa using empty server.name [lockFileName])
  have missing : next.node? (place ++ [server.name] ++ [stateFileName]) = none := by
    rw [others stateFileName (by decide)]
    simpa using empty server.name [stateFileName]
  have holds : Holds (directoryOf dataDirectory server) .fresh next :=
    .of_enters entered (by rw [missing]; rfl)
  have read := holds.read entered fileSound
  rw [missing] at read
  have last := works 7 (by omega)
  refine ⟨fun _ taken again outage => ?_,
    ⟨joinPath (directoryOf dataDirectory server) stateFileName, .fresh,
      lockOf owner (directoryOf dataDirectory server) server⟩,
    next, ?_, rfl, ⟨_, entered⟩, there, missing⟩
  · rw [directoryOf, acquired] at again
    cases again
    cases last.symm.trans outage
  · rw [openIn]
    simp only [directoryOf] at read ⊢
    simp only [acquired, Disk.inquire, last, read]

/-- A first record is put if the disk works for four operations. -/
theorem put_of_vacant {mode : Nat} (disk : Disk) (record : ClusterRecord)
    (works : ∀ step < 4, disk.outage (disk.operations + step) = none)
    (path : file.path = joinPath directory stateFileName)
    (parent : parentPath? file.path = some directory)
    (sound : (Route.ofPath directory).isSound = true)
    (some_step : (Route.ofPath directory).isEmpty = false)
    (fileSound : (Route.ofPath (joinPath directory stateFileName)).isSound = true)
    (enters : disk.tree.EntersPath directory place left)
    (there : disk.tree.node? place = some (.directory mode))
    (missing : disk.tree.node? (place ++ [stateFileName]) = none) :
    ∃ next, put record ⟨file, disk⟩ = (.ok (), ⟨{ file with record },
      { disk with tree := next, operations := disk.operations + 4 }⟩) := by
  have status : disk.tree.status true (.ofPath directory) = .ok (.directory mode) := by
    rw [FileTree.status, enters.locate_directory sound some_step, there]
  have replaced : disk.tree.replaceFile (.ofPath file.path) (encode record) 0o600 =
      .ok (disk.tree.put (place ++ [stateFileName]) (.file (encode record) 0o600 0)) := by
    rw [path, FileTree.replaceFile, enters.entry_joinPath isEntryName_stateFileName fileSound,
      missing]
    simp only [isTrailing_joinPath isEntryName_stateFileName, Bool.false_eq_true, ↓reduceIte]
  refine ⟨disk.tree.put (place ++ [stateFileName]) (.file (encode record) 0o600 0), ?_⟩
  rw [put]
  simp only [parent, Disk.replaceFile_of_ready works status replaced]

/-- No record is put if the disk fails at once. -/
theorem put_of_outage {cause : IoFault} {parent : String} (record : ClusterRecord)
    (named : parentPath? file.path = some parent)
    (outage : disk.outage disk.operations = some cause) :
    put record ⟨file, disk⟩ = (.error (.io file.path cause),
      ⟨file, { disk with operations := disk.operations + 1 }⟩) := by
  rw [put]
  simp only [named, Disk.replaceFile, Disk.inquire, outage]

end Start

end FlatFile
end Standby
