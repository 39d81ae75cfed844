import Standby.Proofs.Cluster.Validity
import Standby.Proofs.FileTree.Resolution

/-!
# The directories of servers

The directory of a server is where the server's name leads from the data directory, so it is an
entry of the data directory, and no other server's, if the name is that of one entry and names are
told apart by it (`server_has_own_directory_iff`). A name that is one step has the entry of that
name, in the text of the path and in the file tree (`DirectoryLock.place_of_acquire`).
-/
namespace Standby

open FileTree DirectoryLock

namespace DirectoryLock

variable {owner : LockOwner} {server : ServerId} {lock : DirectoryLock} {disk after : Disk}
  {directory base name : String} {place found : Place} {left more : Nat}

/-- A directory is claimed only if no link stands at its path, unless the disk pretends that nothing
stands there. -/
theorem unlinked_of_claim {target : String} (truly : disk.outage disk.operations ≠ some .notFound)
    (claimed : claim directory disk = (.ok (), after)) :
    disk.tree.status false (.ofPath directory) ≠ .ok (.link target) := by
  intro link
  rw [claim, ensureDirectory] at claimed
  generalize asked : disk.inquire (·.status false (.ofPath directory)) = answer at claimed
  obtain ⟨status, looked⟩ := answer
  obtain ⟨-, ⟨fault, outage, rfl⟩ | found⟩ := Disk.inquire_cases asked
  · cases fault with
    | notFound => exact truly outage
    | _ => cases claimed
  · rw [link] at found
    cases found
    cases claimed

/-- The directory of a plain name, if it is acquired, is the one under that name. -/
theorem place_of_acquire (truly : disk.outage disk.operations ≠ some .notFound)
    (plain : IsPlainName name) (enters : disk.tree.EntersPath base place left)
    (acquired : acquire owner (joinPath base name) server disk = (.ok lock, after))
    (entered : after.tree.EntersPath (joinPath base name) found more) :
    found = place ++ [name] := by
  obtain ⟨-, ⟨_, claimed, -⟩, furnished, other, furnishes, locked⟩ := acquire_ok acquired
  obtain ⟨_, within⟩ := locked.enters
  rw [entered.place_eq (locked.retains.entersPath within)]
  have member : name ∈ (Route.ofPath (joinPath base name)).steps := by
    rw [steps_joinPath_of_relative (isAbsolutePath_of_unslashed plain.unslashed)]
    refine List.mem_append_right _ ?_
    simp [Route.ofPath, pathParts_of_unslashed plain.unslashed, plain.nonempty]
  have named : IsName name := Enters.isName_of_mem within member
    |>.resolve_left plain.moves |>.resolve_left plain.goesDown
  have entry : IsEntryName name := ⟨named, plain.unslashed, plain.nonempty⟩
  have sound := isSound_of_joinPath isEntryName_lockFileName locked.sound
  have noLink (target : String) : furnished.node? (place ++ [name]) ≠ some (.link target) := by
    intro link
    have stood := furnishes.link_before link
    exact unlinked_of_claim truly claimed (enters.status_joinPath entry sound stood)
  have located := (furnishes.retains.entersPath enters).locate_joinPath entry sound noLink
  rw [within.locate_directory sound (isEmpty_joinPath entry base)] at located
  exact congrArg Prod.fst (Except.ok.inj located)

end DirectoryLock

namespace FlatFile

variable {owner : LockOwner} {dataDirectory : String} {server : ServerId} {disk after : Disk}
  {file : FlatFile}

/-- A file is opened in a directory that was acquired. -/
theorem acquire_of_openIn (opened : openIn owner dataDirectory server disk = (.ok file, after)) :
    file.path = joinPath (directoryOf dataDirectory server) stateFileName ∧
      ∃ taken, acquire owner (directoryOf dataDirectory server) server disk =
        (.ok file.lock, taken) ∧ taken.tree = after.tree := by
  have opens := opens_openIn owner dataDirectory server disk
  rw [opened] at opens
  cases opens with
  | found acquired asked =>
    obtain ⟨rfl, -⟩ := Disk.inquire_cases asked
    exact ⟨rfl, _, acquired, rfl⟩
  | missing acquired asked =>
    obtain ⟨rfl, -⟩ := Disk.inquire_cases asked
    exact ⟨rfl, _, acquired, rfl⟩

/-- The directory of a file that was opened is held; that of a plain name is the one under the
name. -/
theorem isHeld_of_openIn (opened : openIn owner dataDirectory server disk = (.ok file, after)) :
    ∃ found, IsHeld (directoryOf dataDirectory server) file after.tree found ∧
      ∀ place left, IsPlainName server.name → disk.tree.EntersPath dataDirectory place left →
        disk.outage disk.operations ≠ some .notFound → found = place ++ [server.name] := by
  obtain ⟨path, taken, acquired, same⟩ := acquire_of_openIn opened
  obtain ⟨lock, -, _, found, -, locked⟩ := acquire_ok acquired
  obtain ⟨left, within⟩ := locked.enters
  have enters := locked.retains.entersPath within
  refine ⟨found, ⟨⟨left, same ▸ enters⟩, ⟨_, _, _, same ▸ locked.node_self⟩, path, ?_⟩,
    fun place _ plain data truly => place_of_acquire truly plain data acquired enters⟩
  rw [lock]
  rfl

/-- Servers have directories of their own in a data directory: each is an entry of it, and no two
are the same. -/
structure HaveOwnDirectories (servers : ServerId → Prop) (dataDirectory : String) : Prop where
  /-- The directory of a server is an entry of the data directory. -/
  entry : ∀ server, servers server → ∃ name,
    Resolved.ofPath (directoryOf dataDirectory server) =
      (Resolved.ofPath dataDirectory).entry name
  /-- No two servers have the same directory. -/
  apart : ∀ one other, servers one → servers other →
    Resolved.ofPath (directoryOf dataDirectory one) =
      Resolved.ofPath (directoryOf dataDirectory other) → one = other

/-- Servers have directories of their own in every data directory exactly if each of their names
leads to an entry, and no two to the same one. -/
theorem haveOwnDirectories_iff (servers : ServerId → Prop) :
    (∀ dataDirectory, HaveOwnDirectories servers dataDirectory) ↔
      (∀ server, servers server → ∃ name,
        Resolved.ofPath server.name = Resolved.here.entry name) ∧
      ∀ one other, servers one → servers other →
        Resolved.ofPath one.name = Resolved.ofPath other.name → one = other := by
  have working (server : ServerId) :
      Resolved.ofPath (directoryOf "" server) = Resolved.ofPath server.name := by
    rw [directoryOf, Resolved.ofPath_joinPath]
    exact Resolved.here_continued _
  constructor
  · intro own
    obtain ⟨entry, apart⟩ := own ""
    simp only [working] at entry apart
    exact ⟨entry, apart⟩
  · rintro ⟨entry, apart⟩ dataDirectory
    refine ⟨fun server among => ?_, fun one other first second same => ?_⟩
    · obtain ⟨name, leads⟩ := entry server among
      refine ⟨name, ?_⟩
      rw [directoryOf, Resolved.ofPath_joinPath, leads, Resolved.continued_entry,
        Resolved.continued_here]
    · obtain ⟨name, leads⟩ := entry one first
      obtain ⟨name', leads'⟩ := entry other second
      simp only [directoryOf, Resolved.ofPath_joinPath, leads, leads', Resolved.continued_entry,
        Resolved.continued_here, Resolved.entry_inj] at same
      exact apart one other first second (by rw [leads, leads', same])

/-- Servers with plain names have directories of their own. -/
theorem haveOwnDirectories_of_plain (dataDirectory : String) :
    HaveOwnDirectories (IsPlainName ·.name) dataDirectory := by
  refine (haveOwnDirectories_iff _).mpr ⟨fun server plain =>
    ⟨server.name, Resolved.ofPath_of_isPlainName plain⟩, fun one other first second same => ?_⟩
      dataDirectory
  rw [Resolved.ofPath_of_isPlainName first, Resolved.ofPath_of_isPlainName second,
    Resolved.entry_inj] at same
  cases one
  cases other
  cases same
  rfl

end FlatFile

/-- The directory of a server is an entry of the data directory exactly if its name leads to one
from there. Servers have directories of their own in every data directory exactly if each of their
names leads to an entry, and no two to the same one. The names that are the entry that they lead to
are the plain ones, so all servers with such names have directories of their own. The lock and the
record of a file that is opened are in the directory of the server, and the directory of a plain
name is the one under that name. -/
theorem server_has_own_directory_iff (servers : ServerId → Prop) (dataDirectory : String)
    (server : ServerId) :
    (∀ name, Resolved.ofPath (FlatFile.directoryOf dataDirectory server) =
          (Resolved.ofPath dataDirectory).entry name ↔
        (Resolved.ofPath server.name).LeadsToEntry (.ofPath dataDirectory) name) ∧
    ((∀ dataDirectory, FlatFile.HaveOwnDirectories servers dataDirectory) ↔
      (∀ server, servers server → ∃ name,
        Resolved.ofPath server.name = Resolved.here.entry name) ∧
      ∀ one other, servers one → servers other →
        Resolved.ofPath one.name = Resolved.ofPath other.name → one = other) ∧
    (Resolved.ofPath server.name = Resolved.here.entry server.name ↔ IsPlainName server.name) ∧
    FlatFile.HaveOwnDirectories (IsPlainName ·.name) dataDirectory ∧
    ∀ owner disk file after,
      FlatFile.openIn owner dataDirectory server disk = (.ok file, after) →
      Resolved.ofPath file.lock.path =
          (Resolved.ofPath (FlatFile.directoryOf dataDirectory server)).entry lockFileName ∧
        Resolved.ofPath file.path =
          (Resolved.ofPath (FlatFile.directoryOf dataDirectory server)).entry stateFileName ∧
        ∃ found, FlatFile.IsHeld (FlatFile.directoryOf dataDirectory server) file after.tree found ∧
          ∀ place left, IsPlainName server.name → disk.tree.EntersPath dataDirectory place left →
            disk.outage disk.operations ≠ some .notFound → found = place ++ [server.name] := by
  refine ⟨fun name => ?_, FlatFile.haveOwnDirectories_iff servers,
    Resolved.ofPath_eq_entry_self_iff, FlatFile.haveOwnDirectories_of_plain dataDirectory,
    fun owner disk file after opened => ?_⟩
  · rw [FlatFile.directoryOf, Resolved.ofPath_joinPath, Resolved.continued_eq_entry_iff]
  · obtain ⟨found, held, under⟩ := FlatFile.isHeld_of_openIn opened
    refine ⟨?_, ?_, found, held, under⟩
    · rw [held.lockPath,
        Resolved.ofPath_joinPath_of_isPlainName isEntryName_lockFileName.isPlainName]
    · rw [held.path,
        Resolved.ofPath_joinPath_of_isPlainName FlatFile.isEntryName_stateFileName.isPlainName]

/-- A server whose name goes up has no directory in the data directory, and one whose name is
another spelling of an entry has the directory of the server with the name of the entry, and opens
its record. -/
theorem other_spelling_opens_record :
    ¬ FlatFile.HaveOwnDirectories (·.name = "..") "/data" ∧
    ¬ FlatFile.HaveOwnDirectories (fun server => server.name = "server-1" ∨
      server.name = "./server-1") "/" ∧
    ∃ file after,
      FlatFile.openIn ⟨1, 0⟩ "/" ⟨"./server-1", by decide⟩ (.ofTree (keptTree namelessRecord)) =
        (.ok file, after) ∧
      file.record = namelessRecord ∧
      Resolved.ofPath file.path = Resolved.ofPath ("/server-1/" ++ stateFileName) := by
  refine ⟨fun own => ?_, fun own => ?_, ?_⟩
  · obtain ⟨name, entry⟩ := own.entry ⟨"..", by decide⟩ rfl
    have goesUp : Resolved.ofPath ".." = ⟨some 1, []⟩ := by decide +kernel
    obtain ⟨leads, -⟩ :=
      server_has_own_directory_iff (·.name = "..") "/data" ⟨"..", by decide⟩
    have onward := (leads name).mp entry
    rw [goesUp] at onward
    simp [Resolved.LeadsToEntry] at onward
  · have same := own.apart ⟨"server-1", by decide⟩ ⟨"./server-1", by decide⟩ (.inl rfl) (.inr rfl)
      (by decide +kernel)
    exact absurd same (by decide)
  · have located : (keptTree namelessRecord).locate false
        (.ofPath (FlatFile.directoryOf "/" ⟨"./server-1", by decide⟩)) =
          .ok (["server-1"], some (.directory 0o700)) := by
      have steps : (Route.ofPath
          (FlatFile.directoryOf "/" ⟨"./server-1", by decide⟩)).wholeSteps = [".", "server-1"] := by
        decide +kernel
      rw [locate, follow_eq_walk_start (by decide +kernel) (by decide +kernel), steps, walk_stay,
        walk_name isEntryName_server.toIsName, FileTree.start, if_pos (by decide +kernel),
        List.nil_append, keptTree_node?]
    obtain ⟨file, after, opened, kept⟩ :=
      openIn_keptTree namelessRecord located (by decide +kernel) (by decide +kernel)
    obtain ⟨-, -, -, -, opens⟩ :=
      server_has_own_directory_iff (fun _ => True) "/" ⟨"./server-1", by decide⟩
    obtain ⟨-, path, -⟩ := opens _ _ _ _ opened
    refine ⟨file, after, opened, kept, path.trans ?_⟩
    decide +kernel

end Standby
