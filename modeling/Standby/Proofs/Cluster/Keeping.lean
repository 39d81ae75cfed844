import Standby.Proofs.Cluster.Holding
import Standby.Proofs.Cluster.Persistence

/-!
# A file keeps a record as memory does

A server opens the record in its directory, writes parts of it and closes it, over and over, on a
disk of which any operations fail. A record in memory that receives exactly the writes that
succeeded gives the same answers at any time (`keeps_as_memory`): a write that fails changes
nothing, and one that succeeds leaves a file that decodes to the record, so the record is found
again when the directory is opened again.
-/
namespace Standby

open FileTree

namespace Persistor

/-- A write of a part of a record. -/
inductive Setting where
  /-- The stripe of the node. -/
  | stripe (id : StripeId)
  /-- The group of the node. -/
  | group (id : GroupId)
  /-- The state with the connections of the moment. -/
  | standing (state : LifecycleState) (connections : SortedSet ConnectionId)
  /-- The stripes of groups. -/
  | stripes (map : SortedMap GroupId StripeId)

namespace Setting

variable {Store : Type}

/-- Carry a write out. -/
def run (persistor : Persistor Store) : Setting → Store → WriteStep Store
  | stripe id => persistor.setStripeId id
  | group id => persistor.setGroupId id
  | standing state connections => persistor.setCurrentState state connections
  | stripes map => persistor.setStripeMap map

/-- A record with the part that is written. -/
def apply : Setting → ClusterRecord → ClusterRecord
  | stripe id => (·.withStripeId id)
  | group id => (·.withGroupId id)
  | standing state connections => (·.withState state connections)
  | stripes map => (·.withStripeMap map)

/-- A setting changes the record that is kept and writes it. -/
theorem run_ofRecord (record : Store → ClusterRecord)
    (put : ClusterRecord → Store → WriteStep Store) (setting : Setting) (store : Store) :
    setting.run (.ofRecord record put) store = put (setting.apply (record store)) store := by
  cases setting <;> rfl

/-- A write to memory succeeds. -/
theorem run_memory (setting : Setting) (record : ClusterRecord) :
    setting.run memory record = (.ok (), setting.apply record) :=
  run_ofRecord id (fun record _ => (.ok (), record)) setting record

end Setting

/-- Every read of a store gives the same answer as the read of another. -/
structure AnswersAlike {Store Other : Type} (persistor : Persistor Store) (store : Store)
    (another : Persistor Other) (other : Other) : Prop where
  stripeId : persistor.stripeId store = another.stripeId other
  groupId : persistor.groupId store = another.groupId other
  currentState : persistor.currentState store = another.currentState other
  connections : persistor.connections store = another.connections other
  stripeMap : persistor.stripeMap store = another.stripeMap other

end Persistor

namespace FlatFile

open DirectoryLock Persistor

variable {owner : LockOwner} {dataDirectory directory : String} {server : ServerId}
  {start disk after : Disk} {file : FlatFile} {opened : Option FlatFile} {memory : ClusterRecord}

/-- The histories of a server's directory that begin with a disk: the file that is open, a record
in memory that received the writes that succeeded, and the disk. -/
inductive History (dataDirectory : String) (server : ServerId) (start : Disk) :
    Option FlatFile → ClusterRecord → Disk → Prop where
  /-- Nothing was opened yet. -/
  | start : History dataDirectory server start none .fresh start
  /-- The directory is opened. -/
  | opens {memory : ClusterRecord} {disk after : Disk} {file : FlatFile} (owner : LockOwner)
    (earlier : History dataDirectory server start none memory disk)
    (truly : IsReadTruly owner dataDirectory server disk)
    (done : openIn owner dataDirectory server disk = (.ok file, after)) :
    History dataDirectory server start (some file) memory after
  /-- The directory is not opened, whether or not it is open already. -/
  | refuses {opened : Option FlatFile} {memory : ClusterRecord} {disk after : Disk}
    {fault : PersistFault} (owner : LockOwner)
    (earlier : History dataDirectory server start opened memory disk)
    (refused : openIn owner dataDirectory server disk = (.error fault, after)) :
    History dataDirectory server start opened memory after
  /-- A part is written, in the file and in memory. -/
  | writes {memory : ClusterRecord} {disk : Disk} {file : FlatFile} {after : Mounted}
    (setting : Setting) (earlier : History dataDirectory server start (some file) memory disk)
    (wrote : setting.run persistor ⟨file, disk⟩ = (.ok (), after)) :
    History dataDirectory server start (some after.file) (setting.run Persistor.memory memory).2
      after.disk
  /-- A write fails. -/
  | fails {memory : ClusterRecord} {disk : Disk} {file : FlatFile} {after : Mounted}
    {fault : PersistFault} (setting : Setting)
    (earlier : History dataDirectory server start (some file) memory disk)
    (failed : setting.run persistor ⟨file, disk⟩ = (.error fault, after)) :
    History dataDirectory server start (some after.file) memory after.disk
  /-- The directory is given up, as far as the disk lets it. -/
  | closes {memory : ClusterRecord} {disk : Disk} {file : FlatFile}
    (earlier : History dataDirectory server start (some file) memory disk) :
    History dataDirectory server start none memory (file.close disk)

/-- A file on a disk is as good as a record in memory. -/
structure IsAsMemory (file : FlatFile) (disk : Disk) (memory : ClusterRecord) : Prop where
  /-- Every read answers what the read of memory does. -/
  answers : AnswersAlike persistor ⟨file, disk⟩ Persistor.memory memory
  /-- A write that fails changes neither an answer nor anything on the disk. -/
  unchanged : ∀ (setting : Setting) fault after,
    setting.run persistor ⟨file, disk⟩ = (.error fault, after) →
    AnswersAlike persistor after persistor ⟨file, disk⟩ ∧ after.disk.tree = disk.tree
  /-- A write that succeeds leaves a file that holds the record. -/
  recorded : ∀ (setting : Setting) after,
    setting.run persistor ⟨file, disk⟩ = (.ok (), after) →
    ∃ bytes, after.disk.tree.read (.ofPath file.path) = .ok bytes ∧
      decode bytes = some after.file.record

/-- What holds after every history: the directory holds the record in memory, and so does the file
that is open. -/
structure Keeps (directory : String) (opened : Option FlatFile) (memory : ClusterRecord)
    (tree : FileTree) : Prop where
  holds : Holds directory memory tree
  held : ∀ file ∈ opened, file.record = memory ∧ ∃ place, IsHeld directory file tree place

/-- A write that succeeds is one of the file and of memory. -/
theorem Keeps.of_write {setting : Setting} {done : Mounted}
    (keeps : Keeps directory (some file) memory disk.tree)
    (wrote : setting.run persistor ⟨file, disk⟩ = (.ok (), done)) :
    Keeps directory (some done.file) (setting.apply memory) done.disk.tree ∧
      done.disk.tree.read (.ofPath file.path) = .ok (encode done.file.record) := by
  obtain ⟨rfl, place, held⟩ := keeps.held file rfl
  rw [persistor, Setting.run_ofRecord] at wrote
  obtain ⟨same, replaced⟩ := put_ok wrote
  obtain ⟨held, holds, read⟩ := held.of_replaceFile keeps.holds replaced
  rw [same]
  refine ⟨⟨holds, ?_⟩, read⟩
  rintro _ ⟨⟩
  exact ⟨rfl, place, held⟩

/-- A write that fails changes nothing. -/
theorem unchanged_of_error {setting : Setting} {done : Mounted} {fault : PersistFault}
    (failed : setting.run persistor ⟨file, disk⟩ = (.error fault, done)) :
    done.file = file ∧ done.disk.tree = disk.tree := by
  rw [persistor, Setting.run_ofRecord] at failed
  exact put_error failed

/-- Every history keeps the record. -/
theorem History.keeps (vacant : HasNoRecord (directoryOf dataDirectory server) start.tree)
    (history : History dataDirectory server start opened memory disk) :
    Keeps (directoryOf dataDirectory server) opened memory disk.tree := by
  induction history with
  | start => exact ⟨vacant.holds, nofun⟩
  | opens owner earlier truly done ih =>
    obtain ⟨same, holds, held⟩ := IsHeld.of_openIn ih.holds truly done
    refine ⟨holds, ?_⟩
    rintro _ ⟨⟩
    exact ⟨same, held⟩
  | refuses owner earlier refused ih =>
    refine ⟨ih.holds.of_openIn_error refused, fun file isOpen => ?_⟩
    obtain ⟨same, place, held⟩ := ih.held file isOpen
    exact ⟨same, place, held.of_openIn_error refused⟩
  | writes setting earlier wrote ih =>
    rw [Setting.run_memory]
    exact (ih.of_write wrote).1
  | fails setting earlier failed ih =>
    obtain ⟨same, kept⟩ := unchanged_of_error failed
    rw [same, kept]
    exact ih
  | closes earlier ih =>
    obtain ⟨-, place, held⟩ := ih.held _ rfl
    exact ⟨held.holds_close ih.holds, nofun⟩

/-- Stores of one record give the same answers. -/
theorem answersAlike_ofRecord {Store Other : Type} {record : Store → ClusterRecord}
    {recorded : Other → ClusterRecord} {put : ClusterRecord → Store → WriteStep Store}
    {write : ClusterRecord → Other → WriteStep Other} {store : Store} {other : Other}
    (same : record store = recorded other) :
    AnswersAlike (.ofRecord record put) store (.ofRecord recorded write) other := by
  constructor <;> simp only [ofRecord, same]

/-- Whatever a server does with its directory and however often its disk fails, the file that is
open is as good as a record in memory that received the writes that succeeded, and no opening ever
fails because of what the file holds. -/
theorem keeps_as_memory (vacant : HasNoRecord (directoryOf dataDirectory server) start.tree)
    (history : History dataDirectory server start opened memory disk) :
    (∀ file ∈ opened, IsAsMemory file disk memory) ∧
      ∀ owner path reason after,
        openIn owner dataDirectory server disk ≠ (.error (.corrupt path reason), after) := by
  have keeps := history.keeps vacant
  refine ⟨fun file isOpen => ?_, fun owner path reason after => keeps.holds.ne_corrupt path reason⟩
  obtain ⟨same, -⟩ := keeps.held file isOpen
  refine ⟨answersAlike_ofRecord same, fun setting fault done failed => ?_,
    fun setting done wrote => ?_⟩
  · obtain ⟨unchanged, kept⟩ := unchanged_of_error failed
    exact ⟨answersAlike_ofRecord (congrArg FlatFile.record unchanged), kept⟩
  · rw [Option.mem_def.mp isOpen] at keeps
    exact ⟨_, (keeps.of_write wrote).2, decode_encode _⟩

/-- A disk with an empty data directory that is full for a moment after the first record. -/
def fillingDisk : Disk where
  tree := (FileTree.ofHome []).put ["data"] (.directory 0o755)
  operations := 0
  outage operation := if operation = 12 then some (.other "no space left") else none

/-- A server. -/
def firstServer : ServerId := ⟨"server-1", by decide⟩

/-- Of two groups that are written to a disk that fills up, the first one is kept. -/
theorem kept_on_filling_disk :
    HasNoRecord (directoryOf "/data" firstServer) fillingDisk.tree ∧
    ∃ file memory disk, History "/data" firstServer fillingDisk (some file) memory disk ∧
      memory.groupId = ⟨2⟩ ∧ IsAsMemory file disk memory := by
  have empty (name : String) (rest : List String) :
      fillingDisk.tree.node? (["data"] ++ name :: rest) = none := by
    have apart : ["data"] ++ name :: rest ≠ ["data"] := by simp
    rw [fillingDisk, node?_put_of_ne _ _ apart]
    rfl
  have enters : fillingDisk.tree.EntersPath "/data" ["data"] linkLimit := by
    have steps : (Route.ofPath "/data").steps = ["data"] := by decide +kernel
    have start : fillingDisk.tree.start (.ofPath "/data") = [] := by decide +kernel
    have there : fillingDisk.tree.node? ([] ++ ["data"]) = some (.directory 0o755) := by
      rw [List.nil_append, fillingDisk, node?_put _ _ _ _ (by simp), if_pos rfl]
    rw [EntersPath, steps, start]
    exact .enter ⟨by decide, by decide, by decide +kernel⟩ there .done
  have entry : IsEntryName firstServer.name :=
    ⟨⟨by decide, by decide, by decide +kernel⟩, by decide +kernel, by decide⟩
  have vacant : HasNoRecord (directoryOf "/data" firstServer) fillingDisk.tree :=
    hasNoRecord_of_empty enters empty (by decide +kernel) (by decide +kernel)
  have works : ∀ step < 12, fillingDisk.outage (fillingDisk.operations + step) = none := by decide
  obtain ⟨truly, file, next, opened, path, ⟨_, entered⟩, there, missing⟩ :=
    openIn_of_empty ⟨1, 0⟩ (fun step early => works step (by omega)) enters empty entry
      (by decide +kernel) (by decide +kernel) (by decide +kernel)
  have sound : (Route.ofPath (directoryOf "/data" firstServer)).isSound = true := by
    decide +kernel
  have some_step : (Route.ofPath (directoryOf "/data" firstServer)).isEmpty = false := by
    decide +kernel
  have fileSound : (Route.ofPath
      (joinPath (directoryOf "/data" firstServer) stateFileName)).isSound = true := by
    decide +kernel
  have parent : parentPath? (joinPath (directoryOf "/data" firstServer) stateFileName) =
      some (directoryOf "/data" firstServer) := by
    decide +kernel
  have first := History.opens ⟨1, 0⟩ .start truly opened
  obtain ⟨filled, wrote⟩ := put_of_vacant { fillingDisk with tree := next, operations := 8 }
    (file.record.withGroupId ⟨2⟩)
    (fun step early => by simpa [fillingDisk] using works (8 + step) (by omega)) path
    (path ▸ parent) sound some_step fileSound entered there missing
  have second := first.writes (.group ⟨2⟩) wrote
  have third := second.fails (.group ⟨3⟩)
    (put_of_outage ((file.record.withGroupId ⟨2⟩).withGroupId ⟨3⟩) (path ▸ parent) rfl)
  exact ⟨vacant, _, _, _, third, rfl, (keeps_as_memory vacant third).1 _ rfl⟩

end FlatFile
end Standby
