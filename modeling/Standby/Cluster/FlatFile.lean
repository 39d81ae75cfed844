import Standby.Cluster.Persistor

/-!
# The record in a file

Each server has a directory of its own, which it holds by a lock, with one file that is the
record. The file is read once, when the directory is taken, and replaced as a whole by every
write; the record in memory changes only when the file did.
-/
namespace Standby

/-- The name of the record's file in the server's directory. -/
def stateFileName : String := "cluster_state.json"

/-- A record that is kept in a file of a locked directory. -/
structure FlatFile where
  /-- The path of the file. -/
  path : String
  /-- The record as it was last read or written. -/
  record : ClusterRecord
  /-- The lock of the directory. -/
  lock : DirectoryLock

namespace FlatFile

/-- The directory of a server in a data directory. -/
def directoryOf (dataDirectory : String) (server : ServerId) : String :=
  joinPath dataDirectory server.name

/-- The bytes of a record's file. -/
def encode (record : ClusterRecord) : ByteArray := (Json.prettyText record.toDocument).toUTF8

/-- The record that the bytes of a file hold. -/
def decode (bytes : ByteArray) : Option ClusterRecord :=
  (Json.ofBytes bytes).bind ClusterRecord.ofDocument

/-- Take the directory of a server and read its record; a missing file is the record of a node
that has not begun. -/
def openIn (owner : LockOwner) (dataDirectory : String) (server : ServerId) (disk : Disk) :
    Except PersistFault FlatFile × Disk :=
  let directory := directoryOf dataDirectory server
  match DirectoryLock.acquire owner directory server disk with
  | (.error fault, disk) => (.error (.lock fault), disk)
  | (.ok lock, disk) =>
    let path := joinPath directory stateFileName
    match disk.inquire (·.read (.ofPath path)) with
    | (.ok bytes, disk) =>
      match decode bytes with
      | some record => (.ok ⟨path, record, lock⟩, disk)
      | none => (.error (.corrupt path "not a record"), lock.drop disk)
    | (.error .notFound, disk) => (.ok ⟨path, .fresh, lock⟩, disk)
    | (.error cause, disk) => (.error (.io path cause), lock.drop disk)

/-- Give the directory up. -/
def close (file : FlatFile) (disk : Disk) : Disk := file.lock.drop disk

/-- A record's file and the disk it is on. -/
structure Mounted where
  /-- The file. -/
  file : FlatFile
  /-- The disk. -/
  disk : Disk

/-- Replace the record, first in the file and then in memory. -/
def put (record : ClusterRecord) (mounted : Mounted) : WriteStep Mounted :=
  let path := mounted.file.path
  match parentPath? path with
  | none => (.error (.unavailable (path ++ " has no parent directory")), mounted)
  | some directory =>
    match mounted.disk.replaceFile directory path (encode record) with
    | (.error cause, disk) => (.error (.io path cause), { mounted with disk })
    | (.ok _, disk) => (.ok (), { file := { mounted.file with record }, disk })

/-- Access to the record in a file. -/
def persistor : Persistor Mounted := .ofRecord (·.file.record) put

end FlatFile
end Standby
