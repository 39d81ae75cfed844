import Standby.FileTree.Disk
import Standby.Identity.Record
import Standby.Json.Reader
import Standby.Json.Writer

/-!
# Directory locks

A directory belongs to the server whose lock file stands in it. The lock file is made only where
none stands, so of several servers at most one gets it, and it names its holder. A lock is given
up by removing the file.
-/
namespace Standby

open Document

/-- The name of a lock file in its directory. -/
def lockFileName : String := "startup.lck"

/-- The version that lock files name. -/
def lockVersion : String := "0.1.0"

/-- What a lock file says about its holder. -/
structure LockMeta where
  /-- The server that holds the directory. -/
  server : ServerId
  /-- Its process. -/
  pid : UInt32
  /-- When it took the lock, in milliseconds. -/
  startedAt : UInt64
  /-- The version that wrote the file. -/
  version : String
  deriving DecidableEq

namespace LockMeta

/-- The content of a lock file. -/
def toDocument (holder : LockMeta) : Document :=
  .table [("server", holder.server.toDocument), ("pid", .integer holder.pid.toNat),
    ("started_at_ms", ofUInt64 holder.startedAt), ("version", .text holder.version)]

/-- A lock file names every part of its holder. -/
def ofDocument : Decoder LockMeta := fun document => do
  let [server, pid, startedAt, version] ←
    fields .whole ["server", "pid", "started_at_ms", "version"] document | none
  let server ← required ServerId.ofDocument server
  let pid ← required uint32 pid
  let startedAt ← required uint64 startedAt
  let version ← required string version
  some ⟨server, pid, startedAt, version⟩

/-- The bytes of a lock file. -/
def encode (holder : LockMeta) : ByteArray := (Json.compactText holder.toDocument).toUTF8

/-- The holder that the bytes of a lock file name. -/
def decode (bytes : ByteArray) : Option LockMeta := (Json.ofBytes bytes).bind ofDocument

end LockMeta

/-- Why a directory could not be locked, or its lock not be read. -/
inductive LockFault where
  /-- Another lock file stands there; its holder is named if the file can be read. -/
  | held (path : String) (holder : Option LockMeta) (unreadable : Option String)
  /-- A link stands where the directory or its lock file should. -/
  | symlink (path : String)
  /-- The lock file names no holder. -/
  | corrupt (path : String) (reason : String)
  /-- The file system refused. -/
  | io (cause : IoFault)
  deriving DecidableEq

namespace LockFault

/-- The text of a fault. -/
def message : LockFault → String
  | held path _ _ => "data directory lock already held at " ++ Text.quoted path
  | symlink path => "data directory lock path is a symlink: " ++ Text.quoted path
  | corrupt path reason => "lock metadata corrupted at " ++ Text.quoted path ++ ": " ++ reason
  | io cause => "io error: " ++ cause.message

/-- A holder may give up its lock; a link stays a link. -/
def transience : LockFault → Transience
  | held .. => .retryable
  | symlink _ => .permanent
  | corrupt .. => .permanent
  | io _ => .unknown

end LockFault

/-- A process that takes locks at some time. -/
structure LockOwner where
  /-- The number of the process. -/
  pid : UInt32
  /-- The time in milliseconds. -/
  now : UInt64
  deriving DecidableEq

/-- A lock that was taken and not given up. -/
structure DirectoryLock where
  /-- The path of the lock file. -/
  path : String
  /-- What the lock file says. -/
  holder : LockMeta
  deriving DecidableEq

namespace DirectoryLock

/-- Refuse a link that stands at a path. -/
def rejectLink (path : String) (disk : Disk) : Except LockFault Unit × Disk :=
  match disk.inquire (·.status false (.ofPath path)) with
  | (.ok (.link _), disk) => (.error (.symlink path), disk)
  | (_, disk) => (.ok (), disk)

/-- Make sure that a directory of its own stands at a path and that only its owner can enter. -/
def ensureDirectory (path : String) (disk : Disk) : Except LockFault Unit × Disk :=
  let claim (disk : Disk) : Except LockFault Unit × Disk :=
    match disk.alter (·.setMode (.ofPath path) 0o700) with
    | (.error cause, disk) => (.error (.io cause), disk)
    | (.ok _, disk) => (.ok (), disk)
  match disk.inquire (·.status false (.ofPath path)) with
  | (.ok (.link _), disk) => (.error (.symlink path), disk)
  | (.ok (.file ..), disk) =>
    (.error (.io (.other ("expected directory at " ++ Text.quoted path))), disk)
  | (.ok (.directory _), disk) => claim disk
  | (.error .notFound, disk) =>
    match disk.makeDirectories path with
    | (.error cause, disk) => (.error (.io cause), disk)
    | (.ok _, disk) => claim disk
  | (.error cause, disk) => (.error (.io cause), disk)

/-- The holder that a lock file names. -/
def readHolder (path : String) (disk : Disk) : Except LockFault LockMeta × Disk :=
  match rejectLink path disk with
  | (.error fault, disk) => (.error fault, disk)
  | (.ok _, disk) =>
    match disk.inquire (·.read (.ofPath path)) with
    | (.error cause, disk) => (.error (.io cause), disk)
    | (.ok bytes, disk) =>
      match LockMeta.decode bytes with
      | some holder => (.ok holder, disk)
      | none => (.error (.corrupt path "not a lock record"), disk)

/-- Write the holder into a lock file and flush it. -/
def writeHolder (path : String) (holder : LockMeta) (disk : Disk) :
    Except LockFault Unit × Disk :=
  match disk.alter (·.overwrite (.ofPath path) holder.encode) with
  | (.error cause, disk) => (.error (.corrupt path cause.message), disk)
  | (.ok _, disk) =>
    match disk.inquire fun _ => .ok () with
    | (.error cause, disk) => (.error (.io cause), disk)
    | (.ok _, disk) => (.ok (), disk)

/-- Take the lock of a directory, which is made if it is missing. -/
def acquire (owner : LockOwner) (directory : String) (server : ServerId) (disk : Disk) :
    Except LockFault DirectoryLock × Disk :=
  match ensureDirectory directory disk with
  | (.error fault, disk) => (.error fault, disk)
  | (.ok _, disk) =>
    let path := joinPath directory lockFileName
    match rejectLink path disk with
    | (.error fault, disk) => (.error fault, disk)
    | (.ok _, disk) =>
      let holder : LockMeta := ⟨server, owner.pid, owner.now, lockVersion⟩
      match disk.alter (·.createNew (.ofPath path) 0o600) with
      | (.error .alreadyExists, disk) =>
        match readHolder path disk with
        | (.ok other, disk) => (.error (.held path (some other) none), disk)
        | (.error fault, disk) => (.error (.held path none (some fault.message)), disk)
      | (.error cause, disk) => (.error (.io cause), disk)
      | (.ok _, disk) =>
        match writeHolder path holder disk with
        | (.error fault, disk) => (.error fault, disk)
        | (.ok _, disk) => (.ok ⟨path, holder⟩, disk)

/-- Give a lock up and say whether its file was removed. -/
def release (lock : DirectoryLock) (disk : Disk) : Except LockFault Unit × Disk :=
  match disk.alter (·.removeFile (.ofPath lock.path)) with
  | (.error cause, disk) => (.error (.io cause), disk)
  | (.ok _, disk) => (.ok (), disk)

/-- Give a lock up, whether or not its file can be removed. -/
def drop (lock : DirectoryLock) (disk : Disk) : Disk :=
  (disk.alter (·.removeFile (.ofPath lock.path))).2

/-- The holder of a directory's lock, if there is a lock file. -/
def holderOf (directory : String) (disk : Disk) : Except LockFault (Option LockMeta) × Disk :=
  let path := joinPath directory lockFileName
  match disk.inquire (·.status false (.ofPath path)) with
  | (.ok (.link _), disk) => (.error (.symlink path), disk)
  | (.ok _, disk) =>
    match readHolder path disk with
    | (.error fault, disk) => (.error fault, disk)
    | (.ok holder, disk) => (.ok (some holder), disk)
  | (.error .notFound, disk) => (.ok none, disk)
  | (.error cause, disk) => (.error (.io cause), disk)

end DirectoryLock
end Standby
