import Standby.FileTree.Lock

/-!
# Rooms of locks

A room holds locks on the directories of one disk, each under a handle. A handle that is used again
stands for the new lock; the old one is given up as soon as the new one is taken.
-/
namespace Standby

/-- A disk and the locks that are held on it. -/
structure LockRoom where
  /-- The disk. -/
  disk : Disk
  /-- The locks by their handles, the latest first. -/
  held : List (String × DirectoryLock)

namespace LockRoom

/-- A room in which no lock is held. -/
def ofDisk (disk : Disk) : LockRoom := ⟨disk, []⟩

/-- The lock of a handle. -/
def lock? (handle : String) (room : LockRoom) : Option DirectoryLock := room.held.lookup handle

/-- Do something to the disk. -/
def onDisk {α : Type} (change : Disk → α × Disk) (room : LockRoom) : α × LockRoom :=
  let (result, disk) := change room.disk
  (result, { room with disk })

/-- The room without the lock of a handle. -/
def forget (handle : String) (room : LockRoom) : LockRoom :=
  { room with held := room.held.filter fun entry => entry.1 != handle }

/-- Give the lock of a handle up, if there is one. -/
def drop (handle : String) (room : LockRoom) : LockRoom :=
  match room.lock? handle with
  | none => room
  | some lock => { room.forget handle with disk := lock.drop room.disk }

/-- Take the lock of a directory under a handle. -/
def acquire (owner : LockOwner) (directory : String) (server : ServerId) (handle : String)
    (room : LockRoom) : Except LockFault DirectoryLock × LockRoom :=
  match DirectoryLock.acquire owner directory server room.disk with
  | (.error fault, disk) => (.error fault, { room with disk })
  | (.ok lock, disk) =>
    let room := drop handle { room with disk }
    (.ok lock, { room with held := (handle, lock) :: room.held })

/-- Give the lock of a handle up and say whether its file was removed. -/
def release (handle : String) (room : LockRoom) :
    Option (Except LockFault Unit) × LockRoom :=
  match room.lock? handle with
  | none => (none, room)
  | some lock =>
    let (result, disk) := lock.release room.disk
    (some result, { room.forget handle with disk })

/-- Give every lock up. -/
def clear (room : LockRoom) : LockRoom :=
  ⟨room.held.foldl (fun disk entry => entry.2.drop disk) room.disk, []⟩

end LockRoom
end Standby
