import Standby.Cluster.FlatFile
import Standby.Cluster.Node
import Standby.Fault

/-!
# Stations

A station is where one node lives: a disk, a record in memory, and the node while it is open. The
node's record is the one in memory or the one in the file of its server. Letting go of a node keeps
what was stored, so the node can be opened again; the operations of the store can be put out of
order at any time.
-/
namespace Standby

/-- Where the record of a node is kept. -/
inductive Keeping where
  /-- In memory. -/
  | memory
  /-- In the file of a server. -/
  | file
  deriving DecidableEq, Repr

/-- What a station stores. -/
structure Shelf where
  /-- The record in memory. -/
  record : ClusterRecord
  /-- The disk. -/
  disk : Disk
  /-- The record's file, while it is held. -/
  file : Option FlatFile

namespace Shelf

/-- Replace the record in the file that is held. -/
def putFile (record : ClusterRecord) (shelf : Shelf) : WriteStep Shelf :=
  match shelf.file with
  | none => (.error (.unavailable "no file is held"), shelf)
  | some file =>
    let (result, mounted) := FlatFile.put record ⟨file, shelf.disk⟩
    (result, { shelf with file := some mounted.file, disk := mounted.disk })

/-- Access to the record that is kept. -/
def persistor : Keeping → Persistor Shelf
  | .memory => .ofRecord (·.record) fun record shelf => (.ok (), { shelf with record })
  | .file => .ofRecord (fun shelf => (shelf.file.map (·.record)).getD .fresh) putFile

/-- Give up the file that is held. -/
def release (shelf : Shelf) : Shelf :=
  match shelf.file with
  | none => shelf
  | some file => { shelf with file := none, disk := file.close shelf.disk }

end Shelf

/-- The store of a station's node, of which operations may be out of order. -/
abbrev StationStore : Type := Persistor.Impaired Shelf

/-- How much of a station is in use. -/
inductive Occupancy where
  /-- Nothing is held. -/
  | vacant (store : StationStore)
  /-- The record is held, and no node is open on it. -/
  | held (store : StationStore)
  /-- The node is open. -/
  | occupied (node : Node StationStore)

namespace Occupancy

/-- The store, wherever it is. -/
def store : Occupancy → StationStore
  | vacant store => store
  | held store => store
  | occupied node => node.store

/-- Change the store. -/
def mapStore (change : StationStore → StationStore) : Occupancy → Occupancy
  | vacant store => vacant (change store)
  | held store => held (change store)
  | occupied node => occupied { node with store := change node.store }

end Occupancy

/-- The place where one node lives. -/
structure Station where
  /-- Who locks the directory of the server. -/
  owner : LockOwner
  /-- The directory of the directories of servers. -/
  dataDirectory : String
  /-- The name of the server. -/
  server : String
  /-- Where the record is kept. -/
  keeping : Keeping
  /-- What is in use. -/
  occupancy : Occupancy

namespace Station

/-- The store of the station. -/
def store (station : Station) : StationStore := station.occupancy.store

/-- The disk of the station. -/
def disk (station : Station) : Disk := station.store.store.disk

/-- The record in memory. -/
def record (station : Station) : ClusterRecord := station.store.store.record

/-- The node, while it is open. -/
def node? (station : Station) : Option (Node StationStore) :=
  match station.occupancy with
  | .occupied node => some node
  | _ => none

/-- Have another node open. -/
def withNode (node : Node StationStore) (station : Station) : Station :=
  { station with occupancy := .occupied node }

/-- Access to the store. -/
def persistor (station : Station) : Persistor StationStore :=
  (Shelf.persistor station.keeping).impaired

/-- The directory of the server. -/
def directory (station : Station) : String := joinPath station.dataDirectory station.server

/-- The file of the record. -/
def recordPath (station : Station) : String := joinPath station.directory stateFileName

/-- Change the disk. -/
def mapDisk (change : Disk → Disk) (station : Station) : Station :=
  { station with
    occupancy := station.occupancy.mapStore fun store =>
      { store with store := { store.store with disk := change store.store.disk } } }

/-- Put exactly some operations of the store out of order. -/
def impair (failing : Persistor.Method → Bool) (station : Station) : Station :=
  { station with occupancy := station.occupancy.mapStore fun store => { store with failing } }

/-- Let go of everything that is held. -/
def shut (station : Station) : Station :=
  let store := station.store
  { station with occupancy := .vacant { store with store := store.store.release } }

/-- The file of the server's record, taken from a disk. -/
def takeFile (station : Station) (disk : Disk) : Except Fault FlatFile × Disk :=
  match ServerId.parse station.server with
  | .error refusal => (.error (.identifier refusal), disk)
  | .ok server =>
    match FlatFile.openIn station.owner station.dataDirectory server disk with
    | (.error fault, disk) => (.error (.persist fault), disk)
    | (.ok file, disk) => (.ok file, disk)

/-- Open the node on a store whose record is held. -/
def openOn (group : GroupId) (firstChannel : ChannelId) (store : StationStore)
    (station : Station) : Except Fault Unit × Station :=
  match Node.openNode station.persistor group firstChannel store with
  | (.error fault, store) => (.error (.cluster fault), { station with occupancy := .held store })
  | (.ok node, _) => (.ok (), station.withNode node)

/-- Let go of everything and open the node. A record that is held stays so if the node is
refused. -/
def openNode (group : GroupId) (firstChannel : ChannelId) (station : Station) :
    Except Fault Unit × Station :=
  let station := station.shut
  match station.keeping with
  | .memory => station.openOn group firstChannel station.store
  | .file =>
    match station.takeFile station.disk with
    | (.error fault, disk) => (.error fault, station.mapDisk fun _ => disk)
    | (.ok file, disk) =>
      let store := station.store
      station.openOn group firstChannel
        { store with store := { store.store with disk, file := some file } }

/-- Take the file of the server's record once more and give it up at once. -/
def openTwice (station : Station) : Except Fault Unit × Station :=
  match station.takeFile station.disk with
  | (.error fault, disk) => (.error fault, station.mapDisk fun _ => disk)
  | (.ok file, disk) => (.ok (), station.mapDisk fun _ => file.close disk)

/-- What the record says as its store reads it, unless nothing is held. -/
def persisted (station : Station) : Option (Except PersistFault ClusterRecord) :=
  match station.occupancy with
  | .vacant _ => none
  | _ => some (station.persistor.snapshot station.store)

/-- Carry a step of a node out on the node that is open. -/
def onNode {α : Type} (act : Persistor StationStore → Node StationStore → α × Node StationStore)
    (station : Station) : Option (α × Station) :=
  station.node?.map fun node =>
    let (result, node) := act station.persistor node
    (result, station.withNode node)

end Station
end Standby
