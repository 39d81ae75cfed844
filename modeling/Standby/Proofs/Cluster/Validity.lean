import Standby.Proofs.Cluster.Durability
import Standby.Proofs.Cluster.Holding
import Standby.Proofs.FileTree.Holder
import Standby.Proofs.Identity.Validity
import Standby.Proofs.Ordered.Set

/-!
# Clients that their checks accept

The clients of a decoded record are those that its document lists, so they are valid unless the
document lists a client with a blank machine (`ClusterRecord.isValid_iff_of_ofDocument`). A node
that is opened over a file has the clients of the file, whatever machines they name
(`decoded_identifiers_are_valid_iff`).
-/
namespace Standby

open Document Text FileTree DirectoryLock

namespace ClusterRecord

variable {document : Document} {record : ClusterRecord}

/-- The names of the parts of a record. -/
def partNames : List String := ["stripe_id", "group_id", "state", "connections", "stripe_ids"]

/-- A document lists a client with a blank machine. -/
def ListsBlankClient (document : Document) : Prop :=
  ∃ items, given? .partly partNames "connections" document = some (.list items) ∧
    ∃ item ∈ items, ConnectionId.IsBlankIn item

/-- The clients of a decoded record are decoded from the items that are listed, and there are none
where no list is given. -/
theorem clients_of_ofDocument (decoded : ofDocument document = some record) :
    (given? .partly partNames "connections" document = none ∧ record.connections = .empty) ∨
    ∃ items clients, given? .partly partNames "connections" document = some (.list items) ∧
      items.mapM ConnectionId.ofDocument = some clients ∧
      record.connections = .ofList clients := by
  obtain ⟨parts, found, decoded⟩ := Option.bind_eq_some_iff.mp decoded
  split at decoded
  · rename_i stripeId groupId state connections stripeIds
    obtain ⟨_, -, decoded⟩ := Option.bind_eq_some_iff.mp decoded
    obtain ⟨_, -, decoded⟩ := Option.bind_eq_some_iff.mp decoded
    obtain ⟨_, -, decoded⟩ := Option.bind_eq_some_iff.mp decoded
    obtain ⟨clients, read, decoded⟩ := Option.bind_eq_some_iff.mp decoded
    obtain ⟨_, -, decoded⟩ := Option.bind_eq_some_iff.mp decoded
    cases decoded
    have given : given? .partly partNames "connections" document = connections := by
      rw [given?, partNames, found]
      rfl
    rw [given]
    cases connections with
    | none =>
      cases read
      exact .inl ⟨rfl, rfl⟩
    | some listed =>
      cases listed with
      | list items => exact .inr ⟨items, clients, rfl, read, rfl⟩
      | _ => cases read
  · cases decoded

/-- The clients of a decoded record are valid unless its document lists one with a blank machine. -/
theorem isValid_iff_of_ofDocument (decoded : ofDocument document = some record) :
    (∀ client ∈ record.connections.toList, client.IsValid) ↔ ¬ ListsBlankClient document := by
  rcases clients_of_ofDocument decoded with ⟨absent, empty⟩ | ⟨items, clients, given, read, listed⟩
  · simp [ListsBlankClient, absent, empty]
  obtain ⟨from_items, from_clients⟩ := mem_of_mapM_eq_some read
  simp only [ListsBlankClient, given, listed, SortedSet.mem_ofList_iff]
  constructor
  · rintro valid ⟨_, ⟨⟩, item, member, blank⟩
    obtain ⟨client, among, decoded⟩ := from_clients item member
    exact (ConnectionId.isValid_iff_of_ofDocument decoded).mp (valid client among) blank
  · intro unblank client among
    obtain ⟨item, member, decoded⟩ := from_items client among
    rw [ConnectionId.isValid_iff_of_ofDocument decoded]
    exact fun blank => unblank ⟨items, rfl, item, member, blank⟩

end ClusterRecord
namespace FlatFile

variable {owner : LockOwner} {dataDirectory : String} {server : ServerId} {disk after : Disk}
  {file : FlatFile}

/-- The record of a file that is opened is what the file holds, or a fresh one where no file is. -/
theorem record_of_openIn (truly : IsReadTruly owner dataDirectory server disk)
    (opened : openIn owner dataDirectory server disk = (.ok file, after)) :
    (∃ bytes, after.tree.read (.ofPath file.path) = .ok bytes ∧
        decode bytes = some file.record) ∨
      after.tree.read (.ofPath file.path) = .error .notFound ∧ file.record = .fresh := by
  have opens := opens_openIn owner dataDirectory server disk
  rw [opened] at opens
  cases opens with
  | found acquired asked decoded =>
    obtain ⟨rfl, ⟨_, _, ⟨⟩⟩ | read⟩ := Disk.inquire_cases asked
    exact .inl ⟨_, read, decoded⟩
  | missing acquired asked =>
    obtain ⟨rfl, ⟨_, outage, ⟨⟩⟩ | read⟩ := Disk.inquire_cases asked
    · exact absurd outage (truly _ _ acquired)
    · exact .inr ⟨read, rfl⟩

/-- A node that is opened over a file has the clients of the file. -/
theorem connections_of_openNode {group : GroupId} {firstChannel : ChannelId}
    {node : Node Mounted} {mounted written : Mounted}
    (opens : Node.openNode persistor group firstChannel mounted = (.ok node, written)) :
    node.connections = mounted.file.record.connections := by
  have described := Node.eq_of_openNode Persistor.faithful_flatFile opens
  have standing := Tenancy.standing_opened Persistor.faithful_flatFile (.vacant mounted) group
    firstChannel
  simp only [Tenancy.opened, Tenancy.store, opens] at standing
  rw [described]
  exact congrArg Prod.snd standing

/-- The clients of a node that is opened over a file are valid unless the file lists one with a
blank machine. -/
theorem isValid_iff_of_openNode {group : GroupId} {firstChannel : ChannelId} {node : Node Mounted}
    {written : Mounted} (opened : openIn owner dataDirectory server disk = (.ok file, after))
    (truly : IsReadTruly owner dataDirectory server disk)
    (opens : Node.openNode persistor group firstChannel ⟨file, after⟩ = (.ok node, written)) :
    (∀ client ∈ node.connections.toList, client.IsValid) ↔
      ∀ bytes document, after.tree.read (.ofPath file.path) = .ok bytes →
        Json.ofBytes bytes = some document → ¬ ClusterRecord.ListsBlankClient document := by
  rw [connections_of_openNode opens]
  rcases record_of_openIn truly opened with ⟨bytes, read, decoded⟩ | ⟨missing, fresh⟩
  · obtain ⟨document, found, decoded⟩ := Option.bind_eq_some_iff.mp decoded
    rw [ClusterRecord.isValid_iff_of_ofDocument decoded]
    refine ⟨fun unblank other text again parsed => ?_, fun all => all bytes document read found⟩
    cases read.symm.trans again
    cases found.symm.trans parsed
    exact unblank
  · simp [fresh, missing, ClusterRecord.fresh]

/-- A directory is opened in which a file holds a record and no lock file stands. -/
theorem openIn_of_file {place : Place} {mode fileMode : Nat} {bytes : ByteArray} {modified : Int}
    {record : ClusterRecord} (owner : LockOwner) (works : disk.Works)
    (there : disk.tree.locate false (.ofPath (directoryOf dataDirectory server)) =
      .ok (place, some (.directory mode)))
    (lockSound : (Route.ofPath
      (joinPath (directoryOf dataDirectory server) lockFileName)).isSound = true)
    (sound : (Route.ofPath
      (joinPath (directoryOf dataDirectory server) stateFileName)).isSound = true)
    (vacant : disk.tree.node? (place ++ [lockFileName]) = none)
    (stands : disk.tree.node? (place ++ [stateFileName]) = some (.file bytes fileMode modified))
    (decoded : decode bytes = some record) :
    ∃ file after, openIn owner dataDirectory server disk = (.ok file, after) ∧
      file.record = record := by
  obtain ⟨taken, acquired⟩ := acquire_of_there owner server works there lockSound vacant
  have working := works_of_acquire works acquired
  obtain ⟨-, -, furnished, found, furnishes, locked⟩ := acquire_ok acquired
  obtain ⟨left, entered⟩ := entersPath_of_locate there
  have enters := furnishes.retains.entersPath entered
  obtain rfl : place = found := enters.place_eq locked.enters.choose_spec
  obtain ⟨_, kept⟩ := furnishes.file_after stands
  have remains := locked.node (place ++ [stateFileName])
  rw [if_neg (by simp [stateFileName, lockFileName]), kept] at remains
  have read := (locked.retains.entersPath enters).read_joinPath isEntryName_stateFileName sound
    remains (by simp)
  refine ⟨⟨joinPath (directoryOf dataDirectory server) stateFileName, record,
    lockOf owner (directoryOf dataDirectory server) server⟩,
    { taken with operations := taken.operations + 1 }, ?_, rfl⟩
  simp only [openIn, acquired, working.inquire, read, decoded]

end FlatFile

/-- What is decoded from a text is valid as far as its texts are: a server always, an entity, an
address and a connection unless a blank class or machine is given for it, and the clients of a
record, or of a node that is opened over a file, unless one with a blank machine is listed. Valid or
not, every one of them is decoded from the text that it is written as. -/
theorem decoded_identifiers_are_valid_iff (text : String) (owner : LockOwner)
    (dataDirectory : String) (server : ServerId) (disk : Disk) :
    (∀ named, (Json.ofText text).bind ServerId.ofDocument = some named ↔
      ∃ name, Json.ofText text = some (.text name) ∧ ServerId.parse name = .ok named) ∧
    (∀ document, Json.ofText text = some document →
      (∀ id, EntityId.ofDocument document = some id →
        (id.IsValid ↔ ¬ EntityId.IsBlankIn document)) ∧
      (∀ descriptor, EntityDescriptor.ofDocument document = some descriptor →
        (descriptor.id.IsValid ↔ ¬ EntityDescriptor.IsBlankIn document)) ∧
      (∀ connection, ConnectionId.ofDocument document = some connection →
        (connection.IsValid ↔ ¬ ConnectionId.IsBlankIn document)) ∧
      ∀ record, ClusterRecord.ofDocument document = some record →
        ((∀ client ∈ record.connections.toList, client.IsValid) ↔
          ¬ ClusterRecord.ListsBlankClient document)) ∧
    (∀ file after group firstChannel node written,
      FlatFile.openIn owner dataDirectory server disk = (.ok file, after) →
      FlatFile.IsReadTruly owner dataDirectory server disk →
      Node.openNode FlatFile.persistor group firstChannel ⟨file, after⟩ = (.ok node, written) →
      ((∀ client ∈ node.connections.toList, client.IsValid) ↔
        ∀ bytes document, after.tree.read (.ofPath file.path) = .ok bytes →
          Json.ofBytes bytes = some document → ¬ ClusterRecord.ListsBlankClient document)) ∧
    (∀ id : EntityId,
      (Json.ofText (Json.compactText id.toDocument)).bind EntityId.ofDocument = some id) ∧
    (∀ descriptor : EntityDescriptor,
      (Json.ofText (Json.compactText descriptor.toDocument)).bind EntityDescriptor.ofDocument =
        some descriptor) ∧
    (∀ connection : ConnectionId,
      (Json.ofText (Json.compactText connection.toDocument)).bind ConnectionId.ofDocument =
        some connection) ∧
    ∀ record : ClusterRecord, FlatFile.decode (FlatFile.encode record) = some record := by
  have written {α : Type} {decode : Decoder α} {document : Document} {value : α}
      (plain : Json.isPlain document = true) (back : decode document = some value) :
      (Json.ofText (Json.compactText document)).bind decode = some value := by
    rw [Json.ofText_compactText plain, Option.bind_some, back]
  refine ⟨fun named => ?_, fun document _ =>
    ⟨fun id => EntityId.isValid_iff_of_ofDocument,
      fun descriptor => EntityDescriptor.isValid_iff_of_ofDocument,
      fun connection => ConnectionId.isValid_iff_of_ofDocument,
      fun record => ClusterRecord.isValid_iff_of_ofDocument⟩,
    fun file after group firstChannel node store opened truly opens =>
      FlatFile.isValid_iff_of_openNode opened truly opens,
    fun id => written rfl id.ofDocument_toDocument,
    fun descriptor => written rfl descriptor.ofDocument_toDocument,
    fun connection => written rfl connection.ofDocument_toDocument, FlatFile.decode_encode⟩
  cases Json.ofText text with
  | none => simp
  | some document => simp [ServerId.ofDocument_eq_some_iff]

/-- The record of a node with one client, whose machine has no name. -/
def namelessRecord : ClusterRecord :=
  { ClusterRecord.fresh with connections := .ofList [⟨"", .zero⟩] }

/-- A tree with a record in the directory of a server. -/
def keptTree (record : ClusterRecord) : FileTree :=
  ((FileTree.ofHome []).put ["server-1"] (.directory 0o700)).put ["server-1", stateFileName]
    (.file (FlatFile.encode record) 0o600 0)

/-- The name of the example server is that of an entry. -/
theorem isEntryName_server : IsEntryName "server-1" :=
  ⟨⟨by decide, by decide, by decide +kernel⟩, by decide +kernel, by decide⟩

/-- The directory of the example server stands in its tree. -/
theorem keptTree_node? (record : ClusterRecord) :
    (keptTree record).node? ["server-1"] = some (.directory 0o700) := by
  rw [keptTree, node?_put_of_ne _ _ (by simp), node?_put _ _ _ _ (by simp), if_pos rfl]

/-- The path of the directory leads to the directory. -/
theorem locate_keptTree (record : ClusterRecord) :
    (keptTree record).locate false (.ofPath (joinPath "/" "server-1")) =
      .ok (["server-1"], some (.directory 0o700)) := by
  rw [locate_eq_entry isEntryName_server,
    (entersPath_root _).entry_joinPath isEntryName_server (by decide +kernel), List.nil_append,
    keptTree_node?]

/-- The record that is kept in the directory is opened by whoever has the directory. -/
theorem openIn_keptTree (record : ClusterRecord) {server : ServerId}
    (located : (keptTree record).locate false (.ofPath (FlatFile.directoryOf "/" server)) =
      .ok (["server-1"], some (.directory 0o700)))
    (lockSound : (Route.ofPath
      (joinPath (FlatFile.directoryOf "/" server) lockFileName)).isSound = true)
    (sound : (Route.ofPath
      (joinPath (FlatFile.directoryOf "/" server) stateFileName)).isSound = true) :
    ∃ file after, FlatFile.openIn ⟨1, 0⟩ "/" server (.ofTree (keptTree record)) =
      (.ok file, after) ∧ file.record = record := by
  have vacant : (keptTree record).node? ["server-1", lockFileName] = none := by
    rw [keptTree, node?_put_of_ne _ _ (by decide), node?_put_of_ne _ _ (by decide)]
    rfl
  have stands : (keptTree record).node? ["server-1", stateFileName] =
      some (.file (FlatFile.encode record) 0o600 0) := by
    rw [keptTree, node?_put _ _ _ _ (by simp), if_pos rfl]
  exact FlatFile.openIn_of_file ⟨1, 0⟩ (fun _ => rfl) located lockSound sound vacant stands
    (FlatFile.decode_encode record)

/-- An entity without a class is decoded, and a client without a machine is in the node that is
opened over a file. -/
theorem nameless_client_is_opened :
    (∃ id : EntityId, ¬ id.IsValid ∧
      (Json.ofText (Json.compactText id.toDocument)).bind EntityId.ofDocument = some id) ∧
    ∃ file after node written,
      FlatFile.openIn ⟨1, 0⟩ "/" ⟨"server-1", by decide⟩ (.ofTree (keptTree namelessRecord)) =
        (.ok file, after) ∧
      Node.openNode FlatFile.persistor .null .zero ⟨file, after⟩ = (.ok node, written) ∧
      ∃ client ∈ node.connections.toList, ¬ client.IsValid := by
  obtain ⟨-, -, -, entities, -⟩ := decoded_identifiers_are_valid_iff "" ⟨1, 0⟩ "/"
    ⟨"server-1", by decide⟩ (.ofTree (keptTree namelessRecord))
  refine ⟨⟨⟨"", "name"⟩, by rw [EntityId.isValid_iff]; decide, entities _⟩, ?_⟩
  obtain ⟨file, after, opened, kept⟩ := @openIn_keptTree namelessRecord ⟨"server-1", by decide⟩
    (locate_keptTree _) (by decide +kernel) (by decide +kernel)
  have own : file.record.groupId = .null := by rw [kept]; rfl
  obtain ⟨nextChannel, opens⟩ := Node.openNode_of_own
    (Persistor.answers_ofRecord (·.file.record) FlatFile.put ⟨file, after⟩) own .zero
  have clients := FlatFile.connections_of_openNode opens
  refine ⟨file, after, _, _, opened, opens, ⟨"", .zero⟩, ?_, ?_⟩
  · rw [clients, kept]
    exact SortedSet.mem_ofList_iff.mpr List.mem_cons_self
  · rw [ConnectionId.isValid_iff]
    decide

end Standby
