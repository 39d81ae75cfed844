import Standby.Cluster.FlatFile
import Standby.Proofs.Identity.Spelling
import Standby.Proofs.Json.Spelling

/-!
# A record survives its file

Every part of a record is decoded from the document that it is stored as, so the record is decoded
from its document, and from the bytes of its file (`decode_encode`), whatever its identifiers,
connections and stripes are.
-/
namespace Standby

open Document Json

/-- A stored state is read back. -/
theorem LifecycleState.ofDocument_toDocument (state : LifecycleState) :
    ofDocument state.toDocument = some state := by
  cases state <;> rfl

/-- A stored entry is read back. -/
theorem StripeEntry.ofDocument_toDocument (entry : StripeEntry) :
    ofDocument entry.toDocument = some entry := by
  have parts : fields .whole ["group", "stripe"] entry.toDocument =
      some [some entry.group.toDocument, some entry.stripe.toDocument] :=
    fields_table .whole (by simp)
  rw [ofDocument, parts]
  simp [required, GroupId.ofDocument_toDocument, StripeId.ofDocument_toDocument]

/-- A stored value that may be missing is read back, if no value is stored as a missing one. -/
theorem optional_ofOption {α : Type} {decode : Decoder α} {encode : α → Document}
    (back : ∀ value, decode (encode value) = some value) (filled : ∀ value, encode value ≠ .null)
    (value : Option α) : Document.optional decode (ofOption encode value) = some value := by
  cases value with
  | none => rfl
  | some value =>
    rw [ofOption, Document.optional, back, Option.map_some]
    exact filled value

/-- Documents that are each without foreign data are so together. -/
theorem Json.arePlain_map {α : Type} {encode : α → Document}
    (plain : ∀ value, isPlain (encode value) = true) (values : List α) :
    arePlain (values.map encode) = true := by
  induction values with
  | nil => rfl
  | cons value values ih => rw [List.map_cons, arePlain, plain, ih, Bool.and_self]

namespace ClusterRecord

/-- A stored record is read back. -/
theorem ofDocument_toDocument (record : ClusterRecord) :
    ofDocument record.toDocument = some record := by
  have parts : fields .partly ["stripe_id", "group_id", "state", "connections", "stripe_ids"]
      record.toDocument = some [some (ofOption StripeId.toDocument record.stripeId),
        some record.groupId.toDocument, some record.state.toDocument,
        some (.list (record.connections.toList.map ConnectionId.toDocument)),
        some (.list (record.stripeIds.map StripeEntry.toDocument))] :=
    fields_table .partly (by simp)
  have stripe := optional_ofOption StripeId.ofDocument_toDocument (fun _ => nofun) record.stripeId
  have connections := listOf_map ConnectionId.ofDocument_toDocument record.connections.toList
  have stripes := listOf_map StripeEntry.ofDocument_toDocument record.stripeIds
  rw [ofDocument, parts]
  simp [orDefault, stripe, GroupId.ofDocument_toDocument, LifecycleState.ofDocument_toDocument,
    connections, stripes, SortedSet.ofList_toList]

/-- A record is stored without foreign data. -/
theorem isPlain_toDocument (record : ClusterRecord) : isPlain record.toDocument = true := by
  have stripe : isPlain (ofOption StripeId.toDocument record.stripeId) = true := by
    cases record.stripeId <;> rfl
  have connections : arePlain (record.connections.toList.map ConnectionId.toDocument) = true :=
    arePlain_map (fun _ => rfl) _
  have stripes : arePlain (record.stripeIds.map StripeEntry.toDocument) = true :=
    arePlain_map (fun _ => rfl) _
  simp [toDocument, isPlain, areEntriesPlain, stripe, connections, stripes,
    GroupId.toDocument, LifecycleState.toDocument]

end ClusterRecord

namespace FlatFile

/-- The bytes of a record's file are read as the document of the record. -/
theorem ofBytes_encode (record : ClusterRecord) :
    ofBytes (encode record) = some record.toDocument := by
  rw [ofBytes, encode, symbols_toUTF8]
  exact ofText_prettyText record.isPlain_toDocument

/-- The bytes of a record's file hold the record. -/
theorem decode_encode (record : ClusterRecord) : decode (encode record) = some record := by
  rw [decode, ofBytes_encode, Option.bind_some, ClusterRecord.ofDocument_toDocument]

end FlatFile
end Standby
