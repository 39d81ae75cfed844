import Standby.Document.Build
import Standby.Replication.Rehearsal
import Standby.Replication.Trace
import Standby.Text.Hex

/-!
# Reports of sessions

A report is a document of the state of a session or of what happened around it. Payloads are
reported in hexadecimal digits.
-/
namespace Standby

open Document

/-- Bytes are reported by their digits. -/
def reportBytes (bytes : ByteArray) : Document := Text.hexBytes bytes.toList

/-- An acknowledgement is reported with the server it is for. -/
def Ack.report (target : ServerId) : Ack → Document
  | .received sequence => .list [target.name, sequence.number, "received"]
  | .completed sequence success =>
    .list [target.name, sequence.number, "completed", success]

/-- The decision on an item is reported by its name. -/
def Admission.report : Admission → Document
  | .applied => .list ["Applied"]
  | .deferred depth => .list ["Deferred", depth]
  | .skipped => .list ["Skipped"]
  | .syncControl => .list ["SyncControl"]
  | .syncCompleted => .list ["SyncCompleted"]

/-- The decision on a message for a deferred slot is reported by its name. -/
def DeferralDecision.report : DeferralDecision → Document
  | .deferred depth => .table [("deferred", depth)]
  | .notDeferring message => .table [("not_deferring", message.sequence.number)]
  | .overflow kind limit => .table [("overflow", kind.name), ("limit", limit)]

/-- What comes with a request to a rehearsed entity is reported by its kind and content. -/
def RequestBody.report : RequestBody String String → Document
  | .none => .null
  | .config bytes => .list ["config", reportBytes bytes]
  | .message content => .list ["message", content]
  | .chunk content => .list ["sync", content]

/-- A delivery is reported by the parts of its request. -/
def Delivery.report (delivery : Delivery RehearsedEntity String String) : Document :=
  let request := delivery.request
  .table [("e", shown delivery.handle.id), ("a", request.action.name),
    ("k", request.key.number),
    ("seq", ofOption (fun sequence => sequence.number) request.sequence),
    ("src", shown request.source), ("client", request.client.number),
    ("txn", request.transaction.number), ("body", delivery.body.report),
    ("payload", delivery.body.inspect), ("silent", delivery.silent),
    ("sync", request.action.isSync)]

variable {host : Host}

/-- What the manager of entities did is reported by its kind and arguments. -/
def Event.report? : Event host → Option Document
  | .created id version config removable fault =>
    some (.list [if fault.isSome then "refused" else "created", shown id, version,
      reportBytes config, removable])
  | .syncFinished bytes _ => some (.list ["sync_complete", reportBytes bytes])
  | _ => none

/-- The deliveries and acknowledgements of a trace, as they happened or in canonical order. -/
def Event.outcomes {transmit : Nat → ServerId → Ack → Except TransportFault Unit}
    (isCanonical : Bool) (trace : List (Event (Rehearsal.host transmit))) :
    List (String × Document) :=
  let deliveries := deliveries trace
  let acks := acks trace
  [("obs", listOfValues Delivery.report (if isCanonical then canonical deliveries else deliveries)),
    ("acks", listOfValues (fun (target, ack) => Ack.report target ack)
      (if isCanonical then acksInSequence acks else acks))]

/-- The state of a session is reported with its counters. -/
def Session.report (session : Session host) : Document :=
  let stats := session.stats
  .table [("phase", session.phase.name), ("syncing", session.isSyncing),
    ("open", ofOption shown session.openId),
    ("open_key", ofOption (fun key => key.number) session.openKey),
    ("stats", .list [stats.applied, stats.deferred, stats.replayed, stats.syncPayloads,
      stats.decodeFailures, stats.entitiesCreated])]

end Standby
