import Standby.Document.Lenient
import Standby.Replication.Rehearsal
import Standby.Text.Hex

/-!
# Scripts

A script is a document of what happens in a rehearsal: the items of the stream, what the entities
do, and what becomes of acknowledgements. What a script leaves out has a default, and the
identifiers in it may be refused.
-/
namespace Standby.Script

/-- Bytes are a text in UTF-8, hexadecimal digits or a repeated filling. -/
def bytes (script : Document) (name : String) : ByteArray :=
  match script.get name with
  | .text value => value.toUTF8
  | .table entries =>
    let table : Document := .table entries
    match table.get "hex" with
    | .text hex => ⟨((Text.unhexBytes? hex.toList).getD []).toArray⟩
    | _ =>
      let count := (table.wordAt "n" 0).toNat
      (String.join (List.replicate count (table.textAt "fill" "x"))).toUTF8
  | _ => .empty

/-- An entity is a list of its class and its name. -/
def entityId (parts : Document) : Except InvalidId EntityId :=
  let part (place : Nat) (default : String) : String :=
    (parts.items[place]?.bind (·.text?)).getD default
  EntityId.ofParts (part 0 "C") (part 1 "foo")

/-- The entity that a step is about. -/
def entity (step : Document) : Except InvalidId EntityId := entityId (step.get "e")

/-- A server by its name. -/
def server (step : Document) (name default : String) : Except InvalidId ServerId :=
  ServerId.parse (step.textAt name default)

/-- The key that a step is about. -/
def key (step : Document) : ConcurrencyKey := ⟨.ofInt (step.intAt "k" 1)⟩

/-- The version that a step is about. -/
def version (step : Document) : UInt64 := step.wordAt "v" 1

/-- The kind of operation of a name; any other name invokes. -/
def operationKind : String → OperationKind
  | "create" => .create
  | "destroy" => .destroy
  | "noop" => .noop
  | "reconfigure" => .reconfigure
  | _ => .invoke

/-- A live operation; its transaction is numbered as the operation unless it says otherwise. -/
def message (step : Document) : Except InvalidId ReplicationMessage := do
  let id ← entity step
  let source ← server step "src" "active-1"
  let sequence := step.wordAt "seq" 0
  return {
    sequence := ⟨sequence⟩, entity := ⟨id, ⟨step.wordAt "ci" 0⟩, version step⟩, key := key step
    kind := operationKind (step.textAt "kind" ""), source, client := ⟨step.wordAt "client" 7⟩
    transaction := ⟨.ofInt (step.intAt "txn" sequence.toInt64.toInt)⟩
    oldestTransaction := ⟨.ofInt (step.intAt "old" 0)⟩, payload := bytes step "p" }

/-- An item of the stream; other steps are none. -/
def item? (step : Document) : Option (Except InvalidId StreamItem) :=
  let about (make : EntityId → SyncMessage) : Option (Except InvalidId StreamItem) :=
    some ((entity step).map fun id => .sync (make id))
  match step.textAt "do" "" with
  | "start_sync" => some (.ok (.sync .startSync))
  | "start_entity" =>
    about fun id =>
      .startEntity id (version step) (bytes step "p") (step.boolAt "new" true)
  | "start_key" => about fun id => .startKey id (version step) (key step)
  | "payload" => about fun id => .payload id (version step) (key step) (bytes step "p")
  | "end_key" => about fun id => .endKey id (version step) (key step)
  | "end_entity" => about fun id => .endEntity id (version step)
  | "end_sync" => some (.ok (.sync (.endSync (bytes step "p"))))
  | "msg" => some ((message step).map .replicate)
  | _ => none

/-- The limits of a session. -/
def limits (script : Document) : Limits :=
  let limits := script.get "limits"
  { deferredEvents := limits.wordAt "events" Limits.standard.deferredEvents
    deferredBytes := limits.wordAt "bytes" Limits.standard.deferredBytes
    syncPayloadBytes := limits.wordAt "payload" Limits.standard.syncPayloadBytes }

/-- The behaviour of a name; any other name carries requests out. -/
def behaviour : String → Behaviour
  | "fail" => .fail
  | "panic" => .breakDown
  | "forget" => .forget
  | "received" => .receive
  | "retire" => .retire
  | "hold" => .hold
  | _ => .complete

/-- Change a rehearsal: have entities, take some away, refuse some, make some again, and say what
they do. Entities of refused names are passed over. -/
def direct (script : Document) (rehearsal : Rehearsal) : Rehearsal :=
  let entities (name : String) : List RehearsedEntity :=
    (script.itemsAt name).filterMap fun parts =>
      (entityId parts).toOption.map fun id => ⟨id, version script⟩
  let rehearsal := (entities "existing").foldl Rehearsal.register rehearsal
  let rehearsal := (entities "remove").foldl Rehearsal.remove rehearsal
  let rehearsal := (script.textsAt "refuse").foldl Rehearsal.refuse rehearsal
  let rehearsal := (script.textsAt "allow").foldl Rehearsal.allow rehearsal
  let rehearsal := (script.get "behave").entries.foldl
    (fun rehearsal (display, how) => rehearsal.direct display (behaviour (how.text?.getD "")))
    rehearsal
  { rehearsal with failsToFinish := script.boolAt "fail_complete" rehearsal.failsToFinish }

/-- The rehearsal that a script begins with. -/
def rehearsal (script : Document) : Rehearsal :=
  direct script (.blank (script.boolAt "versioned" false))

/-- The fate of acknowledgements, by the servers they are for. -/
def transmit (script : Document) (_sent : Nat) (target : ServerId) (_ack : Ack) :
    Except TransportFault Unit :=
  match (script.get "ack_fail").get target.name with
  | .null => .ok ()
  | .text "closed" => .error (.closed target)
  | .text "io" => .error (.io (.other "injected"))
  | _ => .error (.unreachable target "injected")

/-- The host of a script. -/
abbrev host (script : Document) : Host := Rehearsal.host (transmit script)

/-- Requests are carried out at once unless the script has lanes for them. -/
def isInline (script : Document) : Bool := script.wordAt "workers" 0 == 0

/-- The session that a script begins with. -/
def session (script : Document) : Except InvalidId (Session (host script)) :=
  (server script "source" "active-1").map fun source =>
    .start source (limits script) (if isInline script then .inline else .lanes) (rehearsal script)

/-- The way of a name in which a completion is given up. -/
def settlement? : String → Option Settlement
  | "complete" => some .complete
  | "fail" => some .fail
  | "drop" => some .drop
  | "retire" => some .retire
  | _ => none

/-- What a step does with a completion that was held: it gives it up in some way, or it reports the
arrival twice and carries the request out. -/
def heldUses (step : Document) (ticket : Ticket) : List CompletionUse :=
  let how := step.textAt "how" ""
  let last : CompletionUse := .settle ticket ((settlement? how).getD .complete)
  if how == "received" then [.received ticket, .received ticket, last] else [last]

/-- A request for the lanes. A silent one has no sequence number and reports nothing. -/
def job {script : Document} (step : Document) :
    Except InvalidId (ApplyJob (host script)) := do
  let id ← entity step
  let source ← server step "src" "active-1"
  let isSilent := step.boolAt "silent" false
  let sequence : SequenceNumber := ⟨step.wordAt "seq" 0⟩
  let content := step.textAt "p" ""
  let body : RequestBody String String :=
    match step.textAt "body" "" with
    | "config" => .config (bytes step "p")
    | "message" => .message content
    | "sync" => .chunk content
    | _ => .none
  let name := step.textAt "a" ""
  let request : EntityRequest :=
    { action := (EntityAction.all.find? fun action => action.name == name).getD .invoke, source
      client := ⟨step.wordAt "client" 7⟩, transaction := ⟨.ofInt (step.intAt "txn" (-1))⟩
      key := key step, sequence := if isSilent then none else some sequence }
  return {
    handle := ⟨id, 1⟩, request, body
    completion := if isSilent then .silent else .ofSender source sequence }

end Standby.Script
