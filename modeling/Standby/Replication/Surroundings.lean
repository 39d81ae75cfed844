import Standby.Replication.Host

/-!
# The surroundings of a session

Requests to entities and acknowledgements leave the session for its surroundings: the world of
the host, the completions that entities still hold, the requests that wait for a lane, and a
trace of everything that happened. Whether an acknowledgement is delivered is on the trace and
changes nothing else.
-/
namespace Standby

variable {host : Host}

/-- A request to an entity with its completion. -/
structure ApplyJob (host : Host) where
  /-- The entity. -/
  handle : host.Handle
  /-- What is asked. -/
  request : EntityRequest
  /-- What comes with it. -/
  body : RequestBody host.Message host.Chunk
  /-- How it is reported. -/
  completion : Completion

namespace ApplyJob

/-- The slot whose order the request keeps. -/
def slot (job : ApplyJob host) : Slot := ⟨host.entityOf job.handle, job.request.key⟩

/-- A request that is ordered against those of every lane: the brackets of an entity's copy and
the operations of the universal key. -/
def isBarrier (job : ApplyJob host) : Bool :=
  job.request.action == .syncEntityStart || job.request.action == .syncEntityEnd
    || job.request.key == .universal

/-- The inspection of a request with its completion. -/
def inspect (job : ApplyJob host) : String :=
  Text.inspectRecord "ApplyJob"
    [("entity", (host.entityOf job.handle).inspect), ("request", job.request.inspect),
      ("payload", job.body.inspect)]

end ApplyJob

/-- Something that happened around a session. -/
inductive Event (host : Host) where
  /-- An entity was made, or could not be made. -/
  | created (entity : EntityId) (version : UInt64) (config : ByteArray) (removable : Bool)
      (fault : Option EntityFault)
  /-- A request was handed to its entity. -/
  | delivered (delivery : Delivery host.Handle host.Message host.Chunk)
  /-- An entity used a completion. -/
  | used (use : CompletionUse)
  /-- An acknowledgement was sent, and arrived or not. -/
  | acked (target : ServerId) (ack : Ack) (fate : Except TransportFault Unit)
  /-- The work at the end of a copy was done, or failed. -/
  | syncFinished (bytes : ByteArray) (fault : Option EntityFault)
  /-- A live operation was processed: carried out, acknowledged outright, or skipped. -/
  | processed (message : ReplicationMessage) (skipped : Bool)

/-- Everything around a session that it acts on. -/
structure Surroundings (host : Host) where
  /-- The world of the host. -/
  world : host.World
  /-- The completions that were not given up, by the numbers of their deliveries. -/
  pending : List (Ticket × Completion)
  /-- The number of the next delivery. -/
  nextTicket : Ticket
  /-- The number of acknowledgements sent. -/
  acksSent : Nat
  /-- The requests that wait for a lane, the oldest first. -/
  backlog : Array (ApplyJob host)
  /-- What happened, the oldest first. -/
  trace : Array (Event host)

/-- How requests get to their entities. -/
inductive Execution where
  /-- At once, before the session goes on. -/
  | inline
  /-- Through lanes that run beside the session. -/
  | lanes
  deriving DecidableEq, Inhabited, Repr

namespace Surroundings

/-- The surroundings of a session that has not begun. -/
def ofWorld (world : host.World) : Surroundings host :=
  { world, pending := [], nextTicket := 0, acksSent := 0, backlog := #[], trace := #[] }

/-- Put something on the trace. -/
def note (around : Surroundings host) (event : Event host) : Surroundings host :=
  { around with trace := around.trace.push event }

/-- Send an acknowledgement. One that does not arrive is not sent again. -/
def send (around : Surroundings host) (target : ServerId) (ack : Ack) : Surroundings host :=
  let fate := host.transmit around.acksSent target ack
  { around with acksSent := around.acksSent + 1 }.note (.acked target ack fate)

/-- Send acknowledgements in order. -/
def sendAll (around : Surroundings host) (target : ServerId) (acks : List Ack) :
    Surroundings host :=
  acks.foldl (fun around ack => around.send target ack) around

/-- Send what a completion reports. -/
def report (around : Surroundings host) (completion : Completion) (acks : List Ack) :
    Surroundings host :=
  match completion.target? with
  | none => around
  | some target => around.sendAll target acks

/-- Give a completion up that no entity ever had. -/
def settle (around : Surroundings host) (completion : Completion) (how : Settlement) :
    Surroundings host :=
  around.report completion (completion.settle how).1

/-- Let an entity use a completion that was not given up; any other use has no effect. -/
def use (around : Surroundings host) (action : CompletionUse) : Surroundings host :=
  match around.pending.lookup action.ticket with
  | none => around
  | some completion =>
    match action with
    | .received ticket =>
      let (acks, completion) := completion.receive
      let pending := around.pending.map fun entry =>
        if entry.1 = ticket then (ticket, completion) else entry
      { around with pending }.note (.used action) |>.report completion acks
    | .settle ticket how =>
      let pending := around.pending.filter fun entry => entry.1 != ticket
      { around with pending }.note (.used action) |>.settle completion how

/-- Hand a request to its entity and let the entity use completions. -/
def run (around : Surroundings host) (job : ApplyJob host) : Surroundings host :=
  let delivery : Delivery host.Handle host.Message host.Chunk :=
    { handle := job.handle, request := job.request, body := job.body,
      ticket := around.nextTicket, silent := job.completion.isSilent }
  let (uses, world) := host.deliver around.world delivery
  let around := { around with
    world, nextTicket := around.nextTicket + 1,
    pending := (around.nextTicket, job.completion) :: around.pending }
  uses.foldl use (around.note (.delivered delivery))

/-- Hand a request on: to its entity, or to the lanes. -/
def execute (execution : Execution) (around : Surroundings host) (job : ApplyJob host) :
    Surroundings host :=
  match execution with
  | .inline => around.run job
  | .lanes => { around with backlog := around.backlog.push job }

/-- Find an entity, or make it and put that on the trace. The flag says that it was made. -/
def findOrCreate (around : Surroundings host) (entity : EntityId) (version : UInt64)
    (config : ByteArray) : Except EntityFault (host.Handle × Bool) × Surroundings host :=
  match host.find around.world entity version with
  | some handle => (.ok (handle, false), around)
  | none =>
    let (made, world) := host.create around.world entity version config true
    let around := { around with world }
    match made with
    | .ok handle => (.ok (handle, true), around.note (.created entity version config true none))
    | .error fault =>
      (.error fault, around.note (.created entity version config true (some fault)))

/-- Do the work at the end of a copy. -/
def finishSync (around : Surroundings host) (bytes : ByteArray) :
    Except EntityFault Unit × Surroundings host :=
  let (done, world) := host.finishSync around.world bytes
  let fault := match done with
    | .ok _ => none
    | .error fault => some fault
  (done, { around with world }.note (.syncFinished bytes fault))

end Surroundings
end Standby
