import Standby.Replication.Surroundings

/-!
# Lanes

Requests run beside the session on a fixed number of lanes. A lane is a queue with one worker,
and the requests of one slot always go to one lane, so they keep their order. A barrier request
goes to every lane: its workers wait for each other, one of them runs the request, and none goes
on before it has run.

The lanes are a transition system. A move sends a task to its lane, lets a worker take or finish
a task, lets all workers meet at a barrier or part from it, or lets a worker end after the lanes
were shut down; every schedule of the workers is a sequence of moves.
-/
namespace Standby

/-- A submitted request and the number of requests submitted before it. -/
structure Submission (Job : Type) where
  /-- The number of requests submitted before. -/
  index : Nat
  /-- The request. -/
  job : Job
  deriving DecidableEq

/-- A task in the queue of a lane. -/
inductive LaneTask (Job : Type) where
  /-- Run a request of this lane. -/
  | run (submission : Submission Job)
  /-- Meet the other lanes at a barrier. -/
  | meet (submission : Submission Job)
  deriving DecidableEq

/-- What the worker of a lane is doing. -/
inductive LaneWorker (Job : Type) where
  /-- It can take the next task. -/
  | idle
  /-- It runs a request of its own lane. -/
  | running (submission : Submission Job)
  /-- It waits at a barrier for the other lanes. -/
  | waiting (submission : Submission Job)
  /-- It runs the request of a barrier. -/
  | leading (submission : Submission Job)
  /-- It waits until the request of a barrier has run. -/
  | leaving (submission : Submission Job)
  /-- It has ended. -/
  | ended
  deriving DecidableEq

/-- A fixed number of lanes. -/
structure Lanes (n : Nat) (Job : Type) where
  /-- Tasks on their way to their lanes, the oldest first. -/
  outbox : List (Fin n × LaneTask Job)
  /-- The queues of the lanes, the oldest task first. -/
  queues : Vector (List (LaneTask Job)) n
  /-- The workers of the lanes. -/
  workers : Vector (LaneWorker Job) n
  /-- The number of requests submitted. -/
  submitted : Nat
  /-- The requests that began to run, the latest first. -/
  started : List (Submission Job)
  /-- The requests that have run, the latest first. -/
  finished : List (Submission Job)
  /-- Nothing more is submitted. -/
  isShut : Bool

/-- A move of the lanes. -/
inductive LaneMove (n : Nat) where
  /-- The next task on its way reaches its lane. -/
  | send
  /-- A worker takes the next task of its lane. -/
  | take (lane : Fin n)
  /-- A worker has run its request. One that broke down has run too: its worker goes on. -/
  | finish (lane : Fin n)
  /-- All workers have reached a barrier; one of them begins to run its request. -/
  | meet (leader : Fin n)
  /-- The request of a barrier has run; all workers leave the barrier. -/
  | part
  /-- A worker ends. -/
  | leave (lane : Fin n)

namespace Lanes

variable {n : Nat} {Job : Type}

/-- Lanes without work. -/
def idle (n : Nat) (Job : Type) : Lanes n Job :=
  { outbox := [], queues := .replicate n [], workers := .replicate n .idle, submitted := 0,
    started := [], finished := [], isShut := false }

/-- Submit a request: a barrier to every lane, another request to the lane of its slot. -/
def submit (lanes : Lanes n Job) (barrier : Bool) (lane : Fin n) (job : Job) : Lanes n Job :=
  let submission : Submission Job := ⟨lanes.submitted, job⟩
  let tasks :=
    if barrier then (List.finRange n).map fun lane => (lane, LaneTask.meet submission)
    else [(lane, LaneTask.run submission)]
  { lanes with outbox := lanes.outbox ++ tasks, submitted := lanes.submitted + 1 }

/-- Submit nothing more. -/
def shut (lanes : Lanes n Job) : Lanes n Job := { lanes with isShut := true }

/-- A worker waits at the barrier of a submission. -/
def waitsAt (index : Nat) : LaneWorker Job → Bool
  | .waiting submission => submission.index == index
  | _ => false

/-- A worker is leaving a barrier. -/
def isLeaving : LaneWorker Job → Bool
  | .leaving _ => true
  | _ => false

/-- The lanes after a move, if the move is possible. -/
def step? (lanes : Lanes n Job) : LaneMove n → Option (Lanes n Job)
  | .send =>
    match lanes.outbox with
    | [] => none
    | (lane, task) :: outbox =>
      some { lanes with
        outbox, queues := lanes.queues.set lane (lanes.queues[lane] ++ [task]) }
  | .take lane =>
    match lanes.workers[lane], lanes.queues[lane] with
    | .idle, .run submission :: rest =>
      some { lanes with
        queues := lanes.queues.set lane rest
        workers := lanes.workers.set lane (.running submission)
        started := submission :: lanes.started }
    | .idle, .meet submission :: rest =>
      some { lanes with
        queues := lanes.queues.set lane rest
        workers := lanes.workers.set lane (.waiting submission) }
    | _, _ => none
  | .finish lane =>
    match lanes.workers[lane] with
    | .running submission =>
      some { lanes with
        workers := lanes.workers.set lane .idle
        finished := submission :: lanes.finished }
    | .leading submission =>
      some { lanes with
        workers := lanes.workers.set lane (.leaving submission)
        finished := submission :: lanes.finished }
    | _ => none
  | .meet leader =>
    match lanes.workers[leader] with
    | .waiting submission =>
      if lanes.workers.all (waitsAt submission.index) then
        some { lanes with
          workers := (Vector.replicate n (.leaving submission)).set leader (.leading submission)
          started := submission :: lanes.started }
      else none
    | _ => none
  | .part =>
    if 0 < n ∧ lanes.workers.all isLeaving then
      some { lanes with workers := .replicate n .idle }
    else none
  | .leave lane =>
    match lanes.workers[lane], lanes.queues[lane] with
    | .idle, [] =>
      if lanes.isShut ∧ lanes.outbox.isEmpty then
        some { lanes with workers := lanes.workers.set lane .ended }
      else none
    | _, _ => none

/-- The moves in the order in which a plain schedule tries them. -/
def moves (n : Nat) : List (LaneMove n) :=
  .send :: .part :: (List.finRange n).flatMap fun lane =>
    [.finish lane, .take lane, .meet lane, .leave lane]

/-- The lanes after a plain schedule of at most so many moves. -/
def settle : Nat → Lanes n Job → Lanes n Job
  | 0, lanes => lanes
  | fuel + 1, lanes =>
    match (moves n).findSome? lanes.step? with
    | none => lanes
    | some next => settle fuel next

/-- The lanes after all their work under a plain schedule. A barrier takes at most three moves of
each lane and three more, so the bound is never met. -/
def drain (lanes : Lanes n Job) : Lanes n Job :=
  lanes.settle ((lanes.submitted + 1) * (3 * n + 3))

end Lanes

/-- The number of lanes for a number of wanted workers: there is always one. -/
def laneCount (workers : Nat) : Nat := max workers 1

/-- There is a lane for any number of wanted workers. -/
theorem laneCount_pos (workers : Nat) : 0 < laneCount workers := by unfold laneCount; omega

/-- The lane of a slot: a fixed function of its names and its number. -/
def Slot.lane (workers : Nat) (slot : Slot) : Fin (laneCount workers) :=
  let letters := (slot.entity.display ++ "#" ++ toString slot.key).toList
  let code := letters.foldl (fun code letter => code * 31 + letter.toNat) 0
  ⟨code % laneCount workers, Nat.mod_lt _ (laneCount_pos workers)⟩

/-- The inspection of lanes by their number. -/
def inspectLanes (workers : Nat) : String :=
  Text.inspectRecord "KeyedExecutor" [("workers", toString (laneCount workers))]

namespace Surroundings

variable {host : Host}

/-- Submit requests to lanes in order. -/
def submitAll (workers : Nat) (jobs : List (ApplyJob host)) :
    Lanes (laneCount workers) (ApplyJob host) :=
  jobs.foldl (fun lanes job => lanes.submit job.isBarrier (job.slot.lane workers) job)
    (.idle (laneCount workers) (ApplyJob host))

/-- Let the waiting requests run on lanes until none waits. -/
def drainLanes (workers : Nat) (around : Surroundings host) : Surroundings host :=
  let order := (submitAll workers around.backlog.toList).drain.started.reverse
  order.foldl (fun around submission => around.run submission.job) { around with backlog := #[] }

end Surroundings
end Standby
