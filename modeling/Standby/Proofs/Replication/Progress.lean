import Mathlib
import Standby.Proofs.Replication.Precedence
import Standby.Proofs.Replication.Run

/-!
# Progress of the lanes

While a submitted request has not run, some move of the lanes is possible: a task can be sent or
taken, or a request ends, or all workers wait at the barrier that is next in every lane. Every
move takes something off the work that is left (`Lanes.movesLeft`), so every schedule ends, and it
ends with all requests run. Once the lanes are shut it ends with all workers ended.
-/
namespace Standby

variable {n : Nat} {Job : Type}

/-- The moves that a task in a queue takes at most. -/
def LaneTask.moves : LaneTask Job → Nat
  | run _ => 2
  | meet _ => 4

/-- The moves that a worker makes at most before it takes a task, and to end. -/
def LaneWorker.moves : LaneWorker Job → Nat
  | idle => 1
  | running _ => 2
  | waiting _ => 4
  | leading _ => 3
  | leaving _ => 2
  | ended => 0

namespace Lanes

variable {lanes next : Lanes n Job} {barrier : Job → Bool} {route : Job → Fin n} {jobs : List Job}
  {move : LaneMove n}

/-- The moves that the work of a lane takes at most. -/
def load (lanes : Lanes n Job) (lane : Fin n) : Nat :=
  (lanes.workers.get lane).moves + ((lanes.queues.get lane).map LaneTask.moves).sum +
    ((lanes.outbox.filter (·.1 = lane)).map fun sent => sent.2.moves + 1).sum

/-- The moves that all work takes at most. -/
def movesLeft (lanes : Lanes n Job) : Nat := ∑ lane : Fin n, lanes.load lane

/-- Less work of one lane, and no more of any, is less work. -/
theorem movesLeft_lt (none : ∀ lane, next.load lane ≤ lanes.load lane) (lane : Fin n)
    (less : next.load lane < lanes.load lane) : next.movesLeft < lanes.movesLeft :=
  Finset.sum_lt_sum (fun lane _ => none lane) ⟨lane, Finset.mem_univ lane, less⟩

/-- When one lane changes and its work gets less, the work gets less. -/
theorem movesLeft_lt_of_lane (lane : Fin n) (less : next.load lane < lanes.load lane)
    (same : ∀ other, other ≠ lane → next.load other = lanes.load other) :
    next.movesLeft < lanes.movesLeft := by
  refine movesLeft_lt (fun other => ?_) lane less
  by_cases own : other = lane
  · exact own ▸ Nat.le_of_lt less
  · exact Nat.le_of_eq (same other own)

/-- Every move takes something off the work that is left. -/
theorem Moved.movesLeft_lt (moved : lanes.Moved move next) : next.movesLeft < lanes.movesLeft := by
  cases moved with
  | @sent lane task rest outbox =>
    refine movesLeft_lt_of_lane lane ?_ fun other differs => ?_
    · simp [load, outbox, get_set_lane]
      omega
    · simp [load, outbox, get_set_lane, differs, Ne.symm differs]
  | @began lane submission rest idle queue =>
    refine movesLeft_lt_of_lane lane ?_ fun other differs => ?_
    · simp [load, idle, queue, get_set_lane, LaneWorker.moves, LaneTask.moves]
    · simp [load, get_set_lane, differs]
  | @arrived lane submission rest idle queue =>
    refine movesLeft_lt_of_lane lane ?_ fun other differs => ?_
    · simp [load, idle, queue, get_set_lane, LaneWorker.moves, LaneTask.moves]
    · simp [load, get_set_lane, differs]
  | @ran lane submission running =>
    refine movesLeft_lt_of_lane lane ?_ fun other differs => ?_
    · simp [load, running, get_set_lane, LaneWorker.moves]
    · simp [load, get_set_lane, differs]
  | @led lane submission leading =>
    refine movesLeft_lt_of_lane lane ?_ fun other differs => ?_
    · simp [load, leading, get_set_lane, LaneWorker.moves]
    · simp [load, get_set_lane, differs]
  | @gathered leader submission waiting all =>
    have wait (lane : Fin n) : (lanes.workers.get lane).moves = 4 := by
      have same := all lane
      cases worker : lanes.workers.get lane with
      | waiting elsewhere => rfl
      | _ =>
        rw [worker] at same
        contradiction
    refine Lanes.movesLeft_lt (fun lane => ?_) leader ?_
    · simp only [load, wait lane, get_set_lane]
      split <;> simp [LaneWorker.moves]
    · simp only [load, wait leader, get_set_lane]
      simp [LaneWorker.moves]
  | parted some all =>
    have leave (lane : Fin n) : (lanes.workers.get lane).moves = 2 := by
      have same := all lane
      cases worker : lanes.workers.get lane with
      | leaving submission => rfl
      | _ =>
        rw [worker] at same
        contradiction
    refine Lanes.movesLeft_lt (fun lane => ?_) ⟨0, some⟩ ?_
    · simp only [load, leave lane, get_replicate_lane]
      simp [LaneWorker.moves]
    · simp only [load, leave ⟨0, some⟩, get_replicate_lane]
      simp [LaneWorker.moves]
  | @ended lane idle queue outbox =>
    refine movesLeft_lt_of_lane lane ?_ fun other differs => ?_
    · simp [load, idle, get_set_lane, LaneWorker.moves]
    · simp [load, get_set_lane, differs]

/-- Workers end only once the lanes are shut. -/
theorem isShut_of_leave {lane : Fin n} (left : lanes.step? (.leave lane) = some next) :
    lanes.isShut = true := by
  simp only [step?] at left
  split at left
  · split at left
    · rename_i shut
      exact shut.1
    · contradiction
  · contradiction

/-- Workers that have ended leave nothing behind. -/
def AtRest (lanes : Lanes n Job) : Prop :=
  ∀ lane : Fin n, lanes.workers.get lane = .ended →
    lanes.isShut = true ∧ lanes.outbox = [] ∧ lanes.queues.get lane = []

/-- Lanes without work have no worker that has ended. -/
theorem atRest_idle : (idle n Job).AtRest := by
  intro lane ended
  simp [idle] at ended

/-- A worker that has not ended changes nothing for the others. -/
theorem AtRest.of_lane (rest : lanes.AtRest) (lane : Fin n)
    (busy : next.workers.get lane ≠ .ended) (shut : next.isShut = lanes.isShut)
    (outbox : next.outbox = lanes.outbox)
    (others : ∀ other, other ≠ lane → next.workers.get other = lanes.workers.get other ∧
      next.queues.get other = lanes.queues.get other) : next.AtRest := by
  intro other ended
  by_cases own : other = lane
  · exact absurd (own ▸ ended) busy
  · obtain ⟨worker, queue⟩ := others other own
    rw [shut, outbox, queue]
    exact rest other (worker ▸ ended)

/-- A move leaves the workers that have ended at rest. -/
theorem AtRest.step (rest : lanes.AtRest) (stepped : lanes.step? move = some next) :
    next.AtRest := by
  cases moved_of_step? stepped with
  | sent outbox =>
    intro lane ended
    have none := (rest lane ended).2.1
    rw [outbox] at none
    contradiction
  | @began lane submission behind idle queue =>
    refine rest.of_lane lane ?_ rfl rfl fun other differs => ?_
    · simp [get_set_lane]
    · simp [get_set_lane, differs]
  | @arrived lane submission behind idle queue =>
    refine rest.of_lane lane ?_ rfl rfl fun other differs => ?_
    · simp [get_set_lane]
    · simp [get_set_lane, differs]
  | @ran lane submission running =>
    refine rest.of_lane lane ?_ rfl rfl fun other differs => ?_
    · simp [get_set_lane]
    · simp [get_set_lane, differs]
  | @led lane submission leading =>
    refine rest.of_lane lane ?_ rfl rfl fun other differs => ?_
    · simp [get_set_lane]
    · simp [get_set_lane, differs]
  | @gathered leader submission waiting all =>
    intro lane ended
    simp only [get_set_lane] at ended
    split at ended
    · contradiction
    · rw [get_replicate_lane] at ended
      contradiction
  | parted some all =>
    intro lane ended
    rw [get_replicate_lane] at ended
    contradiction
  | @ended lane idle queue outbox =>
    have shut := isShut_of_leave stepped
    intro other ended
    by_cases own : other = lane
    · rw [own]
      exact ⟨shut, outbox, queue⟩
    · rw [get_set_lane, if_neg own] at ended
      exact rest other ended

/-- Every run leaves the workers that have ended at rest. -/
theorem AtRest.run (rest : lanes.AtRest) {events : List (LaneEvent n Job)}
    (ran : lanes.run? barrier route events = some next) : next.AtRest := by
  induction events generalizing lanes with
  | nil =>
    cases ran
    exact rest
  | cons event events ih =>
    obtain ⟨middle, followed, continued⟩ := Option.bind_eq_some_iff.mp ran
    refine ih ?_ continued
    cases event with
    | submit job =>
      simp only [follow?] at followed
      split at followed
      · contradiction
      · rename_i opened
        cases followed
        exact fun lane ended => absurd (rest lane ended).1 opened
    | shut =>
      cases followed
      exact fun lane ended => ⟨rfl, (rest lane ended).2⟩
    | move move => exact rest.step followed

/-- No move of the lanes is possible. -/
def IsStuck (lanes : Lanes n Job) : Prop := ∀ move, lanes.step? move = none

namespace IsStuck

/-- Nothing is on its way when no move is possible. -/
theorem outbox (stuck : lanes.IsStuck) : lanes.outbox = [] := by
  have send := stuck .send
  simp only [step?] at send
  split at send
  · assumption
  · contradiction

/-- A worker that can take a task has none when no move is possible. -/
theorem queue (stuck : lanes.IsStuck) {lane : Fin n} (idle : lanes.workers.get lane = .idle) :
    lanes.queues.get lane = [] := by
  have take := stuck (.take lane)
  have worker : lanes.workers[lane] = .idle := idle
  simp only [step?, worker] at take
  split at take
  · contradiction
  · contradiction
  · rename_i run meet
    cases tasks : lanes.queues.get lane with
    | nil => rfl
    | cons task rest =>
      cases task with
      | run submission => exact (run submission rest rfl tasks).elim
      | meet submission => exact (meet submission rest rfl tasks).elim

/-- No worker runs a request when no move is possible. -/
theorem running? (stuck : lanes.IsStuck) (lane : Fin n) :
    (lanes.workers.get lane).running? = none := by
  have finish := stuck (.finish lane)
  simp only [step?] at finish
  split at finish
  · contradiction
  · contradiction
  · rename_i running leading
    cases worker : lanes.workers.get lane with
    | running submission => exact (running submission worker).elim
    | leading submission => exact (leading submission worker).elim
    | _ => rfl

/-- The workers are not all at one barrier when no move is possible. -/
theorem not_waiting (stuck : lanes.IsStuck) {lane : Fin n} {submission : Submission Job}
    (waiting : lanes.workers.get lane = .waiting submission) :
    ¬ ∀ other : Fin n, waitsAt submission.index (lanes.workers.get other) = true := by
  intro all
  have meet := stuck (.meet lane)
  have worker : lanes.workers[lane] = .waiting submission := waiting
  have together : lanes.workers.all (waitsAt submission.index) = true :=
    Vector.all_eq_true.mpr fun index bound => all ⟨index, bound⟩
  simp [step?, worker, together] at meet

/-- The workers are not all leaving when no move is possible. -/
theorem not_leaving (stuck : lanes.IsStuck) (some : 0 < n) :
    ¬ ∀ lane : Fin n, isLeaving (lanes.workers.get lane) = true := by
  intro all
  have part := stuck .part
  have together : lanes.workers.all isLeaving = true :=
    Vector.all_eq_true.mpr fun index bound => all ⟨index, bound⟩
  simp [step?, some, together] at part

/-- No worker is at a barrier where all have met when no move is possible. -/
theorem met? (stuck : lanes.IsStuck) (sound : lanes.Sound barrier route jobs) (lane : Fin n) :
    (lanes.workers.get lane).met? = none := by
  cases met : (lanes.workers.get lane).met? with
  | none => rfl
  | some submission =>
    refine absurd (fun other => ?_) (stuck.not_leaving lane.pos)
    have same := (sound.meeting lane submission met).1 other
    have still := stuck.running? other
    cases worker : lanes.workers.get other with
    | leaving elsewhere => rfl
    | _ =>
      rw [worker] at same still
      contradiction

/-- Nothing is left to do when no move is possible: the first task of a lane that had some would
be a barrier at which all workers wait. -/
theorem tasks (stuck : lanes.IsStuck) (sound : lanes.Sound barrier route jobs)
    (rest : lanes.AtRest) (lane : Fin n) : lanes.tasks lane = [] := by
  have waits {lane : Fin n} {task : LaneTask Job} (member : task ∈ lanes.tasks lane) :
      ∃ submission, lanes.workers.get lane = .waiting submission := by
    have still := stuck.running? lane
    have apart := stuck.met? sound lane
    cases worker : lanes.workers.get lane with
    | waiting submission => exact ⟨submission, rfl⟩
    | idle =>
      simp [Lanes.tasks, worker, LaneWorker.task?, stuck.queue worker, stuck.outbox] at member
    | ended =>
      simp [Lanes.tasks, worker, LaneWorker.task?, (rest lane worker).2.2, stuck.outbox] at member
    | _ =>
      rw [worker] at still apart
      contradiction
  have first {lane : Fin n} {submission : Submission Job}
      (waiting : lanes.workers.get lane = .waiting submission) : ∃ behind,
        lanes.tasks lane = .meet submission :: behind := ⟨_, by rw [Lanes.tasks, waiting]; rfl⟩
  refine List.eq_nil_iff_forall_not_mem.mpr fun task member => ?_
  obtain ⟨submission, waiting⟩ := waits member
  obtain ⟨behind, tasks⟩ := first waiting
  have own : .meet submission ∈ lanes.tasks lane := tasks ▸ List.mem_cons_self
  refine stuck.not_waiting waiting fun other => ?_
  -- The barrier that is first here is also a task there, and the other way round.
  have there := (sound.meets lane submission own).2 other
  obtain ⟨elsewhere, waitsThere⟩ := waits there
  obtain ⟨others, tasksThere⟩ := first waitsThere
  have back : .meet elsewhere ∈ lanes.tasks other := tasksThere ▸ List.mem_cons_self
  have here := (sound.meets other elsewhere back).2 lane
  have same : elsewhere.index = submission.index :=
    Nat.le_antisymm (sound.le_of_head tasksThere there) (sound.le_of_head tasks here)
  rw [waitsThere, waitsAt, same, beq_self_eq_true]

/-- Everything submitted has run when no move is possible. -/
theorem finished (stuck : lanes.IsStuck) (sound : lanes.Sound barrier route jobs)
    (rest : lanes.AtRest) {index : Nat} (bound : index < jobs.length) :
    lanes.HasFinished index := by
  rcases sound.covered index bound with done | ⟨lane, task, member, same⟩
  · exact done
  · rw [stuck.tasks sound rest lane] at member
    exact absurd member List.not_mem_nil

/-- All workers of lanes that were shut have ended when no move is possible. -/
theorem ended (stuck : lanes.IsStuck) (sound : lanes.Sound barrier route jobs)
    (rest : lanes.AtRest) (shut : lanes.isShut = true) (lane : Fin n) :
    lanes.workers.get lane = .ended := by
  have none := stuck.tasks sound rest lane
  cases worker : lanes.workers.get lane with
  | ended => rfl
  | idle =>
    have leave := stuck (.leave lane)
    have isIdle : lanes.workers[lane] = .idle := worker
    have queue : lanes.queues[lane] = [] := stuck.queue worker
    simp [step?, isIdle, queue, shut, stuck.outbox] at leave
  | _ =>
    rw [Lanes.tasks, worker] at none
    contradiction

end IsStuck

/-- No move is possible once all workers have ended. -/
theorem AtRest.isStuck (rest : lanes.AtRest) (some : 0 < n)
    (ended : ∀ lane : Fin n, lanes.workers.get lane = .ended) : lanes.IsStuck := by
  intro move
  cases moved : lanes.step? move with
  | none => rfl
  | some next =>
    have contrary {lane : Fin n} {worker : LaneWorker Job} (is : lanes.workers.get lane = worker)
        (busy : worker ≠ .ended) : False := busy (is.symm.trans (ended lane))
    cases moved_of_step? moved with
    | sent outbox =>
      have none := (rest ⟨0, some⟩ (ended _)).2.1
      rw [outbox] at none
      contradiction
    | began idle queue => exact (contrary idle (by simp)).elim
    | arrived idle queue => exact (contrary idle (by simp)).elim
    | ran running => exact (contrary running (by simp)).elim
    | led leading => exact (contrary leading (by simp)).elim
    | gathered waiting all => exact (contrary waiting (by simp)).elim
    | parted some all =>
      have leaves := all ⟨0, some⟩
      rw [ended] at leaves
      contradiction
    | ended idle queue outbox => exact (contrary idle (by simp)).elim

/-- A schedule of moves alone is no longer than the work that is left. -/
theorem length_add_movesLeft_le {moves : List (LaneMove n)}
    (ran : lanes.run? barrier route (moves.map .move) = some next) :
    moves.length + next.movesLeft ≤ lanes.movesLeft := by
  induction moves generalizing lanes with
  | nil =>
    cases ran
    exact Nat.le_of_eq (Nat.zero_add _)
  | cons move rest ih =>
    obtain ⟨middle, followed, continued⟩ := Option.bind_eq_some_iff.mp ran
    have less := (moved_of_step? followed).movesLeft_lt
    have whole := ih continued
    rw [List.length_cons]
    omega

/-- When no move is possible, the requests that began are all that were submitted, once each. -/
theorem IsStuck.started_perm (stuck : lanes.IsStuck) (ordered : lanes.Ordered barrier route jobs)
    (rest : lanes.AtRest) :
    (lanes.started.map (·.index)).Perm (List.range jobs.length) := by
  refine (List.perm_ext_iff_of_nodup ordered.once List.nodup_range).mpr fun index => ?_
  rw [List.mem_map, List.mem_range]
  constructor
  · rintro ⟨submission, began, rfl⟩
    exact (List.getElem?_eq_some_iff.mp (ordered.known submission began)).1
  · intro bound
    obtain ⟨submission, done, same⟩ := stuck.finished ordered.sound rest bound
    exact ⟨submission, ordered.begun submission done, same⟩

/-- When no move is possible, the requests that have run are all that were submitted, once each. -/
theorem IsStuck.finished_perm (stuck : lanes.IsStuck) (ordered : lanes.Ordered barrier route jobs)
    (rest : lanes.AtRest) :
    (lanes.finished.map (·.index)).Perm (List.range jobs.length) := by
  refine (List.perm_ext_iff_of_nodup ordered.endedOnce List.nodup_range).mpr fun index => ?_
  rw [List.mem_map, List.mem_range]
  constructor
  · rintro ⟨submission, done, rfl⟩
    exact (List.getElem?_eq_some_iff.mp (ordered.sound.done submission done)).1
  · exact stuck.finished ordered.sound rest

/-- Lanes run requests in the order in which they are submitted, as far as it matters, and never
stop short of an end. In every state of the lanes that one thread and the workers bring about:
what began was submitted, and began and ended once at most; before it began, everything earlier in
its slot had run, and every earlier barrier, and all that is earlier if it is a barrier itself.
While a request has not run, or a worker of lanes that were shut has not ended, a move is possible,
and without new requests the moves come to an end. When all workers have ended, each request has
run exactly once. -/
theorem runs_once_in_order {host : Host} (route : Slot → Fin n)
    (events : List (LaneEvent n (ApplyJob host))) (lanes : Lanes n (ApplyJob host))
    (ran : (idle n (ApplyJob host)).run? ApplyJob.isBarrier (fun job => route job.slot) events =
      some lanes) :
    (∀ submission ∈ lanes.started,
      (submittedIn events)[submission.index]? = some submission.job) ∧
    (lanes.started.map (·.index)).Nodup ∧ (lanes.finished.map (·.index)).Nodup ∧
    (∀ submission ∈ lanes.finished, submission ∈ lanes.started) ∧
    (∀ submission ∈ lanes.started, ∀ earlier < submission.index, ∀ job,
      (submittedIn events)[earlier]? = some job →
        job.slot = submission.job.slot ∨ job.isBarrier = true ∨
          submission.job.isBarrier = true → lanes.HasFinished earlier) ∧
    ((∃ index < (submittedIn events).length, ¬ lanes.HasFinished index) ∨
      (lanes.isShut = true ∧ ∃ lane, lanes.workers.get lane ≠ .ended) →
        ∃ move next, lanes.step? move = some next) ∧
    (∀ (moves : List (LaneMove n)) next, lanes.run? ApplyJob.isBarrier
      (fun job => route job.slot) (moves.map .move) = some next →
        moves.length + next.movesLeft ≤ lanes.movesLeft) ∧
    ((∀ lane, lanes.workers.get lane = .ended) →
      (lanes.started.map (·.index)).Perm (List.range (submittedIn events).length) ∧
      (lanes.finished.map (·.index)).Perm (List.range (submittedIn events).length)) := by
  have some : 0 < n := (route default).pos
  have ordered := (ordered_idle _ _).run ran
  rw [List.nil_append] at ordered
  have rest := atRest_idle.run ran
  refine ⟨ordered.known, ordered.once, ordered.endedOnce, ordered.begun,
    fun submission began earlier before job known binds => ?_, fun unfinished => ?_,
    fun moves next moved => length_add_movesLeft_le moved, fun ended => ?_⟩
  · refine ordered.after submission began earlier before job known ?_
    rcases binds with slot | isBarrier
    · exact .inl (congrArg route slot)
    · exact .inr isBarrier
  · by_contra none
    have stuck : lanes.IsStuck := fun move => by
      cases moved : lanes.step? move with
      | none => rfl
      | some next => exact absurd ⟨move, next, moved⟩ none
    rcases unfinished with ⟨index, bound, waits⟩ | ⟨shut, lane, works⟩
    · exact waits (stuck.finished ordered.sound rest bound)
    · exact works (stuck.ended ordered.sound rest shut lane)
  · have stuck := rest.isStuck some ended
    exact ⟨stuck.started_perm ordered rest, stuck.finished_perm ordered rest⟩

/-- A request of the example entity on a key, by way of example. -/
def sampleRequest (key : ConcurrencyKey) : ApplyJob .willing :=
  { handle := sampleEntity
    request := { action := .invoke, source := sampleServer, client := ⟨7⟩, transaction := .null,
                 key, sequence := none }
    body := .none
    completion := .silent }

/-- Two requests of one lane and a barrier between them, run to the end. -/
def sampleSchedule : List (LaneEvent 2 (ApplyJob .willing)) :=
  [.submit (sampleRequest ⟨1⟩), .move .send, .move (.take 0),
    .submit (sampleRequest .universal), .move .send, .move .send, .move (.take 1),
    .submit (sampleRequest ⟨1⟩), .move (.finish 0), .move (.take 0), .move (.meet 1), .shut,
    .move .send, .move (.finish 1), .move .part, .move (.leave 1), .move (.take 0),
    .move (.finish 0), .move (.leave 0)]

/-- The example runs to the end, each request once, and the one behind the barrier last. -/
theorem sample_schedule_ends :
    ∃ lanes, (idle 2 (ApplyJob .willing)).run? ApplyJob.isBarrier (fun _ => 0) sampleSchedule =
      some lanes ∧ (∀ lane, lanes.workers.get lane = .ended) ∧
      lanes.started.map (·.index) = [2, 1, 0] ∧ lanes.HasFinished 1 ∧
      (lanes.finished.map (·.index)).Perm [0, 1, 2] := by
  have summary : ((idle 2 (ApplyJob .willing)).run? ApplyJob.isBarrier (fun _ => 0)
      sampleSchedule).map (fun lanes =>
        (decide (∀ lane, (lanes.workers.get lane).moves = 0), lanes.started.map (·.index))) =
      some (true, [2, 1, 0]) := by decide +kernel
  obtain ⟨lanes, ran, same⟩ := Option.map_eq_some_iff.mp summary
  rw [Prod.mk.injEq, decide_eq_true_eq] at same
  obtain ⟨none, began⟩ := same
  have ended (lane : Fin 2) : lanes.workers.get lane = .ended := by
    have done := none lane
    cases worker : lanes.workers.get lane with
    | ended => rfl
    | _ =>
      rw [worker] at done
      contradiction
  obtain ⟨known, -, -, -, before, -, -, whole⟩ :=
    runs_once_in_order (fun _ => 0) sampleSchedule lanes ran
  have last : 2 ∈ lanes.started.map (·.index) := by simp [began]
  obtain ⟨submission, started, isLast⟩ := List.mem_map.mp last
  have finished := before submission started 1 (by omega) (sampleRequest .universal) rfl
    (.inr (.inl rfl))
  exact ⟨lanes, ran, ended, began, finished, (whole ended).2⟩

end Lanes
end Standby
