import Mathlib.Data.List.FinRange
import Standby.Replication.Lanes

/-!
# Barriers of the lanes

What a lane still has to do is the task of its worker, then its queue, then what is on its way to
it. A move leaves these tasks as they are or takes the first one off a lane once it has run
(`Lanes.Sound.tasks_moved`). So the tasks of a lane stay in the order of their submission, and
when the request of a barrier runs, everything submitted before it has run: this is the invariant
`Lanes.Sound` of lanes to which requests are submitted.
-/
namespace Standby

variable {n : Nat} {Job : Type}

/-- The submission that a task belongs to. -/
def LaneTask.submission : LaneTask Job → Submission Job
  | run submission => submission
  | meet submission => submission

/-- The number of the submission that a task belongs to. -/
abbrev LaneTask.index (task : LaneTask Job) : Nat := task.submission.index

namespace LaneWorker

/-- The task that a worker is busy with. -/
def task? : LaneWorker Job → Option (LaneTask Job)
  | idle => none
  | running submission => some (.run submission)
  | waiting submission => some (.meet submission)
  | leading submission => some (.meet submission)
  | leaving submission => some (.meet submission)
  | ended => none

/-- The barrier that a worker is at, once all workers have met there. -/
def met? : LaneWorker Job → Option (Submission Job)
  | leading submission => some submission
  | leaving submission => some submission
  | _ => none

end LaneWorker

namespace Lanes

variable {lanes next : Lanes n Job}

/-- What a lane still has to do, in order. -/
def tasks (lanes : Lanes n Job) (lane : Fin n) : List (LaneTask Job) :=
  (lanes.workers.get lane).task?.toList ++
    (lanes.queues.get lane ++ (lanes.outbox.filter (·.1 = lane)).map (·.2))

/-- The request with a number has run. -/
def HasFinished (lanes : Lanes n Job) (index : Nat) : Prop :=
  ∃ submission ∈ lanes.finished, submission.index = index

/-- The lanes after each possible move. -/
inductive Moved (lanes : Lanes n Job) : LaneMove n → Lanes n Job → Prop where
  /-- A task reached its lane. -/
  | sent {lane : Fin n} {task : LaneTask Job} {rest : List (Fin n × LaneTask Job)}
      (outbox : lanes.outbox = (lane, task) :: rest) :
      Moved lanes .send { lanes with
        outbox := rest
        queues := lanes.queues.set lane (lanes.queues.get lane ++ [task]) lane.isLt }
  /-- A worker began to run a request. -/
  | began {lane : Fin n} {submission : Submission Job} {rest : List (LaneTask Job)}
      (idle : lanes.workers.get lane = .idle)
      (queue : lanes.queues.get lane = .run submission :: rest) :
      Moved lanes (.take lane) { lanes with
        queues := lanes.queues.set lane rest lane.isLt
        workers := lanes.workers.set lane (.running submission) lane.isLt
        started := submission :: lanes.started }
  /-- A worker reached a barrier. -/
  | arrived {lane : Fin n} {submission : Submission Job} {rest : List (LaneTask Job)}
      (idle : lanes.workers.get lane = .idle)
      (queue : lanes.queues.get lane = .meet submission :: rest) :
      Moved lanes (.take lane) { lanes with
        queues := lanes.queues.set lane rest lane.isLt
        workers := lanes.workers.set lane (.waiting submission) lane.isLt }
  /-- A worker has run a request of its lane. -/
  | ran {lane : Fin n} {submission : Submission Job}
      (running : lanes.workers.get lane = .running submission) :
      Moved lanes (.finish lane) { lanes with
        workers := lanes.workers.set lane .idle lane.isLt
        finished := submission :: lanes.finished }
  /-- A worker has run the request of a barrier. -/
  | led {lane : Fin n} {submission : Submission Job}
      (leading : lanes.workers.get lane = .leading submission) :
      Moved lanes (.finish lane) { lanes with
        workers := lanes.workers.set lane (.leaving submission) lane.isLt
        finished := submission :: lanes.finished }
  /-- The workers met at a barrier. -/
  | gathered {leader : Fin n} {submission : Submission Job}
      (waiting : lanes.workers.get leader = .waiting submission)
      (all : ∀ lane : Fin n, waitsAt submission.index (lanes.workers.get lane) = true) :
      Moved lanes (.meet leader) { lanes with
        workers :=
          (Vector.replicate n (.leaving submission)).set leader (.leading submission) leader.isLt
        started := submission :: lanes.started }
  /-- The workers left a barrier. -/
  | parted (some : 0 < n) (all : ∀ lane : Fin n, isLeaving (lanes.workers.get lane) = true) :
      Moved lanes .part { lanes with workers := .replicate n .idle }
  /-- A worker ended. -/
  | ended {lane : Fin n} (idle : lanes.workers.get lane = .idle)
      (queue : lanes.queues.get lane = []) (outbox : lanes.outbox = []) :
      Moved lanes (.leave lane) { lanes with workers := lanes.workers.set lane .ended lane.isLt }

/-- What holds of all workers holds of each. -/
theorem all_workers {workers : Vector (LaneWorker Job) n} {test : LaneWorker Job → Bool}
    (all : workers.all test = true) (lane : Fin n) : test (workers.get lane) = true :=
  Vector.all_eq_true.mp all lane.val lane.isLt

/-- The lanes move only in these ways. -/
theorem moved_of_step? {move : LaneMove n} (moved : lanes.step? move = some next) :
    lanes.Moved move next := by
  cases move with
  | send =>
    simp only [step?] at moved
    split at moved
    · contradiction
    · rename_i lane task rest outbox
      cases moved
      exact .sent outbox
  | take lane =>
    simp only [step?] at moved
    split at moved
    · rename_i submission rest idle queue
      cases moved
      exact .began idle queue
    · rename_i submission rest idle queue
      cases moved
      exact .arrived idle queue
    · contradiction
  | finish lane =>
    simp only [step?] at moved
    split at moved
    · rename_i submission running
      cases moved
      exact .ran running
    · rename_i submission leading
      cases moved
      exact .led leading
    · contradiction
  | meet leader =>
    simp only [step?] at moved
    split at moved
    · rename_i submission waiting
      split at moved
      · rename_i all
        cases moved
        exact .gathered waiting (all_workers all)
      · contradiction
    · contradiction
  | part =>
    simp only [step?] at moved
    split at moved
    · rename_i all
      cases moved
      exact .parted all.1 (all_workers all.2)
    · contradiction
  | leave lane =>
    simp only [step?] at moved
    split at moved
    · rename_i idle queue
      split at moved
      · rename_i shut
        cases moved
        exact .ended idle queue (List.isEmpty_iff.mp shut.2)
      · contradiction
    · contradiction

/-- A lane that is set has the new value; every other lane keeps its own. -/
theorem get_set_lane {α : Type} (values : Vector α n) (lane other : Fin n) (value : α) :
    (values.set lane value lane.isLt).get other =
      if other = lane then value else values.get other := by
  change (values.set lane value lane.isLt)[other.val] =
    if other = lane then value else values[other.val]
  rw [Vector.getElem_set]
  simp only [Fin.ext_iff, eq_comm]

/-- Lanes that are all set have the same value. -/
@[simp] theorem get_replicate_lane {α : Type} (lane : Fin n) (value : α) :
    (Vector.replicate n value).get lane = value :=
  Vector.getElem_replicate lane.isLt

/-- All workers have met at a barrier, whose request runs or has run. -/
def Meeting (lanes : Lanes n Job) (submission : Submission Job) : Prop :=
  (∀ lane : Fin n, (lanes.workers.get lane).met? = some submission) ∧
    (submission ∈ lanes.finished ∨
      ∃ leader : Fin n, lanes.workers.get leader = .leading submission)

/-- Nothing is lost or reordered on the way to a lane or between its queue and its worker. -/
structure Sound (barrier : Job → Bool) (route : Job → Fin n) (jobs : List Job)
    (lanes : Lanes n Job) : Prop where
  /-- The requests submitted are counted. -/
  submitted : lanes.submitted = jobs.length
  /-- The tasks of a lane stay in the order of their submission. -/
  ordered : ∀ lane, (lanes.tasks lane).Pairwise fun before after => before.index < after.index
  /-- The tasks of the lanes belong to submitted requests. -/
  pending : ∀ lane, ∀ task ∈ lanes.tasks lane, jobs[task.index]? = some task.submission.job
  /-- A request that is no barrier is a task of its own lane. -/
  runs : ∀ lane submission, .run submission ∈ lanes.tasks lane →
    barrier submission.job = false ∧ route submission.job = lane
  /-- A barrier is a task of every lane. -/
  meets : ∀ lane submission, .meet submission ∈ lanes.tasks lane →
    barrier submission.job = true ∧ ∀ other, .meet submission ∈ lanes.tasks other
  /-- The requests that have run were submitted. -/
  done : ∀ submission ∈ lanes.finished, jobs[submission.index]? = some submission.job
  /-- Every request that was submitted has run or is still a task of some lane. -/
  covered : ∀ index < jobs.length, lanes.HasFinished index ∨
    ∃ lane, ∃ task ∈ lanes.tasks lane, task.index = index
  /-- When one worker has met others at a barrier, all have. -/
  meeting : ∀ (lane : Fin n) submission, (lanes.workers.get lane).met? = some submission →
    lanes.Meeting submission
  /-- When the request of a barrier has run, everything submitted before it has run. -/
  below : ∀ submission ∈ lanes.finished, barrier submission.job = true →
    ∀ index < submission.index, lanes.HasFinished index

/-- What a move does to the tasks of the lanes. -/
inductive TasksMoved (lanes next : Lanes n Job) : Prop where
  /-- They stay as they are. -/
  | kept (same : ∀ lane, next.tasks lane = lanes.tasks lane)
  /-- A lane loses its first task, which has run. -/
  | ran {lane : Fin n} {submission : Submission Job} (done : submission ∈ next.finished)
      (first : lanes.tasks lane = .run submission :: next.tasks lane)
      (same : ∀ other, other ≠ lane → next.tasks other = lanes.tasks other)
  /-- Every lane loses its first task, a barrier whose request has run. -/
  | met {submission : Submission Job} (done : submission ∈ next.finished)
      (first : ∀ lane, lanes.tasks lane = .meet submission :: next.tasks lane)

variable {barrier : Job → Bool} {route : Job → Fin n} {jobs : List Job} {move : LaneMove n}

/-- The first task of a lane whose worker is at a barrier is that barrier. -/
theorem tasks_of_met {lane : Fin n} {submission : Submission Job}
    (met : (lanes.workers.get lane).met? = some submission) :
    lanes.tasks lane = .meet submission ::
      (lanes.queues.get lane ++ (lanes.outbox.filter (·.1 = lane)).map (·.2)) := by
  cases worker : lanes.workers.get lane <;> rw [worker] at met <;> cases met <;>
    simp only [tasks, worker, LaneWorker.task?] <;> rfl

/-- Two submissions of one number are the same. -/
theorem Sound.submission_unique (sound : lanes.Sound barrier route jobs) {lane other : Fin n}
    {first second : LaneTask Job} (firstTask : first ∈ lanes.tasks lane)
    (secondTask : second ∈ lanes.tasks other) (same : first.index = second.index) :
    first.submission = second.submission := by
  have firstJob := sound.pending lane first firstTask
  have secondJob := sound.pending other second secondTask
  rw [← same, firstJob] at secondJob
  have index : first.submission.index = second.submission.index := same
  rcases firstSubmission : first.submission with ⟨firstIndex, job⟩
  rcases secondSubmission : second.submission with ⟨secondIndex, otherJob⟩
  rw [firstSubmission, secondSubmission] at index secondJob
  cases index
  cases secondJob
  rfl

/-- Workers compare the numbers of their barriers, and one number is one submission: workers that
meet are all at the same barrier. -/
theorem Sound.waiting_of_gathered (sound : lanes.Sound barrier route jobs) {leader : Fin n}
    {submission : Submission Job} (waiting : lanes.workers.get leader = .waiting submission)
    (all : ∀ lane : Fin n, waitsAt submission.index (lanes.workers.get lane) = true)
    (lane : Fin n) : lanes.workers.get lane = .waiting submission := by
  have own : .meet submission ∈ lanes.tasks leader := by simp [tasks, waiting, LaneWorker.task?]
  have same := all lane
  cases worker : lanes.workers.get lane with
  | waiting elsewhere =>
    rw [worker, waitsAt, beq_iff_eq] at same
    have member : .meet elsewhere ∈ lanes.tasks lane := by simp [tasks, worker, LaneWorker.task?]
    have equal : elsewhere = submission := sound.submission_unique member own same
    rw [equal]
  | _ =>
    rw [worker] at same
    contradiction

/-- A move leaves the tasks of the lanes as they are, or takes off what has run. -/
theorem Sound.tasks_moved (sound : lanes.Sound barrier route jobs)
    (moved : lanes.Moved move next) : TasksMoved lanes next := by
  cases moved with
  | @sent lane task rest outbox =>
    refine .kept fun other => ?_
    simp only [tasks, outbox, get_set_lane]
    by_cases same : other = lane
    · simp [same]
    · simp [same, Ne.symm same]
  | @began lane submission rest idle queue =>
    refine .kept fun other => ?_
    simp only [tasks, get_set_lane]
    by_cases same : other = lane
    · subst same
      simp [idle, queue, LaneWorker.task?]
    · simp [same]
  | @arrived lane submission rest idle queue =>
    refine .kept fun other => ?_
    simp only [tasks, get_set_lane]
    by_cases same : other = lane
    · subst same
      simp [idle, queue, LaneWorker.task?]
    · simp [same]
  | @ran lane submission running =>
    refine @TasksMoved.ran _ _ lanes _ lane submission List.mem_cons_self ?_ fun other differs => ?_
    · simp only [tasks, running, LaneWorker.task?, get_set_lane, ↓reduceIte]
      rfl
    · simp only [tasks, get_set_lane, if_neg differs]
  | @led lane submission leading =>
    refine .kept fun other => ?_
    simp only [tasks, get_set_lane]
    by_cases same : other = lane
    · subst same
      simp [leading, LaneWorker.task?]
    · simp [same]
  | @gathered leader submission waiting all =>
    refine .kept fun other => ?_
    simp only [tasks, sound.waiting_of_gathered waiting all other, get_set_lane]
    by_cases isLeader : other = leader
    · simp [isLeader, LaneWorker.task?]
    · simp [isLeader, LaneWorker.task?]
  | parted some all =>
    have met (lane : Fin n) : ∃ submission, lanes.workers.get lane = .leaving submission := by
      have test := all lane
      cases worker : lanes.workers.get lane with
      | leaving submission => exact ⟨submission, rfl⟩
      | _ =>
        rw [worker] at test
        contradiction
    obtain ⟨submission, first⟩ := met ⟨0, some⟩
    obtain ⟨everywhere, ran⟩ := sound.meeting ⟨0, some⟩ submission (by rw [first]; rfl)
    have done : submission ∈ lanes.finished := by
      rcases ran with done | ⟨leader, leading⟩
      · exact done
      · obtain ⟨other, leaves⟩ := met leader
        rw [leading] at leaves
        contradiction
    refine .met done fun lane => ?_
    rw [tasks_of_met (everywhere lane)]
    simp [tasks, LaneWorker.task?]
  | @ended lane idle queue outbox =>
    refine .kept fun other => ?_
    simp only [tasks, get_set_lane]
    by_cases same : other = lane
    · subst same
      simp [idle, LaneWorker.task?]
    · simp [same]

/-- What has run has run after a move. -/
theorem Moved.finished (moved : lanes.Moved move next) {submission : Submission Job}
    (done : submission ∈ lanes.finished) : submission ∈ next.finished := by
  cases moved with
  | ran running => exact List.mem_cons_of_mem _ done
  | led leading => exact List.mem_cons_of_mem _ done
  | _ => exact done

/-- A request that has run after a move had run before it, or was run by the worker of its lane,
or by one who led at a barrier. -/
theorem Moved.finished_cases (moved : lanes.Moved move next) {submission : Submission Job}
    (done : submission ∈ next.finished) : submission ∈ lanes.finished ∨
      (∃ lane, .run submission ∈ lanes.tasks lane) ∨
      ∃ leader : Fin n, lanes.workers.get leader = .leading submission := by
  cases moved with
  | @ran lane other running =>
    rcases List.mem_cons.mp done with rfl | done
    · exact .inr (.inl ⟨lane, by simp [tasks, running, LaneWorker.task?]⟩)
    · exact .inl done
  | @led lane other leading =>
    rcases List.mem_cons.mp done with rfl | done
    · exact .inr (.inr ⟨lane, leading⟩)
    · exact .inl done
  | _ => exact .inl done

/-- The tasks of a lane after a move are among those before it, in their order. -/
theorem TasksMoved.sublist (moved : TasksMoved lanes next) (lane : Fin n) :
    (next.tasks lane).Sublist (lanes.tasks lane) := by
  cases moved with
  | kept same => exact (same lane) ▸ List.Sublist.refl _
  | @ran own submission done first same =>
    by_cases isOwn : lane = own
    · subst isOwn
      rw [first]
      exact List.sublist_cons_self _ _
    · exact (same lane isOwn) ▸ List.Sublist.refl _
  | met done first =>
    rw [first lane]
    exact List.sublist_cons_self _ _

/-- A task that a move takes off its lane has run. -/
theorem TasksMoved.mem_or_finished (moved : TasksMoved lanes next) {lane : Fin n}
    {task : LaneTask Job} (member : task ∈ lanes.tasks lane) :
    task ∈ next.tasks lane ∨ task.submission ∈ next.finished := by
  cases moved with
  | kept same => exact .inl ((same lane).symm ▸ member)
  | @ran own submission done first same =>
    by_cases isOwn : lane = own
    · subst isOwn
      rw [first] at member
      rcases List.mem_cons.mp member with rfl | rest
      · exact .inr done
      · exact .inl rest
    · exact .inl ((same lane isOwn).symm ▸ member)
  | met done first =>
    rw [first lane] at member
    rcases List.mem_cons.mp member with rfl | rest
    · exact .inr done
    · exact .inl rest

/-- When a barrier is the first task of every lane, everything submitted before it has run. -/
theorem Sound.finished_below (sound : lanes.Sound barrier route jobs) {submission : Submission Job}
    (leader : Fin n) (first : ∀ lane, ∃ rest, lanes.tasks lane = .meet submission :: rest)
    {index : Nat} (earlier : index < submission.index) : lanes.HasFinished index := by
  obtain ⟨rest, own⟩ := first leader
  have inRange : submission.index < jobs.length := by
    have known := sound.pending leader (.meet submission) (by rw [own]; exact List.mem_cons_self)
    exact (List.getElem?_eq_some_iff.mp known).1
  rcases sound.covered index (Nat.lt_trans earlier inRange) with done | ⟨lane, task, member, same⟩
  · exact done
  · -- A task that is left would stand before the barrier in its lane.
    obtain ⟨others, tasks⟩ := first lane
    have ordered := sound.ordered lane
    rw [tasks, List.pairwise_cons] at ordered
    rw [tasks] at member
    rcases List.mem_cons.mp member with rfl | later
    · exact absurd same (Nat.ne_of_gt earlier)
    · have above := ordered.1 task later
      exact absurd (same ▸ above) (Nat.not_lt.mpr (Nat.le_of_lt earlier))

/-- When one worker changes who had met nobody and then has met nobody, no worker has. -/
theorem Sound.met?_set (sound : lanes.Sound barrier route jobs) {lane : Fin n}
    (worker : LaneWorker Job) (before : (lanes.workers.get lane).met? = none)
    (after : worker.met? = none) (other : Fin n) :
    ((lanes.workers.set lane worker lane.isLt).get other).met? = none := by
  rw [get_set_lane]
  split
  · exact after
  · cases met : (lanes.workers.get other).met? with
    | none => rfl
    | some submission =>
      have same := (sound.meeting other submission met).1 lane
      rw [before] at same
      contradiction

/-- When one worker has met others at a barrier after a move, all have. -/
theorem Sound.meeting_moved (sound : lanes.Sound barrier route jobs)
    (moved : lanes.Moved move next) {lane : Fin n} {submission : Submission Job}
    (met : (next.workers.get lane).met? = some submission) : next.Meeting submission := by
  cases moved with
  | sent outbox => exact sound.meeting lane submission met
  | @began own other rest idle queue =>
    have none := sound.met?_set (.running other) (by rw [idle]; rfl) rfl lane
    exact absurd (none.symm.trans met) (by simp)
  | @arrived own other rest idle queue =>
    have none := sound.met?_set (.waiting other) (by rw [idle]; rfl) rfl lane
    exact absurd (none.symm.trans met) (by simp)
  | ran running =>
    have none := sound.met?_set .idle (by rw [running]; rfl) rfl lane
    exact absurd (none.symm.trans met) (by simp)
  | @led leader own leading =>
    obtain ⟨everywhere, -⟩ := sound.meeting leader own (by rw [leading]; rfl)
    have all (lane : Fin n) :
        ((lanes.workers.set leader (.leaving own) leader.isLt).get lane).met? = some own := by
      rw [get_set_lane]
      split
      · rfl
      · exact everywhere lane
    have isOwn : some own = some submission := (all lane).symm.trans met
    cases isOwn
    exact ⟨all, .inl List.mem_cons_self⟩
  | @gathered leader own waiting all =>
    have all (lane : Fin n) :
        (((Vector.replicate n (LaneWorker.leaving own)).set leader (.leading own)
          leader.isLt).get lane).met? =
          some own := by
      rw [get_set_lane]
      split
      · rfl
      · simp [LaneWorker.met?]
    have isOwn : some own = some submission := (all lane).symm.trans met
    cases isOwn
    refine ⟨all, .inr ⟨leader, ?_⟩⟩
    exact (get_set_lane _ leader leader _).trans (if_pos rfl)
  | parted some all => simp [LaneWorker.met?] at met
  | ended idle queue outbox =>
    have none := sound.met?_set .ended (by rw [idle]; rfl) rfl lane
    exact absurd (none.symm.trans met) (by simp)

/-- A barrier that is a task of one lane after a move is one of every lane. -/
theorem Sound.meets_moved (sound : lanes.Sound barrier route jobs) (moved : TasksMoved lanes next)
    {lane : Fin n} {submission : Submission Job} (member : .meet submission ∈ next.tasks lane)
    (other : Fin n) : .meet submission ∈ next.tasks other := by
  have before := (sound.meets lane submission ((moved.sublist lane).subset member)).2 other
  cases moved with
  | kept same => exact (same other).symm ▸ before
  | @ran own last done first same =>
    by_cases isOwn : other = own
    · subst isOwn
      rw [first] at before
      simpa using before
    · exact (same other isOwn).symm ▸ before
  | @met last done first =>
    -- The barrier is not the one taken off, since it comes behind it.
    have ordered := sound.ordered lane
    rw [first lane, List.pairwise_cons] at ordered
    have above := ordered.1 _ member
    rw [first other] at before
    rcases List.mem_cons.mp before with same | rest
    · cases same
      exact absurd above (Nat.lt_irrefl _)
    · exact rest

/-- A move keeps what holds of the lanes. -/
theorem Sound.moved (sound : lanes.Sound barrier route jobs) (moved : lanes.Moved move next) :
    next.Sound barrier route jobs := by
  have tasks := sound.tasks_moved moved
  have early {index : Nat} (done : lanes.HasFinished index) : next.HasFinished index := by
    obtain ⟨submission, member, same⟩ := done
    exact ⟨submission, moved.finished member, same⟩
  refine
    { submitted := ?_
      ordered := fun lane => (sound.ordered lane).sublist (tasks.sublist lane)
      pending := fun lane task member =>
        sound.pending lane task ((tasks.sublist lane).subset member)
      runs := fun lane submission member =>
        sound.runs lane submission ((tasks.sublist lane).subset member)
      meets := fun lane submission member =>
        ⟨(sound.meets lane submission ((tasks.sublist lane).subset member)).1,
          sound.meets_moved tasks member⟩
      done := fun submission done => ?_
      covered := fun index bound => ?_
      meeting := fun lane submission met => sound.meeting_moved moved met
      below := fun submission done isBarrier index earlier => ?_ }
  · cases moved <;> exact sound.submitted
  · rcases moved.finished_cases done with before | ⟨lane, member⟩ | ⟨leader, leading⟩
    · exact sound.done submission before
    · exact sound.pending lane _ member
    · obtain ⟨everywhere, -⟩ := sound.meeting leader submission (by rw [leading]; rfl)
      have first := tasks_of_met (everywhere leader)
      exact sound.pending leader (.meet submission) (by rw [first]; exact List.mem_cons_self)
  · rcases sound.covered index bound with done | ⟨lane, task, member, same⟩
    · exact .inl (early done)
    · rcases tasks.mem_or_finished member with stays | done
      · exact .inr ⟨lane, task, stays, same⟩
      · exact .inl ⟨task.submission, done, same⟩
  · rcases moved.finished_cases done with before | ⟨lane, member⟩ | ⟨leader, leading⟩
    · exact early (sound.below submission before isBarrier index earlier)
    · rw [(sound.runs lane submission member).1] at isBarrier
      contradiction
    · obtain ⟨everywhere, -⟩ := sound.meeting leader submission (by rw [leading]; rfl)
      exact early
        (sound.finished_below leader (fun lane => ⟨_, tasks_of_met (everywhere lane)⟩) earlier)

/-- Lanes without work have nothing to do. -/
theorem tasks_idle (lane : Fin n) : (idle n Job).tasks lane = [] := by
  simp [tasks, idle, LaneWorker.task?]

/-- Lanes without work are sound. -/
theorem sound_idle (barrier : Job → Bool) (route : Job → Fin n) :
    (idle n Job).Sound barrier route [] where
  submitted := rfl
  ordered lane := by simp [tasks_idle]
  pending lane task member := by simp [tasks_idle] at member
  runs lane submission member := by simp [tasks_idle] at member
  meets lane submission member := by simp [tasks_idle] at member
  done submission member := absurd member List.not_mem_nil
  covered index bound := absurd bound (Nat.not_lt_zero _)
  meeting lane submission met := by simp [idle, LaneWorker.met?] at met
  below submission member := absurd member List.not_mem_nil

/-- The tasks that a submission brings to a lane. -/
def added (isBarrier : Bool) (own : Fin n) (submission : Submission Job) (lane : Fin n) :
    List (LaneTask Job) :=
  if isBarrier then [.meet submission] else if lane = own then [.run submission] else []

/-- A submission sends its tasks behind those that are on their way to a lane. -/
theorem outbox_submit (lanes : Lanes n Job) (isBarrier : Bool) (own : Fin n) (job : Job)
    (lane : Fin n) : ((lanes.submit isBarrier own job).outbox.filter (·.1 = lane)).map (·.2) =
      (lanes.outbox.filter (·.1 = lane)).map (·.2) ++
        added isBarrier own ⟨lanes.submitted, job⟩ lane := by
  cases isBarrier with
  | true =>
    have once : (List.finRange n).filter (· = lane) = [lane] := by
      rw [List.filter_eq, List.count_finRange]
      rfl
    simp [submit, added, List.filter_map, Function.comp_def, once]
  | false =>
    by_cases same : lane = own
    · simp [submit, added, same]
    · simp [submit, added, same, Ne.symm same]

/-- A submission brings its tasks behind those that a lane has. -/
theorem tasks_submit (lanes : Lanes n Job) (isBarrier : Bool) (own : Fin n) (job : Job)
    (lane : Fin n) : (lanes.submit isBarrier own job).tasks lane =
      lanes.tasks lane ++ added isBarrier own ⟨lanes.submitted, job⟩ lane := by
  rw [tasks, outbox_submit, tasks, ← List.append_assoc, ← List.append_assoc, ← List.append_assoc]
  rfl

/-- The tasks that a submission brings belong to it. -/
theorem submission_of_mem_added {isBarrier : Bool} {own lane : Fin n}
    {submission : Submission Job} {task : LaneTask Job}
    (member : task ∈ added isBarrier own submission lane) : task.submission = submission := by
  unfold added at member
  split at member
  · rw [List.mem_singleton.mp member]
    rfl
  · split at member
    · rw [List.mem_singleton.mp member]
      rfl
    · exact absurd member List.not_mem_nil

/-- The tasks that a submission brings to a lane are in order, as there is at most one. -/
theorem pairwise_added (isBarrier : Bool) (own lane : Fin n) (submission : Submission Job) :
    (added isBarrier own submission lane).Pairwise fun before after =>
      before.index < after.index := by
  unfold added
  split
  · exact List.pairwise_singleton _ _
  · split
    · exact List.pairwise_singleton _ _
    · exact .nil

/-- The tasks of the lanes have smaller numbers than what is submitted next. -/
theorem Sound.index_lt (sound : lanes.Sound barrier route jobs) {lane : Fin n}
    {task : LaneTask Job} (member : task ∈ lanes.tasks lane) : task.index < jobs.length :=
  (List.getElem?_eq_some_iff.mp (sound.pending lane task member)).1

/-- A submission keeps what holds of the lanes. -/
theorem Sound.submit (sound : lanes.Sound barrier route jobs) (job : Job) :
    (lanes.submit (barrier job) (route job) job).Sound barrier route (jobs ++ [job]) := by
  have last : (jobs ++ [job])[lanes.submitted]? = some job := by
    rw [sound.submitted]
    exact List.getElem?_concat_length
  refine
    { submitted := by simp [Lanes.submit, sound.submitted]
      ordered := fun lane => ?_
      pending := fun lane task member => ?_
      runs := fun lane submission member => ?_
      meets := fun lane submission member => ?_
      done := fun submission done => ?_
      covered := fun index bound => ?_
      meeting := sound.meeting
      below := sound.below }
  · rw [tasks_submit, List.pairwise_append]
    refine ⟨sound.ordered lane, pairwise_added _ _ _ _, fun before old after new => ?_⟩
    have index : after.index = jobs.length := by
      rw [LaneTask.index, submission_of_mem_added new]
      exact sound.submitted
    rw [index]
    exact sound.index_lt old
  · rw [tasks_submit] at member
    rcases List.mem_append.mp member with old | new
    · exact List.getElem?_append_left (sound.index_lt old) ▸ sound.pending lane task old
    · rw [LaneTask.index, submission_of_mem_added new]
      exact last
  · rw [tasks_submit] at member
    rcases List.mem_append.mp member with old | new
    · exact sound.runs lane submission old
    · unfold added at new
      split at new
      · simp at new
      · rename_i ordinary
        split at new
        · rename_i own
          cases List.mem_singleton.mp new
          exact ⟨Bool.eq_false_iff.mpr ordinary, own.symm⟩
        · exact absurd new List.not_mem_nil
  · rw [tasks_submit] at member
    rcases List.mem_append.mp member with old | new
    · obtain ⟨isBarrier, everywhere⟩ := sound.meets lane submission old
      exact ⟨isBarrier, fun other =>
        (tasks_submit lanes _ _ job other).symm ▸ List.mem_append_left _ (everywhere other)⟩
    · unfold added at new
      split at new
      · rename_i isBarrier
        cases List.mem_singleton.mp new
        refine ⟨isBarrier, fun other => ?_⟩
        rw [tasks_submit, added, if_pos isBarrier]
        exact List.mem_append_right _ List.mem_cons_self
      · split at new
        · simp at new
        · exact absurd new List.not_mem_nil
  · have known := sound.done submission done
    exact List.getElem?_append_left (List.getElem?_eq_some_iff.mp known).1 ▸ known
  · rw [List.length_append, List.length_singleton] at bound
    rcases Nat.lt_succ_iff_lt_or_eq.mp bound with old | rfl
    · rcases sound.covered index old with done | ⟨lane, task, member, same⟩
      · exact .inl done
      · exact .inr ⟨lane, task, by rw [tasks_submit]; exact List.mem_append_left _ member, same⟩
    · have own : ∃ task ∈ added (barrier job) (route job) ⟨lanes.submitted, job⟩ (route job),
          task.index = lanes.submitted := by
        unfold added
        split
        · exact ⟨_, List.mem_cons_self, rfl⟩
        · rw [if_pos rfl]
          exact ⟨_, List.mem_cons_self, rfl⟩
      obtain ⟨task, member, same⟩ := own
      refine .inr ⟨route job, task, ?_, same.trans sound.submitted⟩
      rw [tasks_submit]
      exact List.mem_append_right _ member

/-- Shutting the lanes keeps what holds of them. -/
theorem Sound.shut (sound : lanes.Sound barrier route jobs) :
    lanes.shut.Sound barrier route jobs :=
  ⟨sound.submitted, sound.ordered, sound.pending, sound.runs, sound.meets, sound.done,
    sound.covered, sound.meeting, sound.below⟩

end Lanes
end Standby
