import Standby.Proofs.Replication.Barrier

/-!
# What runs before what

A request begins to run at most once, and when it begins, every earlier request of its lane has
run. So has every earlier barrier, and everything earlier if it is a barrier itself. This is the
invariant `Lanes.Ordered` of lanes to which one thread submits requests until it shuts them. What a
move means for the requests, whichever worker makes it, is `Lanes.Effect`: nothing, or the
beginning of one request, or its end.
-/
namespace Standby

variable {n : Nat} {Job : Type}

namespace LaneWorker

/-- The request that a worker is running. -/
def running? : LaneWorker Job → Option (Submission Job)
  | running submission => some submission
  | leading submission => some submission
  | _ => none

/-- The task that a worker has taken and whose request has not begun to run. -/
def held? : LaneWorker Job → Option (LaneTask Job)
  | waiting submission => some (.meet submission)
  | _ => none

end LaneWorker

/-- Something that happens to lanes. -/
inductive LaneEvent (n : Nat) (Job : Type) where
  /-- A request is submitted. -/
  | submit (job : Job)
  /-- The lanes are shut. -/
  | shut
  /-- The lanes move on. -/
  | move (next : LaneMove n)

/-- The requests that are submitted in some events, in order. -/
def submittedIn (events : List (LaneEvent n Job)) : List Job :=
  events.filterMap fun
    | .submit job => some job
    | _ => none

namespace Lanes

variable {lanes next : Lanes n Job} {barrier : Job → Bool} {route : Job → Fin n} {jobs : List Job}
  {move : LaneMove n} {lane other : Fin n} {submission : Submission Job}

/-- The lanes after an event, if it is possible: once they are shut, nothing is submitted. -/
def follow? (barrier : Job → Bool) (route : Job → Fin n) (lanes : Lanes n Job) :
    LaneEvent n Job → Option (Lanes n Job)
  | .submit job => if lanes.isShut then none else some (lanes.submit (barrier job) (route job) job)
  | .shut => some lanes.shut
  | .move next => lanes.step? next

/-- The lanes after some events, if each of them is possible. -/
def run? (barrier : Job → Bool) (route : Job → Fin n) (lanes : Lanes n Job) :
    List (LaneEvent n Job) → Option (Lanes n Job)
  | [] => some lanes
  | event :: rest => (lanes.follow? barrier route event).bind fun next =>
    next.run? barrier route rest

/-- The request with a number has begun to run. -/
def HasStarted (lanes : Lanes n Job) (index : Nat) : Prop :=
  ∃ submission ∈ lanes.started, submission.index = index

/-- A request has to run before a later one: they share a lane, or one of them is a barrier. -/
def Binds (barrier : Job → Bool) (route : Job → Fin n) (before after : Job) : Prop :=
  route before = route after ∨ barrier before = true ∨ barrier after = true

/-- The tasks of a lane whose requests have not begun to run, in order. -/
def unbegun (lanes : Lanes n Job) (lane : Fin n) : List (LaneTask Job) :=
  (lanes.workers.get lane).held?.toList ++
    (lanes.queues.get lane ++ (lanes.outbox.filter (·.1 = lane)).map (·.2))

/-- What has not begun is still to be done. -/
theorem unbegun_sublist (lanes : Lanes n Job) (lane : Fin n) :
    (lanes.unbegun lane).Sublist (lanes.tasks lane) := by
  refine List.Sublist.append ?_ (List.Sublist.refl _)
  cases lanes.workers.get lane <;> simp [LaneWorker.held?, LaneWorker.task?]

/-- A lane whose worker has begun nothing has all its tasks before it. -/
theorem tasks_eq_unbegun
    (same : (lanes.workers.get lane).task? = (lanes.workers.get lane).held?) :
    lanes.tasks lane = lanes.unbegun lane := by
  rw [tasks, unbegun, same]

/-- The first task of a lane was submitted before the others. -/
theorem Sound.le_of_head (sound : lanes.Sound barrier route jobs) {first task : LaneTask Job}
    {rest : List (LaneTask Job)} (tasks : lanes.tasks lane = first :: rest)
    (member : task ∈ lanes.tasks lane) : first.index ≤ task.index := by
  have ordered := sound.ordered lane
  rw [tasks, List.pairwise_cons] at ordered
  rw [tasks] at member
  rcases List.mem_cons.mp member with rfl | later
  · exact Nat.le_refl _
  · exact Nat.le_of_lt (ordered.1 task later)

/-- A request that is no barrier is a task of one lane, once. -/
theorem Sound.eq_of_run (sound : lanes.Sound barrier route jobs) {task : LaneTask Job}
    (own : .run submission ∈ lanes.tasks lane) (member : task ∈ lanes.tasks other)
    (same : task.index = submission.index) : other = lane ∧ task = .run submission := by
  obtain ⟨ordinary, home⟩ := sound.runs lane submission own
  cases task with
  | run found =>
    have equal : found = submission := sound.submission_unique member own same
    rw [equal] at member ⊢
    exact ⟨(sound.runs other submission member).2.symm.trans home, rfl⟩
  | meet found =>
    have equal : found = submission := sound.submission_unique member own same
    have isBarrier := (sound.meets other found member).1
    rw [equal, ordinary] at isBarrier
    contradiction

/-- When a request is the first task of its lane, everything before it that binds it has run. -/
theorem Sound.finished_of_binds (sound : lanes.Sound barrier route jobs)
    {rest : List (LaneTask Job)} (tasks : lanes.tasks lane = .run submission :: rest)
    {earlier : Nat} {job : Job} (before : earlier < submission.index)
    (known : jobs[earlier]? = some job) (binds : Binds barrier route job submission.job) :
    lanes.HasFinished earlier := by
  have own : .run submission ∈ lanes.tasks lane := tasks ▸ List.mem_cons_self
  obtain ⟨ordinary, home⟩ := sound.runs lane submission own
  rcases sound.covered earlier (List.getElem?_eq_some_iff.mp known).1 with
    done | ⟨other, task, member, same⟩
  · exact done
  · -- A task that is left would stand in the lane of the request, before it.
    have isJob := sound.pending other task member
    rw [same, known, Option.some.injEq] at isJob
    have inLane : task ∈ lanes.tasks lane := by
      cases task with
      | meet found => exact (sound.meets other found member).2 lane
      | run found =>
        have isJob : job = found.job := isJob
        obtain ⟨single, its⟩ := sound.runs other found member
        rw [← isJob] at single its
        rcases binds with shared | isBarrier | isBarrier
        · rw [its, home] at shared
          exact shared ▸ member
        · rw [single] at isBarrier
          contradiction
        · rw [ordinary] at isBarrier
          contradiction
    have above := sound.le_of_head tasks inLane
    exact absurd (same ▸ above) (Nat.not_le.mpr before)

/-- What a move of the lanes does to the requests. -/
inductive Effect (barrier : Job → Bool) (route : Job → Fin n) (jobs : List Job)
    (lanes next : Lanes n Job) : Prop where
  /-- No request begins or ends. -/
  | quiet (started : next.started = lanes.started) (finished : next.finished = lanes.finished)
      (running : ∀ lane,
        (next.workers.get lane).running? = (lanes.workers.get lane).running?)
      (unbegun : ∀ lane, next.unbegun lane = lanes.unbegun lane)
  /-- A request begins to run, and everything before it that binds it has run. -/
  | began (lane : Fin n) {submission : Submission Job}
      (started : next.started = submission :: lanes.started)
      (finished : next.finished = lanes.finished)
      (runs : (next.workers.get lane).running? = some submission)
      (others : ∀ other, other ≠ lane →
        (next.workers.get other).running? = (lanes.workers.get other).running?)
      (own : ∃ task ∈ lanes.unbegun lane, task.submission = submission)
      (unbegun : ∀ other, (next.unbegun other).Sublist (lanes.unbegun other))
      (gone : ∀ other, ∀ task ∈ next.unbegun other, task.index ≠ submission.index)
      (after : ∀ earlier < submission.index, ∀ job, jobs[earlier]? = some job →
        Binds barrier route job submission.job → lanes.HasFinished earlier)
  /-- A request has run. -/
  | ran {lane : Fin n} {submission : Submission Job} (started : next.started = lanes.started)
      (finished : next.finished = submission :: lanes.finished)
      (runs : (lanes.workers.get lane).running? = some submission)
      (idle : (next.workers.get lane).running? = none)
      (others : ∀ other, other ≠ lane →
        (next.workers.get other).running? = (lanes.workers.get other).running?)
      (unbegun : ∀ lane, next.unbegun lane = lanes.unbegun lane)

/-- A worker that changes and runs what it ran changes nothing that runs. -/
theorem running?_set_of_eq {worker : LaneWorker Job}
    (same : worker.running? = (lanes.workers.get lane).running?) (other : Fin n) :
    ((lanes.workers.set lane worker lane.isLt).get other).running? =
      (lanes.workers.get other).running? := by
  rw [get_set_lane]
  split
  · rename_i own
    rw [same, own]
  · rfl

/-- A worker that changes leaves what the others run. -/
theorem running?_set_of_ne (worker : LaneWorker Job) (differs : other ≠ lane) :
    ((lanes.workers.set lane worker lane.isLt).get other).running? =
      (lanes.workers.get other).running? := by
  rw [get_set_lane, if_neg differs]

/-- A worker that takes a request of its lane begins to run it. -/
theorem Sound.effect_began (sound : lanes.Sound barrier route jobs)
    {rest : List (LaneTask Job)} (idle : lanes.workers.get lane = .idle)
    (queue : lanes.queues.get lane = .run submission :: rest) :
    Effect barrier route jobs lanes { lanes with
      queues := lanes.queues.set lane rest lane.isLt
      workers := lanes.workers.set lane (.running submission) lane.isLt
      started := submission :: lanes.started } := by
  have all : lanes.tasks lane = lanes.unbegun lane := tasks_eq_unbegun (by rw [idle]; rfl)
  have first : lanes.tasks lane = .run submission ::
      (rest ++ (lanes.outbox.filter (·.1 = lane)).map (·.2)) := by
    simp [tasks, idle, queue, LaneWorker.task?]
  have remains (other : Fin n) : ({ lanes with
      queues := lanes.queues.set lane rest lane.isLt
      workers := lanes.workers.set lane (.running submission) lane.isLt
      started := submission :: lanes.started } : Lanes n Job).unbegun other =
        if other = lane then rest ++ (lanes.outbox.filter (·.1 = lane)).map (·.2)
        else lanes.unbegun other := by
    simp only [unbegun, get_set_lane]
    split
    · rename_i own
      simp [own, LaneWorker.held?]
    · rfl
  have own : .run submission ∈ lanes.tasks lane := first ▸ List.mem_cons_self
  refine .began lane rfl rfl ?_ (fun other differs => running?_set_of_ne _ differs)
    ⟨_, all ▸ own, rfl⟩ (fun other => ?_) (fun other task member same => ?_)
    (fun earlier before job known binds => sound.finished_of_binds first before known binds)
  · simp [get_set_lane, LaneWorker.running?]
  · rw [remains]
    split
    · rename_i isOwn
      rw [isOwn, ← all, first]
      exact List.sublist_cons_self _ _
    · exact List.Sublist.refl _
  · -- A request of one lane is its task once, and this was the task.
    rw [remains] at member
    have ordered := sound.ordered lane
    rw [first, List.pairwise_cons] at ordered
    split at member
    · have above := ordered.1 task member
      exact absurd above (same ▸ Nat.lt_irrefl _)
    · rename_i differs
      exact differs (sound.eq_of_run own ((lanes.unbegun_sublist other).subset member) same).1

/-- Workers that meet at a barrier begin to run its request. -/
theorem Sound.effect_gathered (sound : lanes.Sound barrier route jobs) {leader : Fin n}
    (waiting : lanes.workers.get leader = .waiting submission)
    (all : ∀ lane : Fin n, waitsAt submission.index (lanes.workers.get lane) = true) :
    Effect barrier route jobs lanes { lanes with
      workers :=
        (Vector.replicate n (.leaving submission)).set leader (.leading submission) leader.isLt
      started := submission :: lanes.started } := by
  have gathered := sound.waiting_of_gathered waiting all
  have first (lane : Fin n) : lanes.tasks lane = .meet submission ::
      (lanes.queues.get lane ++ (lanes.outbox.filter (·.1 = lane)).map (·.2)) := by
    simp [tasks, gathered lane, LaneWorker.task?]
  have before (lane : Fin n) : lanes.tasks lane = lanes.unbegun lane :=
    tasks_eq_unbegun (by rw [gathered lane]; rfl)
  have remains (lane : Fin n) : ({ lanes with
      workers :=
        (Vector.replicate n (.leaving submission)).set leader (.leading submission) leader.isLt
      started := submission :: lanes.started } : Lanes n Job).unbegun lane =
        lanes.queues.get lane ++ (lanes.outbox.filter (·.1 = lane)).map (·.2) := by
    simp only [unbegun, get_set_lane]
    split
    · rfl
    · simp [LaneWorker.held?]
  refine .began leader rfl rfl ?_ (fun other differs => ?_)
    ⟨.meet submission, before leader ▸ first leader ▸ List.mem_cons_self, rfl⟩ (fun other => ?_)
    (fun other task member => ?_)
    (fun earlier early _ _ _ => sound.finished_below leader (fun lane => ⟨_, first lane⟩) early)
  · simp [get_set_lane, LaneWorker.running?]
  · rw [get_set_lane, if_neg differs, gathered other]
    simp [LaneWorker.running?]
  · rw [remains, ← before, first]
    exact List.sublist_cons_self _ _
  · rw [remains] at member
    have ordered := sound.ordered other
    rw [first, List.pairwise_cons] at ordered
    exact Nat.ne_of_gt (ordered.1 task member)

/-- A worker that has run its request and is left without one to run ends that request. -/
theorem effect_ran {worker : LaneWorker Job}
    (runs : (lanes.workers.get lane).running? = some submission) (idle : worker.running? = none)
    (held : worker.held? = (lanes.workers.get lane).held?) :
    Effect barrier route jobs lanes { lanes with
      workers := lanes.workers.set lane worker lane.isLt
      finished := submission :: lanes.finished } := by
  refine .ran rfl rfl runs ?_ (fun other differs => running?_set_of_ne _ differs) (fun other => ?_)
  · rw [get_set_lane, if_pos rfl, idle]
  · simp only [unbegun, get_set_lane]
    split
    · rename_i own
      rw [held, own]
    · rfl

/-- A move begins one request, or ends one, or does neither. -/
theorem Sound.effect (sound : lanes.Sound barrier route jobs) (moved : lanes.Moved move next) :
    Effect barrier route jobs lanes next := by
  cases moved with
  | @sent lane task rest outbox =>
    refine .quiet rfl rfl (fun other => rfl) fun other => ?_
    simp only [unbegun, outbox, get_set_lane]
    by_cases same : other = lane
    · simp [same]
    · simp [same, Ne.symm same]
  | began idle queue => exact sound.effect_began idle queue
  | @arrived lane submission rest idle queue =>
    refine .quiet rfl rfl (running?_set_of_eq (by rw [idle]; rfl)) fun other => ?_
    simp only [unbegun, get_set_lane]
    by_cases same : other = lane
    · subst same
      simp [idle, queue, LaneWorker.held?]
    · simp [same]
  | ran running => exact effect_ran (by rw [running]; rfl) rfl (by rw [running]; rfl)
  | led leading => exact effect_ran (by rw [leading]; rfl) rfl (by rw [leading]; rfl)
  | gathered waiting all => exact sound.effect_gathered waiting all
  | parted some all =>
    have still (lane : Fin n) : (lanes.workers.get lane).running? = none ∧
        (lanes.workers.get lane).held? = none := by
      have test := all lane
      cases worker : lanes.workers.get lane with
      | leaving submission => exact ⟨rfl, rfl⟩
      | _ =>
        rw [worker] at test
        contradiction
    refine .quiet rfl rfl (fun lane => ?_) fun lane => ?_
    · rw [(still lane).1, get_replicate_lane]
      rfl
    · simp only [unbegun, (still lane).2, get_replicate_lane]
      rfl
  | @ended lane idle queue outbox =>
    refine .quiet rfl rfl (running?_set_of_eq (by rw [idle]; rfl)) fun other => ?_
    simp only [unbegun, get_set_lane]
    by_cases same : other = lane
    · subst same
      simp [idle, LaneWorker.held?]
    · simp [same]

/-- Requests run at most once, and in an order that keeps what binds them. -/
structure Ordered (barrier : Job → Bool) (route : Job → Fin n) (jobs : List Job)
    (lanes : Lanes n Job) : Prop where
  /-- Nothing is lost on the way to the workers. -/
  sound : lanes.Sound barrier route jobs
  /-- What began was submitted. -/
  known : ∀ submission ∈ lanes.started, jobs[submission.index]? = some submission.job
  /-- No request begins twice. -/
  once : (lanes.started.map (·.index)).Nodup
  /-- No request ends twice. -/
  endedOnce : (lanes.finished.map (·.index)).Nodup
  /-- What has run began before. -/
  begun : ∀ submission ∈ lanes.finished, submission ∈ lanes.started
  /-- What a lane has not begun did not begin elsewhere. -/
  fresh : ∀ lane, ∀ task ∈ lanes.unbegun lane, ¬ lanes.HasStarted task.index
  /-- What a worker runs began and has not run. -/
  underway : ∀ lane submission, (lanes.workers.get lane).running? = some submission →
    submission ∈ lanes.started ∧ ¬ lanes.HasFinished submission.index
  /-- No request is run by two workers. -/
  sole : ∀ lane other submission, (lanes.workers.get lane).running? = some submission →
    (lanes.workers.get other).running? = some submission → lane = other
  /-- When a request began, everything before it that binds it had run. -/
  after : ∀ submission ∈ lanes.started, ∀ earlier < submission.index, ∀ job,
    jobs[earlier]? = some job → Binds barrier route job submission.job →
      lanes.HasFinished earlier

/-- Requests that began are told apart by their numbers. -/
theorem Ordered.eq_of_index (ordered : lanes.Ordered barrier route jobs)
    {first second : Submission Job} (one : first ∈ lanes.started) (two : second ∈ lanes.started)
    (same : first.index = second.index) : first = second := by
  have firstJob := ordered.known first one
  have secondJob := ordered.known second two
  rw [← same, firstJob] at secondJob
  obtain ⟨firstIndex, job⟩ := first
  obtain ⟨secondIndex, otherJob⟩ := second
  cases same
  cases secondJob
  rfl

/-- The beginning of a request keeps the order of the requests. -/
theorem Ordered.began (ordered : lanes.Ordered barrier route jobs)
    (sound : next.Sound barrier route jobs) (started : next.started = submission :: lanes.started)
    (finished : next.finished = lanes.finished)
    (runs : (next.workers.get lane).running? = some submission)
    (others : ∀ other, other ≠ lane →
      (next.workers.get other).running? = (lanes.workers.get other).running?)
    (own : ∃ task ∈ lanes.unbegun other, task.submission = submission)
    (unbegun : ∀ other, (next.unbegun other).Sublist (lanes.unbegun other))
    (gone : ∀ other, ∀ task ∈ next.unbegun other, task.index ≠ submission.index)
    (after : ∀ earlier < submission.index, ∀ job, jobs[earlier]? = some job →
      Binds barrier route job submission.job → lanes.HasFinished earlier) :
    next.Ordered barrier route jobs := by
  obtain ⟨task, waits, rfl⟩ := own
  have isNew : ¬ lanes.HasStarted task.index := ordered.fresh other task waits
  have idle : ¬ lanes.HasFinished task.index := by
    rintro ⟨done, member, same⟩
    exact isNew ⟨done, ordered.begun done member, same⟩
  have elsewhere {lane : Fin n}
      (runs : (lanes.workers.get lane).running? = some task.submission) : False :=
    isNew ⟨task.submission, (ordered.underway lane _ runs).1, rfl⟩
  refine
    { sound
      known := fun found member => ?_
      once := ?_
      endedOnce := finished ▸ ordered.endedOnce
      begun := fun done member => ?_
      fresh := fun lane found member => ?_
      underway := fun worker found runs' => ?_
      sole := fun first second found one two => ?_
      after := fun found member earlier before job known binds => ?_ }
  · rw [started] at member
    rcases List.mem_cons.mp member with rfl | old
    · exact ordered.sound.pending other task ((lanes.unbegun_sublist other).subset waits)
    · exact ordered.known found old
  · rw [started, List.map_cons, List.nodup_cons]
    refine ⟨fun member => isNew ?_, ordered.once⟩
    obtain ⟨found, old, same⟩ := List.mem_map.mp member
    exact ⟨found, old, same⟩
  · rw [started]
    exact List.mem_cons_of_mem _ (ordered.begun done (finished ▸ member))
  · rintro ⟨begun, isBegun, same⟩
    rw [started] at isBegun
    rcases List.mem_cons.mp isBegun with rfl | old
    · exact gone lane found member same.symm
    · exact ordered.fresh lane found ((unbegun lane).subset member) ⟨begun, old, same⟩
  · rw [HasFinished, finished, started]
    by_cases isOwn : worker = lane
    · rw [isOwn, runs, Option.some.injEq] at runs'
      rw [← runs']
      exact ⟨List.mem_cons_self, idle⟩
    · rw [others worker isOwn] at runs'
      obtain ⟨begun, still⟩ := ordered.underway worker found runs'
      exact ⟨List.mem_cons_of_mem _ begun, still⟩
  · -- Two workers could share the new request only if one of them had it before.
    by_cases firstOwn : first = lane
    · by_cases secondOwn : second = lane
      · rw [firstOwn, secondOwn]
      · rw [firstOwn, runs, Option.some.injEq] at one
        rw [others second secondOwn, ← one] at two
        exact (elsewhere two).elim
    · rw [others first firstOwn] at one
      by_cases secondOwn : second = lane
      · rw [secondOwn, runs, Option.some.injEq] at two
        rw [← two] at one
        exact (elsewhere one).elim
      · rw [others second secondOwn] at two
        exact ordered.sole first second found one two
  · rw [HasFinished, finished]
    rw [started] at member
    rcases List.mem_cons.mp member with rfl | old
    · exact after earlier before job known binds
    · exact ordered.after found old earlier before job known binds

/-- The end of a request keeps the order of the requests. -/
theorem Ordered.ran (ordered : lanes.Ordered barrier route jobs)
    (sound : next.Sound barrier route jobs) (started : next.started = lanes.started)
    (finished : next.finished = submission :: lanes.finished)
    (runs : (lanes.workers.get lane).running? = some submission)
    (idle : (next.workers.get lane).running? = none)
    (others : ∀ other, other ≠ lane →
      (next.workers.get other).running? = (lanes.workers.get other).running?)
    (unbegun : ∀ lane, next.unbegun lane = lanes.unbegun lane) :
    next.Ordered barrier route jobs := by
  obtain ⟨begun, still⟩ := ordered.underway lane submission runs
  have before {worker : Fin n} {found : Submission Job}
      (runs : (next.workers.get worker).running? = some found) :
      worker ≠ lane ∧ (lanes.workers.get worker).running? = some found := by
    by_cases isOwn : worker = lane
    · rw [isOwn, idle] at runs
      contradiction
    · exact ⟨isOwn, others worker isOwn ▸ runs⟩
  refine
    { sound
      known := started ▸ ordered.known
      once := started ▸ ordered.once
      endedOnce := ?_
      begun := fun done member => ?_
      fresh := fun lane task member => ?_
      underway := fun worker found runs' => ?_
      sole := fun first second found one two =>
        ordered.sole first second found (before one).2 (before two).2
      after := fun found member earlier earlierThan job known binds => ?_ }
  · rw [finished, List.map_cons, List.nodup_cons]
    refine ⟨fun member => still ?_, ordered.endedOnce⟩
    obtain ⟨found, old, same⟩ := List.mem_map.mp member
    exact ⟨found, old, same⟩
  · rw [started]
    rw [finished] at member
    rcases List.mem_cons.mp member with rfl | old
    · exact begun
    · exact ordered.begun done old
  · rw [HasStarted, started]
    exact ordered.fresh lane task (unbegun lane ▸ member)
  · obtain ⟨elsewhere, ranBefore⟩ := before runs'
    obtain ⟨foundBegun, foundStill⟩ := ordered.underway worker found ranBefore
    rw [started]
    refine ⟨foundBegun, ?_⟩
    rintro ⟨done, member, same⟩
    rw [finished] at member
    rcases List.mem_cons.mp member with rfl | old
    · -- The request that ended is run by its own worker alone.
      have equal := ordered.eq_of_index begun foundBegun same
      exact elsewhere (ordered.sole worker lane found ranBefore (equal ▸ runs))
    · exact foundStill ⟨done, old, same⟩
  · obtain ⟨done, member, same⟩ :=
      ordered.after found (started ▸ member) earlier earlierThan job known binds
    exact ⟨done, finished ▸ List.mem_cons_of_mem _ member, same⟩

/-- A move keeps the order of the requests. -/
theorem Ordered.moved (ordered : lanes.Ordered barrier route jobs)
    (moved : lanes.Moved move next) : next.Ordered barrier route jobs := by
  have sound := ordered.sound.moved moved
  cases ordered.sound.effect moved with
  | quiet started finished running unbegun =>
    exact
      { sound
        known := started ▸ ordered.known
        once := started ▸ ordered.once
        endedOnce := finished ▸ ordered.endedOnce
        begun := finished ▸ started ▸ ordered.begun
        fresh := fun lane task member => by
          rw [HasStarted, started]
          exact ordered.fresh lane task (unbegun lane ▸ member)
        underway := fun lane submission runs => by
          rw [HasFinished, finished, started]
          exact ordered.underway lane submission (running lane ▸ runs)
        sole := fun lane other submission one two =>
          ordered.sole lane other submission (running lane ▸ one) (running other ▸ two)
        after := fun submission member earlier before job known binds => by
          rw [HasFinished, finished]
          exact ordered.after submission (started ▸ member) earlier before job known binds }
  | began _ started finished runs others own unbegun gone after =>
    exact ordered.began sound started finished runs others own unbegun gone after
  | ran started finished runs idle others unbegun =>
    exact ordered.ran sound started finished runs idle others unbegun

/-- Lanes without work keep every order. -/
theorem ordered_idle (barrier : Job → Bool) (route : Job → Fin n) :
    (idle n Job).Ordered barrier route [] where
  sound := sound_idle barrier route
  known submission member := absurd member List.not_mem_nil
  once := .nil
  endedOnce := .nil
  begun submission member := absurd member List.not_mem_nil
  fresh lane task member := by
    rintro ⟨submission, started, -⟩
    exact absurd started List.not_mem_nil
  underway lane submission runs := by simp [idle, LaneWorker.running?] at runs
  sole lane other submission runs := by simp [idle, LaneWorker.running?] at runs
  after submission member := absurd member List.not_mem_nil

/-- A submission brings its tasks behind those that a lane has not begun. -/
theorem unbegun_submit (lanes : Lanes n Job) (isBarrier : Bool) (own : Fin n) (job : Job)
    (lane : Fin n) : (lanes.submit isBarrier own job).unbegun lane =
      lanes.unbegun lane ++ added isBarrier own ⟨lanes.submitted, job⟩ lane := by
  rw [unbegun, outbox_submit, unbegun, ← List.append_assoc, ← List.append_assoc,
    ← List.append_assoc]
  rfl

/-- A submission keeps the order of the requests. -/
theorem Ordered.submit (ordered : lanes.Ordered barrier route jobs) (job : Job) :
    (lanes.submit (barrier job) (route job) job).Ordered barrier route (jobs ++ [job]) := by
  have bound {submission : Submission Job} (member : submission ∈ lanes.started) :
      submission.index < jobs.length :=
    (List.getElem?_eq_some_iff.mp (ordered.known submission member)).1
  refine
    { sound := ordered.sound.submit job
      known := fun submission member => ?_
      once := ordered.once
      endedOnce := ordered.endedOnce
      begun := ordered.begun
      fresh := fun lane task member => ?_
      underway := ordered.underway
      sole := ordered.sole
      after := fun submission member earlier before found known binds => ?_ }
  · exact (List.getElem?_append_left (bound member)).trans (ordered.known submission member)
  · rintro ⟨submission, started, same⟩
    rw [unbegun_submit] at member
    rcases List.mem_append.mp member with old | new
    · exact ordered.fresh lane task old ⟨submission, started, same⟩
    · rw [LaneTask.index, submission_of_mem_added new] at same
      have isNew : submission.index = jobs.length := same.trans ordered.sound.submitted
      exact absurd (bound started) (isNew ▸ Nat.lt_irrefl _)
  · rw [List.getElem?_append_left (before.trans (bound member))] at known
    exact ordered.after submission member earlier before found known binds

/-- Shutting the lanes keeps the order of the requests. -/
theorem Ordered.shut (ordered : lanes.Ordered barrier route jobs) :
    lanes.shut.Ordered barrier route jobs :=
  ⟨ordered.sound.shut, ordered.known, ordered.once, ordered.endedOnce, ordered.begun,
    ordered.fresh, ordered.underway, ordered.sole, ordered.after⟩

/-- Every run keeps the order of the requests that are submitted in it. -/
theorem Ordered.run (ordered : lanes.Ordered barrier route jobs)
    {events : List (LaneEvent n Job)} (ran : lanes.run? barrier route events = some next) :
    next.Ordered barrier route (jobs ++ submittedIn events) := by
  induction events generalizing lanes jobs with
  | nil =>
    cases ran
    exact (List.append_nil jobs).symm ▸ ordered
  | cons event rest ih =>
    obtain ⟨middle, followed, continued⟩ := Option.bind_eq_some_iff.mp ran
    cases event with
    | submit job =>
      simp only [follow?] at followed
      split at followed
      · contradiction
      · cases followed
        have later := ih (ordered.submit job) continued
        rwa [List.append_assoc] at later
    | shut =>
      cases followed
      exact ih ordered.shut continued
    | move move => exact ih (ordered.moved (moved_of_step? followed)) continued

end Lanes
end Standby
