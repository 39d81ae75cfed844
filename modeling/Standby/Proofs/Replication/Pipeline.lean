import Standby.Proofs.Replication.Barrier
import Standby.Proofs.Replication.Run

/-!
# A session before its lanes

The requests of a session wait until they are handed to the lanes, which run them beside the
session in any order that the lanes allow. The end of a copy does not wait for the lanes: the work
at the end is done while requests of the copy may still wait or run. They have all run exactly
when the end of the last entity of the copy, which is a barrier, has run
(`Pipeline.finished_pass_iff`).
-/
namespace Standby

variable {host : Host}

namespace Session

variable {session : Session host}

/-- From one session to a later one some requests were handed on and wait, unless requests are run
at once. -/
structure Hands (before after : Session host) (jobs : List (ApplyJob host)) : Prop where
  /-- The requests wait behind the others. -/
  backlog : after.around.backlog.toList = before.around.backlog.toList ++ jobs
  /-- Requests get to their entities as before. -/
  execution : after.execution = before.execution
  /-- A request that is run at once does not wait. -/
  inline : before.execution = .inline → jobs = []

/-- Nothing is handed on when nothing more waits. -/
theorem Hands.of_eq {after : Session host} (same : after.around.backlog = session.around.backlog)
    (execution : after.execution = session.execution) : Hands session after [] :=
  ⟨by rw [same, List.append_nil], execution, fun _ => rfl⟩

/-- What is handed on first waits first. -/
theorem Hands.trans {middle after : Session host} {first second : List (ApplyJob host)}
    (early : Hands session middle first) (late : Hands middle after second) :
    Hands session after (first ++ second) where
  backlog := by rw [late.backlog, early.backlog, List.append_assoc]
  execution := late.execution.trans early.execution
  inline inline := by
    rw [early.inline inline, late.inline (early.execution.trans inline)]
    rfl

/-- A request that is handed on waits, unless it is run at once. -/
theorem hands_execute {after : Session host} {around : Surroundings host} {job : ApplyJob host}
    (same : around.backlog = session.around.backlog)
    (execution : after.execution = session.execution)
    (executed : after.around = around.execute session.execution job) :
    Hands session after (session.execution.waiting job) where
  backlog := by rw [executed, Surroundings.backlog_execute, same]
  execution := execution
  inline inline := by rw [inline]; rfl

/-- A live operation that is processed hands some requests on. -/
theorem process_hands (session : Session host) (message : ReplicationMessage) :
    ∃ jobs, Hands session (session.process message).2 jobs := by
  have fate := session.processes message
  generalize session.process message = step at fate ⊢
  obtain ⟨admission, next⟩ := step
  cases fate with
  | acknowledged idle => exact ⟨[], .of_eq (by simp [Surroundings.note]) rfl⟩
  | unmade acts found =>
    have same := Surroundings.backlog_of_findOrCreate found
    exact ⟨[], .of_eq (by simp [Surroundings.note, same]) rfl⟩
  | unread acts found unread =>
    have same := Surroundings.backlog_of_findOrCreate found
    exact ⟨[], .of_eq (by simp [Surroundings.note, same]) rfl⟩
  | dispatched acts found read =>
    have same := Surroundings.backlog_of_findOrCreate found
    refine ⟨_, hands_execute ?_ rfl rfl⟩
    simp [Surroundings.note, same]

/-- Replaying what was held back hands some requests on. -/
theorem replay_hands (held : List ReplicationMessage) (session : Session host) :
    ∃ jobs, Hands session (held.foldl replay session) jobs := by
  induction held generalizing session with
  | nil => exact ⟨[], .of_eq rfl rfl⟩
  | cons message rest ih =>
    have counted : Hands session { session with
        stats := { session.stats with replayed := session.stats.replayed + 1 } } [] :=
      .of_eq rfl rfl
    obtain ⟨first, early⟩ := process_hands { session with
      stats := { session.stats with replayed := session.stats.replayed + 1 } } message
    obtain ⟨second, late⟩ := ih (replay session message)
    exact ⟨_, (counted.trans early).trans late⟩

/-- A request of a copy is handed on. -/
theorem dispatchSync_hands (session : Session host) (handle : host.Handle)
    (action : EntityAction) (key : ConcurrencyKey)
    (body : RequestBody host.Message host.Chunk) :
    ∃ job : ApplyJob host, job.request.action = action ∧
      Hands session (session.dispatchSync handle action key body)
        (session.execution.waiting job) :=
  ⟨_, rfl, hands_execute rfl rfl rfl⟩

/-- An item that is taken hands some requests on. The end of the copy of an entity hands a barrier
on. -/
theorem Accepted.hands {item : StreamItem} {admission : Admission} {next : Session host}
    (accepted : session.Accepted item admission next) : ∃ jobs, Hands session next jobs ∧
      ∀ entity version, item = .sync (.endEntity entity version) →
        ∃ job : ApplyJob host, job.isBarrier = true ∧ jobs = session.execution.waiting job := by
  cases accepted with
  | startSync idle => exact ⟨[], .of_eq rfl rfl, by simp⟩
  | @startEntity entity version config isNew handle made around syncing closed found =>
    have adopted : Hands session (session.adopt around made) [] :=
      .of_eq (Surroundings.backlog_of_findOrCreate found) rfl
    obtain ⟨job, -, handed⟩ :=
      (session.adopt around made).dispatchSync_hands handle .syncEntityStart .management .none
    exact ⟨_, adopted.trans ⟨handed.backlog, handed.execution, handed.inline⟩, by simp⟩
  | startKey syncing isOpen between fresh =>
    exact ⟨_, hands_execute rfl rfl rfl, by simp⟩
  | payload syncing isOpen within fits read =>
    exact ⟨_, hands_execute rfl rfl rfl, by simp⟩
  | @endKey current key syncing isOpen within =>
    have ended : Hands session (session.endingKey current key) [] := .of_eq rfl rfl
    obtain ⟨replayed, handed⟩ := replay_hands (session.deferred.held ⟨current.id, key⟩)
      (session.endingKey current key)
    obtain ⟨job, -, last⟩ := dispatchSync_hands
      ((session.deferred.held ⟨current.id, key⟩).foldl replay (session.endingKey current key))
      current.handle .syncKeyEnd key .none
    exact ⟨_, (ended.trans handed).trans last, by simp⟩
  | @endEntity current syncing isOpen between =>
    have closed : Hands session { session with openEntity := none } [] := .of_eq rfl rfl
    obtain ⟨job, action, handed⟩ := dispatchSync_hands
      { session with openEntity := none } current.handle .syncEntityEnd .management .none
    refine ⟨_, closed.trans handed, fun _ _ _ => ⟨job, ?_, rfl⟩⟩
    simp [ApplyJob.isBarrier, action]
  | endSync syncing closed finished =>
    exact ⟨[], .of_eq (Surroundings.backlog_of_finishSync finished) rfl, by simp⟩
  | deferred isOpen room => exact ⟨[], .of_eq rfl rfl, by simp⟩
  | processed elsewhere =>
    obtain ⟨jobs, handed⟩ := process_hands session _
    exact ⟨jobs, handed, by simp⟩

/-- A fault hands nothing on. -/
theorem Refused.hands {item : StreamItem} {fault : ReplicationFault} {around : Surroundings host}
    (refused : session.Refused item fault around) : Hands session (session.failAt around) [] := by
  refine .of_eq ?_ rfl
  cases refused with
  | misplaced reason broken => rfl
  | unmade syncing closed found => exact Surroundings.backlog_of_findOrCreate found
  | oversized syncing isOpen within exceeds => rfl
  | unread syncing isOpen within fits unread => rfl
  | unfinished syncing closed finished => exact Surroundings.backlog_of_finishSync finished
  | overflow isOpen full => rfl

/-- A move hands some requests on. -/
theorem move_hands (coherent : session.Coherent) (next : SessionMove host) :
    ∃ jobs, Hands session (session.move next) jobs := by
  have moved := session.moved coherent next
  generalize session.move next = after at moved ⊢
  cases moved with
  | accepted running answered accepted =>
    obtain ⟨jobs, handed, -⟩ := accepted.hands
    exact ⟨jobs, handed⟩
  | refused running refused => exact ⟨[], refused.hands⟩
  | used action => exact ⟨[], .of_eq (Surroundings.backlog_use _ _) rfl⟩
  | ignored stopped => exact ⟨[], .of_eq rfl rfl⟩
  | closed => exact ⟨[], .of_eq rfl rfl⟩
  | stirred world => exact ⟨[], .of_eq rfl rfl⟩

/-- A session that runs requests at once never lets one wait. -/
theorem backlog_run_of_inline (source : ServerId) (limits : Limits) (world : host.World)
    (moves : List (SessionMove host)) :
    ((start source limits .inline world).run moves).around.backlog = #[] := by
  have kept (session : Session host) (next : SessionMove host)
      (before : session.Coherent ∧ session.execution = .inline ∧ session.around.backlog = #[]) :
      (session.move next).Coherent ∧ (session.move next).execution = .inline ∧
        (session.move next).around.backlog = #[] := by
    obtain ⟨coherent, inline, empty⟩ := before
    obtain ⟨jobs, handed⟩ := move_hands coherent next
    refine ⟨coherent.move next, handed.execution.trans inline, ?_⟩
    rw [← Array.toList_inj, handed.backlog, handed.inline inline, empty]
    rfl
  exact (run_induction kept moves ⟨coherent_start source limits .inline world, rfl, rfl⟩).2.2

end Session

/-- A session with the lanes that run its requests. -/
structure Pipeline (n : Nat) (host : Host) where
  /-- The session. -/
  session : Session host
  /-- The lanes. -/
  lanes : Lanes n (ApplyJob host)
  /-- The requests handed to the lanes, the oldest first. -/
  jobs : List (ApplyJob host)
  /-- The numbers of the requests that the copy going on handed to the lanes: its brackets, its
  pieces and what was held back for its keys. -/
  pass : List Nat

/-- Something that happens to a session or to its lanes. -/
inductive PipelineMove (n : Nat) (host : Host) where
  /-- Something happens to the session. -/
  | session (next : SessionMove host)
  /-- The lanes move on. -/
  | lane (next : LaneMove n)

namespace SessionMove

/-- A move of the session itself. It comes only after all requests of the one before have been
sent to the lanes. -/
def isOwn : SessionMove host → Bool
  | item _ => true
  | close => true
  | use _ => false
  | stir _ => false

/-- The numbers of the requests of a copy after a move that hands some more on. -/
def pass (pass : List Nat) (first count : Nat) : SessionMove host → List Nat
  | item (.sync .startSync) => []
  | item (.sync _) => pass ++ List.range' first count
  | _ => pass

end SessionMove

namespace Pipeline

variable {n : Nat} {route : Slot → Fin n}

/-- A new session with lanes that have no work. -/
def start (n : Nat) (source : ServerId) (limits : Limits) (world : host.World) :
    Pipeline n host :=
  { session := .start source limits .lanes world, lanes := .idle n (ApplyJob host), jobs := [],
    pass := [] }

/-- Submit requests to lanes in order, each to the lane of its slot. -/
def submitAll (route : Slot → Fin n) (lanes : Lanes n (ApplyJob host))
    (jobs : List (ApplyJob host)) : Lanes n (ApplyJob host) :=
  jobs.foldl (fun lanes job => lanes.submit job.isBarrier (route job.slot) job) lanes

/-- The pipeline after a move of the session, whose requests are handed to the lanes. The lanes are
shut when the session is closed. -/
def proceed (route : Slot → Fin n) (pipeline : Pipeline n host) (next : SessionMove host) :
    Pipeline n host :=
  let moved := pipeline.session.move next
  let waiting := moved.around.backlog.toList
  let lanes := submitAll route pipeline.lanes waiting
  { session := { moved with around := { moved.around with backlog := #[] } }
    lanes := match next with
      | .close => lanes.shut
      | _ => lanes
    jobs := pipeline.jobs ++ waiting
    pass := next.pass pipeline.pass pipeline.jobs.length waiting.length }

/-- The pipeline after the lanes moved on; a request that began to run acts on its entity. -/
def advance (pipeline : Pipeline n host) (lanes : Lanes n (ApplyJob host)) : Pipeline n host :=
  let began := lanes.started.take (lanes.started.length - pipeline.lanes.started.length)
  let around := began.reverse.foldl (fun around submission => around.run submission.job)
    pipeline.session.around
  { pipeline with session := { pipeline.session with around }, lanes }

/-- The pipeline after a move, if the move is possible. -/
def step? (route : Slot → Fin n) (pipeline : Pipeline n host) :
    PipelineMove n host → Option (Pipeline n host)
  | .session next =>
    if next.isOwn = true ∧ pipeline.lanes.outbox ≠ [] then none
    else some (pipeline.proceed route next)
  | .lane next => (pipeline.lanes.step? next).map pipeline.advance

/-- The pipeline after some moves, if each of them is possible. -/
def run? (route : Slot → Fin n) (pipeline : Pipeline n host) :
    List (PipelineMove n host) → Option (Pipeline n host)
  | [] => some pipeline
  | next :: rest => (pipeline.step? route next).bind fun moved => moved.run? route rest

/-- The session, the lanes and the numbers of the requests of a copy fit together. -/
structure Sound (route : Slot → Fin n) (pipeline : Pipeline n host) : Prop where
  /-- The session is coherent. -/
  coherent : pipeline.session.Coherent
  /-- Requests go to the lanes. -/
  execution : pipeline.session.execution = .lanes
  /-- Every request was handed to the lanes. -/
  handed : pipeline.session.around.backlog = #[]
  /-- The lanes have run the requests or still have to. -/
  lanes : pipeline.lanes.Sound ApplyJob.isBarrier (fun job => route job.slot) pipeline.jobs
  /-- The requests of a copy are numbered in their order. -/
  ordered : pipeline.pass.Pairwise (· < ·)
  /-- The requests of a copy were handed to the lanes. -/
  known : ∀ index ∈ pipeline.pass, index < pipeline.jobs.length
  /-- Between two entities of a copy, its last request is a barrier. -/
  last : pipeline.session.phase = .syncing → pipeline.session.openEntity = none →
    ∀ index ∈ pipeline.pass.getLast?, ∃ job : ApplyJob host,
      pipeline.jobs[index]? = some job ∧ job.isBarrier = true

variable {pipeline moved : Pipeline n host}

/-- A new pipeline is sound. -/
theorem sound_start (source : ServerId) (limits : Limits) (world : host.World) :
    (start n source limits world).Sound route where
  coherent := Session.coherent_start source limits .lanes world
  execution := rfl
  handed := rfl
  lanes := Lanes.sound_idle _ _
  ordered := .nil
  known index member := absurd member List.not_mem_nil
  last syncing := by simp [start, Session.start] at syncing

/-- Submitted requests leave the lanes sound. -/
theorem sound_submitAll {lanes : Lanes n (ApplyJob host)} {jobs : List (ApplyJob host)}
    (sound : lanes.Sound ApplyJob.isBarrier (fun job => route job.slot) jobs)
    (more : List (ApplyJob host)) :
    (submitAll route lanes more).Sound ApplyJob.isBarrier (fun job => route job.slot)
      (jobs ++ more) := by
  unfold submitAll
  induction more generalizing lanes jobs with
  | nil => exact (List.append_nil jobs).symm ▸ sound
  | cons job rest ih =>
    have next := ih (sound.submit job)
    rwa [List.append_assoc] at next

/-- The requests of a copy stay numbered in their order. -/
theorem ordered_pass {pass : List Nat} {first : Nat} (ordered : pass.Pairwise (· < ·))
    (known : ∀ index ∈ pass, index < first) (count : Nat) (next : SessionMove host) :
    (next.pass pass first count).Pairwise (· < ·) ∧
      ∀ index ∈ next.pass pass first count, index < first + count := by
  have longer : (pass ++ List.range' first count).Pairwise (· < ·) ∧
      ∀ index ∈ pass ++ List.range' first count, index < first + count := by
    refine ⟨List.pairwise_append.mpr ⟨ordered, List.pairwise_lt_range', ?_⟩, ?_⟩
    · intro early old late new
      exact Nat.lt_of_lt_of_le (known early old) (List.mem_range'_1.mp new).1
    · intro index member
      rcases List.mem_append.mp member with old | new
      · exact Nat.lt_of_lt_of_le (known index old) (Nat.le_add_right _ _)
      · exact (List.mem_range'_1.mp new).2
  have same : pass.Pairwise (· < ·) ∧ ∀ index ∈ pass, index < first + count :=
    ⟨ordered, fun index member => Nat.lt_of_lt_of_le (known index member) (Nat.le_add_right _ _)⟩
  cases next with
  | item item =>
    cases item with
    | sync message =>
      cases message with
      | startSync => exact ⟨.nil, fun index member => absurd member List.not_mem_nil⟩
      | _ => exact longer
    | replicate message => exact same
  | _ => exact same

/-- An item of a copy after which no entity is open, within the copy, begins the copy or ends the
copy of an entity. -/
theorem closing_item {session next : Session host} {message : SyncMessage} {admission : Admission}
    (accepted : session.Accepted (.sync message) admission next) (syncing : next.phase = .syncing)
    (closed : next.openEntity = none) :
    message = .startSync ∨ ∃ entity version, message = .endEntity entity version := by
  cases accepted with
  | startSync idle => exact .inl rfl
  | startEntity isSyncing closedBefore found => contradiction
  | startKey isSyncing isOpen between fresh => contradiction
  | payload isSyncing isOpen within fits read => exact absurd (isOpen.symm.trans closed) (by simp)
  | @endKey current key isSyncing isOpen within =>
    obtain ⟨around, stats, replayed, -⟩ := Session.replay_frame
      (session.deferred.held ⟨current.id, key⟩) (session.endingKey current key)
    rw [replayed] at closed
    contradiction
  | endEntity isSyncing isOpen between => exact .inr ⟨_, _, rfl⟩
  | endSync isSyncing closedBefore finished => contradiction

/-- A live operation that is taken changes neither the phase nor the open entity. -/
theorem frame_replicate {session next : Session host} {message : ReplicationMessage}
    {admission : Admission} (accepted : session.Accepted (.replicate message) admission next) :
    next.phase = session.phase ∧ next.openEntity = session.openEntity := by
  cases accepted with
  | deferred isOpen room => exact ⟨rfl, rfl⟩
  | processed elsewhere =>
    obtain ⟨around, stats, frame, -⟩ := Session.process_frame session message
    rw [frame]
    exact ⟨rfl, rfl⟩

/-- The last request of a copy is a barrier, also when more requests were handed on. -/
theorem Sound.last_append (sound : pipeline.Sound route)
    (syncing : pipeline.session.phase = .syncing) (closed : pipeline.session.openEntity = none)
    (more : List (ApplyJob host)) :
    ∀ index ∈ pipeline.pass.getLast?, ∃ job : ApplyJob host,
      (pipeline.jobs ++ more)[index]? = some job ∧ job.isBarrier = true := by
  intro index last
  obtain ⟨job, found, isBarrier⟩ := sound.last syncing closed index last
  refine ⟨job, ?_, isBarrier⟩
  rw [List.getElem?_append_left (List.getElem?_eq_some_iff.mp found).1]
  exact found

/-- Between two entities of a copy its last request is a barrier: the end of an entity. -/
theorem Sound.last_proceed (sound : pipeline.Sound route) (next : SessionMove host)
    (syncing : (pipeline.session.move next).phase = .syncing)
    (closed : (pipeline.session.move next).openEntity = none) :
    ∀ index ∈ (pipeline.proceed route next).pass.getLast?, ∃ job : ApplyJob host,
      (pipeline.proceed route next).jobs[index]? = some job ∧ job.isBarrier = true := by
  have running : (pipeline.session.move next).IsRunning := .inr syncing
  cases next with
  | item item =>
    obtain ⟨admission, -, accepted⟩ :=
      Session.accepted_of_isRunning sound.coherent running
    cases item with
    | replicate message =>
      obtain ⟨phase, entity⟩ := frame_replicate accepted
      exact sound.last_append (phase ▸ syncing) (entity ▸ closed) _
    | sync message =>
      rcases closing_item accepted syncing closed with rfl | ⟨entity, version, rfl⟩
      · exact fun index last => by simp [proceed, SessionMove.pass] at last
      · obtain ⟨jobs, handed, ending⟩ := accepted.hands
        obtain ⟨job, isBarrier, rfl⟩ := ending entity version rfl
        have waiting : (pipeline.session.move (.item (.sync (.endEntity entity
            version)))).around.backlog.toList = [job] := by
          rw [handed.backlog, sound.handed, sound.execution]
          rfl
        intro index last
        refine ⟨job, ?_, isBarrier⟩
        simp only [proceed, waiting, SessionMove.pass, List.length_singleton, List.range'_one,
          List.getLast?_append, List.getLast?_singleton, Option.some_or, Option.mem_def,
          Option.some.injEq] at last
        rw [← last]
        simp only [proceed, waiting]
        exact List.getElem?_concat_length
  | close => exact absurd running (Session.not_isRunning_close _)
  | use action => exact sound.last_append syncing closed _
  | stir world => exact sound.last_append syncing closed _

/-- A move of the session keeps a pipeline sound. -/
theorem Sound.proceed (sound : pipeline.Sound route) (next : SessionMove host) :
    (pipeline.proceed route next).Sound route := by
  have coherent := sound.coherent.move next
  obtain ⟨jobs, handed⟩ := Session.move_hands sound.coherent next
  have numbers := ordered_pass sound.ordered sound.known
    (pipeline.session.move next).around.backlog.toList.length next
  have submitted := sound_submitAll sound.lanes
    (pipeline.session.move next).around.backlog.toList
  refine
    { coherent := coherent.congr rfl rfl fun _ => rfl
      execution := handed.execution.trans sound.execution
      handed := rfl
      lanes := ?_
      ordered := numbers.1
      known := fun index member => ?_
      last := sound.last_proceed next }
  · cases next with
    | close => exact submitted.shut
    | _ => exact submitted
  · have bound := numbers.2 index member
    rwa [← List.length_append] at bound

/-- A move of the lanes keeps a pipeline sound. -/
theorem Sound.advance (sound : pipeline.Sound route) {lanes : Lanes n (ApplyJob host)}
    {next : LaneMove n} (moved : pipeline.lanes.step? next = some lanes) :
    (pipeline.advance lanes).Sound route where
  coherent := sound.coherent.congr rfl rfl fun _ => rfl
  execution := sound.execution
  handed := by
    have same (began : List (Submission (ApplyJob host))) (around : Surroundings host) :
        (began.foldl (fun around submission => around.run submission.job) around).backlog =
          around.backlog := by
      induction began generalizing around with
      | nil => rfl
      | cons submission rest ih => exact (ih _).trans (Surroundings.backlog_run _ _)
    exact (same _ _).trans sound.handed
  lanes := sound.lanes.moved (Lanes.moved_of_step? moved)
  ordered := sound.ordered
  known := sound.known
  last := sound.last

/-- Every run keeps a pipeline sound. -/
theorem Sound.run (sound : pipeline.Sound route) {moves : List (PipelineMove n host)}
    (ran : pipeline.run? route moves = some moved) : moved.Sound route := by
  induction moves generalizing pipeline with
  | nil =>
    cases ran
    exact sound
  | cons next rest ih =>
    obtain ⟨middle, stepped, ran⟩ := Option.bind_eq_some_iff.mp ran
    refine ih ?_ ran
    cases next with
    | session next =>
      simp only [step?] at stepped
      split at stepped
      · contradiction
      · cases stepped
        exact sound.proceed next
    | lane next =>
      obtain ⟨lanes, advanced, rfl⟩ := Option.map_eq_some_iff.mp stepped
      exact sound.advance advanced

/-- The work at the end of a copy is done only within a copy and between two entities. -/
theorem of_finishSync {session : Session host} (coherent : session.Coherent) {bytes : ByteArray}
    (called : (session.handle (.sync (.endSync bytes))).1 = .ok .syncCompleted ∨
      ∃ fault, (session.handle (.sync (.endSync bytes))).1 = .error (.syncComplete fault)) :
    session.phase = .syncing ∧ session.openEntity = none := by
  have result := Session.handled coherent (.sync (.endSync bytes))
  generalize session.handle (.sync (.endSync bytes)) = step at result called
  cases result with
  | accepted running accepted =>
    cases accepted with
    | endSync syncing closed finished => exact ⟨syncing, closed⟩
  | refused running refused =>
    cases refused with
    | misplaced reason broken => simp at called
    | unfinished syncing closed finished => exact ⟨syncing, closed⟩
  | ignored stopped known =>
    rcases known with rfl | rfl
    · simp at called
    · simp at called

/-- When the work at the end of a copy is done, the requests of the copy have all run exactly when
the last of them has run, which ends the copy of an entity, or when there are none. Nothing in the
session waits for this. -/
theorem finished_pass_iff (n : Nat) (route : Slot → Fin n) (source : ServerId) (limits : Limits)
    (world : host.World) (moves : List (PipelineMove n host)) (pipeline : Pipeline n host)
    (ran : (start n source limits world).run? route moves = some pipeline) (bytes : ByteArray)
    (called : (pipeline.session.handle (.sync (.endSync bytes))).1 = .ok .syncCompleted ∨
      ∃ fault, (pipeline.session.handle (.sync (.endSync bytes))).1 =
        .error (.syncComplete fault)) :
    (∀ index ∈ pipeline.pass, pipeline.lanes.HasFinished index) ↔
      ∀ index ∈ pipeline.pass.getLast?, pipeline.lanes.HasFinished index := by
  have sound : pipeline.Sound route := (sound_start source limits world).run ran
  obtain ⟨syncing, closed⟩ := of_finishSync sound.coherent called
  constructor
  · exact fun all index last => all index (List.mem_of_getLast? last)
  · intro ended index member
    obtain ⟨last, isLast⟩ := Option.isSome_iff_exists.mp
      (List.getLast?_isSome.mpr (List.ne_nil_of_mem member))
    obtain ⟨submission, done, rfl⟩ := ended last isLast
    -- The copy stands between two entities, so its last request is a barrier.
    obtain ⟨job, found, isBarrier⟩ := sound.last syncing closed _ isLast
    have submitted := sound.lanes.done submission done
    rw [found, Option.some.injEq] at submitted
    obtain ⟨before, split⟩ := List.getLast?_eq_some_iff.mp isLast
    rw [split] at member
    rcases List.mem_append.mp member with earlier | same
    · have ordered := sound.ordered
      rw [split, List.pairwise_append] at ordered
      have above := ordered.2.2 index earlier _ List.mem_cons_self
      exact sound.lanes.below submission done (submitted ▸ isBarrier) index above
    · exact ⟨submission, done, (List.mem_singleton.mp same).symm⟩

/-- A copy of one entity whose two requests reach a lane and stay there. -/
def stalled : List (PipelineMove 2 .willing) :=
  [.session (.item (.sync .startSync)),
    .session (.item (.sync (.startEntity sampleEntity 1 .empty true))), .lane .send, .lane .send,
    .session (.item (.sync (.endEntity sampleEntity 1))), .lane .send, .lane .send]

/-- The work at the end of a copy is done before any request of the copy has run. -/
theorem finishSync_before_requests :
    ∃ pipeline, (start 2 sampleServer .standard ()).run? (fun _ => 0) stalled = some pipeline ∧
      (pipeline.session.handle (.sync (.endSync .empty))).1 = .ok .syncCompleted ∧
      ¬ ∀ index ∈ pipeline.pass, pipeline.lanes.HasFinished index := by
  have answered : ((start 2 sampleServer .standard ()).run? (fun _ => 0) stalled).map
      (fun pipeline => (pipeline.session.handle (.sync (.endSync .empty))).1.toOption) =
        some (some .syncCompleted) := by decide +kernel
  have pass : ((start 2 sampleServer .standard ()).run? (fun _ => 0) stalled).map (·.pass) =
      some [0, 1] := by decide +kernel
  have idle : ((start 2 sampleServer .standard ()).run? (fun _ => 0) stalled).map
      (·.lanes.finished.length) = some 0 := by decide +kernel
  obtain ⟨pipeline, ran, passed⟩ := Option.map_eq_some_iff.mp pass
  rw [ran, Option.map_some, Option.some.injEq] at answered idle
  have called : (pipeline.session.handle (.sync (.endSync .empty))).1 = .ok .syncCompleted := by
    cases answer : (pipeline.session.handle (.sync (.endSync .empty))).1 with
    | error fault => simp [answer, Except.toOption] at answered
    | ok admission => simpa [answer, Except.toOption] using answered
  refine ⟨pipeline, ran, called, fun all => ?_⟩
  have ended := @finished_pass_iff .willing 2 (fun _ => 0) sampleServer .standard () stalled
    pipeline ran .empty (.inl called)
  have last : (1 : Nat) ∈ pipeline.pass.getLast? := by
    rw [passed]
    rfl
  obtain ⟨submission, done, -⟩ := ended.mp all 1 last
  rw [List.length_eq_zero_iff.mp idle] at done
  exact absurd done List.not_mem_nil

end Pipeline
end Standby
