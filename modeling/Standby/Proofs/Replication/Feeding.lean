import Mathlib.Data.List.Induction
import Standby.Proofs.Replication.Teardown
import Standby.Replication.Feed

/-!
# What a feed asks of its consumer

A feed hands its consumer the items that are queued before the first request to close, one after
the other up to the first that is refused, and then closes it once (`Consumer.StopsOnce`). What a
consumer was asked is kept by the consumer itself (`Consumer.noting`), so this is shown of the calls
and not only of their results. For a session it says how the stream of an active server ends,
whatever else happens to the session between the items (`Session.FeedEnds`).
-/
namespace Standby

/-- What a consumer is asked. -/
inductive ConsumerCall where
  /-- To take an item. -/
  | consume (item : StreamItem)
  /-- To close. -/
  | close
  deriving DecidableEq

/-- The items that are queued before the first request to close. -/
def itemsBeforeClose : List FeedCommand → List StreamItem
  | .item item :: rest => item :: itemsBeforeClose rest
  | _ => []

namespace Consumer

variable {State : Type}

/-- A consumer that keeps what it was asked, the oldest first. -/
def noting (consumer : Consumer State) : Consumer (State × List ConsumerCall) where
  consume item kept :=
    let (answer, state) := consumer.consume item kept.1
    (answer, state, kept.2 ++ [.consume item])
  close kept :=
    let (result, state) := consumer.close kept.1
    (result, state, kept.2 ++ [.close])

/-- The state of a consumer that was handed some items. -/
def after (consumer : Consumer State) (items : List StreamItem) (state : State) : State :=
  items.foldl (fun state item => (consumer.consume item state).2) state

/-- What a consumer answers to an item that it is handed after others. -/
def answer (consumer : Consumer State) (before : List StreamItem) (item : StreamItem)
    (state : State) : Intake :=
  (consumer.consume item (consumer.after before state)).1

/-- A consumer takes each of some items after those before it. -/
def TakesAll (consumer : Consumer State) (items : List StreamItem) (state : State) : Prop :=
  ∀ before item later, items = before ++ item :: later →
    ∃ admission, consumer.answer before item state = .admitted admission

variable {consumer : Consumer State} {state : State} {items : List StreamItem} {item : StreamItem}

/-- Every consumer takes no items. -/
theorem takesAll_nil (consumer : Consumer State) (state : State) : consumer.TakesAll [] state := by
  intro before item later split
  simp at split

/-- A consumer takes several items if it takes the first one and then the others. -/
theorem takesAll_cons : consumer.TakesAll (item :: items) state ↔
    (∃ admission, (consumer.consume item state).1 = .admitted admission) ∧
      consumer.TakesAll items (consumer.consume item state).2 := by
  constructor
  · intro takes
    exact ⟨takes [] item items rfl, fun before next later split =>
      takes (item :: before) next later (by rw [split, List.cons_append])⟩
  · rintro ⟨first, rest⟩ before next later split
    cases before with
    | nil =>
      obtain ⟨rfl, rfl⟩ := List.cons.inj split
      exact first
    | cons head before =>
      obtain ⟨rfl, others⟩ := List.cons.inj split
      exact rest before next later others

/-- The calls of a feed and how it ends, by what its consumer answers. -/
structure StopsOnce (consumer : Consumer State) (commands : List FeedCommand) (state : State) :
    Prop where
  /-- If every item before the first request to close is taken, the consumer is asked for these
  items and then closed, and the feed ends with the result of closing. -/
  whole : consumer.TakesAll (itemsBeforeClose commands) state →
    consumer.noting.run commands (state, []) =
      (.closed (consumer.close (consumer.after (itemsBeforeClose commands) state)).1,
        (consumer.close (consumer.after (itemsBeforeClose commands) state)).2,
        (itemsBeforeClose commands).map .consume ++ [.close])
  /-- If an item is refused and those before it are taken, the consumer is asked for these items and
  then closed, and the feed ends with the fault of the item, whatever closing answers. -/
  refused : ∀ before item later fault, itemsBeforeClose commands = before ++ item :: later →
    consumer.TakesAll before state → consumer.answer before item state = .refused fault →
    consumer.noting.run commands (state, []) =
      (.closed (.error fault), (consumer.close (consumer.after (before ++ [item]) state)).2,
        (before ++ [item]).map .consume ++ [.close])
  /-- If the consumer breaks down at an item and takes those before it, it is asked for these items
  and nothing more. -/
  brokeDown : ∀ before item later, itemsBeforeClose commands = before ++ item :: later →
    consumer.TakesAll before state → consumer.answer before item state = .brokeDown →
    consumer.noting.run commands (state, []) =
      (.brokeDown, consumer.after (before ++ [item]) state, (before ++ [item]).map .consume)
  /-- One of the three is the case. -/
  total : consumer.TakesAll (itemsBeforeClose commands) state ∨
    ∃ before item later, itemsBeforeClose commands = before ++ item :: later ∧
      consumer.TakesAll before state ∧
      ((∃ fault, consumer.answer before item state = .refused fault) ∨
        consumer.answer before item state = .brokeDown)
  /-- Keeping what it was asked changes nothing of what a consumer does. -/
  unchanged : (consumer.noting.run commands (state, [])).1 = (consumer.run commands state).1 ∧
    (consumer.noting.run commands (state, [])).2.1 = (consumer.run commands state).2

/-- Commands whose first one is no item end a feed. -/
theorem run_of_no_item {commands : List FeedCommand} (none_left : itemsBeforeClose commands = []) :
    consumer.run commands state = consumer.finish state := by
  cases commands with
  | nil => rfl
  | cons command rest =>
    cases command with
    | item item => exact absurd none_left (List.cons_ne_nil _ _)
    | close => rfl

/-- The first item is the first command. -/
theorem exists_of_item {commands : List FeedCommand} {later : List StreamItem}
    (first : itemsBeforeClose commands = item :: later) :
    ∃ rest, commands = .item item :: rest ∧ itemsBeforeClose rest = later := by
  cases commands with
  | nil => exact absurd first (List.cons_ne_nil _ _).symm
  | cons command rest =>
    cases command with
    | item other =>
      obtain ⟨rfl, same⟩ := List.cons.inj first
      exact ⟨rest, rfl, same⟩
    | close => exact absurd first (List.cons_ne_nil _ _).symm

/-- A feed goes on behind the items that its consumer takes. -/
theorem run_noting_of_takesAll {before later : List StreamItem} {commands : List FeedCommand}
    (takes : consumer.TakesAll before state)
    (split : itemsBeforeClose commands = before ++ later) (calls : List ConsumerCall) :
    ∃ rest, itemsBeforeClose rest = later ∧ consumer.noting.run commands (state, calls) =
      consumer.noting.run rest (consumer.after before state, calls ++ before.map .consume) := by
  induction before generalizing state commands calls with
  | nil => exact ⟨commands, split, by simp [after]⟩
  | cons item before ih =>
    obtain ⟨commands, rfl, others⟩ := exists_of_item split
    obtain ⟨⟨admission, taken⟩, takes⟩ := takesAll_cons.mp takes
    obtain ⟨rest, left, runs⟩ := ih takes others (calls ++ [.consume item])
    refine ⟨rest, left, ?_⟩
    have step : consumer.noting.consume item (state, calls) =
        (.admitted admission, (consumer.consume item state).2, calls ++ [.consume item]) := by
      rw [← taken]
      rfl
    rw [run, step]
    simpa [after] using runs

/-- An item that is not taken after others that are is the last one. -/
theorem run_noting_of_last {before later : List StreamItem} {commands : List FeedCommand}
    (split : itemsBeforeClose commands = before ++ item :: later)
    (takes : consumer.TakesAll before state) (calls : List ConsumerCall) :
    ∃ rest, consumer.noting.run commands (state, calls) =
      consumer.noting.run (.item item :: rest)
        (consumer.after before state, calls ++ before.map .consume) := by
  obtain ⟨rest, left, runs⟩ := run_noting_of_takesAll takes split calls
  obtain ⟨rest, rfl, -⟩ := exists_of_item left
  exact ⟨rest, runs⟩

/-- A consumer after some items and one more has consumed the last one. -/
theorem after_concat (before : List StreamItem) (item : StreamItem) :
    consumer.after (before ++ [item]) state =
      (consumer.consume item (consumer.after before state)).2 := by
  simp [after, List.foldl_append]

/-- A consumer takes all of some items, or there is a first one that it does not take. -/
theorem takesAll_or_exists (consumer : Consumer State) (items : List StreamItem) (state : State) :
    consumer.TakesAll items state ∨ ∃ before item later, items = before ++ item :: later ∧
      consumer.TakesAll before state ∧ ((∃ fault, consumer.answer before item state =
        .refused fault) ∨ consumer.answer before item state = .brokeDown) := by
  induction items generalizing state with
  | nil => exact .inl (takesAll_nil consumer state)
  | cons first rest ih =>
    have here : consumer.answer [] first state = (consumer.consume first state).1 := rfl
    cases answered : (consumer.consume first state).1 with
    | admitted admission =>
      rcases ih (consumer.consume first state).2 with
        takes | ⟨before, item, later, rfl, takes, stops⟩
      · exact .inl (takesAll_cons.mpr ⟨⟨admission, answered⟩, takes⟩)
      · exact .inr ⟨first :: before, item, later, rfl,
          takesAll_cons.mpr ⟨⟨admission, answered⟩, takes⟩, stops⟩
    | refused fault =>
      exact .inr ⟨[], first, rest, rfl, takesAll_nil consumer state,
        .inl ⟨fault, here.trans answered⟩⟩
    | brokeDown =>
      exact .inr ⟨[], first, rest, rfl, takesAll_nil consumer state, .inr (here.trans answered)⟩

/-- Keeping what it was asked changes nothing of what a consumer does. -/
theorem run_noting (consumer : Consumer State) (commands : List FeedCommand) (state : State)
    (calls : List ConsumerCall) :
    (consumer.noting.run commands (state, calls)).1 = (consumer.run commands state).1 ∧
      (consumer.noting.run commands (state, calls)).2.1 = (consumer.run commands state).2 := by
  induction commands generalizing state calls with
  | nil => exact ⟨rfl, rfl⟩
  | cons command rest ih =>
    cases command with
    | close => exact ⟨rfl, rfl⟩
    | item item =>
      rcases answered : consumer.consume item state with ⟨intake, next⟩
      have step : consumer.noting.consume item (state, calls) =
          (intake, next, calls ++ [.consume item]) := by simp only [noting, answered]
      rw [run, run, step, answered]
      cases intake with
      | admitted admission => exact ih next _
      | refused fault => exact ⟨rfl, rfl⟩
      | brokeDown => exact ⟨rfl, rfl⟩

/-- A feed stops at the first item that is not taken and closes its consumer once. -/
theorem stops_once (consumer : Consumer State) (commands : List FeedCommand) (state : State) :
    consumer.StopsOnce commands state where
  whole takes := by
    obtain ⟨rest, left, runs⟩ :=
      run_noting_of_takesAll takes (List.append_nil _).symm ([] : List ConsumerCall)
    rw [runs, run_of_no_item left]
    rfl
  refused before item later fault split takes refused := by
    obtain ⟨rest, runs⟩ := run_noting_of_last split takes []
    rcases answered : consumer.consume item (consumer.after before state) with ⟨intake, next⟩
    rw [answer, answered] at refused
    subst refused
    rw [runs, run, after_concat, answered]
    simp [noting, answered]
  brokeDown before item later split takes broke := by
    obtain ⟨rest, runs⟩ := run_noting_of_last split takes []
    rcases answered : consumer.consume item (consumer.after before state) with ⟨intake, next⟩
    rw [answer, answered] at broke
    subst broke
    rw [runs, run, after_concat, answered]
    simp [noting, answered]
  total := takesAll_or_exists consumer _ state
  unchanged := run_noting consumer commands state []

/-- The end of a feed whose consumer takes every item before the first request to close. -/
theorem StopsOnce.run_of_whole {commands : List FeedCommand}
    (stops : consumer.StopsOnce commands state)
    (takes : consumer.TakesAll (itemsBeforeClose commands) state) :
    consumer.run commands state =
      (.closed (consumer.close (consumer.after (itemsBeforeClose commands) state)).1,
        (consumer.close (consumer.after (itemsBeforeClose commands) state)).2) := by
  have noted := stops.whole takes
  exact Prod.ext (stops.unchanged.1.symm.trans (congrArg (·.1) noted))
    (stops.unchanged.2.symm.trans (congrArg (·.2.1) noted))

/-- The end of a feed whose consumer refuses an item. -/
theorem StopsOnce.run_of_refused {commands : List FeedCommand} {before later : List StreamItem}
    {fault : Fault} (stops : consumer.StopsOnce commands state)
    (split : itemsBeforeClose commands = before ++ item :: later)
    (takes : consumer.TakesAll before state)
    (refused : consumer.answer before item state = .refused fault) :
    consumer.run commands state =
      (.closed (.error fault), (consumer.close (consumer.after (before ++ [item]) state)).2) := by
  have noted := stops.refused before item later fault split takes refused
  exact Prod.ext (stops.unchanged.1.symm.trans (congrArg (·.1) noted))
    (stops.unchanged.2.symm.trans (congrArg (·.2.1) noted))

/-- A consumer on which others act: before each call they change its state, by the number of calls
before. -/
def amid (consumer : Consumer State) (others : Nat → State → State) : Consumer (Nat × State) where
  consume item turn :=
    let (answer, state) := consumer.consume item (others turn.1 turn.2)
    (answer, turn.1 + 1, state)
  close turn :=
    let (result, state) := consumer.close (others turn.1 turn.2)
    (result, turn.1 + 1, state)

/-- Others who leave the state of a consumer as it is make no difference. -/
theorem run_amid_of_still {others : Nat → State → State}
    (still : ∀ turn state, others turn state = state) (commands : List FeedCommand) (turn : Nat)
    (state : State) :
    ((consumer.amid others).run commands (turn, state)).1 = (consumer.run commands state).1 ∧
      ((consumer.amid others).run commands (turn, state)).2.2 =
        (consumer.run commands state).2 := by
  have closes : ((consumer.amid others).finish (turn, state)).1 = (consumer.finish state).1 ∧
      ((consumer.amid others).finish (turn, state)).2.2 = (consumer.finish state).2 := by
    simp [finish, amid, still]
  induction commands generalizing turn state with
  | nil => exact closes
  | cons command rest ih =>
    cases command with
    | close => exact closes
    | item item =>
      rcases answered : consumer.consume item state with ⟨intake, next⟩
      have step : (consumer.amid others).consume item (turn, state) =
          (intake, turn + 1, next) := by simp only [amid, still, answered]
      rw [run, run, step, answered]
      cases intake with
      | admitted admission => exact ih _ next (by simp [finish, amid, still])
      | refused fault => simp [amid, still]
      | brokeDown => exact ⟨rfl, rfl⟩

end Consumer

variable {host : Host}

/-- Something that happens to a session beside its items. -/
inductive Interlude (host : Host) where
  /-- An entity uses a completion that it held. -/
  | use (action : CompletionUse)
  /-- The world of the host changes on its own. -/
  | stir (world : host.World)

/-- What happens beside the items is a move of the session. -/
def Interlude.move : Interlude host → SessionMove host
  | use action => .use action
  | stir world => .stir world

/-- A stream ends within a copy: a copy has begun and not ended. -/
def LeavesCopyOpen (items : List StreamItem) : Prop :=
  ∃ before later, items = before ++ .sync .startSync :: later ∧
    ∀ bytes, .sync (.endSync bytes) ∉ later

/-- No items leave no copy open. -/
theorem not_leavesCopyOpen_nil : ¬ LeavesCopyOpen [] := by
  rintro ⟨before, later, split, -⟩
  exact List.append_ne_nil_of_right_ne_nil before (List.cons_ne_nil _ later) split.symm

/-- Whether a stream ends within a copy depends on its last item, and on the items before it if the
last one neither begins a copy nor ends one. -/
theorem leavesCopyOpen_concat (items : List StreamItem) (last : StreamItem) :
    LeavesCopyOpen (items ++ [last]) ↔ last = .sync .startSync ∨
      (∀ bytes, last ≠ .sync (.endSync bytes)) ∧ LeavesCopyOpen items := by
  constructor
  · rintro ⟨before, later, split, unended⟩
    rcases later.eq_nil_or_concat with rfl | ⟨front, final, rfl⟩
    · exact .inl (List.head_eq_of_cons_eq (List.append_inj' split rfl).2)
    · simp only [List.concat_eq_append] at split unended
      rw [← List.cons_append, ← List.append_assoc] at split
      obtain ⟨rfl, same⟩ := List.append_inj' split rfl
      obtain rfl : last = final := List.head_eq_of_cons_eq same
      refine .inr ⟨fun bytes ends => ?_, before, front, rfl, fun bytes among => ?_⟩
      · exact unended bytes (by simp [ends])
      · exact unended bytes (List.mem_append_left _ among)
  · rintro (rfl | ⟨continues, before, later, rfl, unended⟩)
    · exact ⟨items, [], rfl, fun _ => List.not_mem_nil⟩
    · refine ⟨before, later ++ [last], by simp, fun bytes among => ?_⟩
      rcases List.mem_append.mp among with earlier | ends
      · exact unended bytes earlier
      · exact continues bytes (List.mem_singleton.mp ends).symm

/-- A copy is going on behind an item. -/
def StreamItem.withinCopy (within : Bool) : StreamItem → Bool
  | .sync .startSync => true
  | .sync (.endSync _) => false
  | _ => within

/-- A stream ends within a copy exactly if one is going on behind its last item. -/
theorem leavesCopyOpen_iff (items : List StreamItem) :
    LeavesCopyOpen items ↔ items.foldl StreamItem.withinCopy false = true := by
  induction items using List.reverseRecOn with
  | nil => simp [not_leavesCopyOpen_nil]
  | append_singleton items last ih =>
    rw [leavesCopyOpen_concat, ih, List.foldl_append, List.foldl_cons, List.foldl_nil]
    cases last with
    | replicate message => simp [StreamItem.withinCopy]
    | sync message => cases message <;> simp [StreamItem.withinCopy]

namespace Session

variable {session : Session host}

/-- An item that is taken begins a copy, ends one, or leaves it as it is whether one is going on. -/
theorem Accepted.syncing_iff {item : StreamItem} {admission : Admission} {next : Session host}
    {within : Bool} (accepted : session.Accepted item admission next)
    (before : session.phase = .syncing ↔ within = true) :
    next.phase = .syncing ↔ item.withinCopy within = true := by
  cases accepted with
  | startSync idle => exact iff_of_true rfl rfl
  | @endKey current key syncing isOpen inKey =>
    obtain ⟨around, stats, replayed, -⟩ :=
      replay_frame (session.deferred.held ⟨current.id, key⟩) (session.endingKey current key)
    rw [replayed]
    exact before
  | endSync syncing closed finished => exact iff_of_false nofun nofun
  | @processed message elsewhere =>
    obtain ⟨around, stats, frame, -⟩ := process_frame session message
    rw [frame]
    exact before
  | _ => exact before

/-- A session goes on, and a copy is going on within it or not. -/
structure Attends (session : Session host) (within : Bool) : Prop where
  coherent : session.Coherent
  running : session.IsRunning
  phase : session.phase = .syncing ↔ within = true

/-- A new session is within no copy. -/
theorem attends_start (source : ServerId) (limits : Limits) (execution : Execution)
    (world : host.World) : (start source limits execution world).Attends false where
  coherent := coherent_start source limits execution world
  running := .inl rfl
  phase := iff_of_false nofun nofun

/-- What happens beside the items leaves a session in its phase. -/
theorem phase_interludes (beside : List (Interlude host)) (session : Session host) :
    (session.run (beside.map Interlude.move)).phase = session.phase := by
  induction beside generalizing session with
  | nil => rfl
  | cons first rest ih =>
    rw [List.map_cons, run_cons, ih]
    cases first <;> rfl

/-- What happens beside the items neither begins nor ends a copy. -/
theorem Attends.interludes {within : Bool} (attends : session.Attends within)
    (beside : List (Interlude host)) :
    (session.run (beside.map Interlude.move)).Attends within where
  coherent := attends.coherent.run _
  running := by
    rw [IsRunning, phase_interludes]
    exact attends.running
  phase := by
    rw [phase_interludes]
    exact attends.phase

/-- The items that a session takes say whether it is within a copy. -/
theorem Attends.accepted {within : Bool} {item : StreamItem} {admission : Admission}
    {next : Session host} (attends : session.Attends within)
    (accepted : session.Accepted item admission next) :
    next.Attends (item.withinCopy within) where
  coherent := accepted.coherent attends.coherent
  running := accepted.isRunning attends.running
  phase := accepted.syncing_iff attends.phase

/-- The session of a feed, with what happens to it before each call beside the items. -/
def consumerAmid (interludes : Nat → List (Interlude host)) : Consumer (Nat × Session host) :=
  consumer.amid fun turn session => session.run ((interludes turn).map Interlude.move)

variable {interludes : Nat → List (Interlude host)}

/-- A session takes an item of its feed, or refuses it with a fault that ends the session. -/
theorem Attends.consume {within : Bool} (attends : session.Attends within)
    (interludes : Nat → List (Interlude host)) (turn : Nat) (item : StreamItem) :
    (∃ admission, ((consumerAmid interludes).consume item (turn, session)).1 = .admitted admission ∧
      ((consumerAmid interludes).consume item (turn, session)).2.2.Attends
        (item.withinCopy within)) ∨
    ∃ cause : ReplicationFault, cause.isFatal = true ∧
      ((consumerAmid interludes).consume item (turn, session)).1 =
        .refused (.replication cause) ∧
      ((consumerAmid interludes).consume item (turn, session)).2.2.phase = .failed := by
  have met := attends.interludes (interludes turn)
  simp only [consumerAmid, Consumer.amid]
  generalize session.run ((interludes turn).map Interlude.move) = reached at met ⊢
  have result := handled_of_running met.coherent met.running item
  simp only [consumer]
  generalize reached.handle item = step at result ⊢
  cases result with
  | accepted running accepted => exact .inl ⟨_, rfl, met.accepted accepted⟩
  | refused running refused => exact .inr ⟨_, refused.isFatal, rfl, rfl⟩
  | ignored stopped known => exact absurd met.running stopped

/-- A session that takes the items of its feed attends to them. -/
theorem Attends.after {within : Bool} {items : List StreamItem} {turn : Nat}
    (attends : session.Attends within)
    (takes : (consumerAmid interludes).TakesAll items (turn, session)) :
    ((consumerAmid interludes).after items (turn, session)).2.Attends
      (items.foldl StreamItem.withinCopy within) := by
  induction items generalizing session turn within with
  | nil => exact attends
  | cons item rest ih =>
    obtain ⟨⟨admission, taken⟩, takes⟩ := Consumer.takesAll_cons.mp takes
    rcases attends.consume interludes turn item with
      ⟨-, -, next⟩ | ⟨cause, -, refused, -⟩
    · exact ih next takes
    · rw [taken] at refused
      cases refused

/-- A session that is closed at the end of its feed, and was not closed before, reports a copy that
is going on and holds nothing back. -/
theorem close_consumerAmid (interludes : Nat → List (Interlude host)) (turn : Nat)
    (notClosed : session.phase ≠ .closed) :
    ((consumerAmid interludes).close (turn, session)).1 =
        (if session.phase = .syncing then .error (.replication .syncInterrupted) else .ok ()) ∧
      ((consumerAmid interludes).close (turn, session)).2.2.phase = .closed ∧
      ((consumerAmid interludes).close (turn, session)).2.2.Empty := by
  rw [← phase_interludes (interludes turn) session] at notClosed ⊢
  simp only [consumerAmid, Consumer.amid]
  generalize session.run ((interludes turn).map Interlude.move) = reached at notClosed ⊢
  have answered := reached.close_answer
  have ended : reached.close.2 = _ :=
    reached.move_close.resolve_left fun closed => notClosed closed.1
  rcases closes : reached.close with ⟨answer, last⟩
  rw [closes] at answered ended
  have answered : answer = _ := answered
  have ended : last = _ := ended
  by_cases syncing : reached.phase = .syncing
  · rw [if_pos syncing] at answered ⊢
    simp only [consumer, closes, answered, ended]
    exact ⟨trivial, trivial, rfl, fun _ => rfl, rfl⟩
  · rw [if_neg syncing] at answered ⊢
    simp only [consumer, closes, answered, ended]
    exact ⟨trivial, trivial, rfl, fun _ => rfl, rfl⟩

/-- How the feed of a session ends, whatever happens to the session before each call. -/
structure FeedEnds (session : Session host) (interludes : Nat → List (Interlude host))
    (commands : List FeedCommand) : Prop where
  /-- The first item that is refused ends the feed, with its fault. Every such fault ends a
  session. -/
  refused : ∀ before item later fault, itemsBeforeClose commands = before ++ item :: later →
    (consumerAmid interludes).TakesAll before (0, session) →
    (consumerAmid interludes).answer before item (0, session) = .refused fault →
    (∃ cause : ReplicationFault, cause.isFatal = true ∧ fault = .replication cause) ∧
      ((consumerAmid interludes).run commands (0, session)).1 = .closed (.error fault)
  /-- If every item is taken and the items leave a copy open, the feed reports that the copy is
  interrupted. -/
  interrupted : (consumerAmid interludes).TakesAll (itemsBeforeClose commands) (0, session) →
    LeavesCopyOpen (itemsBeforeClose commands) →
    ((consumerAmid interludes).run commands (0, session)).1 =
      .closed (.error (.replication .syncInterrupted))
  /-- If every item is taken and the items leave no copy open, the feed ends without a fault. -/
  whole : (consumerAmid interludes).TakesAll (itemsBeforeClose commands) (0, session) →
    ¬ LeavesCopyOpen (itemsBeforeClose commands) →
    ((consumerAmid interludes).run commands (0, session)).1 = .closed (.ok ())
  /-- Every item is taken, or there is a first one that is refused. -/
  total : (consumerAmid interludes).TakesAll (itemsBeforeClose commands) (0, session) ∨
    ∃ before item later fault, itemsBeforeClose commands = before ++ item :: later ∧
      (consumerAmid interludes).TakesAll before (0, session) ∧
      (consumerAmid interludes).answer before item (0, session) = .refused fault
  /-- In the end the session is closed and holds nothing back. -/
  ended : ((consumerAmid interludes).run commands (0, session)).2.2.phase = .closed ∧
    ((consumerAmid interludes).run commands (0, session)).2.2.Empty
  /-- If nothing happens beside the items, this is what becomes of the session itself. -/
  alone : (∀ turn, interludes turn = []) →
    ((consumerAmid interludes).run commands (0, session)).1 = (consumer.run commands session).1 ∧
      ((consumerAmid interludes).run commands (0, session)).2.2 = (consumer.run commands session).2

/-- The first item that a session does not take is refused with a fault that ends the session. -/
theorem Attends.refused {before : List StreamItem} (attends : session.Attends false)
    (takes : (consumerAmid interludes).TakesAll before (0, session)) (item : StreamItem)
    (stops : ∀ admission, (consumerAmid interludes).answer before item (0, session) ≠
      .admitted admission) :
    (∃ cause : ReplicationFault, cause.isFatal = true ∧
      (consumerAmid interludes).answer before item (0, session) = .refused (.replication cause)) ∧
    ((consumerAmid interludes).after (before ++ [item]) (0, session)).2.phase = .failed := by
  rw [Consumer.after_concat]
  rcases (attends.after takes).consume interludes _ item with
    ⟨admission, taken, -⟩ | ⟨cause, fatal, refused, failed⟩
  · exact absurd taken (stops admission)
  · exact ⟨⟨cause, fatal, refused⟩, failed⟩

/-- The end of a feed whose items are all taken: whether a copy is open is read off the items. -/
theorem Attends.run_of_whole (attends : session.Attends false) {commands : List FeedCommand}
    (takes : (consumerAmid interludes).TakesAll (itemsBeforeClose commands) (0, session)) :
    ((consumerAmid interludes).run commands (0, session)).1 =
        .closed (if (itemsBeforeClose commands).foldl StreamItem.withinCopy false
          then .error (.replication .syncInterrupted) else .ok ()) ∧
      ((consumerAmid interludes).run commands (0, session)).2.2.phase = .closed ∧
      ((consumerAmid interludes).run commands (0, session)).2.2.Empty := by
  have reached := attends.after takes
  rw [((consumerAmid interludes).stops_once commands (0, session)).run_of_whole takes]
  generalize (consumerAmid interludes).after (itemsBeforeClose commands) (0, session) = last
    at reached ⊢
  obtain ⟨turn, last⟩ := last
  have reached : last.Attends _ := reached
  have notClosed : last.phase ≠ .closed := fun closed => by
    rcases reached.running with phase | phase <;> cases phase.symm.trans closed
  obtain ⟨answer, closes⟩ := close_consumerAmid interludes turn notClosed
  refine ⟨?_, closes⟩
  rw [answer, if_congr reached.phase rfl rfl]

/-- The end of a feed with an item that is refused. -/
theorem Attends.run_of_refused (attends : session.Attends false) {commands : List FeedCommand}
    {before later : List StreamItem} {item : StreamItem} {fault : Fault}
    (split : itemsBeforeClose commands = before ++ item :: later)
    (takes : (consumerAmid interludes).TakesAll before (0, session))
    (refused : (consumerAmid interludes).answer before item (0, session) = .refused fault) :
    ((consumerAmid interludes).run commands (0, session)).1 = .closed (.error fault) ∧
      ((consumerAmid interludes).run commands (0, session)).2.2.phase = .closed ∧
      ((consumerAmid interludes).run commands (0, session)).2.2.Empty := by
  have failed := (attends.refused takes item fun _ taken => by rw [refused] at taken; cases taken).2
  rw [((consumerAmid interludes).stops_once commands (0, session)).run_of_refused split takes
    refused]
  generalize (consumerAmid interludes).after (before ++ [item]) (0, session) = last at failed ⊢
  obtain ⟨turn, last⟩ := last
  have notClosed : last.phase ≠ .closed := fun closed => by cases failed.symm.trans closed
  exact ⟨rfl, (close_consumerAmid interludes turn notClosed).2⟩

/-- A session refuses the first item that it does not take: it never breaks down. -/
theorem Attends.takesAll_or_refused (attends : session.Attends false)
    (interludes : Nat → List (Interlude host)) (commands : List FeedCommand) :
    (consumerAmid interludes).TakesAll (itemsBeforeClose commands) (0, session) ∨
      ∃ before item later fault, itemsBeforeClose commands = before ++ item :: later ∧
        (consumerAmid interludes).TakesAll before (0, session) ∧
        (consumerAmid interludes).answer before item (0, session) = .refused fault := by
  rcases Consumer.takesAll_or_exists (consumerAmid interludes) (itemsBeforeClose commands)
    (0, session) with takes | ⟨before, item, later, split, takes, stuck⟩
  · exact .inl takes
  · obtain ⟨⟨cause, -, refused⟩, -⟩ := attends.refused takes item fun _ taken => by
      rw [taken] at stuck
      exact stuck.elim nofun nofun
    exact .inr ⟨before, item, later, _, split, takes, refused⟩

/-- A session that is within no copy at first tells from the items of its feed how it ends. -/
theorem Attends.feedEnds (attends : session.Attends false)
    (interludes : Nat → List (Interlude host)) (commands : List FeedCommand) :
    session.FeedEnds interludes commands where
  refused before item later fault split takes refused := by
    obtain ⟨⟨cause, fatal, same⟩, -⟩ :=
      attends.refused takes item fun _ taken => by rw [refused] at taken; cases taken
    obtain rfl : fault = .replication cause := Intake.refused.inj (refused.symm.trans same)
    exact ⟨⟨cause, fatal, rfl⟩, (attends.run_of_refused split takes refused).1⟩
  interrupted takes opened := by
    rw [(attends.run_of_whole takes).1, if_pos ((leavesCopyOpen_iff _).mp opened)]
  whole takes ended := by
    rw [(attends.run_of_whole takes).1,
      if_neg fun opened => ended ((leavesCopyOpen_iff _).mpr opened)]
  total := attends.takesAll_or_refused interludes commands
  ended := by
    rcases attends.takesAll_or_refused interludes commands with
      takes | ⟨before, item, later, fault, split, takes, refused⟩
    · exact (attends.run_of_whole takes).2
    · exact (attends.run_of_refused split takes refused).2
  alone none_beside := Consumer.run_amid_of_still
    (fun turn reached => by rw [none_beside turn]; rfl) commands 0 session

/-- A feed asks its consumer for the items that are queued before the first request to close, up to
the first that is refused, then closes it once, and reports the fault of that item or else the
result of closing. The feed of a new session ends with its first fault, all of which end sessions,
or else reports an interrupted copy exactly when the items leave one open; in the end the session is
closed and holds nothing back. -/
theorem feeds_stop_and_close_once :
    (∀ {State : Type} (consumer : Consumer State) (commands : List FeedCommand) (state : State),
      consumer.StopsOnce commands state) ∧
    ∀ (host : Host) (source : ServerId) (limits : Limits) (execution : Execution)
      (world : host.World) (interludes : Nat → List (Interlude host))
      (commands : List FeedCommand),
      (start source limits execution world).FeedEnds interludes commands :=
  ⟨Consumer.stops_once, fun _ source limits execution world interludes commands =>
    (attends_start source limits execution world).feedEnds interludes commands⟩

end Session
end Standby
