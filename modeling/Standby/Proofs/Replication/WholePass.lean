import Standby.Proofs.Replication.Passage

/-!
# Passive means a whole copy

A session says that a copy is whole at the end of every copy that it follows. The first time that it
says so, the items of copies that came are those of one whole copy (`Bootstrap.completes_iff`), and
at that item alone a node on its way becomes passive (`Bootstrap.passive_means_whole_copy`).
-/
namespace Standby

variable {host : Host} {Store : Type} {persistor : Persistor Store}
  {record : Store → ClusterRecord}

namespace Session

variable {session : Session host} {item : StreamItem}

/-- No live operation makes a copy whole. -/
theorem process_ne_syncCompleted (session : Session host) (message : ReplicationMessage) :
    (session.process message).1 ≠ .syncCompleted := by
  have fate := session.processes message
  generalize session.process message = step at fate ⊢
  obtain ⟨admission, next⟩ := step
  cases fate with
  | acknowledged idle => nofun
  | unmade acts found => nofun
  | unread acts found unread => nofun
  | dispatched acts found read => nofun

/-- The end of a copy makes it whole, and nothing else does. -/
theorem Accepted.completes_iff {admission : Admission} {next : Session host}
    (accepted : session.Accepted item admission next) :
    admission = .syncCompleted ↔ ∃ bytes, item = .sync (.endSync bytes) := by
  cases accepted with
  | endSync syncing closed finished => exact ⟨fun _ => ⟨_, rfl⟩, fun _ => rfl⟩
  | processed elsewhere =>
    exact iff_of_false (session.process_ne_syncCompleted _) nofun
  | _ => exact iff_of_false nofun nofun

/-- A session that took the end of a copy is outside of copies. -/
theorem Accepted.nesting_endSync {bytes : ByteArray} {admission : Admission} {next : Session host}
    (accepted : session.Accepted (.sync (.endSync bytes)) admission next) :
    next.nesting = .idle := by
  cases accepted with
  | endSync syncing closed finished => exact nesting_of_idle closed nofun

/-- A session that runs was not closed. -/
theorem close_notMem_of_isRunning {moves : List (SessionMove host)} (coherent : session.Coherent)
    (running : (session.run moves).IsRunning) : .close ∉ moves := by
  intro member
  obtain ⟨early, rest, rfl⟩ := List.append_of_mem member
  rw [run_append, run_cons] at running
  have reached := (coherent.run early).move .close
  exact not_isRunning_close _ (isRunning_of_run reached running)

/-- A new session that takes the first end of a copy took the items of one whole copy. -/
theorem exists_whole_of_endSync {source : ServerId} {limits : Limits} {execution : Execution}
    {world : host.World} {moves : List (SessionMove host)} {bytes : ByteArray}
    {admission : Admission}
    (taken : (((start source limits execution world).run moves).handle
      (.sync (.endSync bytes))).1 = .ok admission)
    (first : ∀ other, .endSync other ∉ copyItems moves) :
    ∃ whole : WholeCopy, copyItems moves ++ [.endSync bytes] = whole.items := by
  have coherent := coherent_start source limits execution world
  obtain ⟨running, accepted⟩ := accepted_of_ok (coherent.run moves) taken
  have all := takesAll_of_isRunning coherent running
  have follows := follows_run (follows_start source limits execution world)
    (close_notMem_of_isRunning coherent running) all
  have place := (follows.accepted accepted).place
  rw [copyItems_concat_sync, accepted.nesting_endSync] at place
  have outside : Nesting.idle.Reaches [] := ⟨[], rfl⟩
  obtain ⟨copies, whole⟩ := outside.run place
  exact WholeCopy.exists_eq_items whole first

end Session

/-- The items of copies that come are among the moves. -/
theorem mem_copyItems_iff {moves : List (BootstrapMove host record)} {message : SyncMessage} :
    message ∈ copyItems (sessionMoves moves) ↔ .session (.item (.sync message)) ∈ moves := by
  simp only [copyItems, sessionMoves, List.mem_filterMap]
  constructor
  · rintro ⟨move, ⟨next, member, isMove⟩, isMessage⟩
    split at isMove
    · cases isMove
      split at isMessage
      · cases isMessage
        exact member
      · cases isMessage
    · cases isMove
  · intro member
    exact ⟨.item (.sync message), ⟨_, member, rfl⟩, rfl⟩

namespace Bootstrap

variable {bootstrap first : Bootstrap host Store} {item : StreamItem}

/-- The item that makes the first copy whole is the end of a copy. -/
theorem Completes.isEnd (coherent : bootstrap.session.Coherent)
    (completes : bootstrap.Completes item) : ∃ bytes, item = .sync (.endSync bytes) := by
  obtain ⟨-, accepted⟩ := Session.accepted_of_ok coherent completes.2
  exact accepted.completes_iff.mp rfl

/-- While the session runs, a move leaves the stage at syncing when it was so and the move is no end
of a copy. -/
theorem stage_move (coherent : bootstrap.session.Coherent) {next : BootstrapMove host record}
    (running : (bootstrap.move persistor next).session.IsRunning) :
    (bootstrap.move persistor next).stage = .syncing ↔
      bootstrap.stage = .syncing ∧ ∀ bytes, next ≠ .session (.item (.sync (.endSync bytes))) := by
  have result : bootstrap.Advances persistor next _ := bootstrap.advances coherent next
  have moved : (bootstrap.move persistor next).session = _ := bootstrap.session_move next
  generalize bootstrap.move persistor next = after at result running moved ⊢
  cases result with
  | still incomplete kept same stage =>
    rcases stage with stage | ⟨-, stopped⟩
    · rw [stage]
      refine ⟨fun waiting => ⟨waiting, fun bytes isEnd => ?_⟩, And.left⟩
      -- A running session has taken the end of a copy, which makes the copy whole.
      subst isEnd
      rw [moved] at running
      obtain ⟨admission, taken, accepted⟩ := Session.accepted_of_isRunning coherent running
      have completed : admission = .syncCompleted := accepted.completes_iff.mpr ⟨bytes, rfl⟩
      exact incomplete _ rfl ⟨waiting, completed ▸ taken⟩
    · exact absurd running stopped
  | lapsed isItem completes failed kept stage =>
    obtain ⟨bytes, rfl⟩ := completes.isEnd coherent
    exact iff_of_false (by rw [stage]; nofun) fun still => still.2 bytes isItem
  | passed isItem completes made arrived stage =>
    obtain ⟨bytes, rfl⟩ := completes.isEnd coherent
    exact iff_of_false (by rw [stage]; nofun) fun still => still.2 bytes isItem

/-- While the session runs, the stage is syncing when no end of a copy came. -/
theorem stage_run (coherent : first.session.Coherent) (waiting : first.stage = .syncing)
    {moves : List (BootstrapMove host record)}
    (running : (first.run persistor moves).session.IsRunning) :
    (first.run persistor moves).stage = .syncing ↔
      ∀ bytes, .session (.item (.sync (.endSync bytes))) ∉ moves := by
  induction moves using List.reverseRecOn with
  | nil => exact iff_of_true waiting fun _ => List.not_mem_nil
  | append_singleton before next ih =>
    have reached : (first.run persistor before).session.Coherent := coherent_run coherent before
    rw [run_concat] at running ⊢
    rw [stage_move reached running, ih (isRunning_of_move reached running), ← forall_and]
    refine forall_congr' fun bytes => ?_
    rw [List.mem_append, List.mem_singleton, not_or, eq_comm]

/-- An item makes the first copy whole when it is the end of a copy that the session takes, and the
items of copies up to it are those of one whole copy. -/
theorem completes_iff {source : ServerId} {limits : Limits} {execution : Execution}
    {world : host.World} (fresh : first.session = .start source limits execution world)
    (waiting : first.stage = .syncing) (early : List (BootstrapMove host record))
    (item : StreamItem) :
    (first.run persistor early).Completes item ↔ ∃ bytes, item = .sync (.endSync bytes) ∧
      (∃ whole : WholeCopy,
        copyItems (sessionMoves early) ++ [.endSync bytes] = whole.items) ∧
      ((first.run persistor early).session.handle item).1 = .ok .syncCompleted := by
  have coherent : first.session.Coherent := fresh ▸ Session.coherent_start _ _ _ _
  have ran : (first.run persistor early).session = first.session.run (sessionMoves early) :=
    session_run first early
  have reached : (first.run persistor early).session.Coherent := coherent_run coherent early
  constructor
  · intro completes
    obtain ⟨bytes, rfl⟩ := completes.isEnd reached
    obtain ⟨still, taken⟩ := completes
    have running := (Session.accepted_of_ok reached taken).1
    have noEnd := (stage_run coherent waiting running).mp still
    refine ⟨bytes, rfl, ?_, taken⟩
    rw [ran, fresh] at taken
    exact Session.exists_whole_of_endSync taken fun other => mt mem_copyItems_iff.mp (noEnd other)
  · rintro ⟨bytes, -, ⟨whole, isWhole⟩, taken⟩
    have running := (Session.accepted_of_ok reached taken).1
    refine ⟨(stage_run coherent waiting running).mpr fun other => ?_, taken⟩
    exact mt mem_copyItems_iff.mpr (WholeCopy.endSync_notMem isWhole other)

/-- A node that has another stripe than the active server is refused and stays as it is. One that
begins has the stripe of the active server from then on, its state is the recorded one, and it is
syncing or passive. It is passive when the end of a copy was taken up to which the items of copies
were those of one whole copy, and the passive state was written there; until then it is syncing,
whatever the session refuses, whenever it is closed and whichever writes fail. The stage says that
the node is passive only while it is. -/
theorem passive_means_whole_copy (faithful : persistor.Faithful record) (node : Node Store)
    (stripe : StripeId) (source : ServerId) (limits : Limits) (execution : Execution)
    (world : host.World) :
    let session : Session host := .start source limits execution world
    (∀ own, node.stripeId = some own → own ≠ stripe →
      begin persistor stripe session node = (.error (.stripeMismatch own stripe), node)) ∧
    ∀ first, (begin persistor stripe session node).1 = .ok first →
      ∀ moves : List (BootstrapMove host record),
      let later := first.run persistor moves
      (later.node.stripeId = some stripe ∧
        ((record node.store).stripeId = node.stripeId →
          (record later.node.store).stripeId = some stripe)) ∧
      (record later.node.store).state = later.node.state ∧
      (later.node.state = .syncing ∨ later.node.state = .passive) ∧
      (later.stage = .passive → later.node.state = .passive) ∧
      (later.node.state = .passive ↔ ∃ early bytes rest,
        moves = early ++ .session (.item (.sync (.endSync bytes))) :: rest ∧
        (∃ whole : WholeCopy,
          copyItems (sessionMoves early) ++ [.endSync bytes] = whole.items) ∧
        ((first.run persistor early).session.handle (.sync (.endSync bytes))).1 =
          .ok .syncCompleted ∧
        ((first.run persistor early).lastWrite persistor).1 = .ok ()) := by
  intro session
  refine ⟨fun own named other => begin_of_other named other persistor session, ?_⟩
  intro first begun moves later
  have coherent : session.Coherent := Session.coherent_start source limits execution world
  obtain ⟨underway, fresh, waiting, recorded⟩ := underway_of_begin faithful coherent begun
  have reached : later.Underway record stripe := underway.run faithful moves
  have kept : (record later.node.store).stripeId = (record first.node.store).stripeId :=
    recordedStripe_run faithful underway.coherent moves
  refine ⟨⟨reached.stripeId, fun same => kept.trans (recorded same)⟩, reached.recorded,
    reached.standby, reached.passive, ?_⟩
  rw [state_run underway.coherent (underway.syncing waiting) moves]
  constructor
  · rintro ⟨early, item, rest, split, completes, made⟩
    obtain ⟨bytes, rfl, whole, taken⟩ := (completes_iff fresh waiting early item).mp completes
    exact ⟨early, bytes, rest, split, whole, taken, made⟩
  · rintro ⟨early, bytes, rest, split, whole, taken, made⟩
    have completes : (first.run persistor early).Completes (.sync (.endSync bytes)) :=
      (completes_iff fresh waiting early _).mpr ⟨bytes, rfl, whole, taken⟩
    exact ⟨early, _, rest, split, completes, made⟩

/-- A node whose first copy is empty and whose writes are made is passive with the end of that copy
and stays so when the stream is closed within another one; before, it is syncing. It is refused by
the active server of another stripe. -/
theorem empty_copy_makes_passive :
    let persistor : Persistor (Persistor.Impaired ClusterRecord) := Persistor.memory.impaired
    let node : Node (Persistor.Impaired ClusterRecord) :=
      ⟨⟨1⟩, none, .zero, .empty, .uninitialized, ⟨.empty⟩,
        ⟨ClusterRecord.fresh.withGroupId ⟨1⟩, fun _ => false⟩⟩
    let session : Session .willing := .start sampleServer .standard .inline ()
    let opening : List (BootstrapMove .willing
        (fun store : Persistor.Impaired ClusterRecord => store.store)) :=
      [.session (.item (.sync .startSync))]
    let moves := opening ++ .session (.item (.sync (.endSync .empty))) ::
      [.session (.item (.sync .startSync)), .session .close]
    let first : Bootstrap .willing (Persistor.Impaired ClusterRecord) :=
      ⟨(begin persistor ⟨⟨170⟩⟩ session node).2, session, .syncing⟩
    let later := first.run persistor moves
    (begin persistor ⟨⟨170⟩⟩ session node).1 = .ok first ∧
      (first.run persistor opening).node.state = .syncing ∧
      later.node.state = .passive ∧ later.node.store.store.state = .passive ∧
      later.stage = .failed ∧
      begin persistor ⟨⟨171⟩⟩ session later.node =
        (.error (.stripeMismatch ⟨⟨170⟩⟩ ⟨⟨171⟩⟩), later.node) := by
  intro persistor node session opening moves first later
  have faithful := Persistor.faithful_impaired Persistor.faithful_memory
  have begun : (begin persistor ⟨⟨170⟩⟩ session node).1 = .ok first := rfl
  obtain ⟨-, onceBegun⟩ := @passive_means_whole_copy .willing _ persistor _ faithful node ⟨⟨170⟩⟩
    sampleServer .standard .inline ()
  obtain ⟨⟨named, -⟩, recorded, -, -, passive⟩ := onceBegun first begun moves
  obtain ⟨refused, -⟩ := @passive_means_whole_copy .willing _ persistor _ faithful later.node
    ⟨⟨171⟩⟩ sampleServer .standard .inline ()
  have whole : ∃ copy : WholeCopy,
      copyItems (sessionMoves opening) ++ [.endSync .empty] = copy.items := ⟨⟨[], .empty⟩, rfl⟩
  have arrived : later.node.state = .passive :=
    passive.mpr ⟨opening, .empty, _, rfl, whole, rfl, rfl⟩
  exact ⟨begun, rfl, arrived, recorded.trans arrived, rfl, refused _ named (by decide)⟩

end Bootstrap
end Standby
