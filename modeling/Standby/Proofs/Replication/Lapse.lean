import Standby.Proofs.Replication.Passage
import Standby.Proofs.Replication.Teardown

/-!
# A passive state that is not written

The end of the first copy is a lapse when the passive state cannot be written: the stage is failed
from then on, while the session goes on. What a node on its way answers is true of the node without
a lapse, and a stage that is failed is the end of the way unless a lapse is the reason and the
session still runs (`Bootstrap.truthful_iff_no_lapse`).
-/
namespace Standby

variable {host : Host} {Store : Type} {persistor : Persistor Store}
  {record : Store → ClusterRecord}

namespace Session

variable {session : Session host}

/-- A running session takes the live operations of some slot. -/
theorem exists_taken (coherent : session.Coherent) (running : session.IsRunning) :
    ∃ message admission, (session.handle (.replicate message)).1 = .ok admission := by
  -- At most one slot is open, so one of two operations is not held back.
  obtain ⟨message, elsewhere⟩ : ∃ message : ReplicationMessage,
      session.openSlot ≠ some message.slot := by
    by_cases taken : session.openSlot = some (sampleOperation 0 ⟨0⟩).slot
    · refine ⟨sampleOperation 0 ⟨1⟩, ?_⟩
      rw [taken]
      decide
    · exact ⟨_, taken⟩
  refine ⟨message, ?_⟩
  have result := handled_of_running coherent running (.replicate message)
  generalize session.handle (.replicate message) = step at result ⊢
  cases result with
  | @accepted admission next _ accepted => exact ⟨admission, rfl⟩
  | refused _ refused =>
    cases refused with
    | overflow isOpen full => exact absurd isOpen elsewhere
  | ignored stopped known => exact absurd running stopped

/-- A session that is over refuses every item and stays as it is. -/
theorem handle_of_stopped (coherent : session.Coherent) (stopped : ¬ session.IsRunning)
    (item : StreamItem) : ∃ fault, session.handle item = (.error fault, session) := by
  have result := handled coherent item
  generalize session.handle item = step at result ⊢
  cases result with
  | accepted running accepted => exact absurd running stopped
  | refused running refused => exact absurd running stopped
  | @ignored fault _ known => exact ⟨fault, rfl⟩

end Session

namespace Bootstrap

variable {bootstrap first : Bootstrap host Store} {item : StreamItem}

/-- An item is answered with a fault of the cluster. -/
def Lapses (persistor : Persistor Store) (bootstrap : Bootstrap host Store) (item : StreamItem) :
    Prop :=
  ∃ fault, (bootstrap.handle persistor item).1 = .error (.cluster fault)

/-- An item is answered with a fault of the cluster when it makes the first copy whole and the
passive state is not written. -/
theorem lapses_iff : bootstrap.Lapses persistor item ↔
    bootstrap.Completes item ∧ (bootstrap.lastWrite persistor).1 ≠ .ok () := by
  unfold Lapses
  have result := bootstrap.takes persistor item
  generalize bootstrap.handle persistor item = step at result ⊢
  cases result with
  | refused refused => simp [not_completes_of_refused refused]
  | unwritten completes failed => simp [completes, failed]
  | passed completes made => simp [made]
  | admitted incomplete taken => simp [incomplete]

/-- Once the stage is failed an item is answered as the session answers it, and the node and the
stage stay as they are. -/
theorem handle_of_failed (failed : bootstrap.stage = .failed) (persistor : Persistor Store)
    (item : StreamItem) : bootstrap.handle persistor item =
      ((bootstrap.session.handle item).1.mapError .replication,
        { bootstrap with session := (bootstrap.session.handle item).2 }) := by
  unfold handle
  rcases bootstrap.session.handle item with ⟨fault | admission, session⟩
  · dsimp only
    rw [← failed]
    rfl
  · exact if_neg fun completes => by simp [failed] at completes

/-- A stage that is failed while the session runs has failed by a lapse. -/
theorem meets_lapse_of_failed (coherent : first.session.Coherent) (waiting : first.stage = .syncing)
    {moves : List (BootstrapMove host record)}
    (failed : (first.run persistor moves).stage = .failed)
    (running : (first.run persistor moves).session.IsRunning) :
    first.Meets persistor moves (Lapses persistor) := by
  induction moves using List.reverseRecOn with
  | nil =>
    have both : first.stage = .failed := failed
    rw [waiting] at both
    cases both
  | append_singleton before next ih =>
    have reached : (first.run persistor before).session.Coherent := coherent_run coherent before
    rw [run_concat] at failed running
    have earlier : (first.run persistor before).session.IsRunning :=
      isRunning_of_move reached running
    rw [meets_concat]
    have result : (first.run persistor before).Advances persistor next _ := advances reached next
    cases result with
    | still incomplete kept same stage =>
      rcases stage with stage | ⟨-, stopped⟩
      · exact .inl (ih (stage ▸ failed) earlier)
      · exact absurd running stopped
    | @lapsed item fault store isItem completes unwritten kept stage =>
      refine .inr ⟨item, isItem, lapses_iff.mpr ⟨completes, ?_⟩⟩
      rw [unwritten]
      nofun
    | passed isItem completes made arrived stage =>
      rw [stage] at failed
      cases failed

/-- After a lapse the stage is failed, and the node is syncing. -/
theorem failed_of_meets_lapse (faithful : persistor.Faithful record) {stripe : StripeId}
    (underway : first.Underway record stripe) {moves : List (BootstrapMove host record)}
    (lapsed : first.Meets persistor moves (Lapses persistor)) :
    (first.run persistor moves).stage = .failed ∧
      (first.run persistor moves).node.state = .syncing := by
  induction moves using List.reverseRecOn with
  | nil => exact absurd lapsed not_meets_nil
  | append_singleton before next ih =>
    have there : (first.run persistor before).Underway record stripe := underway.run faithful before
    rw [run_concat]
    have result : (first.run persistor before).Advances persistor next _ :=
      advances there.coherent next
    generalize (first.run persistor before).move persistor next = after at result ⊢
    rcases meets_concat.mp lapsed with early | ⟨item, rfl, lapses⟩
    · obtain ⟨failed, syncing⟩ := ih early
      -- A stage that is failed is not completed.
      have incomplete (item : StreamItem) : ¬ (first.run persistor before).Completes item := by
        rintro ⟨waiting, -⟩
        rw [failed] at waiting
        cases waiting
      cases result with
      | still _ kept same stage =>
        refine ⟨?_, by rw [kept]; exact syncing⟩
        exact stage.elim (fun same => same.trans failed) And.left
      | lapsed isItem completes unwritten kept stage => exact absurd completes (incomplete _)
      | passed isItem completes made arrived stage => exact absurd completes (incomplete _)
    · obtain ⟨completes, unwritten⟩ := lapses_iff.mp lapses
      cases result with
      | still incomplete kept same stage => exact absurd completes (incomplete item rfl)
      | lapsed isItem _ failed kept stage =>
        exact ⟨stage, by rw [kept]; exact there.syncing completes.1⟩
      | passed isItem _ made arrived stage => exact absurd (congrArg Prod.fst made) unwritten

/-- A node that answers that the copy is whole is passive, and so is its record, unless a lapse came
before. -/
theorem passive_of_completed (faithful : persistor.Faithful record) {stripe : StripeId}
    (underway : first.Underway record stripe) (waiting : first.stage = .syncing)
    {moves : List (BootstrapMove host record)}
    (completed : ((first.run persistor moves).handle persistor item).1 = .ok .syncCompleted) :
    let after := ((first.run persistor moves).handle persistor item).2
    (after.node.state = .passive ∧ (record after.node.store).state = .passive) ↔
      ¬ first.Meets persistor moves (Lapses persistor) := by
  intro after
  have there : (first.run persistor moves).Underway record stripe := underway.run faithful moves
  have reached : after.Underway record stripe := there.move faithful (.session (.item item))
  rw [reached.recorded, and_self]
  constructor
  · intro arrived lapsed
    obtain ⟨failed, syncing⟩ := failed_of_meets_lapse faithful underway lapsed
    have kept : after.node = (first.run persistor moves).node := by
      have answer := handle_of_failed failed persistor item
      exact congrArg (·.2.node) answer
    rw [kept, syncing] at arrived
    cases arrived
  · intro noLapse
    have result := (first.run persistor moves).takes persistor item
    change ((first.run persistor moves).handle persistor item).2.node.state = .passive
    generalize (first.run persistor moves).handle persistor item = step at result completed ⊢
    cases result with
    | refused refused => cases completed
    | unwritten completes failed => cases completed
    | passed completes made => rfl
    | admitted incomplete taken =>
      cases completed
      cases stage : (first.run persistor moves).stage with
      | syncing => exact absurd ⟨stage, taken⟩ incomplete
      | passive => exact there.passive stage
      | failed =>
        -- A session that takes an item runs.
        have running : (first.run persistor moves).session.IsRunning :=
          (Session.accepted_of_ok there.coherent taken).1
        exact absurd (meets_lapse_of_failed underway.coherent waiting stage running) noLapse

/-- The way has ended: whatever happens, every item is refused, reaches no entity and is not
acknowledged. -/
def Spent (persistor : Persistor Store) (record : Store → ClusterRecord)
    (bootstrap : Bootstrap host Store) : Prop :=
  ∀ (onward : List (BootstrapMove host record)) (item : StreamItem),
    let last := bootstrap.run persistor onward
    (∃ fault, (last.handle persistor item).1 = .error fault) ∧
      last.session.around.Untouched (last.handle persistor item).2.session.around

/-- The way has ended once the session is over. -/
theorem spent_of_stopped (coherent : bootstrap.session.Coherent)
    (stopped : ¬ bootstrap.session.IsRunning) : bootstrap.Spent persistor record := by
  intro onward item last
  have reached : last.session.Coherent := coherent_run coherent onward
  have still : ¬ last.session.IsRunning := by
    rw [session_run]
    exact fun running => stopped (Session.isRunning_of_run coherent running)
  obtain ⟨fault, refuses⟩ := Session.handle_of_stopped reached still item
  have refused : last.handle persistor item =
      (.error (.replication fault), { last with stage := .failed }) := by
    simp only [handle, refuses]
  rw [refused]
  exact ⟨⟨_, rfl⟩, .refl _⟩

/-- The way has not ended while the session runs. -/
theorem not_spent_of_running (coherent : bootstrap.session.Coherent)
    (failed : bootstrap.stage = .failed) (running : bootstrap.session.IsRunning) :
    ¬ bootstrap.Spent persistor record := by
  intro spent
  obtain ⟨message, admission, taken⟩ := Session.exists_taken coherent running
  obtain ⟨⟨fault, refused⟩, -⟩ := spent [] (.replicate message)
  have answer : (bootstrap.handle persistor (.replicate message)).1 = .ok admission := by
    rw [handle_of_failed failed, taken]
    rfl
  rw [show (bootstrap.handle persistor (.replicate message)).1 = _ from refused] at answer
  cases answer

/-- Of every node that begins with a new session: when it answers that the copy is whole, it and its
record are passive, unless a lapse came before; when its stage is failed, its way has ended, unless
a lapse came before and the session still runs. After a lapse it answers as its session does and
stays syncing. -/
theorem truthful_iff_no_lapse (faithful : persistor.Faithful record) (node : Node Store)
    (stripe : StripeId) (source : ServerId) (limits : Limits) (execution : Execution)
    (world : host.World) (first : Bootstrap host Store)
    (begun : (begin persistor stripe (.start source limits execution world : Session host)
      node).1 = .ok first) (moves : List (BootstrapMove host record)) :
    let later := first.run persistor moves
    (∀ item, (later.handle persistor item).1 = .ok .syncCompleted →
      ((later.handle persistor item).2.node.state = .passive ∧
          (record (later.handle persistor item).2.node.store).state = .passive ↔
        ¬ first.Meets persistor moves (Lapses persistor))) ∧
    (later.stage = .failed →
      (later.Spent persistor record ↔
        ¬ (first.Meets persistor moves (Lapses persistor) ∧ later.session.IsRunning))) ∧
    (first.Meets persistor moves (Lapses persistor) →
      later.stage = .failed ∧ later.node.state = .syncing ∧
        ∀ item, later.handle persistor item =
          ((later.session.handle item).1.mapError .replication,
            { later with session := (later.session.handle item).2 })) := by
  intro later
  obtain ⟨underway, -, waiting, -⟩ := underway_of_begin faithful
    (Session.coherent_start source limits execution world) begun
  have there : later.Underway record stripe := underway.run faithful moves
  refine ⟨?_, ?_, ?_⟩
  · intro item completed
    exact passive_of_completed faithful underway waiting completed
  · intro failed
    constructor
    · rintro spent ⟨-, running⟩
      exact not_spent_of_running there.coherent failed running spent
    · intro noLapse
      refine spent_of_stopped there.coherent fun running => ?_
      exact noLapse ⟨meets_lapse_of_failed underway.coherent waiting failed running, running⟩
  · intro lapsed
    obtain ⟨failed, syncing⟩ := failed_of_meets_lapse faithful underway lapsed
    exact ⟨failed, syncing, handle_of_failed failed persistor⟩

/-- A node whose passive state was not written at the end of the first copy takes the next one, and
answers that it is whole, while it and its record are syncing. -/
theorem second_copy_is_not_passive :
    let persistor : Persistor (Persistor.Impaired ClusterRecord) := Persistor.memory.impaired
    let node : Node (Persistor.Impaired ClusterRecord) :=
      ⟨⟨1⟩, none, .zero, .empty, .uninitialized, ⟨.empty⟩,
        ⟨ClusterRecord.fresh.withGroupId ⟨1⟩, fun _ => false⟩⟩
    let session : Session .willing := .start sampleServer .standard .inline ()
    let opening : List (BootstrapMove .willing
        (fun store : Persistor.Impaired ClusterRecord => store.store)) :=
      [.stir (fun store => { store with failing := (· == .setCurrentState) }) fun _ => rfl,
        .session (.item (.sync .startSync))]
    let moves := opening ++ .session (.item (.sync (.endSync .empty))) ::
      [.session (.item (.sync .startSync))]
    let first : Bootstrap .willing (Persistor.Impaired ClusterRecord) :=
      ⟨(begin persistor ⟨⟨170⟩⟩ session node).2, session, .syncing⟩
    let later := first.run persistor moves
    let step := later.handle persistor (.sync (.endSync .empty))
    (begin persistor ⟨⟨170⟩⟩ session node).1 = .ok first ∧ later.stage = .failed ∧
      step.1 = .ok .syncCompleted ∧ step.2.node.state = .syncing ∧
      ¬ (step.2.node.state = .passive ∧ step.2.node.store.store.state = .passive) ∧
      ¬ later.Spent persistor (fun store : Persistor.Impaired ClusterRecord => store.store) := by
  intro persistor node session opening moves first later step
  have faithful := Persistor.faithful_impaired Persistor.faithful_memory
  have begun : (begin persistor ⟨⟨170⟩⟩ session node).1 = .ok first := rfl
  obtain ⟨truth, final, lapse⟩ := truthful_iff_no_lapse faithful node ⟨⟨170⟩⟩ sampleServer
    .standard .inline () first begun moves
  have lapsed : first.Meets persistor moves (Lapses persistor) :=
    ⟨opening, .sync (.endSync .empty), _, rfl,
      .persist (Persistor.outOfOrder .setCurrentState), rfl⟩
  have running : later.session.IsRunning := .inr rfl
  have completed : step.1 = .ok .syncCompleted := rfl
  obtain ⟨failed, syncing, goesOn⟩ := lapse lapsed
  have unmoved : step.2.node = later.node := congrArg (·.2.node) (goesOn (.sync (.endSync .empty)))
  refine ⟨begun, failed, completed, by rw [unmoved]; exact syncing, ?_, ?_⟩
  · exact fun arrived => (truth _ completed).mp arrived lapsed
  · exact fun spent => (final failed).mp spent ⟨lapsed, running⟩

end Bootstrap
end Standby
