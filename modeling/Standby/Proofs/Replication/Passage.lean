import Standby.Proofs.Cluster.Transition
import Standby.Proofs.Replication.Acceptance
import Standby.Replication.Bootstrap

/-!
# The way to being passive

A node on its way to being passive takes items and is closed as its session is, and its store may
fail in other ways at any time. `Bootstrap.Takes` lists what can become of an item and
`Bootstrap.Advances` what a move makes of the node and of the stage, so that what holds on the whole
way (`Bootstrap.Underway`) is proved by going through these lists.
-/
namespace Standby

variable {host : Host} {Store : Type} {persistor : Persistor Store}
  {record : Store → ClusterRecord}

/-- Something that happens to a node on its way to being passive. -/
inductive BootstrapMove (host : Host) (record : Store → ClusterRecord) where
  /-- Something happens to its session. -/
  | session (move : SessionMove host)
  /-- The store fails in other ways than before. -/
  | stir (change : Store → Store) (same : ∀ store, record (change store) = record store)

/-- What happens to the session in some moves. -/
def sessionMoves (moves : List (BootstrapMove host record)) : List (SessionMove host) :=
  moves.filterMap fun
    | .session move => some move
    | .stir .. => none

/-- Some moves and then others move the session one after the other. -/
theorem sessionMoves_append (first second : List (BootstrapMove host record)) :
    sessionMoves (first ++ second) = sessionMoves first ++ sessionMoves second :=
  List.filterMap_append

/-- A session that refuses an item is over. -/
theorem Session.not_isRunning_of_error {session : Session host} (coherent : session.Coherent)
    {item : StreamItem} {fault : ReplicationFault}
    (refused : (session.handle item).1 = .error fault) : ¬ (session.handle item).2.IsRunning := by
  intro running
  obtain ⟨admission, taken, -⟩ := accepted_of_isRunning coherent running
  rw [refused] at taken
  cases taken

/-- A state that is not written does not become current. -/
theorem Node.transitionTo_of_error {node : Node Store} {state : LifecycleState}
    {fault : PersistFault} {store : Store}
    (failed : persistor.setCurrentState state node.connections node.store =
      (.error fault, store)) :
    node.transitionTo persistor state = (.error (.persist fault), { node with store }) := by
  simp only [transitionTo, failed]

/-- A state that is written becomes current. -/
theorem Node.transitionTo_of_ok {node : Node Store} {state : LifecycleState} {store : Store}
    (made : persistor.setCurrentState state node.connections node.store = (.ok (), store)) :
    node.transitionTo persistor state = (.ok (), { node with store, state }) := by
  simp only [transitionTo, made]

namespace Bootstrap

variable {bootstrap after : Bootstrap host Store} {item : StreamItem}

/-- The write of the passive state, which ends the way. -/
def lastWrite (persistor : Persistor Store) (bootstrap : Bootstrap host Store) : WriteStep Store :=
  persistor.setCurrentState .passive bootstrap.node.connections bootstrap.node.store

/-- The last write makes the recorded state passive, or it leaves the record as it was. -/
theorem changes_lastWrite (faithful : persistor.Faithful record)
    (bootstrap : Bootstrap host Store) :
    Persistor.Changes record (·.withState .passive bootstrap.node.connections)
      bootstrap.node.store (bootstrap.lastWrite persistor) :=
  faithful.setCurrentState .passive bootstrap.node.connections bootstrap.node.store

/-- An item makes the first copy whole. -/
def Completes (bootstrap : Bootstrap host Store) (item : StreamItem) : Prop :=
  bootstrap.stage = .syncing ∧ (bootstrap.session.handle item).1 = .ok .syncCompleted

/-- An item that the session refuses does not make the first copy whole. -/
theorem not_completes_of_refused {fault : ReplicationFault}
    (refused : (bootstrap.session.handle item).1 = .error fault) :
    ¬ bootstrap.Completes item := by
  rintro ⟨-, completed⟩
  rw [refused] at completed
  cases completed

/-- What becomes of an item. -/
inductive Takes (persistor : Persistor Store) (bootstrap : Bootstrap host Store)
    (item : StreamItem) : Except Fault Admission × Bootstrap host Store → Prop where
  /-- The session refuses it. -/
  | refused {fault : ReplicationFault}
      (refused : (bootstrap.session.handle item).1 = .error fault) :
      Takes persistor bootstrap item
        (.error (.replication fault),
          { bootstrap with session := (bootstrap.session.handle item).2, stage := .failed })
  /-- It makes the first copy whole, and the passive state is not written. -/
  | unwritten {fault : PersistFault} {store : Store} (completes : bootstrap.Completes item)
      (failed : bootstrap.lastWrite persistor = (.error fault, store)) :
      Takes persistor bootstrap item
        (.error (.cluster (.persist fault)),
          { node := { bootstrap.node with store }
            session := (bootstrap.session.handle item).2, stage := .failed })
  /-- It makes the first copy whole, and the node is passive. -/
  | passed {store : Store} (completes : bootstrap.Completes item)
      (made : bootstrap.lastWrite persistor = (.ok (), store)) :
      Takes persistor bootstrap item
        (.ok .syncCompleted,
          { node := { bootstrap.node with store, state := .passive }
            session := (bootstrap.session.handle item).2, stage := .passive })
  /-- The session takes it, and no more follows from that. -/
  | admitted {admission : Admission} (incomplete : ¬ bootstrap.Completes item)
      (taken : (bootstrap.session.handle item).1 = .ok admission) :
      Takes persistor bootstrap item
        (.ok admission, { bootstrap with session := (bootstrap.session.handle item).2 })

/-- One of the listed things becomes of every item. -/
theorem takes (bootstrap : Bootstrap host Store) (persistor : Persistor Store)
    (item : StreamItem) : bootstrap.Takes persistor item (bootstrap.handle persistor item) := by
  cases answer : (bootstrap.session.handle item).1 with
  | error fault =>
    have refuses : bootstrap.handle persistor item = (.error (.replication fault),
        { bootstrap with session := (bootstrap.session.handle item).2, stage := .failed }) := by
      unfold handle
      rw [show bootstrap.session.handle item = (.error fault, _) from Prod.ext answer rfl]
    rw [refuses]
    exact .refused answer
  | ok admission =>
    have takes : bootstrap.session.handle item =
        (.ok admission, (bootstrap.session.handle item).2) := Prod.ext answer rfl
    unfold handle
    rw [takes]
    dsimp only
    split
    · rename_i whole
      have completes : bootstrap.Completes item := ⟨whole.2, whole.1 ▸ answer⟩
      rcases written : bootstrap.lastWrite persistor with ⟨fault | _, store⟩
      · rw [Node.transitionTo_of_error written]
        exact .unwritten completes written
      · rw [Node.transitionTo_of_ok written, whole.1]
        exact .passed completes written
    · rename_i other
      have incomplete : ¬ bootstrap.Completes item := by
        rintro ⟨waiting, completed⟩
        rw [answer] at completed
        exact other ⟨Except.ok.inj completed, waiting⟩
      exact .admitted incomplete answer

/-- The session takes every item as it would alone. -/
theorem session_handle (bootstrap : Bootstrap host Store) (persistor : Persistor Store)
    (item : StreamItem) :
    (bootstrap.handle persistor item).2.session = (bootstrap.session.handle item).2 := by
  have result := bootstrap.takes persistor item
  generalize bootstrap.handle persistor item = step at result ⊢
  cases result with
  | refused refused => rfl
  | unwritten completes failed => rfl
  | passed completes made => rfl
  | admitted incomplete taken => rfl

/-- A close leaves the node alone and closes the session; it leaves the stage as it is, or the
bootstrap has failed. -/
theorem close_frame (bootstrap : Bootstrap host Store) : bootstrap.close.2.node = bootstrap.node ∧
    bootstrap.close.2.session = bootstrap.session.close.2 ∧
    (bootstrap.close.2.stage = bootstrap.stage ∨ bootstrap.close.2.stage = .failed) := by
  unfold close
  split
  · rename_i fault session closes
    exact ⟨rfl, by rw [closes], .inr rfl⟩
  · rename_i done session closes
    exact ⟨rfl, by rw [closes], .inl rfl⟩

/-- The node on its way after a move. -/
def move (persistor : Persistor Store) (bootstrap : Bootstrap host Store) :
    BootstrapMove host record → Bootstrap host Store
  | .session (.item item) => (bootstrap.handle persistor item).2
  | .session .close => bootstrap.close.2
  | .session next => { bootstrap with session := bootstrap.session.move next }
  | .stir change _ =>
    { bootstrap with node := { bootstrap.node with store := change bootstrap.node.store } }

/-- The node on its way after some moves. -/
def run (persistor : Persistor Store) (bootstrap : Bootstrap host Store)
    (moves : List (BootstrapMove host record)) : Bootstrap host Store :=
  moves.foldl (move persistor) bootstrap

/-- Some moves and then others are made one after the other. -/
theorem run_append (bootstrap : Bootstrap host Store)
    (first second : List (BootstrapMove host record)) :
    bootstrap.run persistor (first ++ second) =
      (bootstrap.run persistor first).run persistor second :=
  List.foldl_append

/-- Some moves and then one more. -/
theorem run_concat (bootstrap : Bootstrap host Store) (moves : List (BootstrapMove host record))
    (next : BootstrapMove host record) :
    bootstrap.run persistor (moves ++ [next]) =
      (bootstrap.run persistor moves).move persistor next :=
  run_append bootstrap moves [next]

/-- The session moves as it would alone. -/
theorem session_move (bootstrap : Bootstrap host Store) (next : BootstrapMove host record) :
    (bootstrap.move persistor next).session = bootstrap.session.run (sessionMoves [next]) := by
  cases next with
  | session next =>
    cases next with
    | item item => exact bootstrap.session_handle persistor item
    | close => exact bootstrap.close_frame.2.1
    | use action => rfl
    | stir world => rfl
  | stir change same => rfl

/-- The session runs as it would alone. -/
theorem session_run (bootstrap : Bootstrap host Store)
    (moves : List (BootstrapMove host record)) :
    (bootstrap.run persistor moves).session = bootstrap.session.run (sessionMoves moves) := by
  induction moves using List.reverseRecOn with
  | nil => rfl
  | append_singleton before next ih =>
    rw [run_concat, session_move, ih, sessionMoves_append, Session.run_append]

/-- A move leaves the session coherent. -/
theorem coherent_move (coherent : bootstrap.session.Coherent)
    (next : BootstrapMove host record) :
    (bootstrap.move persistor next).session.Coherent := by
  rw [session_move]
  exact coherent.run _

/-- Some moves leave the session coherent. -/
theorem coherent_run (coherent : bootstrap.session.Coherent)
    (moves : List (BootstrapMove host record)) :
    (bootstrap.run persistor moves).session.Coherent := by
  rw [session_run]
  exact coherent.run _

/-- A session that runs after a move ran before it. -/
theorem isRunning_of_move (coherent : bootstrap.session.Coherent)
    {next : BootstrapMove host record}
    (running : (bootstrap.move persistor next).session.IsRunning) :
    bootstrap.session.IsRunning := by
  rw [session_move] at running
  exact Session.isRunning_of_run coherent running

/-- What a move makes of the node and of the stage. -/
inductive Advances (persistor : Persistor Store) (bootstrap : Bootstrap host Store)
    (next : BootstrapMove host record) (after : Bootstrap host Store) : Prop where
  /-- The node and its record stay as they are, and so does the stage, or the session is over and
  the stage is failed. -/
  | still {store : Store}
      (incomplete : ∀ item, next = .session (.item item) → ¬ bootstrap.Completes item)
      (kept : after.node = { bootstrap.node with store })
      (same : record store = record bootstrap.node.store)
      (stage : after.stage = bootstrap.stage ∨
        after.stage = .failed ∧ ¬ after.session.IsRunning)
  /-- The first copy is whole, the passive state is not written, and the stage is failed. -/
  | lapsed {item : StreamItem} {fault : PersistFault} {store : Store}
      (isItem : next = .session (.item item)) (completes : bootstrap.Completes item)
      (failed : bootstrap.lastWrite persistor = (.error fault, store))
      (kept : after.node = { bootstrap.node with store }) (stage : after.stage = .failed)
  /-- The first copy is whole, and the node is passive. -/
  | passed {item : StreamItem} {store : Store} (isItem : next = .session (.item item))
      (completes : bootstrap.Completes item)
      (made : bootstrap.lastWrite persistor = (.ok (), store))
      (arrived : after.node = { bootstrap.node with store, state := .passive })
      (stage : after.stage = .passive)

/-- Every move makes one of the listed things of the node and of the stage. -/
theorem advances (coherent : bootstrap.session.Coherent) (next : BootstrapMove host record) :
    bootstrap.Advances persistor next (bootstrap.move persistor next) := by
  -- What is no item makes no copy whole.
  have idle (other : ∀ item, next ≠ .session (.item item)) (item : StreamItem)
      (isItem : next = .session (.item item)) : ¬ bootstrap.Completes item :=
    absurd isItem (other item)
  cases next with
  | stir change same =>
    exact .still (idle fun _ => by simp) rfl (same bootstrap.node.store) (.inl rfl)
  | session next =>
    cases next with
    | item item =>
      rw [move]
      have result := bootstrap.takes persistor item
      generalize bootstrap.handle persistor item = step at result ⊢
      cases result with
      | refused refused =>
        refine .still (fun other isItem => ?_) rfl rfl (.inr ⟨rfl, ?_⟩)
        · cases isItem
          exact not_completes_of_refused refused
        · exact Session.not_isRunning_of_error coherent refused
      | unwritten completes failed => exact .lapsed rfl completes failed rfl rfl
      | passed completes made => exact .passed rfl completes made rfl rfl
      | admitted incomplete taken =>
        refine .still (fun other isItem => ?_) rfl rfl (.inl rfl)
        cases isItem
        exact incomplete
    | close =>
      obtain ⟨node, session, stage⟩ := bootstrap.close_frame
      have stopped : ¬ bootstrap.close.2.session.IsRunning := by
        rw [session]
        exact Session.not_isRunning_close bootstrap.session
      exact .still (idle fun _ => by simp) node rfl
        (stage.imp_right fun failed => ⟨failed, stopped⟩)
    | use action => exact .still (idle fun _ => by simp) rfl rfl (.inl rfl)
    | stir world => exact .still (idle fun _ => by simp) rfl rfl (.inl rfl)

/-- What holds on the whole way: the stripe is the adopted one, the state of the node is the
recorded one, it is syncing or passive, and the stage says no more than it. -/
structure Underway (record : Store → ClusterRecord) (stripe : StripeId)
    (bootstrap : Bootstrap host Store) : Prop where
  coherent : bootstrap.session.Coherent
  stripeId : bootstrap.node.stripeId = some stripe
  recorded : (record bootstrap.node.store).state = bootstrap.node.state
  standby : bootstrap.node.state = .syncing ∨ bootstrap.node.state = .passive
  syncing : bootstrap.stage = .syncing → bootstrap.node.state = .syncing
  passive : bootstrap.stage = .passive → bootstrap.node.state = .passive

variable {stripe : StripeId}

/-- What holds on the way still holds when the node and its record stay as they are and the stage is
at most failed. -/
theorem Underway.kept (underway : bootstrap.Underway record stripe)
    (coherent : after.session.Coherent) {store : Store}
    (kept : after.node = { bootstrap.node with store })
    (same : record store = record bootstrap.node.store)
    (stage : after.stage = bootstrap.stage ∨ after.stage = .failed) :
    after.Underway record stripe := by
  have state : after.node.state = bootstrap.node.state := by rw [kept]
  -- A stage that says something of the state is the one before.
  have before {said : BootstrapStage} (now : after.stage = said) (lives : said ≠ .failed) :
      bootstrap.stage = said := by
    rcases stage with stage | failed
    · exact stage.symm.trans now
    · exact absurd (now.symm.trans failed) lives
  refine ⟨coherent, ?_, ?_, ?_, fun waiting => ?_, fun arrived => ?_⟩
  · rw [kept]
    exact underway.stripeId
  · rw [kept, same]
    exact underway.recorded
  · rw [state]
    exact underway.standby
  · rw [state]
    exact underway.syncing (before waiting (by decide))
  · rw [state]
    exact underway.passive (before arrived (by decide))

/-- A move keeps what holds on the whole way. -/
theorem Underway.move (faithful : persistor.Faithful record)
    (underway : bootstrap.Underway record stripe) (next : BootstrapMove host record) :
    (bootstrap.move persistor next).Underway record stripe := by
  have coherent : (bootstrap.move persistor next).session.Coherent :=
    coherent_move underway.coherent next
  have wrote := bootstrap.changes_lastWrite faithful
  have result : bootstrap.Advances persistor next _ := advances underway.coherent next
  generalize bootstrap.move persistor next = after at result coherent ⊢
  cases result with
  | still incomplete kept same stage =>
    exact underway.kept coherent kept same (stage.imp_right And.left)
  | lapsed isItem completes failed kept stage =>
    rw [failed] at wrote
    exact underway.kept coherent kept wrote (.inr stage)
  | @passed item store isItem completes made arrived stage =>
    rw [made] at wrote
    have recorded : record store = (record bootstrap.node.store).withState .passive _ := wrote
    refine ⟨coherent, ?_, ?_, ?_, ?_, ?_⟩
    · rw [arrived]
      exact underway.stripeId
    · rw [arrived]
      exact congrArg ClusterRecord.state recorded
    · rw [arrived]
      exact .inr rfl
    · rw [stage]
      nofun
    · rw [arrived]
      exact fun _ => rfl

/-- Some moves keep what holds on the whole way. -/
theorem Underway.run (faithful : persistor.Faithful record)
    (underway : bootstrap.Underway record stripe) (moves : List (BootstrapMove host record)) :
    (bootstrap.run persistor moves).Underway record stripe := by
  induction moves generalizing bootstrap with
  | nil => exact underway
  | cons next rest ih => exact ih (underway.move faithful next)

/-- A node that begins has the stripe, and it is recorded as syncing. -/
theorem underway_of_begin (faithful : persistor.Faithful record) {node : Node Store}
    {session : Session host} (coherent : session.Coherent) {first : Bootstrap host Store}
    (begun : (begin persistor stripe session node).1 = .ok first) :
    first.Underway record stripe ∧ first.session = session ∧ first.stage = .syncing ∧
      ((record node.store).stripeId = node.stripeId →
        (record first.node.store).stripeId = some stripe) := by
  unfold begin at begun
  split at begun
  · cases begun
  · rename_i done named told
    obtain ⟨stripeId, recordedId⟩ := Node.stripeId_of_setStripeId faithful told
    have wrote := faithful.setCurrentState .syncing named.connections named.store
    rcases written : persistor.setCurrentState .syncing named.connections named.store with
      ⟨fault | _, store⟩
    · rw [Node.transitionTo_of_error written] at begun
      cases begun
    · rw [Node.transitionTo_of_ok written] at begun
      rw [written] at wrote
      cases begun
      have recorded : record store = (record named.store).withState .syncing named.connections :=
        wrote
      refine ⟨⟨coherent, stripeId, ?_, .inl rfl, fun _ => rfl, nofun⟩, rfl, rfl, ?_⟩
      · exact congrArg ClusterRecord.state recorded
      · exact fun same => (congrArg ClusterRecord.stripeId recorded).trans (recordedId same)

/-- A node that has another stripe is refused, and stays as it is. -/
theorem begin_of_other {node : Node Store} {own : StripeId} (named : node.stripeId = some own)
    (other : own ≠ stripe) (persistor : Persistor Store) (session : Session host) :
    begin persistor stripe session node = (.error (.stripeMismatch own stripe), node) := by
  have refused : node.setStripeId persistor stripe =
      (.error (.stripeMismatch own stripe), node) := by
    simp only [Node.setStripeId, named, if_neg other]
  simp only [begin, refused]

/-- The recorded stripe stays as it is in a move. -/
theorem recordedStripe_move (faithful : persistor.Faithful record)
    (coherent : bootstrap.session.Coherent) (next : BootstrapMove host record) :
    (record (bootstrap.move persistor next).node.store).stripeId =
      (record bootstrap.node.store).stripeId := by
  have wrote := bootstrap.changes_lastWrite faithful
  cases bootstrap.advances coherent next with
  | still incomplete kept same stage => rw [kept, same]
  | lapsed isItem completes failed kept stage =>
    rw [failed] at wrote
    rw [kept]
    exact congrArg ClusterRecord.stripeId wrote
  | @passed item store isItem completes made arrived stage =>
    rw [made] at wrote
    have recorded : record store = (record bootstrap.node.store).withState .passive _ := wrote
    rw [arrived]
    change (record store).stripeId = _
    rw [recorded]
    rfl

/-- The recorded stripe stays as it is on the whole way. -/
theorem recordedStripe_run (faithful : persistor.Faithful record)
    (coherent : bootstrap.session.Coherent) (moves : List (BootstrapMove host record)) :
    (record (bootstrap.run persistor moves).node.store).stripeId =
      (record bootstrap.node.store).stripeId := by
  induction moves generalizing bootstrap with
  | nil => rfl
  | cons next rest ih =>
    exact (ih (coherent_move coherent next)).trans (recordedStripe_move faithful coherent next)

/-- An item comes among some moves in a situation that is described. -/
def Meets (persistor : Persistor Store) (first : Bootstrap host Store)
    (moves : List (BootstrapMove host record))
    (situation : Bootstrap host Store → StreamItem → Prop) : Prop :=
  ∃ early item rest, moves = early ++ .session (.item item) :: rest ∧
    situation (first.run persistor early) item

/-- An item comes in a situation among some moves, or it is one more move. -/
theorem meets_concat {first : Bootstrap host Store} {moves : List (BootstrapMove host record)}
    {next : BootstrapMove host record} {situation : Bootstrap host Store → StreamItem → Prop} :
    first.Meets persistor (moves ++ [next]) situation ↔ first.Meets persistor moves situation ∨
      ∃ item, next = .session (.item item) ∧ situation (first.run persistor moves) item := by
  constructor
  · rintro ⟨early, item, rest, split, there⟩
    cases rest using List.reverseRecOn with
    | nil =>
      obtain ⟨rfl, same⟩ := List.append_inj' split rfl
      exact .inr ⟨item, (List.cons.inj same).1, there⟩
    | append_singleton rest final =>
      rw [← List.cons_append, ← List.append_assoc] at split
      exact .inl ⟨early, item, rest, (List.append_inj' split rfl).1, there⟩
  · rintro (⟨early, item, rest, split, there⟩ | ⟨item, rfl, there⟩)
    · refine ⟨early, item, rest ++ [next], ?_, there⟩
      rw [split, List.append_assoc, List.cons_append]
    · exact ⟨moves, item, [], rfl, there⟩

/-- No item comes among no moves. -/
theorem not_meets_nil {first : Bootstrap host Store}
    {situation : Bootstrap host Store → StreamItem → Prop} :
    ¬ first.Meets persistor ([] : List (BootstrapMove host record)) situation := by
  rintro ⟨early, item, rest, split, -⟩
  exact absurd split.symm (by simp)

/-- The first copy is whole with an item, and the passive state is written. -/
def Passes (persistor : Persistor Store) (bootstrap : Bootstrap host Store) (item : StreamItem) :
    Prop :=
  bootstrap.Completes item ∧ (bootstrap.lastWrite persistor).1 = .ok ()

/-- A node is passive after a move when it was so before or becomes so with the move. -/
theorem state_move (coherent : bootstrap.session.Coherent) (next : BootstrapMove host record) :
    (bootstrap.move persistor next).node.state = .passive ↔ bootstrap.node.state = .passive ∨
      ∃ item, next = .session (.item item) ∧ bootstrap.Passes persistor item := by
  have result : bootstrap.Advances persistor next _ := bootstrap.advances coherent next
  cases result with
  | still incomplete kept same stage =>
    have never : ¬ ∃ item, next = .session (.item item) ∧ bootstrap.Passes persistor item :=
      fun ⟨item, isItem, completes, _⟩ => incomplete item isItem completes
    rw [kept, or_iff_left never]
  | lapsed isItem completes failed kept stage =>
    have never : ¬ ∃ item, next = .session (.item item) ∧ bootstrap.Passes persistor item := by
      rintro ⟨_, _, _, made⟩
      rw [failed] at made
      cases made
    rw [kept, or_iff_left never]
  | passed isItem completes made arrived stage =>
    have passes : ∃ item, next = .session (.item item) ∧ bootstrap.Passes persistor item :=
      ⟨_, isItem, completes, congrArg Prod.fst made⟩
    rw [arrived]
    exact ⟨fun _ => .inr passes, fun _ => rfl⟩

/-- A node that was syncing is passive after some moves when it became so with one of them. -/
theorem state_run {first : Bootstrap host Store} (coherent : first.session.Coherent)
    (syncing : first.node.state = .syncing) (moves : List (BootstrapMove host record)) :
    (first.run persistor moves).node.state = .passive ↔
      first.Meets persistor moves (Passes persistor) := by
  induction moves using List.reverseRecOn with
  | nil =>
    refine iff_of_false ?_ not_meets_nil
    change first.node.state ≠ .passive
    rw [syncing]
    nofun
  | append_singleton before next ih =>
    rw [run_concat, state_move (coherent_run coherent before) next, ih, meets_concat]

end Bootstrap
end Standby
