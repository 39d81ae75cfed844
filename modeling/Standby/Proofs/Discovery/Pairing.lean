import Mathlib.Data.List.Count
import Standby.Discovery.PeerLoop

/-!
# Links come up and are lost in turn

Whatever the loop of a peer meets, its stage says in which state the peer is, so every move that it
asks of the peer is one the peer can make (`IsPaired`). The messaging layer is told of links that
come up and are lost in turn, and the peer counts the same links
(`links_come_up_and_are_lost_in_turn`). A loop that is told to stop ends once the attempt under way
has an outcome (`ended_of_stop`).
-/
namespace Standby

/-- Links came up and were lost in turn, beginning with one that came up; the events are listed the
latest first, and the last link is up or not. -/
inductive InTurn : Bool → List LinkEvent → Prop where
  /-- No link came up yet. -/
  | none : InTurn false []
  /-- A link came up while none was up. -/
  | comesUp {events : List LinkEvent} : InTurn false events → InTurn true (.connected :: events)
  /-- The link that was up is lost. -/
  | isLost {events : List LinkEvent} : InTurn true events → InTurn false (.lost :: events)

/-- Every link that came up was lost, but for the one that is up. -/
theorem InTurn.count_connected {isUp : Bool} {events : List LinkEvent}
    (turns : InTurn isUp events) :
    events.count .connected = events.count .lost + if isUp then 1 else 0 := by
  induction turns with
  | none => rfl
  | comesUp _ ih => simpa using ih
  | isLost _ ih => simpa using ih

/-- The states in which a peer can be at a stage of its loop. -/
def LoopStage.Fits (state : PeerState) : LoopStage → Prop
  | starting | ended => state = .unknown ∨ state = .disconnected
  | connecting => state = .connecting
  | linked => state = .connected
  | settling | pausing _ => state = .disconnected

namespace PeerLoop

variable {loop next : PeerLoop} {input : LoopInput} {target : PeerState}

/-- The link of the peer is up. -/
def isUp (loop : PeerLoop) : Bool := loop.peer.state = .connected

/-- What holds of the loop of a peer at any time. -/
structure IsPaired (loop : PeerLoop) : Prop where
  /-- The stage says in which state the peer is. -/
  fits : loop.stage.Fits loop.peer.state
  /-- No move was refused. -/
  legal : loop.refusals = []
  /-- The messaging layer was told of links in turn. -/
  inTurn : InTurn loop.isUp loop.events
  /-- The peer counted the links that came up. -/
  connects : loop.peer.connects = loop.events.count .connected
  /-- The peer counted the links that were lost. -/
  losses : loop.peer.losses = loop.events.count .lost

/-- The loop tries the peer when it meets an input. -/
def tries (loop : PeerLoop) : LoopInput → Bool
  | .look => loop.stage = .starting && !loop.isStopping
  | _ => false

/-- The attempt under way succeeds when the loop meets an input. -/
def succeeds (loop : PeerLoop) : LoopInput → Bool
  | .outcome (.ok _) => loop.stage = .connecting
  | _ => false

/-- Whether the attempt under way succeeds, when the loop meets its outcome. -/
def outcome? (loop : PeerLoop) : LoopInput → Option Bool
  | .outcome result => if loop.stage = .connecting then some result.isOk else none
  | _ => none

/-- An attempt succeeds when its outcome is a success. -/
theorem succeeds_eq_false (unanswered : loop.outcome? input = none) :
    loop.succeeds input = false := by
  cases input with
  | outcome result => cases result <;> simp_all [succeeds, outcome?]
  | _ => rfl

/-- How often something happens while a loop meets inputs in order. -/
def occurrences (happens : PeerLoop → LoopInput → Bool) (loop : PeerLoop) : List LoopInput → Nat
  | [] => 0
  | input :: rest => (happens loop input).toNat + (loop.step input).occurrences happens rest

/-- What a loop does when it meets an input. -/
inductive Steps (loop : PeerLoop) : LoopInput → PeerLoop → Prop where
  /-- It is told to stop. -/
  | told : Steps loop .stop { loop with isStopping := true }
  /-- It ends. -/
  | ends (stage : loop.stage = .starting ∨ loop.stage = .settling)
    (stopping : loop.isStopping = true) : Steps loop .look { loop with stage := .ended }
  /-- It tries the peer. -/
  | tries (stage : loop.stage = .starting) (going : loop.isStopping = false) :
    Steps loop .look { loop.move .connecting with stage := .connecting }
  /-- The attempt succeeds. -/
  | links {link : Unit} (stage : loop.stage = .connecting) :
    Steps loop (.outcome (.ok link)) loop.connect
  /-- The attempt fails. -/
  | misses {fault : TransportFault} (stage : loop.stage = .connecting) :
    Steps loop (.outcome (.error fault)) loop.miss
  /-- The link is gone, or given up because the loop is to stop. -/
  | loses {input : LoopInput} (stage : loop.stage = .linked)
    (cause : input = .linkLost ∨ input = .look ∧ loop.isStopping = true) :
    Steps loop input loop.disconnect
  /-- It leaves the peer alone. -/
  | pauses (stage : loop.stage = .settling) (going : loop.isStopping = false) :
    Steps loop .look loop.pause
  /-- It has left the peer alone for long enough. -/
  | resumes {input : LoopInput} {delay : Duration} (stage : loop.stage = .pausing delay)
    (cause : input = .elapsed ∨ input = .look ∧ loop.isStopping = true) :
    Steps loop input { loop with stage := .starting }
  /-- The input does not concern it. -/
  | waits {input : LoopInput} (untried : loop.tries input = false)
    (unanswered : loop.outcome? input = none) : Steps loop input loop

/-- A loop takes one of these steps with every input. -/
theorem steps_step (loop : PeerLoop) (input : LoopInput) : loop.Steps input (loop.step input) := by
  fun_cases PeerLoop.step loop input with
  | case1 => exact .told
  | case2 stage stopping => exact .ends (.inl stage) stopping
  | case3 stage going => exact .tries stage (Bool.eq_false_iff.mpr going)
  | case4 stage stopping => exact .loses stage (.inr ⟨rfl, stopping⟩)
  | case5 stage => exact .waits (by simp [tries, stage]) rfl
  | case6 stage stopping => exact .ends (.inr stage) stopping
  | case7 stage going => exact .pauses stage (Bool.eq_false_iff.mpr going)
  | case8 delay stage stopping => exact .resumes stage (.inr ⟨rfl, stopping⟩)
  | case9 delay stage => exact .waits (by simp [tries, stage]) rfl
  | case10 link stage => exact .links stage
  | case11 fault stage => exact .misses stage
  | case12 stage => exact .loses stage (.inl rfl)
  | case13 delay stage => exact .resumes stage (.inl rfl)
  | case14 =>
    refine .waits ?_ ?_
    · rename_i notStarting _ _ _ _ _ _ _
      cases input <;> simp_all [tries]
    · rename_i notLinking notMissing _ _
      cases input with
      | outcome result => cases result <;> simp_all [outcome?]
      | _ => rfl

/-- The loop of a peer that was never tried. -/
theorem isPaired_start (server : ServerId) (policy : BackoffPolicy) :
    (start server policy).IsPaired :=
  ⟨.inl rfl, rfl, .none, rfl, rfl⟩

/-- A move that is allowed is made and counted. -/
theorem move_of_legal (allowed : loop.peer.state.canMoveTo target = true) :
    loop.move target = { loop with peer :=
      { loop.peer with
        state := target
        connects := loop.peer.connects + if target = .connected then 1 else 0
        losses := loop.peer.losses +
          if loop.peer.state = .connected ∧ target = .disconnected then 1 else 0 } } := by
  simp only [move, Peer.move, allowed, ↓reduceIte]

namespace IsPaired

variable (paired : loop.IsPaired)

include paired

/-- Links that come up and are lost in turn, as the state of the peer says. -/
theorem inTurn_of_state {state : PeerState} (here : loop.peer.state = state) :
    InTurn (state = .connected) loop.events := by
  have turns := paired.inTurn
  rwa [isUp, here] at turns

/-- The peer is tried. -/
theorem ofTry (state : loop.peer.state = .unknown ∨ loop.peer.state = .disconnected) :
    ({ loop.move .connecting with stage := .connecting } : PeerLoop).IsPaired := by
  have allowed : loop.peer.state.canMoveTo .connecting = true := by
    rcases state with state | state <;> rw [state] <;> rfl
  have turns : InTurn false loop.events := by
    rcases state with state | state <;> exact paired.inTurn_of_state state
  rw [move_of_legal allowed]
  exact ⟨rfl, paired.legal, turns, by simp [paired.connects], by simp [paired.losses]⟩

/-- The link comes up. -/
theorem connect (state : loop.peer.state = .connecting) : loop.connect.IsPaired := by
  have allowed : ({ loop with backoff := loop.backoff.reset } : PeerLoop).peer.state.canMoveTo
      .connected = true := by
    rw [state]
    rfl
  have turns : InTurn false loop.events := paired.inTurn_of_state state
  rw [PeerLoop.connect, move_of_legal allowed]
  exact ⟨rfl, paired.legal, .comesUp turns, by simp [tell, paired.connects],
    by simp [tell, paired.losses]⟩

/-- The attempt fails. -/
theorem miss (state : loop.peer.state = .connecting) : loop.miss.IsPaired := by
  have allowed : loop.peer.state.canMoveTo .disconnected = true := by
    rw [state]
    rfl
  have turns : InTurn false loop.events := paired.inTurn_of_state state
  rw [PeerLoop.miss, move_of_legal allowed]
  exact ⟨rfl, paired.legal, turns, by simp [paired.connects], by simp [paired.losses, state]⟩

/-- The link is lost. -/
theorem disconnect (state : loop.peer.state = .connected) : loop.disconnect.IsPaired := by
  have allowed : loop.peer.state.canMoveTo .disconnected = true := by
    rw [state]
    rfl
  have turns : InTurn true loop.events := paired.inTurn_of_state state
  rw [PeerLoop.disconnect, move_of_legal allowed]
  exact ⟨rfl, paired.legal, .isLost turns, by simp [tell, paired.connects],
    by simp [tell, paired.losses, state]⟩

/-- The loop goes on while the peer stays in its state. -/
theorem withStage {stage : LoopStage} (fits : stage.Fits loop.peer.state) :
    ({ loop with stage } : PeerLoop).IsPaired :=
  ⟨fits, paired.legal, paired.inTurn, paired.connects, paired.losses⟩

/-- Every step keeps the loop paired. -/
theorem of_steps (steps : loop.Steps input next) : next.IsPaired := by
  have fits := paired.fits
  cases steps with
  | told => exact ⟨fits, paired.legal, paired.inTurn, paired.connects, paired.losses⟩
  | ends stage =>
    rcases stage with stage | stage <;> rw [stage] at fits
    · exact paired.withStage fits
    · exact paired.withStage (.inr fits)
  | tries stage =>
    rw [stage] at fits
    exact paired.ofTry fits
  | links stage =>
    rw [stage] at fits
    exact paired.connect fits
  | misses stage =>
    rw [stage] at fits
    exact paired.miss fits
  | loses stage =>
    rw [stage] at fits
    exact paired.disconnect fits
  | pauses stage =>
    rw [stage] at fits
    exact ⟨fits, paired.legal, paired.inTurn, paired.connects, paired.losses⟩
  | resumes stage =>
    rw [stage] at fits
    exact paired.withStage (.inr fits)
  | waits => exact paired

/-- Every run keeps the loop paired. -/
theorem run (inputs : List LoopInput) : (loop.run inputs).IsPaired := by
  induction inputs generalizing loop with
  | nil => exact paired
  | cons input rest ih => exact ih (paired.of_steps (loop.steps_step input))

end IsPaired

/-- A move tells the messaging layer nothing. -/
@[simp] theorem events_move (target : PeerState) (loop : PeerLoop) :
    (loop.move target).events = loop.events := by
  rw [move]
  split <;> rfl

/-- The messaging layer is told of a link that came up whenever an attempt succeeds. -/
theorem count_connected_of_steps (steps : loop.Steps input next) :
    next.events.count .connected =
      loop.events.count .connected + (loop.succeeds input).toNat := by
  cases steps with
  | links stage => simp [PeerLoop.connect, tell, succeeds, stage]
  | loses stage cause =>
    rcases cause with rfl | ⟨rfl, -⟩ <;> simp [PeerLoop.disconnect, tell, succeeds]
  | resumes stage cause => rcases cause with rfl | ⟨rfl, -⟩ <;> simp [succeeds]
  | waits _ unanswered => simp [succeeds_eq_false unanswered]
  | _ => simp [succeeds, PeerLoop.miss, pause]

/-- A link comes up as often as a try succeeds. -/
theorem count_connected_run (loop : PeerLoop) (inputs : List LoopInput) :
    (loop.run inputs).events.count .connected =
      loop.events.count .connected + loop.occurrences succeeds inputs := by
  induction inputs generalizing loop with
  | nil => rfl
  | cons input rest ih =>
    have first := count_connected_of_steps (loop.steps_step input)
    have later := ih (loop.step input)
    rw [first] at later
    rw [occurrences, ← Nat.add_assoc]
    exact later

/-- A peer is unknown as long as it is not tried. -/
theorem IsPaired.unknown_of_steps (paired : loop.IsPaired) (steps : loop.Steps input next) :
    next.peer.state = .unknown ↔ loop.peer.state = .unknown ∧ loop.tries input = false := by
  have fits := paired.fits
  cases steps with
  | tries stage going =>
    rw [stage] at fits
    have allowed : loop.peer.state.canMoveTo .connecting = true := by
      rcases fits with state | state <;> rw [state] <;> rfl
    simp [move_of_legal allowed, PeerLoop.tries, stage, going]
  | links stage =>
    rw [stage] at fits
    have after := (paired.connect fits).fits
    change _ = PeerState.connected at after
    rw [after, show loop.peer.state = .connecting from fits]
    simp
  | misses stage =>
    rw [stage] at fits
    have after := (paired.miss fits).fits
    change _ = PeerState.disconnected at after
    rw [after, show loop.peer.state = .connecting from fits]
    simp
  | loses stage =>
    rw [stage] at fits
    have after := (paired.disconnect fits).fits
    change _ = PeerState.disconnected at after
    rw [after, show loop.peer.state = .connected from fits]
    simp
  | ends stage stopping => simp [PeerLoop.tries, stopping]
  | pauses stage => simp [PeerLoop.tries, stage, pause]
  | resumes stage cause => rcases cause with rfl | ⟨rfl, -⟩ <;> simp [PeerLoop.tries, stage]
  | told => simp [PeerLoop.tries]
  | waits untried => simp [untried]

/-- The state of a link stays unknown until the first try. -/
theorem IsPaired.unknown_run (paired : loop.IsPaired) (inputs : List LoopInput) :
    (loop.run inputs).peer.state = .unknown ↔
      loop.peer.state = .unknown ∧ loop.occurrences PeerLoop.tries inputs = 0 := by
  induction inputs generalizing loop with
  | nil => simp [PeerLoop.run, occurrences]
  | cons input rest ih =>
    have steps := loop.steps_step input
    have later := ih (paired.of_steps steps)
    rw [paired.unknown_of_steps steps] at later
    rw [occurrences, Nat.add_eq_zero_iff, Bool.toNat_eq_zero, ← and_assoc]
    exact later

/-- A loop that is told to stop ends after two more looks, once the attempt under way has an
outcome. -/
theorem ended_of_stop (loop : PeerLoop) (result : Except TransportFault Unit) :
    (loop.run [.stop, .outcome result, .look, .look]).stage = .ended := by
  have stopping_move (loop : PeerLoop) (target : PeerState) :
      (loop.move target).isStopping = loop.isStopping := by
    rw [move]
    split <;> rfl
  cases stage : loop.stage <;> cases result <;>
    simp [PeerLoop.run, step, stage, PeerLoop.connect, PeerLoop.miss, PeerLoop.disconnect, tell,
      stopping_move]

/-- Whatever the loop of a peer meets, the peer makes every move that is asked of it. The messaging
layer is told of links that come up and are lost in turn, of one for each attempt that succeeds, and
the peer counts the same links; one more came up than was lost exactly while the link is up. When
the loop has ended every link is lost, and the peer is disconnected unless it was never tried. -/
theorem links_come_up_and_are_lost_in_turn (server : ServerId) (policy : BackoffPolicy)
    (inputs : List LoopInput) :
    let loop := (start server policy).run inputs
    loop.refusals = [] ∧
    InTurn loop.isUp loop.events ∧
    loop.events.count .connected = (start server policy).occurrences succeeds inputs ∧
    loop.peer.connects = loop.events.count .connected ∧
    loop.peer.losses = loop.events.count .lost ∧
    loop.peer.connects = loop.peer.losses + (if loop.peer.state = .connected then 1 else 0) ∧
    (loop.stage = .ended →
      loop.events.count .connected = loop.events.count .lost ∧
      loop.peer.state = if (start server policy).occurrences tries inputs = 0 then .unknown
        else .disconnected) := by
  have fresh := isPaired_start server policy
  have paired := fresh.run inputs
  have counted := count_connected_run (start server policy) inputs
  have unknown := fresh.unknown_run inputs
  have balance := paired.inTurn.count_connected
  dsimp only
  generalize (start server policy).run inputs = loop at paired counted unknown balance
  have listed : loop.events.count .connected = (start server policy).occurrences succeeds inputs :=
    counted.trans (Nat.zero_add _)
  have untried : loop.peer.state = .unknown ↔
      (start server policy).occurrences tries inputs = 0 :=
    unknown.trans (and_iff_right rfl)
  simp only [isUp, decide_eq_true_eq] at balance
  refine ⟨paired.legal, paired.inTurn, listed, paired.connects, paired.losses, ?_,
    fun ended => ?_⟩
  · rw [paired.connects, paired.losses, balance]
  · have fits := paired.fits
    rw [ended] at fits
    rcases fits with state | state
    · rw [if_pos (untried.mp state)]
      exact ⟨by simpa [state] using balance, state⟩
    · have tried : (start server policy).occurrences tries inputs ≠ 0 := by
        rw [Ne, ← untried, state]
        decide
      rw [if_neg tried]
      exact ⟨by simpa [state] using balance, state⟩

/-- A peer that could not be reached at first is told to be lost when the loop is to stop. -/
theorem retried_link_is_given_up :
    let first := start ⟨"peer-1", by decide⟩ .standard
    let inputs : List LoopInput := [.look, .outcome (.error (.closed ⟨"peer-1", by decide⟩)), .look,
      .elapsed, .look, .outcome (.ok ()), .stop, .look, .look]
    (first.run inputs).stage = .ended ∧ first.occurrences tries inputs = 2 ∧
      (first.run inputs).events.count .lost = 1 ∧
      (first.run inputs).peer.state = .disconnected := by
  intro first inputs
  have ended : (first.run inputs).stage = .ended := by decide
  have tried : first.occurrences tries inputs = 2 := by decide
  obtain ⟨-, -, listed, -, -, -, last⟩ :=
    links_come_up_and_are_lost_in_turn ⟨"peer-1", by decide⟩ .standard inputs
  obtain ⟨balance, state⟩ := last ended
  have linked : first.occurrences succeeds inputs = 1 := by decide
  refine ⟨ended, tried, ?_, ?_⟩
  · exact balance.symm.trans (listed.trans linked)
  · rw [state, if_neg (by rw [tried]; decide)]

end PeerLoop
end Standby
