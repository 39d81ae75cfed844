import Mathlib
import Standby.Config.Schema
import Standby.Proofs.Discovery.Pairing

/-!
# The delays between attempts

A delay doubles from one time to the next and is capped at the longest one. Capping at each step
comes to the same as capping once, so the delay that is given after some others since the last reset
is the first one times a power of two, capped (`Backoff.stands_run`).

The loop of a peer takes one delay after each attempt and begins again with each link that comes up,
so the delay after an attempt depends only on how many attempts have passed since the last one that
succeeded (`delays_follow_closed_form`).
-/
namespace Standby

namespace BackoffPolicy

variable {policy : BackoffPolicy}

/-- The first delay doubled a number of times in exact arithmetic, and capped once. -/
def delayAfter (policy : BackoffPolicy) (count : Nat) : Nat :=
  min (policy.base.nanos * 2 ^ count) policy.max.nanos

/-- A first delay that is not above the longest one is not capped. -/
theorem delayAfter_zero (ordered : policy.base.nanos ≤ policy.max.nanos) :
    policy.delayAfter 0 = policy.base.nanos := by
  rw [delayAfter, pow_zero, mul_one, min_eq_left ordered]

/-- Doubling a capped delay and capping it again caps the doubled delay. -/
theorem delayAfter_succ (policy : BackoffPolicy) (count : Nat) :
    policy.delayAfter (count + 1) = min (2 * policy.delayAfter count) policy.max.nanos := by
  have doubled : policy.base.nanos * 2 ^ (count + 1) = 2 * (policy.base.nanos * 2 ^ count) := by
    rw [pow_succ]
    ring
  rw [delayAfter, delayAfter, doubled]
  omega

end BackoffPolicy

/-- The longest delay of a configuration is at least the first. -/
theorem MembershipSettings.base_le_max (settings : MembershipSettings) :
    settings.backoff.base.nanos ≤ settings.backoff.max.nanos := by
  have ordered : settings.backoffBase ≤ max settings.backoffMax settings.backoffBase := by
    simp only [max]
    split
    · exact UInt64.le_refl _
    case isFalse below =>
      exact (UInt64.le_total settings.backoffMax settings.backoffBase).resolve_left below
  exact Nat.mul_le_mul_right nanosPerMilli (UInt64.le_iff_toNat_le.mp ordered)

/-- What is asked of the delays of a peer. -/
inductive BackoffCall where
  /-- The next delay is taken. -/
  | next
  /-- The delays begin again. -/
  | reset
  deriving DecidableEq

namespace Backoff

variable {backoff : Backoff} {policy : BackoffPolicy} {taken : Nat}

/-- The delays after a call. -/
def after (backoff : Backoff) : BackoffCall → Backoff
  | .next => backoff.next.2
  | .reset => backoff.reset

/-- The delays after calls in order. -/
def run (backoff : Backoff) (calls : List BackoffCall) : Backoff := calls.foldl after backoff

/-- How many delays were taken since the last reset, or at all if there was none. -/
def takenSinceReset (calls : List BackoffCall) : Nat := (calls.rtakeWhile (· = .next)).length

/-- The delays of a policy, of which so many were taken since they began again. -/
structure Stands (policy : BackoffPolicy) (taken : Nat) (backoff : Backoff) : Prop where
  /-- The policy is kept. -/
  policy_eq : backoff.policy = policy
  /-- The next delay. -/
  current : backoff.current.nanos = policy.delayAfter taken

/-- The delays begin with the first one. -/
theorem stands_start (ordered : policy.base.nanos ≤ policy.max.nanos) :
    (start policy).Stands policy 0 :=
  ⟨rfl, (BackoffPolicy.delayAfter_zero ordered).symm⟩

/-- The delays begin again with the first one. -/
theorem Stands.reset (stands : backoff.Stands policy taken)
    (ordered : policy.base.nanos ≤ policy.max.nanos) : backoff.reset.Stands policy 0 :=
  ⟨stands.policy_eq, by
    rw [Backoff.reset, stands.policy_eq, BackoffPolicy.delayAfter_zero ordered]⟩

/-- One more delay is taken, also when twice the delay is no duration. -/
theorem Stands.next (stands : backoff.Stands policy taken) :
    backoff.next.2.Stands policy (taken + 1) :=
  ⟨stands.policy_eq, by
    rw [BackoffPolicy.delayAfter_succ, ← stands.current, ← stands.policy_eq]
    exact Duration.nanos_shorter_double backoff.current backoff.policy.max⟩

/-- Whatever is asked in whatever order, the next delay depends on how many were taken since the
last reset. -/
theorem stands_run (ordered : policy.base.nanos ≤ policy.max.nanos) (calls : List BackoffCall) :
    ((start policy).run calls).Stands policy (takenSinceReset calls) := by
  -- the count is read off the end of the list, so the induction takes the last call first
  induction calls using List.reverseRecOn with
  | nil => exact stands_start ordered
  | append_singleton calls call ih =>
    have last : (start policy).run (calls ++ [call]) = ((start policy).run calls).after call := by
      simp only [run, List.foldl_concat]
    rw [last, takenSinceReset]
    cases call with
    | next =>
      rw [List.rtakeWhile_concat_pos _ _ _ (by simp), List.length_append]
      exact ih.next
    | reset =>
      rw [List.rtakeWhile_concat_neg _ _ _ (by simp)]
      exact ih.reset ordered

end Backoff

/-- The last attempt that succeeded, or the first one if none did, where attempts are counted from
zero. -/
def lastSuccess (attempts : List Bool) : Nat := (attempts.idxsOf true).getLastD 0

/-- An attempt that succeeds is the last one that did. -/
theorem lastSuccess_concat_true (attempts : List Bool) :
    lastSuccess (attempts ++ [true]) = attempts.length := by
  simp [lastSuccess, List.idxsOf_append, List.idxsOf_cons]

/-- An attempt that fails does not count. -/
theorem lastSuccess_concat_false (attempts : List Bool) :
    lastSuccess (attempts ++ [false]) = lastSuccess attempts := by
  simp [lastSuccess, List.idxsOf_append, List.idxsOf_cons]

/-- The last attempt that succeeded is one that was made. -/
theorem lastSuccess_le (attempts : List Bool) : lastSuccess attempts ≤ attempts.length - 1 := by
  induction attempts using List.reverseRecOn with
  | nil => exact le_rfl
  | append_singleton attempts success ih =>
    rw [List.length_append, List.length_singleton, Nat.add_sub_cancel]
    cases success with
    | true => exact (lastSuccess_concat_true attempts).le
    | false =>
      rw [lastSuccess_concat_false]
      exact ih.trans (Nat.sub_le _ _)

/-- How many attempts had an outcome and how many delays were chosen at a stage of the loop. -/
def LoopStage.Follows (attempts delays : Nat) : LoopStage → Prop
  | starting | connecting | pausing _ => attempts = delays
  | linked | settling => attempts = delays + 1
  | ended => attempts = delays ∨ attempts = delays + 1

/-- The delay that is chosen between two stages of the loop: the one for which the peer is then left
alone. -/
def LoopStage.delayTo? : LoopStage → LoopStage → Option Duration
  | settling, pausing delay => some delay
  | _, _ => none

/-- No delay is chosen while the loop stays at its stage. -/
theorem LoopStage.delayTo?_self (stage : LoopStage) : stage.delayTo? stage = none := by
  cases stage <;> rfl

namespace PeerLoop

variable {loop next : PeerLoop} {input : LoopInput} {policy : BackoffPolicy}
  {attempts : List Bool} {delays : List Duration}

/-- The delay that the loop chooses when it meets an input. -/
def delay? (loop : PeerLoop) (input : LoopInput) : Option Duration :=
  loop.stage.delayTo? (loop.step input).stage

/-- What is seen of a loop while it meets inputs in order. -/
def sightings {α : Type} (seen? : PeerLoop → LoopInput → Option α) (loop : PeerLoop) :
    List LoopInput → List α
  | [] => []
  | input :: rest => (seen? loop input).toList ++ (loop.step input).sightings seen? rest

/-- The loop of a peer after attempts with some outcomes and after some delays. -/
structure Timed (policy : BackoffPolicy) (attempts : List Bool) (delays : List Duration)
    (loop : PeerLoop) : Prop where
  /-- A delay is chosen after each attempt. -/
  follows : loop.stage.Follows attempts.length delays.length
  /-- The next delay. -/
  stands : loop.backoff.Stands policy (delays.length - lastSuccess attempts)
  /-- The delays that were chosen. -/
  chosen : ∀ index (listed : index < delays.length),
    delays[index].nanos = policy.delayAfter (index - lastSuccess (attempts.take (index + 1)))

/-- The loop of a peer that was never tried. -/
theorem timed_start (ordered : policy.base.nanos ≤ policy.max.nanos) (server : ServerId) :
    (start server policy).Timed policy [] [] :=
  ⟨rfl, Backoff.stands_start ordered, nofun⟩

/-- A move of the peer leaves the delays alone. -/
@[simp] theorem backoff_move (target : PeerState) (loop : PeerLoop) :
    (loop.move target).backoff = loop.backoff := by
  rw [move]
  split <;> rfl

namespace Timed

/-- The loop goes on while no attempt comes to an end and no delay is chosen. -/
theorem goesOn (timed : loop.Timed policy attempts delays) (kept : next.backoff = loop.backoff)
    (follows : next.stage.Follows attempts.length delays.length)
    (unanswered : loop.outcome? input = none) (unpaused : loop.stage.delayTo? next.stage = none) :
    next.Timed policy (attempts ++ (loop.outcome? input).toList)
      (delays ++ (loop.stage.delayTo? next.stage).toList) := by
  rw [unanswered, unpaused, Option.toList_none, Option.toList_none, List.append_nil,
    List.append_nil]
  exact ⟨follows, kept ▸ timed.stands, timed.chosen⟩

/-- While an attempt is under way every attempt before it has its delay. -/
theorem length_eq (timed : loop.Timed policy attempts delays) (waited : loop.stage = .connecting) :
    attempts.length = delays.length := by
  have follows := timed.follows
  rwa [waited] at follows

/-- An attempt comes to an end before its delay is chosen. -/
theorem answered (timed : loop.Timed policy attempts delays) (waited : loop.stage = .connecting)
    {success : Bool} (stands : next.backoff.Stands policy
      (delays.length - lastSuccess (attempts ++ [success])))
    (follows : next.stage.Follows (delays.length + 1) delays.length) :
    next.Timed policy (attempts ++ [success]) delays := by
  have equal := timed.length_eq waited
  refine ⟨?_, stands, fun index listed => ?_⟩
  · rwa [List.length_append, List.length_singleton, equal]
  · rw [List.take_append_of_le_length (by omega)]
    exact timed.chosen index listed

/-- The attempt succeeds. -/
theorem connect (timed : loop.Timed policy attempts delays) (waited : loop.stage = .connecting)
    (ordered : policy.base.nanos ≤ policy.max.nanos) :
    loop.connect.Timed policy (attempts ++ [true]) delays := by
  have equal := timed.length_eq waited
  refine timed.answered waited ?_ rfl
  rw [lastSuccess_concat_true, equal, Nat.sub_self]
  simpa [PeerLoop.connect, tell] using timed.stands.reset ordered

/-- The attempt fails. -/
theorem miss (timed : loop.Timed policy attempts delays) (waited : loop.stage = .connecting) :
    loop.miss.Timed policy (attempts ++ [false]) delays := by
  refine timed.answered waited ?_ rfl
  rw [lastSuccess_concat_false]
  simpa [PeerLoop.miss] using timed.stands

/-- The delay of an attempt is chosen. -/
theorem pause (timed : loop.Timed policy attempts delays) (settled : loop.stage = .settling) :
    loop.pause.Timed policy attempts (delays ++ [loop.backoff.next.1]) := by
  have longer := timed.follows
  rw [settled] at longer
  change attempts.length = delays.length + 1 at longer
  have last := lastSuccess_le attempts
  refine ⟨?_, ?_, fun index listed => ?_⟩
  · rw [List.length_append]
    exact longer
  · have passed : (delays ++ [loop.backoff.next.1]).length - lastSuccess attempts =
        delays.length - lastSuccess attempts + 1 := by
      rw [List.length_append, List.length_singleton]
      omega
    rw [passed]
    exact timed.stands.next
  · rcases Nat.lt_or_ge index delays.length with earlier | latest
    · rw [List.getElem_append_left earlier]
      exact timed.chosen index earlier
    · -- the new delay is that of the last attempt, so all attempts so far come before it
      have index_eq : index = delays.length := by
        rw [List.length_append, List.length_singleton] at listed
        omega
      subst index_eq
      rw [List.getElem_concat_length rfl, List.take_of_length_le longer.le]
      exact timed.stands.current

/-- What a step makes of the attempts and of the delays. -/
theorem of_steps (timed : loop.Timed policy attempts delays)
    (ordered : policy.base.nanos ≤ policy.max.nanos) (steps : loop.Steps input next) :
    next.Timed policy (attempts ++ (loop.outcome? input).toList)
      (delays ++ (loop.stage.delayTo? next.stage).toList) := by
  have follows := timed.follows
  cases steps with
  | told => exact timed.goesOn rfl follows rfl (LoopStage.delayTo?_self _)
  | ends stage =>
    have last : LoopStage.ended.Follows attempts.length delays.length := by
      rcases stage with stage | stage <;> rw [stage] at follows
      · exact .inl follows
      · exact .inr follows
    refine timed.goesOn rfl last rfl ?_
    rcases stage with stage | stage <;> rw [stage] <;> rfl
  | tries stage =>
    rw [stage] at follows
    exact timed.goesOn (backoff_move _ _) follows rfl (by rw [stage]; rfl)
  | links stage =>
    rw [outcome?, if_pos stage, stage]
    simpa [LoopStage.delayTo?, Except.isOk, Except.toBool] using timed.connect stage ordered
  | misses stage =>
    rw [outcome?, if_pos stage, stage]
    simpa [LoopStage.delayTo?, Except.isOk, Except.toBool] using timed.miss stage
  | loses stage cause =>
    rw [stage] at follows
    refine timed.goesOn (backoff_move _ _) follows ?_ (by rw [stage]; rfl)
    rcases cause with rfl | ⟨rfl, -⟩ <;> rfl
  | pauses stage =>
    rw [stage]
    simpa [outcome?, LoopStage.delayTo?, PeerLoop.pause] using timed.pause stage
  | resumes stage cause =>
    rw [stage] at follows
    refine timed.goesOn rfl follows ?_ (by rw [stage]; rfl)
    rcases cause with rfl | ⟨rfl, -⟩ <;> rfl
  | waits _ unanswered =>
    exact timed.goesOn rfl follows unanswered (LoopStage.delayTo?_self _)

/-- What a run makes of the attempts and of the delays. -/
theorem run (timed : loop.Timed policy attempts delays)
    (ordered : policy.base.nanos ≤ policy.max.nanos) (inputs : List LoopInput) :
    (loop.run inputs).Timed policy (attempts ++ loop.sightings outcome? inputs)
      (delays ++ loop.sightings delay? inputs) := by
  induction inputs generalizing loop attempts delays with
  | nil => simpa [PeerLoop.run, sightings] using timed
  | cons input rest ih =>
    have first := timed.of_steps ordered (loop.steps_step input)
    simp only [sightings, ← List.append_assoc]
    exact ih first

end Timed
end PeerLoop

/-- The delays between attempts double from the first one up to the longest one. The delay that is
taken after some others since the last reset is the first one times a power of two, capped once,
whatever was asked before and also when a doubled delay is no duration. The loop of a peer chooses a
delay after each attempt unless it ends; that delay is the first one doubled once for each attempt
since the last one that succeeded, or since the first one if none did, and capped. The longest delay
of a configuration is at least the first. -/
theorem delays_follow_closed_form :
    (∀ settings : MembershipSettings,
      settings.backoff.base.nanos ≤ settings.backoff.max.nanos) ∧
    ∀ policy : BackoffPolicy, policy.base.nanos ≤ policy.max.nanos →
      (∀ calls : List BackoffCall, ((Backoff.start policy).run calls).next.1.nanos =
        min (policy.base.nanos * 2 ^ Backoff.takenSinceReset calls) policy.max.nanos) ∧
      ∀ (server : ServerId) (inputs : List LoopInput),
        let loop := PeerLoop.start server policy
        let attempts := loop.sightings PeerLoop.outcome? inputs
        let delays := loop.sightings PeerLoop.delay? inputs
        (loop.run inputs).stage.Follows attempts.length delays.length ∧
        ∀ index (chosen : index < delays.length), delays[index].nanos =
          min (policy.base.nanos * 2 ^ (index - lastSuccess (attempts.take (index + 1))))
            policy.max.nanos := by
  refine ⟨MembershipSettings.base_le_max, fun policy ordered => ⟨fun calls => ?_,
    fun server inputs => ?_⟩⟩
  · exact (Backoff.stands_run ordered calls).current
  · have timed := (PeerLoop.timed_start ordered server).run ordered inputs
    exact ⟨timed.follows, timed.chosen⟩

/-- The third delay is capped, and a link that comes up takes the delays back to the first one. -/
theorem delays_begin_again_with_a_link :
    let policy : BackoffPolicy := ⟨.ofMillis 10, .ofMillis 35⟩
    let loop := PeerLoop.start ⟨"peer-1", by decide⟩ policy
    let missed : LoopInput := .outcome (.error (.closed ⟨"peer-1", by decide⟩))
    let inputs : List LoopInput := [.look, missed, .look, .elapsed, .look, missed, .look, .elapsed,
      .look, missed, .look, .elapsed, .look, .outcome (.ok ()), .linkLost, .look]
    let delays := loop.sightings PeerLoop.delay? inputs
    policy.base.nanos ≤ policy.max.nanos ∧
      ((Backoff.start policy).run [.next, .next, .reset, .next]).next.1.nanos =
        20 * nanosPerMilli ∧
      loop.sightings PeerLoop.outcome? inputs = [false, false, false, true] ∧
      delays[2]?.map Duration.nanos = some (35 * nanosPerMilli) ∧
      delays[3]?.map Duration.nanos = some (10 * nanosPerMilli) := by
  intro policy loop missed inputs delays
  have ordered : policy.base.nanos ≤ policy.max.nanos := by decide
  obtain ⟨calls, loops⟩ := delays_follow_closed_form.2 policy ordered
  have chosen := (loops ⟨"peer-1", by decide⟩ inputs).2
  have many : delays.length = 4 := by decide
  have third : 2 < delays.length := many ▸ by decide
  have fourth : 3 < delays.length := many ▸ by decide
  have tried : loop.sightings PeerLoop.outcome? inputs = [false, false, false, true] := by decide
  rw [tried] at chosen
  refine ⟨ordered, ?_, tried, ?_, ?_⟩
  · rw [calls]
    decide
  · rw [List.getElem?_eq_getElem third, Option.map_some, chosen 2 third]
    decide
  · rw [List.getElem?_eq_getElem fourth, Option.map_some, chosen 3 fourth]
    decide
end Standby
