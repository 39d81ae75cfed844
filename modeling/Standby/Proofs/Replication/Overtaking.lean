import Standby.Proofs.Replication.SlotOrder

/-!
# Operations that overtake others

Only the operations of the slot that is being copied are held back. An operation of another slot
that arrives meanwhile is processed at once and overtakes all of them. This is so for the
universal key as for any other: it is not ordered against the keys of its entity while one of
them, or itself, is being copied (`Session.universal_inOrder_iff`).
-/
namespace Standby

variable {host : Host}

namespace Nesting

/-- Within a key, an item ends this key or leaves it open. -/
theorem next?_within {place next : Nesting} {message : SyncMessage} {slot : Slot}
    (within : place.slot? = some slot) (moved : place.next? message = some next) :
    (∃ version, message = .endKey slot.entity version slot.key) ∨
      (∀ entity version key, message ≠ .endKey entity version key) ∧ next.slot? = some slot := by
  cases place with
  | key id version synced current =>
    cases within
    cases message with
    | payload otherId otherVersion other bytes =>
      simp only [next?, Option.ite_none_right_eq_some, Option.some.injEq] at moved
      obtain ⟨-, rfl⟩ := moved
      exact .inr ⟨by simp, rfl⟩
    | endKey otherId otherVersion other =>
      simp only [next?, Option.ite_none_right_eq_some, Option.some.injEq] at moved
      obtain ⟨⟨rfl, -, rfl⟩, -⟩ := moved
      exact .inl ⟨otherVersion, rfl⟩
    | _ => simp [next?] at moved
  | _ => simp [slot?] at within

end Nesting

/-- An item that ends the copy of a key. -/
def StreamItem.endsKey : StreamItem → Bool
  | .sync (.endKey ..) => true
  | _ => false

/-- A move that is not the end of the copy of a key. -/
def SessionMove.goesOn : SessionMove host → Bool
  | .item next => !next.endsKey
  | _ => true

/-- Among some processed operations the one with a number in its slot occurs. The operations of a
slot are numbered from zero in the order of their arrival, in which they are processed. -/
def Occurs (processed : List ReplicationMessage) (slot : Slot) (number : Nat) : Prop :=
  number < (inSlot slot processed).length

/-- One operation is processed before another one: it occurs wherever the other one does. -/
def InOrder (processed : List ReplicationMessage) (first : Slot) (firstNumber : Nat)
    (second : Slot) (secondNumber : Nat) : Prop :=
  ∀ beginning, beginning <+: processed →
    Occurs beginning second secondNumber → Occurs beginning first firstNumber

/-- The length of what is in a slot grows with the list. -/
theorem length_inSlot_le {slot : Slot} {first second : List ReplicationMessage}
    (grown : first <+: second) : (inSlot slot first).length ≤ (inSlot slot second).length :=
  (grown.filter _).length_le

namespace Session

variable {session : Session host} {arrived : List ReplicationMessage} {slot : Slot}

/-- While a key is being copied, an item that does not end it leaves it open and lets none of its
operations be processed. -/
theorem Accepted.withholds {item : StreamItem} {admission : Admission} {next : Session host}
    (accepted : session.Accepted item admission next) (coherent : session.Coherent)
    (within : session.openSlot = some slot) (goesOn : item.endsKey = false) :
    next.openSlot = some slot ∧ inSlot slot next.processed = inSlot slot session.processed := by
  rw [accepted.processed_eq, inSlot_append]
  cases item with
  | replicate message =>
    refine ⟨by rw [openSlot, accepted.nesting_eq]; exact within, ?_⟩
    simp only [released, within, Option.some.injEq]
    by_cases same : slot = message.slot
    · simp [same]
    · simp [same, inSlot_singleton, Ne.symm same]
  | sync message =>
    have moved := accepted.next?_nesting coherent
    rcases Nesting.next?_within within moved with ⟨version, rfl⟩ | ⟨other, stays⟩
    · simp [StreamItem.endsKey] at goesOn
    · refine ⟨stays, ?_⟩
      cases message with
      | endKey entity version key => exact absurd rfl (other entity version key)
      | _ => exact List.append_nil _

/-- The end of the copy of a key leaves nothing held back. -/
theorem Accepted.emptied {item : StreamItem} {admission : Admission} {next : Session host}
    (accepted : session.Accepted item admission next) (coherent : session.Coherent)
    (within : session.openSlot = some slot) (ends : item.endsKey = true) :
    next.deferred.held slot = [] := by
  rw [accepted.held_eq coherent]
  cases item with
  | replicate message => simp [StreamItem.endsKey] at ends
  | sync message =>
    have moved := accepted.next?_nesting coherent
    rcases Nesting.next?_within within moved with ⟨version, rfl⟩ | ⟨other, -⟩
    · exact if_pos rfl
    · cases message with
      | endKey entity version key => exact absurd rfl (other entity version key)
      | _ => simp [StreamItem.endsKey] at ends

/-- A move that does not end the copy of the open key withholds its operations. -/
theorem withheld_move (coherent : session.Coherent) (within : session.openSlot = some slot)
    {next : SessionMove host} (still : (session.move next).IsRunning)
    (goesOn : next.goesOn = true) : (session.move next).openSlot = some slot ∧
      inSlot slot (session.move next).processed = inSlot slot session.processed := by
  cases next with
  | item item =>
    obtain ⟨admission, -, accepted⟩ := accepted_of_isRunning coherent still
    exact accepted.withholds coherent within (by simpa [SessionMove.goesOn] using goesOn)
  | close => exact absurd still (not_isRunning_close session)
  | use action =>
    exact ⟨within, congrArg (inSlot slot) (Surroundings.processed_use _ _)⟩
  | stir world => exact ⟨within, rfl⟩

/-- As long as the copy of the open key does not end, its operations are withheld. -/
theorem withheld_run (coherent : session.Coherent) (within : session.openSlot = some slot)
    {moves : List (SessionMove host)} (still : (session.run moves).IsRunning)
    (goesOn : ∀ next ∈ moves, next.goesOn = true) : (session.run moves).openSlot = some slot ∧
      inSlot slot (session.run moves).processed = inSlot slot session.processed := by
  induction moves generalizing session with
  | nil => exact ⟨within, rfl⟩
  | cons next rest ih =>
    rw [run_cons] at still ⊢
    have running := isRunning_of_run (coherent.move next) still
    obtain ⟨stays, same⟩ :=
      withheld_move coherent within running (goesOn next List.mem_cons_self)
    obtain ⟨last, whole⟩ := ih (coherent.move next) stays still
      fun other member => goesOn other (List.mem_cons_of_mem _ member)
    exact ⟨last, whole.trans same⟩

/-- Once the copy of the open key has ended, everything that had arrived for it is processed. -/
theorem released_run (keeps : session.Keeps arrived) (within : session.openSlot = some slot)
    {moves : List (SessionMove host)} (still : (session.run moves).IsRunning)
    (ends : ∃ next ∈ moves, next.goesOn = false) :
    inSlot slot arrived <+: inSlot slot (session.run moves).processed := by
  induction moves generalizing session arrived with
  | nil => exact absurd ends.choose_spec.1 List.not_mem_nil
  | cons next rest ih =>
    rw [run_cons] at still ⊢
    have later := keeps.move next
    have running := isRunning_of_run later.coherent still
    have grown : inSlot slot arrived <+: inSlot slot (arrived ++ session.arrival next) :=
      (List.prefix_append _ _).filter _
    by_cases goesOn : next.goesOn = true
    · obtain ⟨stays, -⟩ := withheld_move keeps.coherent within running goesOn
      obtain ⟨last, member, ending⟩ := ends
      have ends : ∃ next ∈ rest, next.goesOn = false := by
        rcases List.mem_cons.mp member with rfl | member
        · exact absurd goesOn (by simp [ending])
        · exact ⟨last, member, ending⟩
      exact grown.trans (ih later stays still ends)
    · cases next with
      | item item =>
        obtain ⟨admission, -, accepted⟩ := accepted_of_isRunning keeps.coherent running
        have empty := accepted.emptied keeps.coherent within (by
          simpa [SessionMove.goesOn] using goesOn)
        have whole := later.held running slot
        rw [empty, List.append_nil] at whole
        rw [whole] at grown
        exact grown.trans ((processed_prefix_run later.coherent rest).filter _)
      | _ => exact (goesOn rfl).elim

/-- Unless its slot is being copied and stays so, an operation is processed before another one of
another slot arrives. -/
theorem processed_before (keeps : session.Keeps arrived) {first : ReplicationMessage}
    {answer : Admission} (taken : (session.handle (.replicate first)).1 = .ok answer)
    {between : List (SessionMove host)}
    (still : ((session.move (.item (.replicate first))).run between).IsRunning)
    (passed : ¬ (session.openSlot = some first.slot ∧ ∀ next ∈ between, next.goesOn = true)) :
    inSlot first.slot (arrived ++ [first]) <+:
      inSlot first.slot ((session.move (.item (.replicate first))).run between).processed := by
  obtain ⟨-, accepted⟩ := accepted_of_ok keeps.coherent taken
  have later := keeps.replicate taken
  by_cases within : session.openSlot = some first.slot
  · have stays : (session.move (.item (.replicate first))).openSlot = some first.slot := by
      rw [openSlot, accepted.nesting_eq]
      exact within
    have ends : ∃ next ∈ between, next.goesOn = false := by
      have ended : ¬ ∀ next ∈ between, next.goesOn = true := fun all => passed ⟨within, all⟩
      simpa using ended
    exact released_run later stays still ends
  · have running := isRunning_of_run later.coherent still
    have whole := later.held running first.slot
    have empty : session.deferred.held first.slot = [] :=
      DeferralTable.held_of_closed (keeps.coherent.isOpen_eq_false within)
    have none : (session.move (.item (.replicate first))).deferred.held first.slot = [] := by
      rw [accepted.held_eq keeps.coherent]
      simp [retained, empty, within]
    rw [none, List.append_nil] at whole
    rw [whole]
    exact (processed_prefix_run later.coherent between).filter _

/-- Two operations of different slots are processed in the order of their arrival, unless the slot
of the first one is being copied when it arrives and still is when the second one arrives. -/
theorem inOrder_iff (keeps : session.Keeps arrived) {first second : ReplicationMessage}
    (differs : first.slot ≠ second.slot) {firstAnswer secondAnswer : Admission}
    (between after : List (SessionMove host))
    (firstTaken : (session.handle (.replicate first)).1 = .ok firstAnswer)
    (secondTaken : (((session.move (.item (.replicate first))).run between).handle
      (.replicate second)).1 = .ok secondAnswer) :
    let following := session.move (.item (.replicate first))
    InOrder (((following.run between).move (.item (.replicate second))).run after).processed
        first.slot (inSlot first.slot arrived).length second.slot
        (inSlot second.slot (arrived ++ [first] ++ following.arrivals between)).length ↔
      ¬ (session.openSlot = some first.slot ∧ ∀ next ∈ between, next.goesOn = true) := by
  intro following
  obtain ⟨running, accepted⟩ := accepted_of_ok keeps.coherent firstTaken
  have followingKeeps : following.Keeps (arrived ++ [first]) := keeps.replicate firstTaken
  have meanwhile := followingKeeps.run between
  obtain ⟨still, taken⟩ := accepted_of_ok meanwhile.coherent secondTaken
  have last := (processed_prefix_run meanwhile.coherent [.item (.replicate second)]).trans
    (processed_prefix_run (meanwhile.coherent.move (.item (.replicate second))) after)
  constructor
  · -- The second one is processed as it arrives, the first one is still held back.
    intro inOrder ⟨within, goesOn⟩
    have stays : following.openSlot = some first.slot := by
      rw [openSlot, accepted.nesting_eq]
      exact within
    obtain ⟨open_, same⟩ := withheld_run followingKeeps.coherent stays still goesOn
    have elsewhere : (following.run between).openSlot ≠ some second.slot := by
      rw [open_]
      simpa using differs
    have overtakes : ((following.run between).move (.item (.replicate second))).processed =
        (following.run between).processed ++ [second] := by
      rw [taken.processed_eq, released, if_neg elsewhere]
    have secondOccurs : Occurs ((following.run between).processed ++ [second]) second.slot
        (inSlot second.slot (arrived ++ [first] ++ following.arrivals between)).length := by
      have whole := meanwhile.held still second.slot
      rw [DeferralTable.held_of_closed (meanwhile.coherent.isOpen_eq_false elsewhere),
        List.append_nil] at whole
      rw [Occurs, whole, inSlot_append]
      simp [inSlot_singleton]
    have firstOccurs := inOrder _
      (overtakes ▸ processed_prefix_run (meanwhile.coherent.move _) after) secondOccurs
    have withheld : inSlot first.slot following.processed = inSlot first.slot session.processed :=
      (accepted.withholds keeps.coherent within rfl).2
    rw [Occurs, inSlot_append, same, withheld, inSlot_singleton, if_neg (Ne.symm differs),
      List.append_nil] at firstOccurs
    exact absurd firstOccurs (Nat.not_lt.mpr (keeps.taken first.slot).length_le)
  · -- The first one is processed before the second one arrives.
    intro passed beginning early secondOccurs
    have done := processed_before keeps firstTaken still passed
    rcases List.prefix_or_prefix_of_prefix early last with before | beyond
    · have bound : (inSlot second.slot beginning).length ≤
          (inSlot second.slot (arrived ++ [first] ++ following.arrivals between)).length :=
        Nat.le_trans (length_inSlot_le before) (meanwhile.taken second.slot).length_le
      exact absurd secondOccurs (Nat.not_lt.mpr bound)
    · have count := done.length_le
      rw [inSlot_append, List.length_append, inSlot_singleton, if_pos rfl] at count
      exact Nat.lt_of_lt_of_le (Nat.lt_of_lt_of_le (Nat.lt_succ_self _) count)
        (length_inSlot_le beyond)

/-- An accepted operation of the universal key and one of another key, be it of the same entity,
are processed in the order of their arrival, unless the key of the first one is being copied when
it arrives and its copy has not ended when the second one arrives. In that case the second one is
processed first. -/
theorem universal_inOrder_iff (source : ServerId) (limits : Limits) (execution : Execution)
    (world : host.World) (before between after : List (SessionMove host))
    (first second : ReplicationMessage) (firstAnswer secondAnswer : Admission)
    (universal : first.key = .universal ∧ second.key ≠ .universal ∨
      first.key ≠ .universal ∧ second.key = .universal)
    (firstTaken : (((start source limits execution world).run before).handle
      (.replicate first)).1 = .ok firstAnswer)
    (secondTaken : (((start source limits execution world).run
      (before ++ .item (.replicate first) :: between)).handle (.replicate second)).1 =
        .ok secondAnswer) :
    let initial := start source limits execution world
    let meanwhile := before ++ .item (.replicate first) :: between
    InOrder (initial.run (meanwhile ++ .item (.replicate second) :: after)).processed
        first.slot (inSlot first.slot (initial.arrivals before)).length
        second.slot (inSlot second.slot (initial.arrivals meanwhile)).length ↔
      ¬ ((initial.run before).openSlot = some first.slot ∧
        ∀ next ∈ between, next.goesOn = true) := by
  intro initial meanwhile
  have keeps : (initial.run before).Keeps (initial.arrivals before) :=
    (keeps_start source limits execution world).run before
  have differs : first.slot ≠ second.slot := by
    intro same
    have key : first.key = second.key := congrArg Slot.key same
    rcases universal with ⟨this, other⟩ | ⟨this, other⟩
    · exact other (key ▸ this)
    · exact this (key ▸ other)
  have run : initial.run meanwhile =
      ((initial.run before).move (.item (.replicate first))).run between := by
    rw [run_append, run_cons]
  have arrived : initial.arrivals meanwhile = initial.arrivals before ++ [first] ++
      ((initial.run before).move (.item (.replicate first))).arrivals between := by
    rw [arrivals_append, arrivals, arrival_of_ok firstTaken, List.append_assoc]
    rfl
  rw [run_append, run_cons, arrived, run]
  exact inOrder_iff keeps differs between after firstTaken (run ▸ secondTaken)

/-- While a key is being copied, an operation of the universal key overtakes one of that key. -/
theorem universal_overtakes :
    let initial : Session .willing := start sampleServer .standard .inline ()
    let first := sampleOperation 1 ⟨1⟩
    let second := sampleOperation 2 .universal
    let final := initial.run (sampleOpening ⟨1⟩ ++ .item (.replicate first) :: [] ++
      .item (.replicate second) :: [.item (.sync (.endKey sampleEntity 1 ⟨1⟩))])
    final.processed = [second, first] ∧ ¬ InOrder final.processed first.slot 0 second.slot 0 := by
  have order := universal_inOrder_iff sampleServer .standard .inline ()
    (sampleOpening ⟨1⟩) [] [.item (.sync (.endKey sampleEntity 1 ⟨1⟩))] (sampleOperation 1 ⟨1⟩)
    (sampleOperation 2 .universal) (.deferred 1) .applied (.inr ⟨by decide, rfl⟩) rfl rfl
  have firstNumber : (inSlot (sampleOperation 1 ⟨1⟩).slot
      ((start sampleServer .standard .inline () : Session .willing).arrivals
        (sampleOpening ⟨1⟩))).length = 0 := by decide +kernel
  have secondNumber : (inSlot (sampleOperation 2 .universal).slot
      ((start sampleServer .standard .inline () : Session .willing).arrivals
        (sampleOpening ⟨1⟩ ++ .item (.replicate (sampleOperation 1 ⟨1⟩)) :: []))).length = 0 := by
    decide +kernel
  simp only [firstNumber, secondNumber] at order
  exact ⟨by decide +kernel, fun inOrder => order.mp inOrder ⟨rfl, by simp⟩⟩

end Session
end Standby
