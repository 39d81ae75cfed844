import Standby.Proofs.Replication.Ledger

/-!
# Entries of the ledger

Every live operation that a session processes enters the ledger with its fate. One that is not
handed to its entity is acknowledged outright. Of one that is, the arrival is acknowledged first, as
if its payload were not read, and its completion is then held under the number of its delivery. A
copy's requests enter nothing. So a run leaves a ledger of the fates that operations met in it
(`Session.ledger_run`).
-/
namespace Standby

variable {host : Host}

namespace Surroundings

variable {around : Surroundings host} {fates : List (ReplicationMessage × Fate host)}

/-- An operation that is processed and not handed to its entity is acknowledged outright. -/
theorem Ledger.acknowledge (ledger : around.Ledger fates) {message : ReplicationMessage}
    (unmet : fateOf? message.label fates = none) (fate : Fate host) (kept : ¬ fate.IsHanded)
    {acks : List Ack} (owed : ∀ settlement, fate.acks message.sequence settlement = acks)
    (skipped received completed : Bool) :
    ((around.note (.processed message skipped)).report
      (.acking message.source message.sequence received completed) acks).Ledger
        (fates ++ [(message, fate)]) := by
  have alike := (around.alike_note (.processed message skipped) rfl fun _ => rfl).trans
    (alike_report _ (.acking message.source message.sequence received completed) acks)
  have own : ∀ ack ∈ acks, ack.sequence = message.sequence := by
    intro ack member
    rw [← owed none] at member
    exact Fate.sequence_of_mem member
  constructor
  case fresh => exact ledger.fresh_of_alike alike
  case held => exact ledger.held_of_alike alike
  case copies => exact alike.deliveries ▸ ledger.copies
  case entrusted =>
    intro label
    rw [alike.ticketOf, fateOf?_concat unmet]
    by_cases same : message.label = label
    · subst same
      simp [(ledger.untouched unmet).2, kept]
    · rw [if_neg same]
      exact ledger.entrusted label
  case exact =>
    intro label
    have noted : (around.note (.processed message skipped)).acksOf label = around.acksOf label :=
      (acksOf_note _ _ _).trans (List.append_nil _)
    rw [acksOf_report own, noted, fateOf?_concat unmet]
    by_cases same : message.label = label
    · subst same
      rw [if_pos rfl, (ledger.untouched unmet).1]
      exact (if_pos rfl).trans (owed _).symm
    · rw [if_neg same, alike.settlementFor, ← ledger.exact]
      exact (congrArg _ (if_neg same)).trans (List.append_nil _)

/-- The surroundings once a request was handed to its entity and before a completion is used. -/
def hand (around : Surroundings host) (job : ApplyJob host) (world : host.World) :
    Surroundings host :=
  let later := { around with
    world, nextTicket := around.nextTicket + 1,
    pending := (around.nextTicket, job.completion) :: around.pending }
  later.note (.delivered (job.delivery around.nextTicket))

/-- A request is handed to its entity, and then completions are used. -/
theorem run_eq (around : Surroundings host) (job : ApplyJob host) :
    ∃ (uses : List CompletionUse) (world : host.World),
      around.run job = uses.foldl use (around.hand job world) :=
  ⟨_, _, rfl⟩

section Hand

variable (job : ApplyJob host) (world : host.World)

/-- The request is delivered. -/
theorem deliveries_hand : (around.hand job world).deliveries = around.deliveries ++
    [job.delivery around.nextTicket] := by
  rw [hand, deliveries_note]
  rfl

/-- The request has the next number. -/
theorem ticketOf_hand (label : Label) : (around.hand job world).ticketOf label =
    (around.ticketOf label).or
      (if job.request.source = label.1 ∧ job.request.sequence = some label.2 then
        some around.nextTicket else none) := by
  rw [ticketOf, deliveries_hand, List.findSome?_append, List.findSome?_singleton]
  rfl

/-- No completion was given up. -/
theorem settlementOf_hand (ticket : Ticket) :
    (around.hand job world).settlementOf ticket = around.settlementOf ticket := by
  rw [hand, settlementOf_note]
  exact Option.or_none

/-- Nothing was acknowledged. -/
theorem acksOf_hand (label : Label) :
    (around.hand job world).acksOf label = around.acksOf label := by
  rw [hand, acksOf_note]
  exact List.append_nil _

/-- The completion of the request is held under its number. -/
theorem lookup_hand (ticket : Ticket) : (around.hand job world).pending.lookup ticket =
    if ticket = around.nextTicket then some job.completion else around.pending.lookup ticket := by
  rw [hand, note, List.lookup_cons]
  by_cases same : ticket = around.nextTicket
  · simp [same]
  · simp [same, beq_false_of_ne same]

/-- Still nothing is known of the deliveries to come. -/
theorem Ledger.fresh_hand (ledger : around.Ledger fates) (ticket : Ticket)
    (later : (around.hand job world).nextTicket ≤ ticket) :
    (around.hand job world).pending.lookup ticket = none ∧
      (around.hand job world).settlementOf ticket = none ∧
      ∀ label, (around.hand job world).ticketOf label ≠ some ticket := by
  have later : around.nextTicket < ticket := later
  obtain ⟨absent, unsettled, unknown⟩ := ledger.fresh ticket (Nat.le_of_lt later)
  refine ⟨?_, ?_, fun label => ?_⟩
  · rw [lookup_hand, if_neg (Nat.ne_of_gt later), absent]
  · rw [settlementOf_hand, unsettled]
  · rw [ticketOf_hand]
    intro known
    rcases Option.or_eq_some_iff.mp known with old | ⟨-, new⟩
    · exact unknown label old
    · split at new
      · exact Nat.ne_of_lt later (Option.some.inj new)
      · cases new

/-- A request of a copy leaves the ledger as it is. -/
theorem Ledger.hand_silent (ledger : around.Ledger fates) (silent : job.completion = .silent)
    (unnumbered : job.request.sequence = none) : (around.hand job world).Ledger fates := by
  have delivered (label : Label) :
      (around.hand job world).ticketOf label = around.ticketOf label := by
    rw [ticketOf_hand, unnumbered]
    simp
  constructor
  case fresh => exact ledger.fresh_hand job world
  case entrusted =>
    intro label
    rw [delivered]
    exact ledger.entrusted label
  case held =>
    intro ticket target sequence received completed
    rw [lookup_hand, settlementOf_hand, delivered]
    by_cases new : ticket = around.nextTicket
    · have unknown := (ledger.fresh ticket (Nat.le_of_eq new.symm)).2.2 (target, sequence)
      rw [if_pos new, silent]
      simp [unknown]
    · rw [if_neg new]
      exact ledger.held ..
  case copies =>
    rw [deliveries_hand]
    intro delivery member
    rcases List.mem_append.mp member with old | new
    · exact ledger.copies delivery old
    · rw [List.mem_singleton.mp new]
      exact fun _ => congrArg Completion.isSilent silent
  case exact =>
    intro label
    have same : (around.hand job world).settlementFor label = around.settlementFor label := by
      rw [settlementFor, settlementFor, delivered]
      exact Option.bind_congr fun ticket _ => settlementOf_hand job world ticket
    rw [acksOf_hand, same]
    exact ledger.exact label

/-- An operation of which the arrival alone was acknowledged is then handed to its entity. -/
theorem Ledger.hand_own {message : ReplicationMessage}
    (unmet : fateOf? message.label fates = none)
    (ledger : around.Ledger (fates ++ [(message, .unread)]))
    (source : job.request.source = message.source)
    (numbered : job.request.sequence = some message.sequence)
    (owing : job.completion = .acking message.source message.sequence true false)
    (handle : host.Handle) (body : RequestBody host.Message host.Chunk) :
    (around.hand job world).Ledger (fates ++ [(message, .handed handle body)]) := by
  have undelivered : around.ticketOf message.label = none := by
    refine ledger.undelivered fun fate met => ?_
    rw [fateOf?_concat unmet, if_pos rfl] at met
    cases met
    exact id
  have delivered (label : Label) : (around.hand job world).ticketOf label =
      if message.label = label then some around.nextTicket else around.ticketOf label := by
    rw [ticketOf_hand, source, numbered]
    by_cases same : message.label = label
    · subst same
      rw [undelivered, if_pos rfl, if_pos ⟨rfl, rfl⟩]
      rfl
    · have other : ¬ (message.source = label.1 ∧ some message.sequence = some label.2) :=
        fun ⟨first, second⟩ => same (Prod.ext first (Option.some.inj second))
      rw [if_neg same, if_neg other, Option.or_none]
  obtain ⟨-, unsettled, unknown⟩ := ledger.fresh around.nextTicket (Nat.le_refl _)
  constructor
  case fresh => exact ledger.fresh_hand job world
  case entrusted =>
    intro label
    rw [delivered, fateOf?_concat unmet]
    by_cases same : message.label = label
    · rw [if_pos same, if_pos same]
      exact ⟨fun _ => ⟨_, rfl, trivial⟩, fun _ => rfl⟩
    · rw [if_neg same, if_neg same, ledger.entrusted, fateOf?_concat unmet, if_neg same]
  case held =>
    intro ticket target sequence received completed
    rw [lookup_hand, settlementOf_hand, delivered]
    by_cases new : ticket = around.nextTicket
    · subst new
      rw [if_pos rfl, owing, unsettled]
      by_cases same : message.label = (target, sequence)
      · obtain ⟨rfl, rfl⟩ := Prod.mk.inj same
        rw [if_pos same]
        simp [eq_comm]
      · rw [if_neg same]
        refine ⟨fun owed => ?_, fun known => absurd known.2.2.1 (unknown _)⟩
        cases owed
        exact absurd rfl same
    · rw [if_neg new, ledger.held]
      by_cases same : message.label = (target, sequence)
      · rw [if_pos same, ← same, undelivered]
        simp [Ne.symm new]
      · rw [if_neg same]
  case copies =>
    rw [deliveries_hand]
    intro delivery member unnumbered
    rcases List.mem_append.mp member with old | new
    · exact ledger.copies delivery old unnumbered
    · rw [List.mem_singleton.mp new] at unnumbered
      cases numbered.symm.trans unnumbered
  case exact =>
    intro label
    rw [acksOf_hand, ledger.exact, fateOf?_concat unmet, fateOf?_concat unmet]
    by_cases same : message.label = label
    · subst same
      have pending : (around.hand job world).settlementFor message.label = none := by
        rw [settlementFor, delivered, if_pos rfl, Option.bind_some, settlementOf_hand, unsettled]
      rw [if_pos rfl, if_pos rfl, pending]
      rfl
    · have before : (around.hand job world).settlementFor label = around.settlementFor label := by
        rw [settlementFor, settlementFor, delivered, if_neg same]
        exact Option.bind_congr fun ticket _ => settlementOf_hand job world ticket
      rw [if_neg same, if_neg same, before]

end Hand

/-- A request of a copy that is run leaves a ledger. -/
theorem Ledger.run_silent (ledger : around.Ledger fates) {job : ApplyJob host}
    (silent : job.completion = .silent) (unnumbered : job.request.sequence = none) :
    (around.run job).Ledger fates := by
  obtain ⟨uses, world, runs⟩ := around.run_eq job
  rw [runs]
  exact (ledger.hand_silent job world silent unnumbered).uses uses

/-- The request of an operation of which the arrival alone was acknowledged enters the ledger. -/
theorem Ledger.run_own {message : ReplicationMessage}
    (unmet : fateOf? message.label fates = none)
    (ledger : around.Ledger (fates ++ [(message, .unread)])) (handle : host.Handle)
    (body : RequestBody host.Message host.Chunk) :
    (around.run ⟨handle, message.request, body,
      .acking message.source message.sequence true false⟩).Ledger
        (fates ++ [(message, .handed handle body)]) := by
  obtain ⟨uses, world, runs⟩ := around.run_eq
    ⟨handle, message.request, body, .acking message.source message.sequence true false⟩
  rw [runs]
  exact (Ledger.hand_own _ world unmet ledger rfl rfl rfl handle body).uses uses

end Surroundings

namespace Session

variable {session : Session host} {fates : List (ReplicationMessage × Fate host)}

/-- A request of a copy that is handed on at once leaves a ledger. -/
theorem ledger_dispatchSync (session : Session host) (inline : session.execution = .inline)
    (ledger : session.around.Ledger fates) (handle : host.Handle) (action : EntityAction)
    (key : ConcurrencyKey) (body : RequestBody host.Message host.Chunk) :
    (session.dispatchSync handle action key body).around.Ledger fates := by
  rw [dispatchSync, inline]
  exact ledger.run_silent rfl rfl

/-- A live operation that is processed enters the ledger with its fate. -/
theorem ledger_process (session : Session host) (inline : session.execution = .inline)
    (ledger : session.around.Ledger fates) {message : ReplicationMessage}
    (unmet : fateOf? message.label fates = none) :
    (session.process message).2.around.Ledger (fates ++ [(message, session.fate message)]) := by
  have fate := session.processes message
  generalize session.process message = step at fate ⊢
  obtain ⟨admission, next⟩ := step
  cases fate with
  | acknowledged idle =>
    rw [fate_of_noop idle]
    exact ledger.acknowledge unmet .acknowledged id (fun _ => rfl) false false false
  | unmade acts found =>
    rw [fate_of_unmade acts found]
    exact (ledger.aside (.of_findOrCreate found)).acknowledge unmet .unmade id (fun _ => rfl)
      true false false
  | unread acts found unread =>
    rw [fate_of_unread acts found unread]
    exact (ledger.aside (.of_findOrCreate found)).acknowledge unmet .unread id (fun _ => rfl)
      true false false
  | @dispatched handle made around body acts found read =>
    rw [fate_of_read acts found read]
    have arrived := (ledger.aside (.of_findOrCreate found)).acknowledge unmet .unread id
      (fun _ => rfl) false true false
    simp only [adopt, inline, Surroundings.execute]
    exact Surroundings.Ledger.run_own unmet arrived handle body

/-- The operations that are replayed enter the ledger with their fates. -/
theorem ledger_replayed (held : List ReplicationMessage) (session : Session host)
    (inline : session.execution = .inline) (ledger : session.around.Ledger fates)
    (distinct : (labelsOf (fates ++ session.replayed held)).Nodup) :
    (held.foldl replay session).around.Ledger (fates ++ session.replayed held) := by
  induction held generalizing session fates with
  | nil => exact (List.append_nil fates).symm ▸ ledger
  | cons message rest ih =>
    have unmet : fateOf? message.label fates = none := fateOf?_eq_none_of_nodup distinct
    have once : (session.replay message).around.Ledger
        (fates ++ [(message, session.fate message)]) :=
      ledger_process { session with
        stats := { session.stats with replayed := session.stats.replayed + 1 } } inline ledger unmet
    obtain ⟨around, stats, frame, -⟩ := replay_frame [message] session
    have still : (session.replay message).execution = .inline := by
      rw [show session.replay message = _ from frame]
      exact inline
    rw [replayed, List.append_cons] at distinct ⊢
    exact ih _ still once distinct

/-- What an item that is taken lets be processed enters the ledger. -/
theorem Accepted.ledger {item : StreamItem} {admission : Admission} {next : Session host}
    (accepted : session.Accepted item admission next) (inline : session.execution = .inline)
    (ledger : session.around.Ledger fates)
    (distinct : (labelsOf (fates ++ session.fatesOf item)).Nodup) :
    next.around.Ledger (fates ++ session.fatesOf item) := by
  cases accepted with
  | startSync idle => simpa [fatesOf] using ledger
  | startEntity syncing closed found =>
    simp only [fatesOf, List.append_nil]
    exact ledger_dispatchSync (session.adopt _ _) inline
      (ledger.aside (.of_findOrCreate found)) _ _ _ _
  | startKey syncing isOpen between fresh =>
    simp only [fatesOf, List.append_nil]
    exact ledger_dispatchSync _ inline ledger _ _ _ _
  | payload syncing isOpen within fits read =>
    simp only [fatesOf, List.append_nil]
    exact ledger_dispatchSync _ inline ledger _ _ _ _
  | @endKey current key syncing isOpen within =>
    simp only [fatesOf, isOpen] at distinct ⊢
    obtain ⟨around, stats, frame, -⟩ :=
      replay_frame (session.deferred.held ⟨current.id, key⟩) (session.endingKey current key)
    have replayed := ledger_replayed (session.deferred.held ⟨current.id, key⟩)
      (session.endingKey current key) inline ledger distinct
    rw [frame] at replayed ⊢
    exact ledger_dispatchSync { session.endingKey current key with around, stats } inline replayed
      _ _ _ _
  | endEntity syncing isOpen between =>
    simp only [fatesOf, List.append_nil]
    exact ledger_dispatchSync _ inline ledger _ _ _ _
  | endSync syncing closed finished =>
    simp only [fatesOf, List.append_nil]
    exact ledger.aside (.of_finishSync finished)
  | deferred isOpen room =>
    rw [fatesOf, if_pos isOpen, List.append_nil]
    exact ledger
  | processed elsewhere =>
    rw [fatesOf, if_neg elsewhere] at distinct ⊢
    exact ledger_process session inline ledger (fateOf?_eq_none_of_nodup distinct)

end Session
end Standby
