import Standby.Proofs.Replication.Fate

/-!
# The ledger of acknowledgements

A live operation is known by its label, the server that sent it and its place in the stream. The
ledger of some surroundings says of every label what was acknowledged, and of every completion that
is still held which operation it reports on: the arrival was acknowledged and the end was not. What
is acknowledged follows from what became of the operation and, if it was handed to its entity, from
how the entity gave its completion up.
-/
namespace Standby

variable {host : Host}

/-- What tells a live operation from the others: the server that sent it and its place in the
stream. -/
abbrev Label : Type := ServerId × SequenceNumber

/-- The label of a live operation. -/
def ReplicationMessage.label (message : ReplicationMessage) : Label :=
  (message.source, message.sequence)

/-- What is acknowledged when a completion is given up whose arrival was acknowledged. -/
def Settlement.acks (sequence : SequenceNumber) : Settlement → List Ack
  | .complete => [.completed sequence true]
  | .fail => [.completed sequence false]
  | .drop => [.completed sequence false]
  | .retire => []

/-- The end of an operation is acknowledged as that of the operation. -/
theorem Settlement.sequence_of_mem {how : Settlement} {sequence : SequenceNumber} {ack : Ack}
    (member : ack ∈ how.acks sequence) : ack.sequence = sequence := by
  cases how with
  | retire => exact absurd member List.not_mem_nil
  | _ => rw [List.mem_singleton.mp member]; rfl

/-- What is acknowledged of an operation with a fate, given how its completion was given up. -/
def Fate.acks (sequence : SequenceNumber) (settlement : Option Settlement) : Fate host → List Ack
  | .acknowledged => [.received sequence, .completed sequence true]
  | .unmade => [.received sequence, .completed sequence false]
  | .unread => [.received sequence]
  | .handed _ _ => .received sequence :: settlement.elim [] (Settlement.acks sequence)

/-- The operation is handed to its entity. -/
def Fate.IsHanded : Fate host → Prop
  | .handed _ _ => True
  | _ => False

/-- The acknowledgements of an operation that was handed to its entity end with the giving up of its
completion. -/
theorem Fate.acks_settle (fate : Fate host) (isHanded : fate.IsHanded) (sequence : SequenceNumber)
    (how : Settlement) :
    fate.acks sequence none ++ how.acks sequence = fate.acks sequence (some how) := by
  cases fate with
  | handed handle body => rfl
  | _ => exact isHanded.elim

/-- What is acknowledged of an operation is its own. -/
theorem Fate.sequence_of_mem {fate : Fate host} {sequence : SequenceNumber}
    {settlement : Option Settlement} {ack : Ack} (member : ack ∈ fate.acks sequence settlement) :
    ack.sequence = sequence := by
  cases fate with
  | handed handle body =>
    rcases List.mem_cons.mp member with rfl | later
    · rfl
    · cases settlement with
      | none => exact absurd later List.not_mem_nil
      | some how => exact how.sequence_of_mem later
  | unread => rw [List.mem_singleton.mp member]; rfl
  | _ =>
    rcases List.mem_cons.mp member with rfl | last
    · rfl
    · rw [List.mem_singleton.mp last]
      rfl

/-- The number of a delivery, if it is that of a labelled operation. -/
def Delivery.ticketOf? {Handle Message Chunk : Type} (label : Label)
    (delivery : Delivery Handle Message Chunk) : Option Ticket :=
  if delivery.request.source = label.1 ∧ delivery.request.sequence = some label.2 then
    some delivery.ticket
  else none

/-- The delivery of a request under a number. -/
def ApplyJob.delivery (job : ApplyJob host) (ticket : Ticket) :
    Delivery host.Handle host.Message host.Chunk :=
  { handle := job.handle, request := job.request, body := job.body, ticket,
    silent := job.completion.isSilent }

namespace Event

/-- The acknowledgement of a labelled operation that an event is. -/
def ackOf? (label : Label) : Event host → Option Ack
  | .acked target ack _ => if (target, ack.sequence) = label then some ack else none
  | _ => none

/-- How a completion is given up in an event. -/
def settlementOf? (ticket : Ticket) : Event host → Option Settlement
  | .used (.settle given how) => if given = ticket then some how else none
  | _ => none

end Event

/-- The fate of a labelled operation among others. -/
def fateOf? (label : Label) (fates : List (ReplicationMessage × Fate host)) : Option (Fate host) :=
  fates.findSome? fun entry => if entry.1.label = label then some entry.2 else none

/-- The labels of operations with their fates. -/
def labelsOf (fates : List (ReplicationMessage × Fate host)) : List Label :=
  fates.map fun entry => entry.1.label

/-- An operation has no fate if its label is not among those with one. -/
theorem fateOf?_eq_none_iff {label : Label} {fates : List (ReplicationMessage × Fate host)} :
    fateOf? label fates = none ↔ ∀ entry ∈ fates, entry.1.label ≠ label := by
  simp [fateOf?]

/-- The fate of one more operation is the last to be found. -/
theorem fateOf?_concat {label : Label} {fates : List (ReplicationMessage × Fate host)}
    {message : ReplicationMessage} {fate : Fate host} (fresh : fateOf? message.label fates = none) :
    fateOf? label (fates ++ [(message, fate)]) =
      if message.label = label then some fate else fateOf? label fates := by
  rw [fateOf?, List.findSome?_append, List.findSome?_singleton]
  by_cases same : message.label = label
  · subst same
    change (fateOf? message.label fates).or _ = _
    rw [fresh, if_pos rfl, Option.none_or]
  · rw [if_neg same, if_neg same, Option.or_none]
    rfl

/-- Among operations with different labels none before an operation has its label. -/
theorem fateOf?_eq_none_of_nodup {earlier later : List (ReplicationMessage × Fate host)}
    {message : ReplicationMessage} {fate : Fate host}
    (distinct : (labelsOf (earlier ++ (message, fate) :: later)).Nodup) :
    fateOf? message.label earlier = none := by
  rw [labelsOf, List.map_append] at distinct
  refine fateOf?_eq_none_iff.mpr fun entry member same => ?_
  exact (List.nodup_append.mp distinct).2.2 _ (List.mem_map_of_mem member) _
    List.mem_cons_self same

section Lookup

variable {α : Type}

/-- What is left after a number was taken out. -/
theorem lookup_filter_ne (entries : List (Ticket × α)) (ticket sought : Ticket) :
    (entries.filter fun entry => entry.1 != ticket).lookup sought =
      if sought = ticket then none else entries.lookup sought := by
  induction entries with
  | nil => simp
  | cons entry rest ih =>
    obtain ⟨number, value⟩ := entry
    by_cases taken : number = ticket
    · subst taken
      rw [List.filter_cons_of_neg (by simp), ih]
      by_cases here : sought = number
      · rw [if_pos here, if_pos here]
      · simp [here, List.lookup_cons, beq_false_of_ne here]
    · by_cases here : sought = number
      · subst here
        simp [taken]
      · simp [taken, List.lookup_cons, beq_false_of_ne here, ih]

/-- What is found after something else was written under a number. -/
theorem lookup_map_write (entries : List (Ticket × α)) (ticket : Ticket) (value : α)
    (sought : Ticket) :
    (entries.map fun entry => if entry.1 = ticket then (ticket, value) else entry).lookup sought =
      if sought = ticket then (entries.lookup sought).map fun _ => value
      else entries.lookup sought := by
  induction entries with
  | nil => simp
  | cons entry rest ih =>
    obtain ⟨number, old⟩ := entry
    by_cases written : number = ticket
    · subst written
      by_cases here : sought = number
      · subst here
        simp
      · simp [List.lookup_cons, beq_false_of_ne here, ih, here]
    · by_cases here : sought = number
      · subst here
        simp [written]
      · simp [written, List.lookup_cons, beq_false_of_ne here, ih]

end Lookup

namespace Surroundings

/-- The acknowledgements of a labelled operation, in order. -/
def acksOf (around : Surroundings host) (label : Label) : List Ack :=
  around.trace.toList.filterMap (Event.ackOf? label)

/-- The requests that were handed to entities, in order. -/
def deliveries (around : Surroundings host) :
    List (Delivery host.Handle host.Message host.Chunk) :=
  Event.deliveries around.trace.toList

/-- The number of the delivery of a labelled operation. -/
def ticketOf (around : Surroundings host) (label : Label) : Option Ticket :=
  around.deliveries.findSome? (Delivery.ticketOf? label)

/-- How a completion was given up, by the number of its delivery. -/
def settlementOf (around : Surroundings host) (ticket : Ticket) : Option Settlement :=
  around.trace.toList.findSome? (Event.settlementOf? ticket)

/-- How the completion of a labelled operation was given up. -/
def settlementFor (around : Surroundings host) (label : Label) : Option Settlement :=
  (around.ticketOf label).bind around.settlementOf

/-- The acknowledgements after one more event. -/
theorem acksOf_note (around : Surroundings host) (event : Event host) (label : Label) :
    (around.note event).acksOf label = around.acksOf label ++ (event.ackOf? label).toList := by
  simp only [acksOf, note, Array.toList_push, List.filterMap_append]
  cases kind : event.ackOf? label <;> simp [kind]

/-- The deliveries after one more event. -/
theorem deliveries_note (around : Surroundings host) (event : Event host) :
    (around.note event).deliveries = around.deliveries ++ Event.deliveries [event] := by
  simp only [deliveries, Event.deliveries, note, Array.toList_push, List.filterMap_append]

/-- How a completion was given up after one more event. -/
theorem settlementOf_note (around : Surroundings host) (event : Event host) (ticket : Ticket) :
    (around.note event).settlementOf ticket =
      (around.settlementOf ticket).or (event.settlementOf? ticket) := by
  simp only [settlementOf, note, Array.toList_push, List.findSome?_append,
    List.findSome?_singleton]

/-- No request was handed to an entity and no completion given up from some surroundings to
others. -/
structure Alike (before after : Surroundings host) : Prop where
  pending : ∀ ticket, after.pending.lookup ticket = before.pending.lookup ticket
  nextTicket : after.nextTicket = before.nextTicket
  deliveries : after.deliveries = before.deliveries
  settlementOf : ∀ ticket, after.settlementOf ticket = before.settlementOf ticket

section Alike

variable {before middle after : Surroundings host}

/-- Surroundings that are alike twice are alike. -/
theorem Alike.trans (first : before.Alike middle) (second : middle.Alike after) :
    before.Alike after where
  pending ticket := (second.pending ticket).trans (first.pending ticket)
  nextTicket := second.nextTicket.trans first.nextTicket
  deliveries := second.deliveries.trans first.deliveries
  settlementOf ticket := (second.settlementOf ticket).trans (first.settlementOf ticket)

/-- A labelled operation was delivered under the same number. -/
theorem Alike.ticketOf (alike : before.Alike after) (label : Label) :
    after.ticketOf label = before.ticketOf label := by
  rw [Surroundings.ticketOf, Surroundings.ticketOf, alike.deliveries]

/-- The completion of a labelled operation was given up in the same way. -/
theorem Alike.settlementFor (alike : before.Alike after) (label : Label) :
    after.settlementFor label = before.settlementFor label := by
  rw [Surroundings.settlementFor, Surroundings.settlementFor, alike.ticketOf]
  exact Option.bind_congr fun ticket _ => alike.settlementOf ticket

/-- An event that is neither a delivery nor the end of a completion makes no difference. -/
theorem alike_note (around : Surroundings host) (event : Event host)
    (delivers : Event.deliveries [event] = [])
    (settles : ∀ ticket, event.settlementOf? ticket = none) : around.Alike (around.note event) where
  pending _ := rfl
  nextTicket := rfl
  deliveries := by rw [deliveries_note, delivers, List.append_nil]
  settlementOf ticket := by rw [settlementOf_note, settles, Option.or_none]

/-- An acknowledgement makes no difference to deliveries and completions. -/
theorem alike_sendAll (around : Surroundings host) (target : ServerId) (acks : List Ack) :
    around.Alike (around.sendAll target acks) := by
  unfold sendAll
  induction acks generalizing around with
  | nil => exact ⟨fun _ => rfl, rfl, rfl, fun _ => rfl⟩
  | cons ack rest ih =>
    have sent : around.Alike (around.send target ack) :=
      have counted : around.Alike { around with acksSent := around.acksSent + 1 } :=
        ⟨fun _ => rfl, rfl, rfl, fun _ => rfl⟩
      counted.trans (alike_note _ _ rfl fun _ => rfl)
    exact sent.trans (ih _)

/-- A report makes no difference to deliveries and completions. -/
theorem alike_report (around : Surroundings host) (completion : Completion) (acks : List Ack) :
    around.Alike (around.report completion acks) := by
  unfold report
  split
  · exact ⟨fun _ => rfl, rfl, rfl, fun _ => rfl⟩
  · exact alike_sendAll _ _ _

/-- What is reported of a completion that was given up makes no difference to them either. -/
theorem alike_settle (around : Surroundings host) (completion : Completion) (how : Settlement) :
    around.Alike (around.settle completion how) :=
  alike_report _ _ _

/-- Making entities and ending copies makes no difference to deliveries and completions. -/
theorem Aside.alike (aside : before.Aside after) : before.Alike after := by
  obtain ⟨added, trace, kinds⟩ := aside.grows
  refine ⟨fun _ => by rw [aside.pending], aside.nextTicket, ?_, fun ticket => ?_⟩
  · refine aside.grows.filterMap_eq _ fun event kind => ?_
    cases event with
    | created entity version config removable fault => rfl
    | syncFinished bytes fault => rfl
    | _ => exact kind.elim False.elim False.elim
  · have silent : added.findSome? (Event.settlementOf? ticket) = none :=
      List.findSome?_eq_none_iff.mpr fun event member =>
        (kinds event member).silent (fun _ _ _ _ _ => rfl) fun _ _ => rfl
    rw [Surroundings.settlementOf, trace, List.findSome?_append, silent, Option.or_none]
    rfl

/-- Making entities and ending copies acknowledges nothing. -/
theorem Aside.acksOf (aside : before.Aside after) (label : Label) :
    after.acksOf label = before.acksOf label :=
  aside.grows.filterMap_eq _ fun _ kind =>
    kind.silent (fun _ _ _ _ _ => rfl) fun _ _ => rfl

end Alike

/-- Acknowledgements of one operation are its own. -/
theorem acksOf_sendAll {acks : List Ack} {sequence : SequenceNumber}
    (own : ∀ ack ∈ acks, ack.sequence = sequence) (around : Surroundings host) (target : ServerId)
    (label : Label) : (around.sendAll target acks).acksOf label =
      around.acksOf label ++ if (target, sequence) = label then acks else [] := by
  unfold sendAll
  induction acks generalizing around with
  | nil => simp
  | cons ack rest ih =>
    have first : (around.send target ack).acksOf label =
        around.acksOf label ++ if (target, sequence) = label then [ack] else [] := by
      rw [send, acksOf_note, Event.ackOf?, own ack List.mem_cons_self]
      split <;> rfl
    rw [List.foldl_cons, ih (fun other later => own other (List.mem_cons_of_mem _ later)), first]
    split <;> simp

/-- A report on an operation acknowledges that operation. -/
theorem acksOf_report {acks : List Ack} {sequence : SequenceNumber}
    (own : ∀ ack ∈ acks, ack.sequence = sequence) (around : Surroundings host) (target : ServerId)
    (received completed : Bool) (label : Label) :
    (around.report (.acking target sequence received completed) acks).acksOf label =
      around.acksOf label ++ if (target, sequence) = label then acks else [] :=
  acksOf_sendAll own around target label

end Surroundings

/-- A completion whose arrival was acknowledged has its end to acknowledge when it is given up. -/
theorem Completion.settle_received (how : Settlement) (target : ServerId)
    (sequence : SequenceNumber) :
    (Completion.settle how (.acking target sequence true false)).1 = how.acks sequence := by
  cases how <;> rfl

namespace Surroundings

/-- The ledger of some surroundings in which operations met their fates. -/
structure Ledger (around : Surroundings host) (fates : List (ReplicationMessage × Fate host)) :
    Prop where
  /-- Nothing is known of the deliveries to come. -/
  fresh : ∀ ticket, around.nextTicket ≤ ticket → around.pending.lookup ticket = none ∧
    around.settlementOf ticket = none ∧ ∀ label, around.ticketOf label ≠ some ticket
  /-- The operations that were delivered are those that were handed to their entities. -/
  entrusted : ∀ label,
    (around.ticketOf label).isSome ↔ ∃ fate, fateOf? label fates = some fate ∧ fate.IsHanded
  /-- A completion is held as long as it was not given up, and owes an end alone. -/
  held : ∀ ticket target sequence received completed,
    around.pending.lookup ticket = some (.acking target sequence received completed) ↔
      received = true ∧ completed = false ∧ around.ticketOf (target, sequence) = some ticket ∧
        around.settlementOf ticket = none
  /-- The completion of a copy's request reports nothing. -/
  copies : ∀ delivery ∈ around.deliveries, delivery.request.sequence = none → delivery.silent = true
  /-- What was acknowledged of an operation follows from its fate. -/
  exact : ∀ label, around.acksOf label =
    (fateOf? label fates).elim [] (Fate.acks label.2 (around.settlementFor label))

variable {around next : Surroundings host} {fates : List (ReplicationMessage × Fate host)}

/-- Where no request is handed on, still nothing is known of the deliveries to come. -/
theorem Ledger.fresh_of_alike (ledger : around.Ledger fates) (alike : around.Alike next)
    (ticket : Ticket) (later : next.nextTicket ≤ ticket) : next.pending.lookup ticket = none ∧
      next.settlementOf ticket = none ∧ ∀ label, next.ticketOf label ≠ some ticket := by
  rw [alike.pending, alike.settlementOf]
  simp only [alike.ticketOf]
  exact ledger.fresh ticket (alike.nextTicket ▸ later)

/-- Where no completion is given up, those that are held stay. -/
theorem Ledger.held_of_alike (ledger : around.Ledger fates) (alike : around.Alike next)
    (ticket : Ticket) (target : ServerId) (sequence : SequenceNumber) (received completed : Bool) :
    next.pending.lookup ticket = some (.acking target sequence received completed) ↔
      received = true ∧ completed = false ∧ next.ticketOf (target, sequence) = some ticket ∧
        next.settlementOf ticket = none := by
  rw [alike.pending, alike.ticketOf, alike.settlementOf]
  exact ledger.held ticket target sequence received completed

/-- Where no request is handed on, no completion given up and nothing acknowledged, the ledger
stays. -/
theorem Ledger.congr (ledger : around.Ledger fates) (alike : around.Alike next)
    (same : ∀ label, next.acksOf label = around.acksOf label) : next.Ledger fates where
  fresh := ledger.fresh_of_alike alike
  entrusted label := by rw [alike.ticketOf]; exact ledger.entrusted label
  held := ledger.held_of_alike alike
  copies := alike.deliveries ▸ ledger.copies
  exact label := by rw [same, alike.settlementFor]; exact ledger.exact label

/-- Making entities and ending copies leaves the ledger as it is. -/
theorem Ledger.aside (ledger : around.Ledger fates) (aside : around.Aside next) :
    next.Ledger fates :=
  ledger.congr aside.alike aside.acksOf

/-- An operation that was not handed to its entity was not delivered. -/
theorem Ledger.undelivered (ledger : around.Ledger fates) {label : Label}
    (kept : ∀ fate, fateOf? label fates = some fate → ¬ fate.IsHanded) :
    around.ticketOf label = none := by
  refine Option.not_isSome_iff_eq_none.mp fun known => ?_
  obtain ⟨fate, met, isHanded⟩ := (ledger.entrusted label).mp known
  exact kept fate met isHanded

/-- Of an operation without a fate nothing was acknowledged or delivered. -/
theorem Ledger.untouched (ledger : around.Ledger fates) {label : Label}
    (unmet : fateOf? label fates = none) :
    around.acksOf label = [] ∧ around.ticketOf label = none := by
  refine ⟨by rw [ledger.exact, unmet]; rfl, ledger.undelivered fun fate met => ?_⟩
  rw [unmet] at met
  cases met

/-- The completion of a label that is held reports on the operation with that label. -/
theorem Ledger.completion_eq (ledger : around.Ledger fates) {ticket : Ticket}
    {completion : Completion} (found : around.pending.lookup ticket = some completion)
    {label : Label} (given : around.ticketOf label = some ticket)
    (unsettled : around.settlementOf ticket = none) :
    completion = .acking label.1 label.2 true false := by
  have owed := (ledger.held ticket label.1 label.2 true false).mpr ⟨rfl, rfl, given, unsettled⟩
  rw [found] at owed
  exact Option.some.inj owed

/-- A completion that is held was acknowledged on arrival, if it is acknowledged at all. -/
theorem Ledger.receive_eq (ledger : around.Ledger fates) {ticket : Ticket}
    {completion : Completion} (found : around.pending.lookup ticket = some completion) :
    completion.receive = ([], completion) := by
  cases completion with
  | silent => rfl
  | acking target sequence received completed =>
    obtain ⟨rfl, -, -, -⟩ := (ledger.held ..).mp found
    rfl

/-- Giving up a completion that is held acknowledges the end of its operation and nothing else. -/
theorem Ledger.acksOf_settle (ledger : around.Ledger fates) {ticket : Ticket}
    {completion : Completion} (found : around.pending.lookup ticket = some completion)
    (how : Settlement) (label : Label) : (next.settle completion how).acksOf label =
      next.acksOf label ++
        if around.ticketOf label = some ticket ∧ around.settlementOf ticket = none then
          how.acks label.2 else [] := by
  cases completion with
  | silent =>
    have other : ¬ (around.ticketOf label = some ticket ∧ around.settlementOf ticket = none) := by
      intro ⟨given, unsettled⟩
      cases ledger.completion_eq found given unsettled
    rw [if_neg other, List.append_nil]
    rfl
  | acking target sequence received completed =>
    obtain ⟨rfl, rfl, given, unsettled⟩ := (ledger.held ..).mp found
    have own : ∀ ack ∈ (Completion.settle how (.acking target sequence true false)).1,
        ack.sequence = sequence := by
      rw [Completion.settle_received]
      exact fun _ => Settlement.sequence_of_mem
    rw [settle, acksOf_report own, Completion.settle_received]
    by_cases same : (target, sequence) = label
    · subst same
      rw [if_pos rfl, if_pos ⟨given, unsettled⟩]
    · have other : ¬ (around.ticketOf label = some ticket ∧
          around.settlementOf ticket = none) := by
        intro ⟨known, _⟩
        cases ledger.completion_eq found known unsettled
        exact same rfl
      rw [if_neg same, if_neg other]

/-- The surroundings once a completion was given up and before that is reported. -/
def giveUp (around : Surroundings host) (ticket : Ticket) (how : Settlement) : Surroundings host :=
  let later := { around with pending := around.pending.filter fun entry => entry.1 != ticket }
  later.note (.used (.settle ticket how))

section GiveUp

variable (ticket : Ticket) (how : Settlement)

/-- The completion is not held any more. -/
theorem lookup_giveUp (sought : Ticket) : (around.giveUp ticket how).pending.lookup sought =
    if sought = ticket then none else around.pending.lookup sought :=
  lookup_filter_ne _ _ _

/-- No request was handed on. -/
theorem deliveries_giveUp : (around.giveUp ticket how).deliveries = around.deliveries := by
  rw [giveUp, deliveries_note]
  exact List.append_nil _

/-- The completion was given up, if it was not before. -/
theorem settlementOf_giveUp (sought : Ticket) : (around.giveUp ticket how).settlementOf sought =
    (around.settlementOf sought).or (if ticket = sought then some how else none) := by
  rw [giveUp, settlementOf_note]
  rfl

/-- Nothing was acknowledged. -/
theorem acksOf_giveUp (label : Label) :
    (around.giveUp ticket how).acksOf label = around.acksOf label := by
  rw [giveUp, acksOf_note]
  exact List.append_nil _

/-- The operation that the completion reports on has been closed, and no other. -/
theorem settlementFor_giveUp (label : Label) : (around.giveUp ticket how).settlementFor label =
    if around.ticketOf label = some ticket ∧ around.settlementOf ticket = none then some how
    else around.settlementFor label := by
  have delivered : (around.giveUp ticket how).ticketOf label = around.ticketOf label := by
    rw [ticketOf, ticketOf, deliveries_giveUp]
  rw [settlementFor, settlementFor, delivered]
  cases given : around.ticketOf label with
  | none => simp
  | some other =>
    rw [Option.bind_some, Option.bind_some, settlementOf_giveUp]
    by_cases here : ticket = other
    · subst here
      cases around.settlementOf ticket <;> simp
    · simp [here, Ne.symm here]

end GiveUp

/-- Giving up a completion that is held closes its operation. -/
theorem Ledger.settle (ledger : around.Ledger fates) {ticket : Ticket} {completion : Completion}
    (found : around.pending.lookup ticket = some completion) (how : Settlement) :
    ((around.giveUp ticket how).settle completion how).Ledger fates := by
  have alike := alike_settle (around.giveUp ticket how) completion how
  have deliveries := alike.deliveries.trans (deliveries_giveUp ticket how)
  have delivered (label : Label) :
      ((around.giveUp ticket how).settle completion how).ticketOf label =
        around.ticketOf label := by
    rw [ticketOf, ticketOf, deliveries]
  constructor
  case fresh =>
    intro sought later
    rw [alike.nextTicket] at later
    obtain ⟨absent, unsettled, unknown⟩ := ledger.fresh sought later
    have other : ticket ≠ sought := by
      rintro rfl
      rw [absent] at found
      cases found
    refine ⟨?_, ?_, fun label => ?_⟩
    · rw [alike.pending, lookup_giveUp, absent, ite_self]
    · rw [alike.settlementOf, settlementOf_giveUp, unsettled, if_neg other]
      rfl
    · rw [delivered]
      exact unknown label
  case entrusted =>
    intro label
    rw [delivered]
    exact ledger.entrusted label
  case held =>
    intro sought target sequence received completed
    rw [alike.pending, lookup_giveUp, alike.settlementOf, settlementOf_giveUp, delivered]
    by_cases same : sought = ticket
    · subst same
      simp
    · rw [if_neg same, if_neg (Ne.symm same), Option.or_none]
      exact ledger.held ..
  case copies => exact deliveries ▸ ledger.copies
  case exact =>
    intro label
    rw [ledger.acksOf_settle found how label, acksOf_giveUp, ledger.exact, alike.settlementFor,
      settlementFor_giveUp]
    by_cases closes : around.ticketOf label = some ticket ∧ around.settlementOf ticket = none
    · obtain ⟨given, unsettled⟩ := closes
      have before : around.settlementFor label = none := by
        rw [settlementFor, given, Option.bind_some, unsettled]
      obtain ⟨fate, met, isHanded⟩ := (ledger.entrusted label).mp (by rw [given]; rfl)
      rw [if_pos ⟨given, unsettled⟩, if_pos ⟨given, unsettled⟩, before, met]
      exact fate.acks_settle isHanded label.2 how
    · rw [if_neg closes, if_neg closes, List.append_nil]

/-- Whatever an entity does with a completion leaves a ledger. -/
theorem Ledger.use (ledger : around.Ledger fates) (action : CompletionUse) :
    (around.use action).Ledger fates := by
  unfold Surroundings.use
  split
  · exact ledger
  · rename_i completion found
    cases action with
    | received ticket =>
      have kept := ledger.receive_eq found
      have silent (next : Surroundings host) : next.report completion [] = next := by
        cases completion <;> rfl
      simp only [kept, silent]
      refine ledger.congr ?_ fun label => ?_
      · refine Alike.trans ?_ (alike_note _ _ rfl fun _ => rfl)
        refine ⟨fun sought => ?_, rfl, rfl, fun _ => rfl⟩
        refine (lookup_map_write _ _ _ _).trans ?_
        split
        · rename_i here
          rw [here, show around.pending.lookup ticket = some completion from found]
          rfl
        · rfl
      · rw [acksOf_note]
        exact List.append_nil _
    | settle ticket how => exact ledger.settle found how

/-- Whatever entities do with completions leaves a ledger. -/
theorem Ledger.uses (ledger : around.Ledger fates) (uses : List CompletionUse) :
    (uses.foldl Surroundings.use around).Ledger fates := by
  induction uses generalizing around with
  | nil => exact ledger
  | cons action rest ih => exact ih (ledger.use action)

end Surroundings
end Standby
