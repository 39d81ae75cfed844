import Standby.Replication.Message
import Standby.Text.Quoted

/-!
# Completions

A completion accompanies a request to an entity and reports what becomes of it. That of a live
operation acknowledges its arrival at most once and its end at most once, the arrival first;
that of a copy reports nothing. A completion that is dropped unfinished reports a failure.
-/
namespace Standby

open Standby.Text

/-- The acknowledgements still owed for a request. -/
inductive Completion where
  /-- Nothing is acknowledged. -/
  | silent
  /-- An operation is acknowledged to the server that sent it. -/
  | acking (target : ServerId) (sequence : SequenceNumber) (receivedSent completedSent : Bool)
  deriving DecidableEq

/-- How a completion is given up. -/
inductive Settlement where
  /-- The request was carried out. -/
  | complete
  /-- The request failed. -/
  | fail
  /-- The request arrived and will never be carried out; its end is not reported. -/
  | retire
  /-- The completion was forgotten, or lost when the entity broke down. -/
  | drop
  deriving DecidableEq, Repr

namespace Completion

/-- The completion of a live operation that nothing has been acknowledged of. -/
def ofSender (target : ServerId) (sequence : SequenceNumber) : Completion :=
  .acking target sequence false false

/-- A completion that reports nothing. -/
def isSilent : Completion → Bool
  | silent => true
  | acking .. => false

/-- The operation that a completion reports on. -/
def sequence? : Completion → Option SequenceNumber
  | silent => none
  | acking _ sequence _ _ => some sequence

/-- The server that a completion reports to. -/
def target? : Completion → Option ServerId
  | silent => none
  | acking target _ _ _ => some target

/-- Acknowledge the arrival, unless that was done. -/
def receive : Completion → List Ack × Completion
  | silent => ([], silent)
  | acking target sequence true completed => ([], .acking target sequence true completed)
  | acking target sequence false completed =>
    ([.received sequence], .acking target sequence true completed)

/-- Acknowledge the end, after the arrival, unless that was done. -/
def finish (success : Bool) (completion : Completion) : List Ack × Completion :=
  match completion.receive with
  | (acks, .acking target sequence received false) =>
    (acks ++ [.completed sequence success], .acking target sequence received true)
  | unchanged => unchanged

/-- Acknowledge the arrival and owe nothing more. -/
def retire (completion : Completion) : List Ack × Completion :=
  match completion.receive with
  | (acks, .acking target sequence received _) => (acks, .acking target sequence received true)
  | unchanged => unchanged

/-- Let go of a completion; an end that is owed is reported as a failure. -/
def drop : Completion → List Ack × Completion
  | acking target sequence received false => (acking target sequence received false).finish false
  | other => ([], other)

/-- Give a completion up. -/
def settle (how : Settlement) (completion : Completion) : List Ack × Completion :=
  match how with
  | .complete => completion.finish true
  | .fail => completion.finish false
  | .retire => completion.retire
  | .drop => completion.drop

/-- The inspection of a completion. -/
def inspect : Completion → String
  | silent => inspectWrapped "CompletionHandle" "silent"
  | acking target sequence received completed =>
    inspectRecord "CompletionHandle"
      [("target", target.inspect), ("sequence", sequence.inspect),
        ("received_sent", toString received), ("completed_sent", toString completed)]

end Completion
end Standby
