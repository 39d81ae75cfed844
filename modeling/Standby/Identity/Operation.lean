import Standby.Text.Quoted

/-!
# Numbers of operations

An operation carries the number of its client, of its transaction and of its place in the
stream of the active server.
-/
namespace Standby

open Standby.Text

/-- The number of a client. -/
structure ClientId where
  /-- The number. -/
  number : UInt64
  deriving DecidableEq, Inhabited

namespace ClientId

instance : ToString ClientId :=
  ⟨fun client => "ClientID[" ++ toString client.number.toNat ++ "]"⟩

/-- The inspection of a client number. -/
def inspect (client : ClientId) : String :=
  inspectWrapped "ClientId" (toString client.number.toNat)

end ClientId

/-- The number of a transaction. -/
structure TransactionId where
  /-- The number. -/
  number : Int64
  deriving DecidableEq, Inhabited

namespace TransactionId

/-- The number that stands for no transaction. -/
def null : TransactionId := ⟨-1⟩

/-- No transaction is meant. -/
def isNull (transaction : TransactionId) : Bool := transaction == null

instance : ToString TransactionId := ⟨fun transaction => toString transaction.number.toInt⟩

/-- The inspection of a transaction number. -/
def inspect (transaction : TransactionId) : String :=
  inspectWrapped "TransactionId" (toString transaction)

end TransactionId

/-- The place of an operation in its stream. -/
structure SequenceNumber where
  /-- The place. -/
  number : UInt64
  deriving DecidableEq, Inhabited

namespace SequenceNumber

instance : ToString SequenceNumber := ⟨fun sequence => toString sequence.number.toNat⟩

/-- The inspection of a sequence number. -/
def inspect (sequence : SequenceNumber) : String :=
  inspectWrapped "SequenceNumber" (toString sequence)

end SequenceNumber
end Standby
