import Standby.Identity.InvalidId
import Standby.Text.Blank
import Standby.Text.Quoted

/-!
# Client connections

A client connects over a numbered channel from a virtual machine with a name. Channel numbers
are words; the number after the last word is the last word itself.
-/
namespace Standby

open Standby.Text

/-- The number of a channel. -/
structure ChannelId where
  /-- The number. -/
  number : UInt64
  deriving DecidableEq, Inhabited

namespace ChannelId

/-- Channels are ordered by number. -/
instance : Ord ChannelId := ⟨compareOn (·.number)⟩

instance : Std.TransOrd ChannelId := inferInstanceAs (Std.TransCmp (compareOn _))

instance : Std.LawfulEqOrd ChannelId where
  compare_self := Std.ReflOrd.compare_self (α := UInt64)
  eq_of_compare {left right} same := by
    have equal : left.number = right.number := Std.LawfulEqOrd.eq_of_compare same
    cases left; cases right; cases equal; rfl

instance : LE ChannelId := ⟨fun left right => left.number ≤ right.number⟩

instance : LT ChannelId := ⟨fun left right => left.number < right.number⟩

instance (left right : ChannelId) : Decidable (left ≤ right) :=
  inferInstanceAs (Decidable (left.number ≤ right.number))

instance (left right : ChannelId) : Decidable (left < right) :=
  inferInstanceAs (Decidable (left.number < right.number))

/-- The first channel. -/
def zero : ChannelId := ⟨0⟩

/-- The greatest channel. -/
def last : ChannelId := ⟨0xFFFFFFFFFFFFFFFF⟩

/-- The channel after a channel; none comes after the last one, which is repeated. -/
def next (channel : ChannelId) : ChannelId :=
  if channel.number = last.number then last else ⟨channel.number + 1⟩

instance : ToString ChannelId := ⟨fun channel => toString channel.number.toNat⟩

/-- The inspection of a channel. -/
def inspect (channel : ChannelId) : String := inspectWrapped "ChannelId" (toString channel)

/-- The channel after a channel is one above it, unless there is none above it. -/
theorem toNat_number_next (channel : ChannelId) :
    channel.next.number.toNat = min (channel.number.toNat + 1) (UInt64.size - 1) := by
  have below := channel.number.toNat_lt
  unfold next
  split
  · rename_i same
    rw [same]
    decide
  · rename_i differs
    have inner : channel.number.toNat ≠ UInt64.size - 1 := fun same =>
      differs (UInt64.toNat_inj.1 same)
    simp only [UInt64.toNat_add]
    change (channel.number.toNat + 1) % UInt64.size = _
    simp only [UInt64.size] at inner ⊢
    omega

end ChannelId

/-- A connection of a client. -/
structure ConnectionId where
  /-- The name of the virtual machine the client runs in. -/
  machine : String
  /-- The channel of the connection. -/
  channel : ChannelId
  deriving DecidableEq, Inhabited

namespace ConnectionId

/-- Connections are ordered by machine, then by channel. -/
instance : Ord ConnectionId := ⟨compareLex (compareOn (·.machine)) (compareOn (·.channel))⟩

instance : Std.TransOrd ConnectionId :=
  inferInstanceAs (Std.TransCmp (compareLex (compareOn _) (compareOn _)))

instance : Std.LawfulEqOrd ConnectionId where
  compare_self {_} := compareLex_eq_eq.2
    ⟨Std.ReflOrd.compare_self (α := String), Std.ReflOrd.compare_self (α := ChannelId)⟩
  eq_of_compare {left right} same := by
    have parts := compareLex_eq_eq.1 same
    have machines : left.machine = right.machine := Std.LawfulEqOrd.eq_of_compare parts.1
    have channels : left.channel = right.channel := Std.LawfulEqOrd.eq_of_compare parts.2
    cases left; cases right; cases machines; cases channels; rfl

/-- The connection of a machine over a channel; a blank machine name is refused. -/
def ofParts (machine : String) (channel : ChannelId) : Except InvalidId ConnectionId :=
  if isBlank machine then
    .error ⟨.connection, machine ++ "/" ++ toString channel, "missing jvm id"⟩
  else .ok ⟨machine, channel⟩

instance : ToString ConnectionId :=
  ⟨fun connection => "ConnectionID(" ++ toString connection.channel ++ "." ++ connection.machine
    ++ ")"⟩

/-- The inspection of a connection. -/
def inspect (connection : ConnectionId) : String :=
  inspectRecord "ConnectionId"
    [("jvm_id", quoted connection.machine), ("channel", connection.channel.inspect)]

end ConnectionId
end Standby
