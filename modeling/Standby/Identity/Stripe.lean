import Standby.Identity.InvalidId
import Standby.Identity.Uuid
import Standby.Text.Blank
import Standby.Text.Quoted

/-!
# Stripes and groups

A stripe is the set of servers that hold one copy of the data each; its identity is a UUID that
is assigned once. A group is the configured number under which a server belongs to a stripe.
-/
namespace Standby

open Standby.Text

/-- The identity of a stripe. -/
structure StripeId where
  /-- The identity as a UUID. -/
  uuid : Uuid
  deriving DecidableEq, Inhabited

namespace StripeId

/-- Stripes are ordered as their UUIDs. -/
instance : Ord StripeId := ⟨compareOn (·.uuid)⟩

instance : Std.TransOrd StripeId := inferInstanceAs (Std.TransCmp (compareOn _))

/-- The written form of a stripe identity. -/
def name (id : StripeId) : String := id.uuid.text

instance : ToString StripeId := ⟨name⟩

/-- The inspection of a stripe identity. -/
def inspect (id : StripeId) : String := inspectWrapped "StripeId" id.name

/-- The stripe identity that a text names once the blanks at its ends are gone. -/
def parse (text : String) : Except InvalidId StripeId :=
  if isBlank text then .error ⟨.stripe, text, "empty"⟩
  else
    match Uuid.parse? (trim text) with
    | some uuid => .ok ⟨uuid⟩
    | none => .error ⟨.stripe, text, "not a UUID"⟩

end StripeId

/-- The number of a group of servers. -/
structure GroupId where
  /-- The configured number. -/
  number : Int32
  deriving DecidableEq

namespace GroupId

/-- The number that stands for no group. -/
def null : GroupId := ⟨-1⟩

instance : Inhabited GroupId := ⟨null⟩

/-- Groups are ordered by number. -/
instance : Ord GroupId := ⟨compareOn (·.number)⟩

instance : Std.TransOrd GroupId := inferInstanceAs (Std.TransCmp (compareOn _))

instance : Std.LawfulEqOrd GroupId where
  compare_self := Std.ReflOrd.compare_self (α := Int32)
  eq_of_compare {left right} same := by
    have equal : left.number = right.number := Std.LawfulEqOrd.eq_of_compare same
    cases left; cases right; cases equal; rfl

/-- No group is meant. -/
def isNull (group : GroupId) : Bool := group == null

instance : ToString GroupId := ⟨fun group => "GroupID[" ++ toString group.number.toInt ++ "]"⟩

/-- The inspection of a group number. -/
def inspect (group : GroupId) : String := inspectWrapped "GroupId" (toString group.number.toInt)

end GroupId
end Standby
