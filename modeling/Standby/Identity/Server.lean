import Standby.Identity.InvalidId
import Standby.Text.Blank
import Standby.Text.Quoted

/-!
# Servers

A server is named by any text that is not blank. The name is kept as given, blanks at its ends
included.
-/
namespace Standby

open Standby.Text

/-- The name of a server node. -/
structure ServerId where
  /-- The name as given. -/
  name : String
  /-- A name can be seen. -/
  visible : isBlank name = false
  deriving DecidableEq

namespace ServerId

/-- Servers are ordered by the code points of their names. -/
instance : Ord ServerId := ⟨compareOn (·.name)⟩

instance : Std.TransOrd ServerId := inferInstanceAs (Std.TransCmp (compareOn _))

instance : Std.LawfulEqOrd ServerId where
  compare_self := Std.ReflOrd.compare_self (α := String)
  eq_of_compare {left right} same := by
    have equal : left.name = right.name := Std.LawfulEqOrd.eq_of_compare same
    cases left; cases right; cases equal; rfl

/-- The server of a name; a blank name is refused. -/
def parse (name : String) : Except InvalidId ServerId :=
  if blank : isBlank name = true then .error ⟨.server, name, "empty"⟩
  else .ok ⟨name, Bool.eq_false_iff.2 blank⟩

instance : ToString ServerId := ⟨name⟩

/-- The inspection of a server name. -/
def inspect (server : ServerId) : String := inspectWrapped "ServerId" (quoted server.name)

/-- The name of a server names that server. -/
theorem parse_name (server : ServerId) : parse server.name = .ok server := by
  simp [parse, server.visible]

end ServerId
end Standby
