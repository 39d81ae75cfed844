import Standby.Json.Dialect

/-!
# Lifecycle states of a node

A node starts uninitialised, receives a copy of the data while syncing, follows the active
server as a passive one, or is the active server itself.
-/
namespace Standby

/-- The part a node plays in its stripe. -/
inductive LifecycleState where
  /-- The node holds nothing. -/
  | uninitialized
  /-- The node is receiving the data of the active server. -/
  | syncing
  /-- The node serves clients. -/
  | active
  /-- The node holds the data and follows the active server. -/
  | passive
  deriving DecidableEq, Inhabited, Repr

namespace LifecycleState

/-- The stored and shown name of a state. -/
def name : LifecycleState → String
  | uninitialized => "UNINITIALIZED"
  | syncing => "SYNCING"
  | active => "ACTIVE"
  | passive => "PASSIVE"

instance : ToString LifecycleState := ⟨name⟩

/-- The inspection of a state. -/
def inspect : LifecycleState → String
  | uninitialized => "Uninitialized"
  | syncing => "Syncing"
  | active => "Active"
  | passive => "Passive"

/-- A node whose data comes from another server. -/
def isStandby : LifecycleState → Bool
  | syncing => true
  | passive => true
  | _ => false

/-- All states. -/
def all : List LifecycleState := [uninitialized, syncing, active, passive]

/-- The state of a name. -/
def ofName? (name : String) : Option LifecycleState := (all.map fun s => (s.name, s)).lookup name

/-- A state is stored as its name. -/
def toDocument (state : LifecycleState) : Document := .text state.name

/-- A stored state is one of the names. -/
def ofDocument : Document.Decoder LifecycleState :=
  Document.choice Json.dialect (all.map fun state => (state.name, state))

end LifecycleState
end Standby
