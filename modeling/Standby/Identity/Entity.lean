import Standby.Identity.InvalidId
import Standby.Text.Blank
import Standby.Text.Quoted

/-!
# Entities

A managed entity is named by its class and its own name. Its operations are ordered within
concurrency keys: two operations of one key keep their order, and the universal key is ordered
against every other key.
-/
namespace Standby

open Standby.Text

/-- The name of a managed entity. -/
structure EntityId where
  /-- The class of the entity. -/
  className : String
  /-- The name of the entity within its class. -/
  name : String
  deriving DecidableEq, Inhabited

namespace EntityId

/-- Entities are ordered by class, then by name. -/
instance : Ord EntityId := ⟨compareLex (compareOn (·.className)) (compareOn (·.name))⟩

instance : Std.TransOrd EntityId :=
  inferInstanceAs (Std.TransCmp (compareLex (compareOn _) (compareOn _)))

instance : Std.LawfulEqOrd EntityId where
  compare_self {_} :=
    compareLex_eq_eq.2
      ⟨Std.ReflOrd.compare_self (α := String), Std.ReflOrd.compare_self (α := String)⟩
  eq_of_compare {left right} same := by
    have parts := compareLex_eq_eq.1 same
    have classes : left.className = right.className := Std.LawfulEqOrd.eq_of_compare parts.1
    have names : left.name = right.name := Std.LawfulEqOrd.eq_of_compare parts.2
    cases left; cases right; cases classes; cases names; rfl

/-- The class and the name around a colon. -/
def display (id : EntityId) : String := id.className ++ ":" ++ id.name

/-- The entity of a class and a name; a blank class is refused. -/
def ofParts (className name : String) : Except InvalidId EntityId :=
  if isBlank className then
    .error ⟨.entity, className ++ ":" ++ name, "empty class name"⟩
  else .ok ⟨className, name⟩

instance : ToString EntityId := ⟨display⟩

/-- The inspection of an entity name. -/
def inspect (id : EntityId) : String := inspectWrapped "EntityId" id.display

end EntityId

/-- The number of a client's view of an entity. -/
structure ClientInstanceId where
  /-- The number. -/
  number : UInt64
  deriving DecidableEq, Inhabited

namespace ClientInstanceId

/-- The number that stands for no view. -/
def null : ClientInstanceId := ⟨0⟩

/-- The inspection of a view number. -/
def inspect (id : ClientInstanceId) : String :=
  inspectWrapped "ClientInstanceId" (toString id.number.toNat)

end ClientInstanceId

/-- The address of an operation: an entity at a version, through a client's view. -/
structure EntityDescriptor where
  /-- The entity. -/
  id : EntityId
  /-- The view of the client. -/
  clientInstance : ClientInstanceId
  /-- The version of the entity. -/
  version : UInt64
  deriving DecidableEq, Inhabited

/-- The inspection of an address. -/
def EntityDescriptor.inspect (descriptor : EntityDescriptor) : String :=
  inspectRecord "EntityDescriptor"
    [("id", descriptor.id.inspect), ("client_instance", descriptor.clientInstance.inspect),
      ("version", toString descriptor.version.toNat)]

/-- A partition of the operations of an entity; operations in one partition keep their order. -/
structure ConcurrencyKey where
  /-- The number of the partition. -/
  number : Int32
  deriving DecidableEq, Inhabited

namespace ConcurrencyKey

/-- Keys are ordered by number. -/
instance : Ord ConcurrencyKey := ⟨compareOn (·.number)⟩

instance : Std.TransOrd ConcurrencyKey := inferInstanceAs (Std.TransCmp (compareOn _))

instance : Std.LawfulEqOrd ConcurrencyKey where
  compare_self := Std.ReflOrd.compare_self (α := Int32)
  eq_of_compare {left right} same := by
    have equal : left.number = right.number := Std.LawfulEqOrd.eq_of_compare same
    cases left; cases right; cases equal; rfl

/-- The key of the management of an entity. -/
def management : ConcurrencyKey := ⟨0⟩

/-- The key that is ordered against every other key. -/
def universal : ConcurrencyKey := ⟨-1⟩

instance : ToString ConcurrencyKey := ⟨fun key => toString key.number.toInt⟩

/-- The inspection of a key. -/
def inspect (key : ConcurrencyKey) : String := inspectWrapped "ConcurrencyKey" (toString key)

end ConcurrencyKey

/-- An entity and one of its keys: the unit within which operations keep their order. -/
structure Slot where
  /-- The entity. -/
  entity : EntityId
  /-- The key. -/
  key : ConcurrencyKey
  deriving DecidableEq, Inhabited

namespace Slot

/-- Slots are ordered by entity, then by key. -/
instance : Ord Slot := ⟨compareLex (compareOn (·.entity)) (compareOn (·.key))⟩

instance : Std.TransOrd Slot :=
  inferInstanceAs (Std.TransCmp (compareLex (compareOn _) (compareOn _)))

instance : Std.LawfulEqOrd Slot where
  compare_self {_} :=
    compareLex_eq_eq.2
      ⟨Std.ReflOrd.compare_self (α := EntityId), Std.ReflOrd.compare_self (α := ConcurrencyKey)⟩
  eq_of_compare {left right} same := by
    have parts := compareLex_eq_eq.1 same
    have entities : left.entity = right.entity := Std.LawfulEqOrd.eq_of_compare parts.1
    have keys : left.key = right.key := Std.LawfulEqOrd.eq_of_compare parts.2
    cases left; cases right; cases entities; cases keys; rfl

end Slot
end Standby
