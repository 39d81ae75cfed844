import Standby.Document.Basic

/-!
# Lenient access to documents

A part of a document that is missing or of another kind stands for nothing or for a default.
-/
namespace Standby.Document

/-- The named values of a table. -/
def entries : Document → List (String × Document)
  | .table entries => entries
  | _ => []

/-- The items of a list. -/
def items : Document → List Document
  | .list items => items
  | _ => []

/-- What a name stands for in a table. -/
def get? (document : Document) (name : String) : Option Document := document.entries.lookup name

/-- What a name stands for in a table, if anything. -/
def get (document : Document) (name : String) : Document := (document.get? name).getD .null

/-- A text. -/
def text? : Document → Option String
  | .text value => some value
  | _ => none

/-- An integer. -/
def int? : Document → Option Int
  | .integer value => some value
  | _ => none

/-- A truth value. -/
def bool? : Document → Option Bool
  | .bool value => some value
  | _ => none

/-- A word of 64 bits. -/
def word? (document : Document) : Option UInt64 :=
  document.int?.bind fun value =>
    if 0 ≤ value ∧ value < UInt64.size then some (.ofNat value.toNat) else none

/-- The text of a name. -/
def textAt (document : Document) (name : String) (default : String) : String :=
  (document.get name).text?.getD default

/-- The integer of a name. -/
def intAt (document : Document) (name : String) (default : Int) : Int :=
  (document.get name).int?.getD default

/-- The word of a name. -/
def wordAt (document : Document) (name : String) (default : UInt64) : UInt64 :=
  (document.get name).word?.getD default

/-- The truth value of a name. -/
def boolAt (document : Document) (name : String) (default : Bool) : Bool :=
  (document.get name).bool?.getD default

/-- The items of a name. -/
def itemsAt (document : Document) (name : String) : List Document := (document.get name).items

/-- The texts among the items of a name. -/
def textsAt (document : Document) (name : String) : List String :=
  (document.itemsAt name).filterMap text?

end Standby.Document
