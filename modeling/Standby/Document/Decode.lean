import Standby.Document.Basic

/-!
# Decoding documents

A decoder accepts a document as a value or refuses it. A record is decoded from a table of its
fields, where unknown names are skipped and a repeated field is refused, or from the list of its
fields in declaration order.
-/
namespace Standby.Document

/-- A decoder of values of one type. -/
abbrev Decoder (α : Type) : Type := Document → Option α

/-- What formats see differently. -/
structure Dialect where
  /-- The bodies of a choice that say nothing. -/
  isUnit : Document → Bool
  /-- What a list of fields holds after the last field does not count. -/
  dropsExcess : Bool

/-- An integer of any size. -/
def int : Decoder Int
  | .integer value => some value
  | _ => none

/-- An integer between two bounds. -/
def intWithin (low high : Int) : Decoder Int := fun document =>
  (int document).bind fun value => if low ≤ value ∧ value ≤ high then some value else none

/-- A word of 64 bits. -/
def uint64 : Decoder UInt64 := fun document =>
  (intWithin 0 (UInt64.size - 1) document).map fun value => UInt64.ofNat value.toNat

/-- A word of 32 bits. -/
def uint32 : Decoder UInt32 := fun document =>
  (intWithin 0 (UInt32.size - 1) document).map fun value => UInt32.ofNat value.toNat

/-- A signed word of 64 bits. -/
def int64 : Decoder Int64 := fun document =>
  (intWithin Int64.minValue.toInt Int64.maxValue.toInt document).map Int64.ofInt

/-- A signed word of 32 bits. -/
def int32 : Decoder Int32 := fun document =>
  (intWithin Int32.minValue.toInt Int32.maxValue.toInt document).map Int32.ofInt

/-- A text. -/
def string : Decoder String
  | .text value => some value
  | _ => none

/-- A truth value. -/
def boolean : Decoder Bool
  | .bool value => some value
  | _ => none

/-- A value or nothing. -/
def optional {α : Type} (decode : Decoder α) : Decoder (Option α)
  | .null => some none
  | document => (decode document).map some

/-- Values in order. -/
def listOf {α : Type} (decode : Decoder α) : Decoder (List α)
  | .list items => items.mapM decode
  | _ => none

/-- One of several named values, written as its name or as a table of its name alone with a body
that says nothing. -/
def choice {α : Type} (dialect : Dialect) (choices : List (String × α)) : Decoder α
  | .text name => choices.lookup name
  | .table [(name, body)] => if dialect.isUnit body then choices.lookup name else none
  | _ => none

/-- The documents under a name. -/
def underName (name : String) (entries : List (String × Document)) : List Document :=
  (entries.filter fun entry => entry.1 == name).map (·.2)

/-- The document of a field, if the field is given; a repeated field refuses the table. -/
def givenField (entries : List (String × Document)) (name : String) : Option (Option Document) :=
  match underName name entries with
  | [] => some none
  | [document] => some (some document)
  | _ => none

/-- Whether a record may be given by fewer of its fields than it has. -/
inductive Completeness where
  /-- A list of fields names every field. -/
  | whole
  /-- Fields left out have defaults. -/
  | partly
  deriving DecidableEq

/-- The documents of the named fields of a record, from a table or a list. -/
def fields (completeness : Completeness) (names : List String) :
    Decoder (List (Option Document))
  | .table entries => names.mapM (givenField entries)
  | .list items =>
    if names.length < items.length then none
    else if items.length < names.length ∧ completeness = .whole then none
    else some (items.map some ++ List.replicate (names.length - items.length) none)
  | _ => none

/-- A record as its format sees it: where the format drops them, without the items of a list that
stand after the last field. -/
def Dialect.trim (dialect : Dialect) (names : List String) : Document → Document
  | .list items => if dialect.dropsExcess then .list (items.take names.length) else .list items
  | document => document

/-- The documents of the named fields of a record in some format. -/
def fieldsIn (dialect : Dialect) (completeness : Completeness) (names : List String) :
    Decoder (List (Option Document)) := fun document =>
  fields completeness names (dialect.trim names document)

/-- A field that has to be given. -/
def required {α : Type} (decode : Decoder α) (field : Option Document) : Option α :=
  field.bind decode

/-- A field that holds its default where it is left out. -/
def orDefault {α : Type} (default : α) (decode : Decoder α) : Option Document → Option α
  | none => some default
  | some document => decode document

end Standby.Document
