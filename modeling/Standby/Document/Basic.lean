/-!
# Documents

A document is the data that a structured text holds, whatever the text's format: records of the
node are decoded from documents and encoded to them, and the formats read and write documents.
-/
namespace Standby

/-- The data of a structured text. -/
inductive Document where
  /-- No value. -/
  | null
  /-- A truth value. -/
  | bool (value : Bool)
  /-- An integer of any size. -/
  | integer (value : Int)
  /-- A text of characters. -/
  | text (value : String)
  /-- Values in order. -/
  | list (items : List Document)
  /-- Named values in the order in which they are written; a name may be repeated. -/
  | table (entries : List (String × Document))
  /-- Well-formed data that no record holds: a fraction, or a text or name that is no sequence of
  characters. It can be skipped but not decoded. -/
  | foreign
  deriving Inhabited, Repr

namespace Document

/-- The value of an optional document. -/
def ofOption {α : Type} (encode : α → Document) : Option α → Document
  | none => .null
  | some value => encode value

/-- A word as an integer. -/
def ofUInt64 (value : UInt64) : Document := .integer value.toNat

end Document
end Standby
