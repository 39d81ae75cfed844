import Standby.Document.Basic

/-!
# Building documents

Plain values stand for the documents that hold them.
-/
namespace Standby

instance : Coe String Document := ⟨.text⟩
instance : Coe Bool Document := ⟨.bool⟩
instance : Coe Int Document := ⟨.integer⟩
instance : Coe Nat Document := ⟨fun value => .integer value⟩
instance : Coe UInt64 Document := ⟨.ofUInt64⟩
instance : Coe Int32 Document := ⟨fun value => .integer value.toInt⟩
instance : Coe Int64 Document := ⟨fun value => .integer value.toInt⟩

namespace Document

/-- The text of a value. -/
def shown {α : Type} [ToString α] (value : α) : Document := .text (toString value)

/-- Values in order. -/
def listOfValues {α : Type} (encode : α → Document) (values : List α) : Document :=
  .list (values.map encode)

/-- Texts in order. -/
def texts (values : List String) : Document := listOfValues .text values

end Document
end Standby
