import Standby.Document.Decode

/-!
# Formats of structured text

A format writes the tables of a document as a text and reads documents from texts. How it spells
them is its own matter; what its readers may count on is `Document.Format.IsFaithful`.
-/
namespace Standby.Document

/-- A writer and a reader of texts, with the rules by which records are decoded from what is
read. -/
structure Format where
  /-- What the format sees differently from others. -/
  dialect : Dialect
  /-- The text of a document, if it has one. -/
  write : Document → Option String
  /-- The document of a text, if the text is well formed. -/
  read : String → Option Document

end Standby.Document
