import Standby.Document.Basic
import Standby.Text.Hex
import Standby.Text.Numeral

/-!
# Writing JSON

A document is written on one line without blanks, or with every element on a line of its own,
indented by two blanks a level. In a text only quotes, backslashes and controls are escaped.
-/
namespace Standby.Json

open Standby.Text

/-- A character inside a text. -/
def escapeChar (c : Char) : List Char :=
  if c = '"' then ['\\', '"']
  else if c = '\\' then ['\\', '\\']
  else if c = '\n' then ['\\', 'n']
  else if c = '\r' then ['\\', 'r']
  else if c = '\t' then ['\\', 't']
  else if c = '\x08' then ['\\', 'b']
  else if c = '\x0c' then ['\\', 'f']
  else if c.toNat < 0x20 then
    ['\\', 'u', '0', '0', hexDigit (c.toNat / 16), hexDigit (c.toNat % 16)]
  else [c]

/-- A text in quotes. -/
def writeText (text : String) : List Char := '"' :: text.toList.flatMap escapeChar ++ ['"']

/-- The layout of a list or table: what stands before an element at a depth, and what stands
between a name and its value. -/
structure Layout where
  /-- What stands before an element or a closing bracket at a depth. -/
  lineBreak : Nat → List Char
  /-- What stands between a name and its value. -/
  colon : List Char

/-- Everything on one line without blanks. -/
def compact : Layout := ⟨fun _ => [], [':']⟩

/-- Every element on its own line, indented by two blanks a level. -/
def pretty : Layout := ⟨fun depth => '\n' :: List.replicate (2 * depth) ' ', [':', ' ']⟩

mutual

/-- A document at a depth. Foreign data has no text of its own and is written as no value. -/
def write (layout : Layout) (depth : Nat) : Document → List Char
  | .null => ['n', 'u', 'l', 'l']
  | .bool true => ['t', 'r', 'u', 'e']
  | .bool false => ['f', 'a', 'l', 's', 'e']
  | .integer value => decimalText value
  | .text value => writeText value
  | .list [] => ['[', ']']
  | .list (item :: items) =>
    '[' :: (layout.lineBreak (depth + 1) ++ write layout (depth + 1) item
      ++ (writeItems layout (depth + 1) items ++ (layout.lineBreak depth ++ [']'])))
  | .table [] => ['\x7b', '\x7d']
  | .table ((name, value) :: entries) =>
    '\x7b' :: (layout.lineBreak (depth + 1) ++ writeText name ++ layout.colon
      ++ write layout (depth + 1) value
      ++ (writeEntries layout (depth + 1) entries ++ (layout.lineBreak depth ++ ['\x7d'])))
  | .foreign => ['n', 'u', 'l', 'l']

/-- The elements of a list after the first. -/
def writeItems (layout : Layout) (depth : Nat) : List Document → List Char
  | [] => []
  | item :: items =>
    ',' :: (layout.lineBreak depth ++ write layout depth item ++ writeItems layout depth items)

/-- The entries of a table after the first. -/
def writeEntries (layout : Layout) (depth : Nat) : List (String × Document) → List Char
  | [] => []
  | (name, value) :: entries =>
    ',' :: (layout.lineBreak depth ++ writeText name ++ layout.colon
      ++ write layout depth value ++ writeEntries layout depth entries)

end

/-- The text of a document on one line. -/
def compactText (document : Document) : String := String.ofList (write compact 0 document)

/-- The text of a document on indented lines. -/
def prettyText (document : Document) : String := String.ofList (write pretty 0 document)

end Standby.Json
