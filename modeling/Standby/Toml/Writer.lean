import Standby.Toml.Scalar
import Standby.Toml.Tree

/-!
# Writing TOML

This is one of the ways in which a document may be written: as statements, one on a line, the
values of a table, then the tables in it, each under a header after an empty line, and every text in
double quotes. Other writers quote some texts otherwise. What has no value is left out. Integers
that are no words of 64 bits, foreign data, and tables among other values of a list have no text.
-/
namespace Standby.Toml

open Standby.Text

/-- A table. -/
def isTable : Document → Bool
  | .table _ => true
  | _ => false

/-- A list of tables, which is written as sections. -/
def isTables : Document → Bool
  | .list items => !items.isEmpty && items.all isTable
  | _ => false

/-- No value. -/
def isNull : Document → Bool
  | .null => true
  | _ => false

/-- The assignments of a table: its values that are neither tables nor lists of tables. -/
def assignments (entries : List (String × Document)) : List Statement :=
  (entries.filter fun (_, value) => !(isTable value || isTables value || isNull value)).map
    fun (name, value) => .assign [] name value

/-- The header of a table; it is left out where the table holds nothing but tables. -/
def headerOf (isEach : Bool) (path : List String) (entries : List (String × Document)) :
    List Statement :=
  if !isEach && (assignments entries).isEmpty
      && entries.any (fun (_, value) => isTable value || isTables value) then []
  else [.header isEach path]

mutual

/-- The statements of a table at a path. -/
def sectionOf (isEach : Bool) (path : List String) : Document → List Statement
  | .table entries => headerOf isEach path entries ++ assignments entries ++ inner path entries
  | _ => []

/-- The statements of the tables within a table. -/
def inner (path : List String) : List (String × Document) → List Statement
  | [] => []
  | (name, value) :: rest =>
    (match value with
      | .table entries =>
        headerOf false (path ++ [name]) entries ++ assignments entries
          ++ inner (path ++ [name]) entries
      | .list items =>
        if isTables (.list items) then sections (path ++ [name]) items else []
      | _ => []) ++ inner path rest

/-- The statements of the tables in a list. -/
def sections (path : List String) : List Document → List Statement
  | [] => []
  | item :: rest => sectionOf true path item ++ sections path rest

end

/-- The statements of a document. -/
def statementsOf : Document → List Statement
  | .table entries => assignments entries ++ inner [] entries
  | _ => []

/-- A character inside a text. -/
def escapeChar (c : Char) : List Char :=
  if c = '"' then ['\\', '"']
  else if c = '\\' then ['\\', '\\']
  else if c = '\n' then ['\\', 'n']
  else if c = '\r' then ['\\', 'r']
  else if c = '\t' then ['\\', 't']
  else if c = '\x08' then ['\\', 'b']
  else if c = '\x0c' then ['\\', 'f']
  else if c.toNat < 0x20 ∨ c.toNat = 0x7F then
    ['\\', 'u', '0', '0', hexDigit (c.toNat / 16), hexDigit (c.toNat % 16)]
  else [c]

/-- A text in quotes. -/
def writeText (text : String) : List Char := '"' :: text.toList.flatMap escapeChar ++ ['"']

/-- A name, in quotes only where it needs them. -/
def writeName (name : String) : List Char :=
  if !name.isEmpty && name.toList.all isBare then name.toList else writeText name

/-- Names between dots. -/
def writePath (path : List String) : List Char := ['.'].intercalate (path.map writeName)

mutual

/-- A value on one line. -/
def writeValue : Document → Option (List Char)
  | .bool true => some ['t', 'r', 'u', 'e']
  | .bool false => some ['f', 'a', 'l', 's', 'e']
  | .integer value =>
    if isWord value then some (decimalText value) else none
  | .text value => some (writeText value)
  | .list items => (writeItems items).map fun texts => '[' :: [',', ' '].intercalate texts ++ [']']
  | .null => none
  | .table _ => none
  | .foreign => none

/-- The values of a list. -/
def writeItems : List Document → Option (List (List Char))
  | [] => some []
  | item :: rest => do
    let text ← writeValue item
    let texts ← writeItems rest
    some (text :: texts)

end

/-- A statement on a line. -/
def writeStatement : Statement → Option (List Char)
  | .header true path => some (['[', '['] ++ writePath path ++ [']', ']', '\n'])
  | .header false path => some (['['] ++ writePath path ++ [']', '\n'])
  | .assign path name value =>
    (writeValue value).map fun text =>
      writePath (path ++ [name]) ++ [' ', '=', ' '] ++ text ++ ['\n']

/-- Statements after others; an empty line stands before a header. -/
def writeRest : List Statement → Option (List Char)
  | [] => some []
  | statement :: rest => do
    let text ← writeStatement statement
    let texts ← writeRest rest
    match statement with
    | .header .. => some ('\n' :: text ++ texts)
    | .assign .. => some (text ++ texts)

/-- The statements of a text. -/
def writeStatements : List Statement → Option (List Char)
  | [] => some []
  | statement :: rest => do
    let text ← writeStatement statement
    let texts ← writeRest rest
    some (text ++ texts)

/-- The text of a document, if it has one. -/
def render? (document : Document) : Option String :=
  (writeStatements (statementsOf document)).map String.ofList

end Standby.Toml
