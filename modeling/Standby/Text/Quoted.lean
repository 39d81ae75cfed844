import Standby.Text.Hex
import Standby.Text.Printable

/-!
# Quoted text and inspections

An inspection shows a value on one line without ambiguity: a text in double quotes with
escapes, a record by its name and fields, a collection in brackets. Inspections appear in error
messages, where a path is quoted, and in the descriptions of values.
-/
namespace Standby.Text

/-- A character inside double quotes. -/
def quotedChar (c : Char) : List Char :=
  if c = '"' then ['\\', '"']
  else if c = '\\' then ['\\', '\\']
  else if c = '\n' then ['\\', 'n']
  else if c = '\r' then ['\\', 'r']
  else if c = '\t' then ['\\', 't']
  else if c = '\x00' then ['\\', '0']
  else if isPrintable c then [c]
  else ['\\', 'u', '\x7b'] ++ hexNat c.toNat ++ ['\x7d']

/-- A text in double quotes. -/
def quoted (text : String) : String :=
  String.ofList ('"' :: text.toList.flatMap quotedChar ++ ['"'])

/-- The inspection of an optional value from that of its content. -/
def inspectOption {α : Type} (inspect : α → String) : Option α → String
  | none => "None"
  | some value => "Some(" ++ inspect value ++ ")"

/-- A type with one unnamed field. -/
def inspectWrapped (name content : String) : String := name ++ "(" ++ content ++ ")"

/-- A record with named fields in order. -/
def inspectRecord (name : String) (fields : List (String × String)) : String :=
  name ++ " \x7b " ++ ", ".intercalate (fields.map fun (label, shown) => label ++ ": " ++ shown)
    ++ " \x7d"

/-- A set of shown elements. -/
def inspectSet (elements : List String) : String := "\x7b" ++ ", ".intercalate elements ++ "\x7d"

/-- A map of shown keys and values. -/
def inspectMap (entries : List (String × String)) : String :=
  inspectSet (entries.map fun (key, value) => key ++ ": " ++ value)

end Standby.Text
