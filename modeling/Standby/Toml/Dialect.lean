import Standby.Document.Format
import Standby.Toml.Reader
import Standby.Toml.Writer

/-!
# The format TOML

A choice without content has an empty list or table as its body, and a list of fields may go on
after the last field.
-/
namespace Standby.Toml

/-- The rules of TOML. -/
def dialect : Document.Dialect where
  isUnit
    | .list [] => true
    | .table [] => true
    | _ => false
  dropsExcess := true

/-- TOML as it is read, written in one of the ways in which it may be. -/
def format : Document.Format := ⟨dialect, render?, ofText⟩

end Standby.Toml
