import Standby.Document.Decode

/-!
# The dialect of JSON

A choice without content has the body `null`, and a list of fields ends with the last field.
-/
namespace Standby.Json

/-- The rules of JSON. -/
def dialect : Document.Dialect where
  isUnit
    | .null => true
    | _ => false
  dropsExcess := false

end Standby.Json
