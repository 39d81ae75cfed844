import Standby.Transience

/-!
# Refused identifiers

A text or a pair of parts that does not form an identifier is refused with what was given and
the reason.
-/
namespace Standby

/-- The kinds of identifiers that are checked. -/
inductive IdentifierKind where
  | stripe
  | server
  | entity
  | connection
  deriving DecidableEq, Repr

/-- The name of a kind of identifier. -/
def IdentifierKind.name : IdentifierKind → String
  | stripe => "stripe"
  | server => "server"
  | entity => "entity"
  | connection => "connection"

/-- A refused identifier. -/
structure InvalidId where
  /-- What it was to identify. -/
  kind : IdentifierKind
  /-- The text given, or the parts given joined to one text. -/
  raw : String
  /-- Why it was refused. -/
  reason : String
  deriving DecidableEq, Repr

namespace InvalidId

/-- The text of a refusal. -/
def message (refusal : InvalidId) : String :=
  refusal.kind.name ++ " id `" ++ refusal.raw ++ "` is invalid: " ++ refusal.reason

/-- The same text is refused again. -/
def transience (_refusal : InvalidId) : Transience := .permanent

end InvalidId
end Standby
