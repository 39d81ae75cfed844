import Standby.Proofs.Identity.Spelling

/-!
# Identifiers that their checks accept

An identifier is valid if the constructor that checks its parts gives it. A decoded server always is
(`ServerId.ofDocument_eq_some_iff`). The parts of entities and connections are decoded as they
stand, so a decoded one is valid unless the document gives a blank text for the part that is checked
(`EntityId.isValid_iff_of_ofDocument`, `ConnectionId.isValid_iff_of_ofDocument`).
-/
namespace Standby

open Document Text

namespace Document

variable {completeness : Completeness} {names : List String} {name : String} {document : Document}

/-- What a record gives for a field, under the name of the field in a table or at its place in a
list. -/
def given? (completeness : Completeness) (names : List String) (name : String)
    (document : Document) : Option Document :=
  (fields completeness names document).bind fun parts => ((names.zip parts).lookup name).join

/-- A record gives a blank text for a field. -/
def GivesBlank (completeness : Completeness) (names : List String) (name : String)
    (document : Document) : Prop :=
  ∃ text, given? completeness names name document = some (.text text) ∧ isBlank text = true

/-- Only the text that is given can be the blank one. -/
theorem givesBlank_iff {text : String}
    (given : given? completeness names name document = some (.text text)) :
    GivesBlank completeness names name document ↔ isBlank text = true := by
  rw [GivesBlank, given]
  constructor
  · rintro ⟨other, same, blank⟩
    cases same
    exact blank
  · exact fun blank => ⟨text, rfl, blank⟩

/-- A text is read from a field exactly if the field is that text. -/
theorem required_string_eq_some_iff {field : Option Document} {text : String} :
    required string field = some text ↔ field = some (.text text) := by
  cases field with
  | none => simp [required]
  | some document => cases document <;> simp [required, string]

end Document

/-- A stored server is a text that the check of a name accepts. -/
theorem ServerId.ofDocument_eq_some_iff {document : Document} {server : ServerId} :
    ofDocument document = some server ↔
      ∃ name, document = .text name ∧ parse name = .ok server := by
  cases document with
  | text name =>
    cases parsed : parse name <;> simp [ofDocument, string, parsed, Except.toOption]
  | _ => simp [ofDocument, string]

namespace EntityId

variable {document : Document} {id : EntityId}

/-- The check of an entity's parts gives the entity. -/
def IsValid (id : EntityId) : Prop := ofParts id.className id.name = .ok id

/-- The name of an entity is valid exactly if its class is not blank. -/
theorem isValid_iff : id.IsValid ↔ isBlank id.className = false := by
  cases blank : isBlank id.className <;> simp [IsValid, ofParts, blank]

/-- A document gives a blank class. -/
def IsBlankIn (document : Document) : Prop :=
  document.GivesBlank .whole ["class_name", "name"] "class_name"

/-- The class of a decoded entity is the text that is given for it. -/
theorem given_of_ofDocument (decoded : ofDocument document = some id) :
    given? .whole ["class_name", "name"] "class_name" document = some (.text id.className) := by
  obtain ⟨parts, found, decoded⟩ := Option.bind_eq_some_iff.mp decoded
  split at decoded
  · obtain ⟨className, given, decoded⟩ := Option.bind_eq_some_iff.mp decoded
    obtain ⟨_, -, decoded⟩ := Option.bind_eq_some_iff.mp decoded
    cases decoded
    rw [required_string_eq_some_iff] at given
    rw [given?, found, given]
    rfl
  · cases decoded

/-- A decoded entity is valid unless its document gives a blank class. -/
theorem isValid_iff_of_ofDocument (decoded : ofDocument document = some id) :
    id.IsValid ↔ ¬ IsBlankIn document := by
  rw [isValid_iff, IsBlankIn, givesBlank_iff (given_of_ofDocument decoded), Bool.not_eq_true]

end EntityId

namespace EntityDescriptor

variable {document : Document} {descriptor : EntityDescriptor}

/-- A document gives an entity with a blank class. -/
def IsBlankIn (document : Document) : Prop :=
  ∃ id, given? .whole ["id", "client_instance", "version"] "id" document = some id ∧
    EntityId.IsBlankIn id

/-- The entity of a decoded address is the one that is given for it. -/
theorem given_of_ofDocument (decoded : ofDocument document = some descriptor) :
    ∃ id, given? .whole ["id", "client_instance", "version"] "id" document = some id ∧
      EntityId.ofDocument id = some descriptor.id := by
  obtain ⟨parts, found, decoded⟩ := Option.bind_eq_some_iff.mp decoded
  split at decoded
  · obtain ⟨id, read, decoded⟩ := Option.bind_eq_some_iff.mp decoded
    obtain ⟨_, -, decoded⟩ := Option.bind_eq_some_iff.mp decoded
    obtain ⟨_, -, decoded⟩ := Option.bind_eq_some_iff.mp decoded
    cases decoded
    obtain ⟨part, rfl, read⟩ := Option.bind_eq_some_iff.mp read
    refine ⟨part, ?_, read⟩
    rw [given?, found]
    rfl
  · cases decoded

/-- The entity of a decoded address is valid unless the document gives a blank class for it. -/
theorem isValid_iff_of_ofDocument (decoded : ofDocument document = some descriptor) :
    descriptor.id.IsValid ↔ ¬ IsBlankIn document := by
  obtain ⟨id, given, read⟩ := given_of_ofDocument decoded
  simp [IsBlankIn, given, EntityId.isValid_iff_of_ofDocument read]

end EntityDescriptor

namespace ConnectionId

variable {document : Document} {connection : ConnectionId}

/-- The check of a connection's parts gives the connection. -/
def IsValid (connection : ConnectionId) : Prop :=
  ofParts connection.machine connection.channel = .ok connection

/-- A connection is valid exactly if its machine is not blank. -/
theorem isValid_iff : connection.IsValid ↔ isBlank connection.machine = false := by
  cases blank : isBlank connection.machine <;> simp [IsValid, ofParts, blank]

/-- A document gives a blank machine. -/
def IsBlankIn (document : Document) : Prop :=
  document.GivesBlank .whole ["jvm_id", "channel"] "jvm_id"

/-- The machine of a decoded connection is the text that is given for it. -/
theorem given_of_ofDocument (decoded : ofDocument document = some connection) :
    given? .whole ["jvm_id", "channel"] "jvm_id" document = some (.text connection.machine) := by
  obtain ⟨parts, found, decoded⟩ := Option.bind_eq_some_iff.mp decoded
  split at decoded
  · obtain ⟨machine, given, decoded⟩ := Option.bind_eq_some_iff.mp decoded
    obtain ⟨_, -, decoded⟩ := Option.bind_eq_some_iff.mp decoded
    cases decoded
    rw [required_string_eq_some_iff] at given
    rw [given?, found, given]
    rfl
  · cases decoded

/-- A decoded connection is valid unless its document gives a blank machine. -/
theorem isValid_iff_of_ofDocument (decoded : ofDocument document = some connection) :
    connection.IsValid ↔ ¬ IsBlankIn document := by
  rw [isValid_iff, IsBlankIn, givesBlank_iff (given_of_ofDocument decoded), Bool.not_eq_true]

end ConnectionId
end Standby
