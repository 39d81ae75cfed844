import Standby.Document.Format
import Standby.Proofs.Document.Fields

/-!
# What a text keeps of a document

A text need not keep what has no value, and a table may be read in another order than it was
written. Every other value is to be the same (`IsKept`). A format that is faithful keeps every table
whose names are distinct and which is not too deep, if it writes the table at all
(`Format.IsFaithful`); so what a decoder makes of a kept document is known from the document that
was written (`Finds`).
-/
namespace Standby.Document

/-- The names of some entries. -/
abbrev namesOf {α : Type} (entries : List (String × α)) : List String := entries.map (·.1)

mutual

/-- No table within a document gives a name twice. -/
def IsOrderly : Document → Prop
  | .table entries => (namesOf entries).Nodup ∧ AreOrderly entries
  | .list items => AreOrderlyItems items
  | _ => True

/-- No table within some entries gives a name twice. -/
def AreOrderly : List (String × Document) → Prop
  | [] => True
  | (_, value) :: rest => IsOrderly value ∧ AreOrderly rest

/-- No table within some documents gives a name twice. -/
def AreOrderlyItems : List Document → Prop
  | [] => True
  | item :: rest => IsOrderly item ∧ AreOrderlyItems rest

end

mutual

/-- How deep tables and lists stand in a document. -/
def nesting : Document → Nat
  | .list items => nestingOfItems items + 1
  | .table entries => nestingOfEntries entries + 1
  | _ => 0

/-- How deep tables and lists stand in some documents. -/
def nestingOfItems : List Document → Nat
  | [] => 0
  | item :: rest => max (nesting item) (nestingOfItems rest)

/-- How deep tables and lists stand in some entries. -/
def nestingOfEntries : List (String × Document) → Nat
  | [] => 0
  | (_, value) :: rest => max (nesting value) (nestingOfEntries rest)

end

/-! A plain value is neither a list nor a table. -/

/-- No table or list stands in null. -/
@[simp] theorem nesting_null : nesting .null = 0 := rfl

/-- No table or list stands in a truth value. -/
@[simp] theorem nesting_bool (value : Bool) : nesting (.bool value) = 0 := rfl

/-- No table or list stands in a number. -/
@[simp] theorem nesting_integer (value : Int) : nesting (.integer value) = 0 := rfl

/-- No table or list stands in a text. -/
@[simp] theorem nesting_text (value : String) : nesting (.text value) = 0 := rfl

/-- In a list they stand one deeper than in its items. -/
@[simp] theorem nesting_list (items : List Document) :
    nesting (.list items) = nestingOfItems items + 1 := rfl

/-- In a table they stand one deeper than in its entries. -/
@[simp] theorem nesting_table (entries : List (String × Document)) :
    nesting (.table entries) = nestingOfEntries entries + 1 := rfl

/-- A plain value holds no table with names to repeat. -/
theorem isOrderly_of_plain {value : Document} (plain : nesting value = 0) : IsOrderly value := by
  cases value with
  | list | table => simp at plain
  | _ => trivial

mutual

/-- What is found in the place of a document that was written: nothing in the place of no value, and
else the document. -/
def IsKept : Document → Option Document → Prop
  | .null, found => found = none
  | .bool value, found => found = some (.bool value)
  | .integer value, found => found = some (.integer value)
  | .text value, found => found = some (.text value)
  | .list items, found => ∃ kept, found = some (.list kept) ∧ AreKept items kept
  | .table entries, found => ∃ kept, found = some (.table kept) ∧ (namesOf kept).Nodup ∧
      namesOf kept ⊆ namesOf entries ∧ AreEntriesKept entries kept
  | .foreign, _ => False

/-- The values of a list are found in order. -/
def AreKept : List Document → List Document → Prop
  | [], kept => kept = []
  | item :: rest, kept =>
    ∃ first others, kept = first :: others ∧ IsKept item (some first) ∧ AreKept rest others

/-- The values of a table are found under their names. -/
def AreEntriesKept : List (String × Document) → List (String × Document) → Prop
  | [], _ => True
  | (name, value) :: rest, kept => IsKept value (kept.lookup name) ∧ AreEntriesKept rest kept

end

/-- The tables that a format writes read back: entries without a value are left out of the text, and
every other value reads back as it was written. That is asked of tables which give no name twice and
are no deeper than some bound. -/
def Format.IsFaithful (format : Format) (depth : Nat) : Prop :=
  ∀ entries text, IsOrderly (.table entries) → nesting (.table entries) ≤ depth →
    format.write (.table entries) = some text → IsKept (.table entries) (format.read text)

/-- A format that is faithful to deep tables is so to others. -/
theorem Format.IsFaithful.mono {format : Format} {deep depth : Nat}
    (faithful : format.IsFaithful deep) (less : depth ≤ deep) : format.IsFaithful depth :=
  fun entries text orderly within written =>
    faithful entries text orderly (Nat.le_trans within less) written

section Kept

variable {entries kept : List (String × Document)} {field : Option Document}

/-- The values of a table are kept if each of them is. -/
theorem areEntriesKept_of_forall
    (each : ∀ entry ∈ entries, IsKept entry.2 (kept.lookup entry.1)) :
    AreEntriesKept entries kept := by
  induction entries with
  | nil => trivial
  | cons entry rest ih =>
    exact ⟨each entry List.mem_cons_self, ih fun other member =>
      each other (List.mem_cons_of_mem _ member)⟩

/-- Only a value is found. -/
theorem IsKept.ne_null {document : Document} (kept : IsKept document field) :
    field ≠ some .null := by
  rintro rfl
  cases document with
  | list items => obtain ⟨_, same, -⟩ := kept; cases same
  | table entries => obtain ⟨_, same, -⟩ := kept; cases same
  | foreign => exact kept
  | _ => cases kept

end Kept

section Finds

variable {α : Type} {decode : Decoder α} {encode : α → Document} {field : Option Document}

/-- A decoder finds a value wherever a document was kept. -/
def Finds (decode : Decoder α) (document : Document) (value : α) : Prop :=
  ∀ field, IsKept document field → required decode field = some value

/-- A value that is found needs no default. -/
theorem Finds.orDefault {document : Document} {value : α} (finds : Finds decode document value)
    (kept : IsKept document field) (default : α) :
    orDefault default decode field = some value := by
  obtain ⟨found, rfl, decoded⟩ := Option.bind_eq_some_iff.mp (finds field kept)
  exact decoded

/-- Where a value may be missing, no value is found as the default. -/
theorem orDefault_optional (finds : ∀ value, Finds decode (encode value) value)
    {value : Option α} (kept : IsKept (ofOption encode value) field) (default : Option α) :
    orDefault default (optional decode) field = some (value.or default) := by
  cases value with
  | none =>
    obtain rfl : field = none := kept
    rfl
  | some value =>
    obtain ⟨found, rfl, decoded⟩ := Option.bind_eq_some_iff.mp (finds value field kept)
    have present : optional decode found = (decode found).map some := by
      cases found with
      | null => exact absurd rfl kept.ne_null
      | _ => rfl
    rw [Document.orDefault, present, decoded]
    rfl

/-- A truth value is found. -/
theorem finds_bool (value : Bool) : Finds boolean (.bool value) value := by
  rintro _ ⟨⟩
  rfl

/-- A text is found. -/
theorem finds_text (value : String) : Finds string (.text value) value := by
  rintro _ ⟨⟩
  rfl

/-- A word is found. -/
theorem finds_word (value : UInt64) : Finds uint64 (ofUInt64 value) value := by
  rintro _ ⟨⟩
  exact uint64_ofUInt64 value

/-- A signed number is found. -/
theorem finds_signed (value : Int32) : Finds int32 (.integer value.toInt) value := by
  rintro _ ⟨⟩
  exact int32_toInt value

/-- Values are found in order. -/
theorem finds_list (finds : ∀ value, Finds decode (encode value) value) (values : List α) :
    Finds (listOf decode) (.list (values.map encode)) values := by
  rintro _ ⟨kept, rfl, each⟩
  change kept.mapM decode = some values
  induction values generalizing kept with
  | nil =>
    obtain rfl : kept = [] := each
    rfl
  | cons value rest ih =>
    obtain ⟨first, others, rfl, found, later⟩ := each
    have decoded : decode first = some value := finds value _ found
    rw [List.mapM_cons, decoded, ih others later]
    rfl

/-- A record is found if it is built of what is found of its fields. -/
theorem finds_record {dialect : Dialect} {completeness : Completeness}
    {entries : List (String × Document)} {build : List (Option Document) → Option α} {value : α}
    (built : ∀ kept, AreEntriesKept entries kept →
      build ((namesOf entries).map fun name => kept.lookup name) = some value) :
    Finds (fun document => fieldsIn dialect completeness (namesOf entries) document >>= build)
      (.table entries) value := by
  rintro _ ⟨kept, rfl, distinct, -, each⟩
  rw [required, Option.bind_some, fieldsIn_table dialect completeness distinct]
  exact built kept each

end Finds

end Standby.Document
