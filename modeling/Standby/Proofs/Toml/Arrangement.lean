import Mathlib.Data.List.Nodup
import Standby.Proofs.Document.Kept
import Standby.Toml.Writer

/-!
# Documents as they are written

The writer gives a document an order of its own: in each table the values come first, then the
tables, and what has no value is gone (`arrange`). Each entry is arranged for itself
(`arrange_cons_perm`), so the names of a table stay distinct.
-/
namespace Standby.Toml

open Standby.Document (namesOf)

/-- The entries of a table that are assigned in it. -/
def valuesOf (entries : List (String × Document)) : List (String × Document) :=
  entries.filter fun (_, value) => !(isTable value || isTables value || isNull value)

mutual

/-- A table or a list of tables, as it reads once it was written. -/
def arrangeSection : Document → Option Document
  | .table entries => some (.table (valuesOf entries ++ arrangeTables entries))
  | .list items => if isTables (.list items) then some (.list (arrangeItems items)) else none
  | _ => none

/-- The tables and lists of tables in a table, as they read once they were written. -/
def arrangeTables : List (String × Document) → List (String × Document)
  | [] => []
  | (name, value) :: rest =>
    ((arrangeSection value).map fun value => (name, value)).toList ++ arrangeTables rest

/-- The tables of a list, as they read once they were written. -/
def arrangeItems : List Document → List Document
  | [] => []
  | item :: rest => (arrangeSection item).toList ++ arrangeItems rest

end

/-- The entries of a table as they read once they were written: values first, then tables. -/
def arrange (entries : List (String × Document)) : List (String × Document) :=
  valuesOf entries ++ arrangeTables entries

/-- What a value of a table reads as once it was written. -/
def reread : Document → Option Document
  | .null => none
  | value => some ((arrangeSection value).getD value)

/-- A list of tables comes back with each table arranged. -/
theorem reread_sections {items : List Document} (are : isTables (.list items) = true) :
    reread (.list items) = some (.list (arrangeItems items)) := by
  simp only [reread, arrangeSection, are, ↓reduceIte, Option.getD_some]

/-- What an entry of a table reads as once it was written. -/
def rereadEntry (entry : String × Document) : Option (String × Document) :=
  (reread entry.2).map fun value => (entry.1, value)

/-- What is arranged apart is a table or a list of tables. -/
theorem arrangeSection_eq_none_iff {value : Document} :
    arrangeSection value = none ↔ (isTable value || isTables value) = false := by
  cases value with
  | table entries => simp [arrangeSection, isTable]
  | list items => simp [arrangeSection, isTable]
  | _ => simp [arrangeSection, isTable, isTables]

section Entry

variable {name : String} {document : Document} {entries : List (String × Document)}

/-- The only entry of a table is all that reads back. -/
theorem arrange_singleton (entry : String × Document) :
    arrange [entry] = (rereadEntry entry).toList := by
  obtain ⟨name, value⟩ := entry
  cases value with
  | list items =>
    by_cases are : isTables (.list items) = true <;>
      simp [arrange, arrangeTables, arrangeSection, valuesOf, rereadEntry, reread, isTable, isNull,
        are]
  | _ =>
    simp [arrange, arrangeTables, arrangeSection, valuesOf, rereadEntry, reread, isTable, isTables,
      isNull]

/-- Each entry is found among the arranged ones as in a table of its own. -/
theorem arrange_cons_perm (entry : String × Document) (rest : List (String × Document)) :
    (arrange (entry :: rest)).Perm (arrange [entry] ++ arrange rest) := by
  have values : valuesOf (entry :: rest) = valuesOf [entry] ++ valuesOf rest :=
    List.filter_append [entry] rest
  have tables : arrangeTables (entry :: rest) = arrangeTables [entry] ++ arrangeTables rest := by
    simp only [arrangeTables, List.append_nil]
  rw [arrange, arrange, arrange, values, tables, List.append_assoc, List.append_assoc]
  exact (List.perm_append_comm_assoc _ _ _).append_left _

/-- The entries of a table read back one by one. -/
theorem arrange_perm (entries : List (String × Document)) :
    (arrange entries).Perm (entries.filterMap rereadEntry) := by
  induction entries with
  | nil => exact .refl _
  | cons entry rest ih =>
    have parts := arrange_cons_perm entry rest
    rw [arrange_singleton] at parts
    rw [List.filterMap_cons]
    cases read : rereadEntry entry with
    | none => exact (read ▸ parts).trans ih
    | some found => exact (read ▸ parts).trans (ih.cons found)

/-- What reads back is what an entry of its name reads as. -/
theorem mem_arrange : (name, document) ∈ arrange entries ↔
    ∃ value, (name, value) ∈ entries ∧ reread value = some document := by
  rw [(arrange_perm entries).mem_iff, List.mem_filterMap]
  simp [rereadEntry]

/-- A table reads back without a repeated name if it had none. -/
theorem nodup_arrange (distinct : (namesOf entries).Nodup) :
    (namesOf (arrange entries)).Nodup := by
  have kept : (namesOf (entries.filterMap rereadEntry)).Sublist (namesOf entries) := by
    induction entries with
    | nil => exact .slnil
    | cons entry rest ih =>
      rw [List.filterMap_cons, rereadEntry]
      have others := ih (List.nodup_cons.mp distinct).2
      cases reread entry.2 with
      | none => exact others.cons _
      | some value => exact others.cons_cons _
  exact ((arrange_perm entries).map _).nodup_iff.mpr (distinct.sublist kept)

end Entry

end Standby.Toml
