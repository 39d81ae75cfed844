import Standby.Proofs.Toml.Assembly
import Standby.Proofs.Toml.Spelling
import Standby.Toml.Dialect

/-!
# Documents survive their text

A document of tables with distinct names, nested less deep than the reader goes, is read back from
its text as it was arranged by the writer. So the text keeps the document (`isFaithful_format`).
-/
namespace Standby.Toml

open Standby.Document

mutual

/-- Lists are nested within a document no deeper than the document is. -/
theorem listDepth_le_nesting : ∀ value, listDepth value ≤ nesting value
  | .list items => by
    rw [listDepth, nesting]
    exact Nat.succ_le_succ (itemsDepth_le_nesting items)
  | .null | .bool _ | .integer _ | .text _ | .table _ | .foreign => by simp [listDepth]

/-- Lists are nested within items no deeper than the items are. -/
theorem itemsDepth_le_nesting : ∀ items, itemsDepth items ≤ nestingOfItems items
  | [] => by simp [itemsDepth]
  | item :: rest => by
    rw [itemsDepth, nestingOfItems]
    have first := listDepth_le_nesting item
    have others := itemsDepth_le_nesting rest
    omega

end

/-- The value of an entry is nested no deeper than the entries are. -/
theorem nesting_le_of_mem {entries : List (String × Document)} {entry : String × Document}
    (member : entry ∈ entries) : nesting entry.2 ≤ nestingOfEntries entries := by
  induction entries with
  | nil => cases member
  | cons first rest ih =>
    rw [nestingOfEntries]
    rcases List.mem_cons.mp member with rfl | member
    · exact Nat.le_max_left ..
    · exact Nat.le_trans (ih member) (Nat.le_max_right ..)

/-- The assignments of a table are read if its values are not too deep. -/
theorem isShallow_assignments {entries : List (String × Document)}
    (shallow : nestingOfEntries entries < depthBound) :
    ∀ statement ∈ assignments entries, statement.IsShallow := by
  intro statement member
  obtain ⟨entry, assigned, rfl⟩ := List.mem_map.mp member
  have depth := nesting_le_of_mem (List.mem_of_mem_filter assigned)
  have lists := listDepth_le_nesting entry.2
  exact ⟨by decide, by omega⟩

/-- A header that is written is the one of its path. -/
theorem isShallow_headerOf {isEach : Bool} {path : List String}
    {entries : List (String × Document)} (named : path ≠ []) (short : path.length < depthBound) :
    ∀ statement ∈ headerOf isEach path entries, statement.IsShallow := by
  intro statement member
  rw [headerOf] at member
  split at member
  · cases member
  · rw [List.mem_singleton.mp member]
    exact ⟨named, short⟩

mutual

/-- The tables within a table are read if they are not too deep. -/
theorem isShallow_inner : ∀ (entries : List (String × Document)) {path : List String},
    path.length + nestingOfEntries entries < depthBound →
    ∀ statement ∈ inner path entries, statement.IsShallow
  | [], _, _ => by simp [inner]
  | (name, .table entries) :: rest, path, shallow => by
    rw [nestingOfEntries, nesting] at shallow
    have longer : (path ++ [name]).length = path.length + 1 := List.length_append
    intro statement member
    simp only [inner_cons, entryLines, List.mem_append] at member
    rcases member with ((member | member) | member) | member
    · exact isShallow_headerOf (by simp) (by omega) statement member
    · exact isShallow_assignments (by omega) statement member
    · exact isShallow_inner entries (by omega) statement member
    · exact isShallow_inner rest (by omega) statement member
  | (name, .list items) :: rest, path, shallow => by
    rw [nestingOfEntries, nesting] at shallow
    have longer : (path ++ [name]).length = path.length + 1 := List.length_append
    intro statement member
    simp only [inner_cons, entryLines, List.mem_append, List.mem_ite_nil_right] at member
    rcases member with ⟨-, member⟩ | member
    · exact isShallow_sections items (by simp) (by omega) statement member
    · exact isShallow_inner rest (by omega) statement member
  | (_, .null) :: rest, _, shallow | (_, .bool _) :: rest, _, shallow
  | (_, .integer _) :: rest, _, shallow | (_, .text _) :: rest, _, shallow
  | (_, .foreign) :: rest, _, shallow => by
    rw [nestingOfEntries] at shallow
    simpa only [inner_cons, entryLines, List.nil_append] using isShallow_inner rest (by omega)

/-- The tables of a list are read if they are not too deep. -/
theorem isShallow_sections : ∀ (items : List Document) {path : List String},
    path ≠ [] → path.length + nestingOfItems items < depthBound →
    ∀ statement ∈ sections path items, statement.IsShallow
  | [], _, _, _ => by simp [sections]
  | .table entries :: rest, path, named, shallow => by
    rw [nestingOfItems, nesting] at shallow
    intro statement member
    simp only [sections, sectionOf, List.mem_append] at member
    rcases member with ((member | member) | member) | member
    · exact isShallow_headerOf named (by omega) statement member
    · exact isShallow_assignments (by omega) statement member
    · exact isShallow_inner entries (by omega) statement member
    · exact isShallow_sections rest named (by omega) statement member
  | .null :: rest, _, named, shallow | .bool _ :: rest, _, named, shallow
  | .integer _ :: rest, _, named, shallow | .text _ :: rest, _, named, shallow
  | .list _ :: rest, _, named, shallow | .foreign :: rest, _, named, shallow => by
    rw [nestingOfItems] at shallow
    simpa only [sections, sectionOf, List.nil_append] using
      isShallow_sections rest named (by omega)

end

/-- The text of a document is read back, with values before tables and without what is null. -/
theorem ofText_of_render?_table {entries : List (String × Document)} {text : String}
    (rendered : render? (.table entries) = some text) (orderly : IsOrderly (.table entries))
    (shallow : nestingOfEntries entries < depthBound) :
    ofText text = some (.table (arrange entries)) := by
  have read : ∀ statement ∈ statementsOf (.table entries), statement.IsShallow := by
    intro statement member
    rw [statementsOf, List.mem_append] at member
    rcases member with member | member
    · exact isShallow_assignments shallow statement member
    · exact isShallow_inner entries (by simpa using shallow) statement member
  rw [ofText_of_render? rendered read, assemble_statementsOf orderly]

section Field

variable {name : String} {entries : List (String × Document)} {value : Document}

/-- A field is found in the text of a table with distinct names. -/
theorem givenField_arrange (distinct : (namesOf entries).Nodup) (member : (name, value) ∈ entries) :
    givenField (arrange entries) name = some (reread value) := by
  rw [givenField]
  cases read : reread value with
  | none =>
    have absent : name ∉ namesOf (arrange entries) := by
      intro given
      obtain ⟨⟨_, document⟩, found, rfl⟩ := List.mem_map.mp given
      obtain ⟨other, also, present⟩ := mem_arrange.mp found
      have same := List.inj_on_of_nodup_map distinct also member rfl
      rw [Prod.mk.injEq] at same
      rw [same.2, read] at present
      cases present
    rw [underName_eq_nil absent]
  | some document =>
    have found : (name, document) ∈ arrange entries := mem_arrange.mpr ⟨value, member, read⟩
    rw [underName_eq_singleton (nodup_arrange distinct) found]

/-- What stands under a name in the text of a table with distinct names. -/
theorem lookup_arrange (distinct : (namesOf entries).Nodup) (member : (name, value) ∈ entries) :
    (arrange entries).lookup name = reread value :=
  Option.some.inj ((givenField_eq_lookup (nodup_arrange distinct) name).symm.trans
    (givenField_arrange distinct member))

/-- The text of a table names nothing but what the table names. -/
theorem namesOf_arrange_subset (entries : List (String × Document)) :
    namesOf (arrange entries) ⊆ namesOf entries := by
  intro name named
  obtain ⟨⟨_, document⟩, found, rfl⟩ := List.mem_map.mp named
  obtain ⟨value, member, -⟩ := mem_arrange.mp found
  exact List.mem_map.mpr ⟨_, member, rfl⟩

/-- A table is kept if its values are. -/
theorem isKept_table (distinct : (namesOf entries).Nodup)
    (each : ∀ entry ∈ entries, IsKept entry.2 (reread entry.2)) :
    IsKept (.table entries) (some (.table (arrange entries))) := by
  refine ⟨arrange entries, rfl, nodup_arrange distinct, namesOf_arrange_subset entries, ?_⟩
  refine areEntriesKept_of_forall fun entry member => ?_
  rw [lookup_arrange distinct member]
  exact each entry member

end Field

/-- A statement has a text. -/
def Statement.IsWritten (statement : Statement) : Prop := (writeStatement statement).isSome

/-- Each of the statements that were written has a text. -/
theorem isWritten_of_writeRest {statements : List Statement} {chars : List Char}
    (written : writeRest statements = some chars) :
    ∀ statement ∈ statements, statement.IsWritten := by
  induction statements generalizing chars with
  | nil => simp
  | cons statement rest ih =>
    rw [writeRest, Option.bind_eq_bind, Option.bind_eq_some_iff] at written
    obtain ⟨text, first, written⟩ := written
    obtain ⟨texts, others, -⟩ := Option.bind_eq_some_iff.mp written
    exact List.forall_mem_cons.mpr ⟨Option.isSome_iff_exists.mpr ⟨text, first⟩, ih others⟩

/-- When statements are written, each of them is. -/
theorem isWritten_of_writeStatements {statements : List Statement} {chars : List Char}
    (written : writeStatements statements = some chars) :
    ∀ statement ∈ statements, statement.IsWritten := by
  cases statements with
  | nil => simp
  | cons statement rest =>
    obtain ⟨text, texts, first, others, -⟩ := writeStatements_cons written
    exact List.forall_mem_cons.mpr
      ⟨Option.isSome_iff_exists.mpr ⟨text, first⟩, isWritten_of_writeRest others⟩

/-- A value that is assigned has a text. -/
theorem isSome_writeValue {entries : List (String × Document)} {name : String} {value : Document}
    (written : ∀ statement ∈ assignments entries, statement.IsWritten)
    (member : (name, value) ∈ entries)
    (isValue : (isTable value || isTables value || isNull value) = false) :
    (writeValue value).isSome = true := by
  have assigned : .assign [] name value ∈ assignments entries :=
    List.mem_map.mpr ⟨(name, value), List.mem_filter.mpr ⟨member, by simp [isValue]⟩, rfl⟩
  simpa [Statement.IsWritten, writeStatement] using written _ assigned

mutual

/-- A value that has a text on one line is kept as it is. -/
theorem isKept_of_writeValue : ∀ value, (writeValue value).isSome = true →
    IsKept value (some value)
  | .list items, written => by
    rw [writeValue, Option.isSome_map] at written
    exact ⟨items, rfl, areKept_of_writeItems items written⟩
  | .bool _, _ | .integer _, _ | .text _, _ => rfl
  | .null, written | .table _, written | .foreign, written => by simp [writeValue] at written

/-- Items that are written come back as they are. -/
theorem areKept_of_writeItems : ∀ items, (writeItems items).isSome = true → AreKept items items
  | [], _ => rfl
  | item :: rest, written => by
    obtain ⟨texts, written⟩ := Option.isSome_iff_exists.mp written
    obtain ⟨text, more, first, others, -⟩ := writeItems_cons written
    exact ⟨item, rest, rfl, isKept_of_writeValue item (Option.isSome_iff_exists.mpr ⟨text, first⟩),
      areKept_of_writeItems rest (Option.isSome_iff_exists.mpr ⟨more, others⟩)⟩

end

/-- A value of a table that is written in its place is read back as it is. -/
theorem reread_of_value {value : Document}
    (isValue : (isTable value || isTables value || isNull value) = false) :
    reread value = some value := by
  rw [Bool.or_eq_false_iff] at isValue
  have arranged := arrangeSection_eq_none_iff.mpr isValue.1
  cases value with
  | null => cases isValue.2
  | _ => simp only [reread, arranged, Option.getD_none]

mutual

/-- A value of a table is kept if all statements that it is written as have texts. -/
theorem isKept_reread : ∀ (value : Document) {path : List String}, IsOrderly value →
    (∀ statement ∈ entryLines path value, statement.IsWritten) →
    ((isTable value || isTables value || isNull value) = false →
      (writeValue value).isSome = true) → IsKept value (reread value)
  | .table entries, path, orderly, lines, _ => by
    simp only [entryLines, List.forall_mem_append] at lines
    exact isKept_table orderly.1 (isKept_entries entries orderly.2 lines.1.2 lines.2)
  | .list items, path, orderly, lines, written => by
    by_cases are : isTables (.list items) = true
    · rw [entryLines, if_pos are] at lines
      have tables : items.all isTable = true := (Bool.and_eq_true_iff.mp are).2
      rw [reread_sections are]
      exact ⟨_, rfl, areKept_sections items orderly tables lines⟩
    · have isValue : (isTable (.list items) || isTables (.list items) || isNull (.list items)) =
          false := by simpa [isTable, isNull] using are
      rw [reread_of_value isValue]
      exact isKept_of_writeValue _ (written isValue)
  | .null, _, _, _, _ | .bool _, _, _, _, _ | .integer _, _, _, _, _ | .text _, _, _, _, _ => rfl
  | .foreign, _, _, _, written => by
    have noText := written rfl
    simp [writeValue] at noText

/-- The values of a table are kept if all statements that they are written as have texts. -/
theorem isKept_entries : ∀ (entries : List (String × Document)) {path : List String},
    AreOrderly entries → (∀ statement ∈ assignments entries, statement.IsWritten) →
    (∀ statement ∈ inner path entries, statement.IsWritten) →
    ∀ entry ∈ entries, IsKept entry.2 (reread entry.2)
  | [], _, _, _, _ => by simp
  | (name, value) :: rest, path, orderly, assigned, within => by
    rw [inner_cons, List.forall_mem_append] at within
    have later : ∀ statement ∈ assignments rest, statement.IsWritten := fun statement member =>
      assigned statement
        (((List.sublist_cons_self _ _).filter _).map _ |>.subset member)
    exact List.forall_mem_cons.mpr
      ⟨isKept_reread value orderly.1 within.1 (isSome_writeValue assigned List.mem_cons_self),
        isKept_entries rest orderly.2 later within.2⟩

/-- The tables of a list are kept if all statements that they are written as have texts. -/
theorem areKept_sections : ∀ (items : List Document) {path : List String},
    AreOrderlyItems items → items.all isTable = true →
    (∀ statement ∈ sections path items, statement.IsWritten) → AreKept items (arrangeItems items)
  | [], _, _, _, _ => rfl
  | .table entries :: rest, path, orderly, tables, lines => by
    simp only [sections, sectionOf, List.forall_mem_append] at lines
    rw [List.all_cons, Bool.and_eq_true] at tables
    exact ⟨_, _, rfl,
      isKept_table orderly.1.1 (isKept_entries entries orderly.1.2 lines.1.1.2 lines.1.2),
      areKept_sections rest orderly.2 tables.2 lines.2⟩

end

/-- Tables that are written in this way are read back. -/
theorem isFaithful_format : format.IsFaithful depthBound := by
  intro entries text orderly shallow rendered
  obtain ⟨chars, written, -⟩ := Option.map_eq_some_iff.mp rendered
  have lines := isWritten_of_writeStatements written
  rw [statementsOf, List.forall_mem_append] at lines
  have read : format.read text = some (.table (arrange entries)) :=
    ofText_of_render?_table rendered orderly shallow
  rw [read]
  exact isKept_table orderly.1 (isKept_entries entries orderly.2 lines.1 lines.2)

end Standby.Toml
