import Standby.Proofs.Toml.Arrangement

/-!
# The statements of a document build it

The statements that a document is written as build the document again, arranged as they are. A
table is built where a path leads, while everything around it stays (`Focus`); a table that holds
nothing but tables has no header of its own and comes to be on the way to the first of them.
-/
namespace Standby.Toml

open Standby.Document (namesOf IsOrderly AreOrderly AreOrderlyItems)

namespace Entries

variable {before : Entries} {name : String} {tree other : Tree}

/-- A name that is not given stands for nothing. -/
theorem lookup_eq_none (fresh : name ∉ namesOf before) : before.lookup name = none := by
  induction before with
  | nil => rfl
  | cons entry before ih =>
    have others : name ≠ entry.1 ∧ name ∉ namesOf before := by simpa using fresh
    have unequal : (name == entry.1) = false := beq_false_of_ne others.1
    rw [List.lookup_cons, unequal]
    exact ih others.2

/-- A name that is given last stands for what it is given for. -/
theorem lookup_concat (fresh : name ∉ namesOf before) :
    (before ++ [(name, tree)]).lookup name = some tree := by
  rw [List.lookup_append, lookup_eq_none fresh]
  simp

/-- The last name of a table gets another meaning. -/
theorem replace_concat (fresh : name ∉ namesOf before) :
    replace (before ++ [(name, tree)]) name other = before ++ [(name, other)] := by
  have kept : ∀ entry ∈ before, (if entry.1 = name then (name, other) else entry) = entry :=
    fun entry given => if_neg fun same : entry.1 = name =>
      fresh (same ▸ List.mem_map_of_mem given)
  rw [replace, List.map_append, List.map_congr_left kept]
  simp

/-- Change the table at the end of a path, whatever its kind. -/
def alter (change : Entries → Option Entries) (path : List String) (entries : Entries) :
    Option Entries := entries.modify false (fun _ => change) path .opened

/-- The kind of the table that a path begins at does not count. -/
theorem modify_eq_alter (change : Entries → Option Entries) (path : List String)
    (kind : TableKind) (entries : Entries) :
    entries.modify false (fun _ => change) path kind = entries.alter change path := by
  cases path <;> rfl

/-- A path leads on from what its first name stands for. -/
theorem alter_cons (change : Entries → Option Entries) (path : List String) (name : String)
    (entries : Entries) :
    entries.alter change (name :: path) =
      match entries.lookup name with
      | none => (alter change path []).map fun inner => entries ++ [(name, .table .passed inner)]
      | some (.value _) => none
      | some (.table kind inner) =>
        (alter change path inner).map fun inner => entries.replace name (.table kind inner)
      | some (.tables []) => none
      | some (.tables (latest :: earlier)) =>
        (alter change path latest).map fun latest =>
          entries.replace name (.tables (latest :: earlier)) := by
  rw [alter, modify]
  cases entries.lookup name with
  | none => simp only [modify_eq_alter, Bool.false_eq_true, ↓reduceIte]
  | some tree =>
    match tree with
    | .value _ => rfl
    | .table kind inner =>
      simp only [modify_eq_alter, Bool.false_and, Bool.false_eq_true, ↓reduceIte]
    | .tables [] => rfl
    | .tables (latest :: earlier) => rfl

/-- A longer path leads on from where a shorter one ends. -/
theorem alter_concat (change : Entries → Option Entries) (path : List String) (name : String)
    (root : Entries) :
    root.alter change (path ++ [name]) = root.alter (alter change [name]) path := by
  induction path generalizing root with
  | nil => rfl
  | cons first path ih => simp only [List.cons_append, alter_cons, ih]

/-- A path of one name leads into a table that stands last. -/
theorem alter_last_table (fresh : name ∉ namesOf before) (kind : TableKind) (inner : Entries)
    (change : Entries → Option Entries) :
    alter change [name] (before ++ [(name, .table kind inner)]) =
      (change inner).map fun inner => before ++ [(name, .table kind inner)] := by
  rw [alter_cons, lookup_concat fresh]
  simp only [replace_concat fresh]
  rfl

/-- A path of one name leads into the latest table of a list that stands last. -/
theorem alter_last_tables (fresh : name ∉ namesOf before) (inner : Entries)
    (earlier : List Entries) (change : Entries → Option Entries) :
    alter change [name] (before ++ [(name, .tables (inner :: earlier))]) =
      (change inner).map fun inner => before ++ [(name, .tables (inner :: earlier))] := by
  rw [alter_cons, lookup_concat fresh]
  simp only [replace_concat fresh]
  rfl

/-- A path of one name makes the table that it leads into. -/
theorem alter_absent (fresh : name ∉ namesOf before) (change : Entries → Option Entries) :
    alter change [name] before =
      (change []).map fun inner => before ++ [(name, .table .passed inner)] := by
  rw [alter_cons, lookup_eq_none fresh]
  rfl

/-- A name that is not given can be assigned. -/
theorem assign_fresh (fresh : name ∉ namesOf before) (value : Document) :
    assign [] name value before = some (before ++ [(name, .value value)]) := by
  simp [assign, modify, lookup_eq_none fresh]

/-- A table of a new name can be opened. -/
theorem openTable_fresh (fresh : name ∉ namesOf before) :
    openTable name before = some (before ++ [(name, .table .opened [])]) := by
  rw [openTable, lookup_eq_none fresh]

/-- A list of tables of a new name can be begun. -/
theorem openEach_fresh (fresh : name ∉ namesOf before) :
    openEach name before = some (before ++ [(name, .tables [[]])]) := by
  rw [openEach, lookup_eq_none fresh]

/-- A list of tables that stands last can be continued. -/
theorem openEach_last (fresh : name ∉ namesOf before) (earlier : List Entries) :
    openEach name (before ++ [(name, .tables earlier)]) =
      some (before ++ [(name, .tables ([] :: earlier))]) := by
  rw [openEach, lookup_concat fresh]
  simp only [replace_concat fresh]

end Entries

/-- What is done to the table at a path makes it as if the table were there with some entries. -/
def Reaches (root : Entries) (path : List String) (plug : Entries → Entries) (entries : Entries) :
    Prop := ∀ change, root.alter change path = (change entries).map plug

/-- What is done to the table at a path is done to one part of a whole. -/
def Focus (path : List String) (plug : Entries → Entries) : Prop :=
  ∀ entries, Reaches (plug entries) path plug entries

/-- A path that reaches a table leads on to what is in the table. -/
theorem Reaches.next {root : Entries} {path : List String} {plug wrap : Entries → Entries}
    {entries inner : Entries} {name : String} (reaches : Reaches root path plug entries)
    (step : ∀ change, entries.alter change [name] = (change inner).map wrap) :
    Reaches root (path ++ [name]) (fun inner => plug (wrap inner)) inner := by
  intro change
  rw [Entries.alter_concat, reaches, step, Option.map_map]
  rfl

section Draft

variable {path current : List String} {plug : Entries → Entries} {root entries : Entries}

/-- A header changes the table in which its last name stands. -/
theorem Draft.extend_header (reaches : Reaches root path plug entries) (isEach : Bool)
    (name : String) :
    Draft.extend ⟨root, current⟩ (.header isEach (path ++ [name])) =
      (if isEach then entries.openEach name else entries.openTable name).map
        fun entries => ⟨plug entries, path ++ [name]⟩ := by
  have changed := reaches fun entries =>
    if isEach then entries.openEach name else entries.openTable name
  rw [Entries.alter] at changed
  simp only [Draft.extend, List.getLast?_concat, List.dropLast_concat, changed, Option.map_map]
  rfl

/-- The tables of values. -/
def leaves (values : List (String × Document)) : Entries :=
  values.map fun (name, value) => (name, .value value)

/-- Assignments put their values at the end of the open table. -/
theorem foldlM_assignments (focus : Focus path plug) (values : List (String × Document))
    (distinct : (namesOf entries ++ namesOf values).Nodup) :
    (values.map fun (name, value) => Statement.assign [] name value).foldlM Draft.extend
        ⟨plug entries, path⟩ = some ⟨plug (entries ++ leaves values), path⟩ := by
  induction values generalizing entries with
  | nil => simp [leaves]
  | cons first values ih =>
    obtain ⟨name, value⟩ := first
    have fresh : name ∉ namesOf entries := by
      intro given
      exact List.disjoint_of_nodup_append distinct given (List.mem_cons_self ..)
    have assigned : Draft.extend ⟨plug entries, path⟩ (.assign [] name value) =
        some ⟨plug (entries ++ [(name, .value value)]), path⟩ := by
      have changed := focus entries (Entries.assign [] name value)
      rw [Entries.alter] at changed
      simp only [Draft.extend, changed, Entries.assign_fresh fresh, Option.map_some]
    rw [List.map_cons, List.foldlM_cons, assigned]
    refine (ih ?_).trans ?_
    · simpa [namesOf] using distinct
    · simp [leaves]

end Draft

/-- Entries and then others are entries of the document one after the other. -/
@[simp] theorem entriesDocument_append (front back : Entries) :
    entriesDocument (front ++ back) = entriesDocument front ++ entriesDocument back := by
  induction front with
  | nil => rfl
  | cons _ _ ih => rw [List.cons_append, entriesDocument, ih, entriesDocument, List.cons_append]

/-- Values that are leaves are entries of the document as they are. -/
@[simp] theorem entriesDocument_leaves (values : List (String × Document)) :
    entriesDocument (leaves values) = values := by
  induction values with
  | nil => rfl
  | cons _ _ ih =>
    rw [leaves, List.map_cons, ← leaves, entriesDocument, ih, Tree.document]

/-- Tables are the documents of their entries. -/
theorem tablesDocument_eq_map (tables : List Entries) :
    tablesDocument tables = tables.map fun entries => .table (entriesDocument entries) := by
  induction tables with
  | nil => rfl
  | cons _ _ ih => rw [tablesDocument, ih, List.map_cons]

/-- Tables in reverse are their documents in reverse. -/
theorem tablesDocument_reverse (tables : List Entries) :
    tablesDocument tables.reverse = (tablesDocument tables).reverse := by
  rw [tablesDocument_eq_map, tablesDocument_eq_map, List.map_reverse]

/-- The documents have the names of their trees. -/
theorem namesOf_eq_of_entriesDocument {entries : Entries} {documents : List (String × Document)}
    (same : entriesDocument entries = documents) : namesOf entries = namesOf documents := by
  subst same
  induction entries with
  | nil => rfl
  | cons entry _ ih => exact congrArg (entry.1 :: ·) ih

/-- Leaves have the names of their values. -/
@[simp] theorem namesOf_leaves (values : List (String × Document)) :
    namesOf (leaves values) = namesOf values :=
  namesOf_eq_of_entriesDocument (entriesDocument_leaves values)

/-- Some entries are tables or lists of tables. -/
def HoldTables (entries : List (String × Document)) : Prop :=
  entries.any (fun (_, value) => isTable value || isTables value) = true

/-- The statements of the tables among some entries build them behind what stands in a table. The
table comes to be at the first header within it, so before the first it need not be there. -/
def BuildTables (entries : List (String × Document)) : Prop :=
  ∀ ⦃path current : List String⦄ ⦃plug : Entries → Entries⦄ ⦃before root : Entries⦄,
    Focus path plug → Reaches root path plug before →
    (namesOf before ++ namesOf (arrangeTables entries)).Nodup →
    ∃ (trees : Entries) (draft : Draft),
      (inner path entries).foldlM Draft.extend ⟨root, current⟩ = some draft ∧
      entriesDocument trees = arrangeTables entries ∧
      Reaches draft.root path plug (before ++ trees) ∧
      (root = plug before ∨ HoldTables entries → draft.root = plug (before ++ trees))

/-- The statements of a table or a list of tables. -/
def entryLines (path : List String) : Document → List Statement
  | .table entries =>
    headerOf false path entries ++ assignments entries ++ inner path entries
  | .list items => if isTables (.list items) then sections path items else []
  | _ => []

/-- The lines of an entry come before those of the others. -/
theorem inner_cons (path : List String) (name : String) (value : Document)
    (rest : List (String × Document)) :
    inner path ((name, value) :: rest) = entryLines (path ++ [name]) value ++ inner path rest := by
  cases value <;> simp only [inner, entryLines]

/-- A value that is no section has no lines of its own. -/
theorem entryLines_of_value {path : List String} {value : Document}
    (isValue : (isTable value || isTables value) = false) : entryLines path value = [] := by
  cases value with
  | table entries => cases isValue
  | list items =>
    have noSections : isTables (.list items) = false := isValue
    rw [entryLines, noSections]
    rfl
  | _ => simp only [entryLines]

/-- The statements of a value build a document of any new name, behind what stands in a table. -/
def BuildEntry (value document : Document) : Prop :=
  ∀ ⦃path current : List String⦄ ⦃plug : Entries → Entries⦄ ⦃before root : Entries⦄
    ⦃name : String⦄,
    Focus path plug → Reaches root path plug before → name ∉ namesOf before →
    ∃ (tree : Tree) (draft : Draft),
      (entryLines (path ++ [name]) value).foldlM Draft.extend ⟨root, current⟩ = some draft ∧
      tree.document = document ∧ draft.root = plug (before ++ [(name, tree)])

/-- The statements of the tables of a list build them behind the earlier ones. -/
def BuildSections (items : List Document) : Prop :=
  ∀ ⦃path current : List String⦄ ⦃plug : Entries → Entries⦄ ⦃before entries root : Entries⦄
    ⦃name : String⦄ ⦃earlier : List Entries⦄,
    Focus path plug → name ∉ namesOf before → Reaches root path plug entries →
    entries.openEach name = some (before ++ [(name, .tables ([] :: earlier))]) →
    ∃ (trees : List Entries) (draft : Draft),
      (sections (path ++ [name]) items).foldlM Draft.extend ⟨root, current⟩ = some draft ∧
      tablesDocument trees = arrangeItems items ∧
      (root = plug (before ++ [(name, .tables earlier)]) ∨ items ≠ [] →
        draft.root = plug (before ++ [(name, .tables (trees.reverse ++ earlier))]))

section Build

variable {path current : List String} {plug : Entries → Entries} {before root : Entries}
  {name : String} {entries rest : List (String × Document)}

/-- The statements of a table after its header build the table. -/
theorem BuildTables.body (builds : BuildTables entries)
    (distinct : (namesOf (arrange entries)).Nodup) (focus : Focus path plug) :
    ∃ (trees : Entries) (draft : Draft),
      (assignments entries ++ inner path entries).foldlM Draft.extend ⟨plug [], path⟩
        = some draft ∧
      entriesDocument trees = arrange entries ∧ draft.root = plug trees := by
  have apart : (namesOf (valuesOf entries) ++ namesOf (arrangeTables entries)).Nodup := by
    rwa [arrange, namesOf, List.map_append] at distinct
  have assigned : (assignments entries).foldlM Draft.extend ⟨plug [], path⟩ =
      some ⟨plug (leaves (valuesOf entries)), path⟩ :=
    foldlM_assignments focus (valuesOf entries) (List.Nodup.of_append_left apart)
  obtain ⟨trees, draft, folded, documents, -, root_eq⟩ :=
    builds focus (focus (leaves (valuesOf entries))) (by rwa [namesOf_leaves])
  refine ⟨leaves (valuesOf entries) ++ trees, draft, ?_, ?_, root_eq (.inl rfl)⟩
  · rw [List.foldlM_append, assigned]
    exact folded
  · rw [arrange, ← documents, entriesDocument_append, entriesDocument_leaves]

/-- A table is built with or without a header of its own. -/
theorem BuildTables.table (builds : BuildTables entries)
    (distinct : (namesOf (arrange entries)).Nodup) :
    BuildEntry (.table entries) (.table (arrange entries)) := by
  intro path current plug before root name focus reaches fresh
  have within (kind : TableKind) :
      Focus (path ++ [name]) fun inner => plug (before ++ [(name, .table kind inner)]) :=
    fun inner => (focus _).next (Entries.alter_last_table fresh kind inner)
  by_cases isElided : (assignments entries).isEmpty = true ∧ HoldTables entries
  · -- without a header the table comes to be on the way to the first one in it
    have noHeader : headerOf false (path ++ [name]) entries = [] := by
      rw [headerOf, isElided.1, isElided.2]
      rfl
    have noAssignment : assignments entries = [] := List.isEmpty_iff.1 isElided.1
    have noValue : valuesOf entries = [] := List.map_eq_nil_iff.1 noAssignment
    obtain ⟨trees, draft, folded, documents, -, root_eq⟩ :=
      builds (within .passed) (reaches.next (Entries.alter_absent fresh))
        (by simpa [arrange, noValue] using distinct)
    refine ⟨.table .passed trees, draft, ?_, ?_, root_eq (.inr isElided.2)⟩
    · rw [entryLines, noHeader, noAssignment]
      exact folded
    · rw [Tree.document, documents, arrange, noValue, List.nil_append]
  · have header : headerOf false (path ++ [name]) entries = [.header false (path ++ [name])] := by
      rw [headerOf, if_neg]
      simpa [HoldTables] using isElided
    obtain ⟨trees, draft, folded, documents, root_eq⟩ := builds.body distinct (within .opened)
    refine ⟨.table .opened trees, draft, ?_, ?_, root_eq⟩
    · rw [entryLines, header, List.append_assoc, List.singleton_append, List.foldlM_cons,
        Draft.extend_header reaches, if_neg (by simp), Entries.openTable_fresh fresh]
      exact folded
    · rw [Tree.document, documents]

/-- A table after the earlier ones of its list, and then those after it. -/
theorem BuildSections.cons {items : List Document} (builds : BuildTables entries)
    (distinct : (namesOf (arrange entries)).Nodup) (others : BuildSections items) :
    BuildSections (.table entries :: items) := by
  intro path current plug before _ root name earlier focus fresh reaches opened
  have within (kept : List Entries) :
      Focus (path ++ [name]) fun inner => plug (before ++ [(name, .tables (inner :: kept))]) :=
    fun inner => (focus _).next (Entries.alter_last_tables fresh inner kept)
  obtain ⟨trees, draft, folded, documents, root_eq⟩ := builds.body distinct (within earlier)
  obtain ⟨more, last, foldedMore, documentsMore, last_eq⟩ :=
    others focus fresh (root_eq ▸ focus _) (Entries.openEach_last fresh (trees :: earlier))
  refine ⟨trees :: more, last, ?_, ?_, fun _ => ?_⟩
  · have header : Draft.extend ⟨root, current⟩ (.header true (path ++ [name])) =
        some ⟨plug (before ++ [(name, .tables ([] :: earlier))]), path ++ [name]⟩ := by
      rw [Draft.extend_header reaches, if_pos rfl, opened, Option.map_some]
    rw [sections, sectionOf, headerOf, if_neg (by simp), List.singleton_append, List.cons_append,
      List.cons_append, List.foldlM_cons, header, Option.bind_eq_bind, Option.bind_some,
      List.foldlM_append, folded]
    exact foldedMore
  · rw [tablesDocument, documents, documentsMore]
    rfl
  · rw [last_eq (.inl root_eq), List.reverse_cons, List.append_assoc, List.singleton_append]

/-- Nothing to build. -/
theorem BuildTables.nil : BuildTables [] := by
  intro path current plug before root focus reaches _
  refine ⟨[], ⟨root, current⟩, by rw [inner]; rfl, rfl, ?_, ?_⟩
  · rwa [List.append_nil]
  · rintro (found | holds)
    · rwa [List.append_nil]
    · simp [HoldTables] at holds

/-- What the first name stands for, and then the entries after it. -/
theorem BuildTables.cons {value document : Document}
    (arranged : arrangeSection value = some document)
    (built : BuildEntry value document) (others : BuildTables rest) :
    BuildTables ((name, value) :: rest) := by
  have read : arrangeTables ((name, value) :: rest) = (name, document) :: arrangeTables rest := by
    rw [arrangeTables, arranged]
    rfl
  intro path current plug before root focus reaches distinct
  rw [read] at distinct
  have fresh : name ∉ namesOf before := by
    intro given
    exact List.disjoint_of_nodup_append distinct given (List.mem_cons_self ..)
  obtain ⟨tree, draft, folded, treeDocument, root_eq⟩ := built focus reaches fresh
  obtain ⟨trees, last, foldedRest, documents, reachesLast, last_eq⟩ :=
    others focus (root_eq ▸ focus _ : Reaches draft.root _ _ _)
      (by simpa [namesOf] using distinct)
  refine ⟨(name, tree) :: trees, last, ?_, ?_, ?_, fun _ => ?_⟩
  · rw [inner_cons, List.foldlM_append, folded]
    exact foldedRest
  · rw [entriesDocument, treeDocument, documents, read]
  · simpa using reachesLast
  · simpa using last_eq (.inl root_eq)

/-- A value is not in the way of the tables. -/
theorem BuildTables.skip {value : Document} (arranged : arrangeSection value = none)
    (others : BuildTables rest) : BuildTables ((name, value) :: rest) := by
  have isValue := arrangeSection_eq_none_iff.mp arranged
  have skipped (path : List String) : inner path ((name, value) :: rest) = inner path rest := by
    rw [inner_cons, entryLines_of_value isValue, List.nil_append]
  have read : arrangeTables ((name, value) :: rest) = arrangeTables rest := by
    rw [arrangeTables, arranged]
    rfl
  have holds : HoldTables ((name, value) :: rest) ↔ HoldTables rest := by
    simp only [HoldTables, List.any_cons, isValue, Bool.false_or]
  intro path current plug before root focus reaches distinct
  rw [read] at distinct
  simp only [skipped, read, holds]
  exact others focus reaches distinct

/-- No tables follow. -/
theorem BuildSections.nil : BuildSections [] := by
  intro path current plug before entries root name earlier focus fresh reaches opened
  refine ⟨[], ⟨root, current⟩, by rw [sections]; rfl, rfl, ?_⟩
  rintro (same | none)
  · exact same
  · exact absurd rfl none

/-- A list of tables is built from its first table on. -/
theorem BuildSections.list {items : List Document} (builds : BuildSections items)
    (are : isTables (.list items) = true) :
    BuildEntry (.list items) (.list (arrangeItems items)) := by
  intro path current plug before root name focus reaches fresh
  have some_item : items ≠ [] := by
    rintro rfl
    simp [isTables] at are
  obtain ⟨trees, draft, folded, documents, root_eq⟩ :=
    builds focus fresh reaches (Entries.openEach_fresh fresh)
  refine ⟨.tables trees.reverse, draft, ?_, ?_, ?_⟩
  · rw [entryLines, if_pos are]
    exact folded
  · rw [Tree.document, tablesDocument_reverse, List.reverse_reverse, documents]
  · rw [root_eq (.inr some_item), List.append_nil]

end Build

mutual

/-- The statements of an orderly section build it. -/
theorem buildEntry_of_orderly : ∀ value, IsOrderly value → ∀ document,
    arrangeSection value = some document → BuildEntry value document
  | .table entries, orderly, _, arranged => by
    cases arranged
    exact (buildTables_of_orderly entries orderly.2).table (nodup_arrange orderly.1)
  | .list items, orderly, _, arranged => by
    rw [arrangeSection] at arranged
    split at arranged
    · rename_i are
      cases arranged
      have allTables : items.all isTable = true := (Bool.and_eq_true_iff.mp are).2
      exact (buildSections_of_orderly items orderly allTables).list are
    · cases arranged

/-- The statements of the tables among orderly entries build them. -/
theorem buildTables_of_orderly : ∀ entries, AreOrderly entries → BuildTables entries
  | [], _ => .nil
  | (_, value) :: rest, orderly => by
    have others := buildTables_of_orderly rest orderly.2
    cases arranged : arrangeSection value with
    | none => exact .skip arranged others
    | some document =>
      exact .cons arranged (buildEntry_of_orderly value orderly.1 document arranged) others

/-- The statements of a list of orderly tables build them. -/
theorem buildSections_of_orderly : ∀ items, AreOrderlyItems items → items.all isTable = true →
    BuildSections items
  | [], _, _ => .nil
  | .table entries :: rest, orderly, are => by
    rw [List.all_cons, Bool.and_eq_true] at are
    exact .cons (buildTables_of_orderly entries orderly.1.2) (nodup_arrange orderly.1.1)
      (buildSections_of_orderly rest orderly.2 are.2)

end

/-- What stands in the outermost table is all there is. -/
theorem focus_root : Focus [] fun entries => entries := by
  intro entries change
  rw [Option.map_id']
  rfl

/-- The statements of a document build it, with values before tables and without what is null. -/
theorem assemble_statementsOf {entries : List (String × Document)}
    (orderly : IsOrderly (.table entries)) :
    assemble (statementsOf (.table entries)) = some (.table (arrange entries)) := by
  obtain ⟨trees, draft, folded, documents, root_eq⟩ :=
    (buildTables_of_orderly entries orderly.2).body (nodup_arrange orderly.1) focus_root
  rw [statementsOf, assemble, Draft.empty, folded, Option.map_some, root_eq, documents]

end Standby.Toml
