import Standby.Document.Basic

/-!
# Trees of TOML

A TOML text is a sequence of statements: a header opens a table, and an assignment gives a name of
the open table a value. Names before the last one of a path lead through tables, which are made
where they are missing. A table is opened by one header at most; dotted names lead only through
tables that no header has opened, and assign only in tables that dotted names have made.
-/
namespace Standby.Toml

/-- A statement of a TOML text. -/
inductive Statement where
  /-- Open the table at a path, or a new table of the list of tables at a path. -/
  | header (isEach : Bool) (path : List String)
  /-- Give a name in the open table a value. -/
  | assign (path : List String) (name : String) (value : Document)

/-- How a table came to be. -/
inductive TableKind where
  /-- By a header of its own, or as the outermost table. -/
  | opened
  /-- By a header of a table within it. -/
  | passed
  /-- By a dotted name. -/
  | dotted
  deriving DecidableEq

/-- What a name stands for while statements are read. -/
inductive Tree where
  /-- A value. -/
  | value (document : Document)
  /-- A table. -/
  | table (kind : TableKind) (entries : List (String × Tree))
  /-- A list of tables, the latest first. -/
  | tables (latestFirst : List (List (String × Tree)))

/-- The names of a table. -/
abbrev Entries : Type := List (String × Tree)

namespace Entries

/-- A table with another meaning of one of its names. -/
def replace (entries : Entries) (name : String) (tree : Tree) : Entries :=
  entries.map fun entry => if entry.1 = name then (name, tree) else entry

/-- Change the table at the end of a path. A dotted path leads through no table that a header has
opened, and is at the origin of the tables that it makes. -/
def modify (isDotted : Bool) (change : TableKind → Entries → Option Entries) :
    List String → TableKind → Entries → Option Entries
  | [], kind, entries => change kind entries
  | name :: path, _, entries =>
    match entries.lookup name with
    | none =>
      let kind := if isDotted then .dotted else .passed
      (modify isDotted change path kind []).map fun inner =>
        entries ++ [(name, .table kind inner)]
    | some (.value _) => none
    | some (.table kind inner) =>
      if isDotted && kind == .opened then none
      else
        (modify isDotted change path kind inner).map fun inner =>
          entries.replace name (.table kind inner)
    | some (.tables []) => none
    | some (.tables (latest :: earlier)) =>
      (modify isDotted change path .opened latest).map fun latest =>
        entries.replace name (.tables (latest :: earlier))

/-- Give a name at the end of a dotted path a value, once. -/
def assign (path : List String) (name : String) (value : Document) (entries : Entries) :
    Option Entries :=
  modify true (fun kind entries =>
    if (kind == .dotted) == path.isEmpty then none
    else if (entries.lookup name).isSome then none
    else some (entries ++ [(name, .value value)])) path .opened entries

/-- Open a table by its last name. -/
def openTable (name : String) (entries : Entries) : Option Entries :=
  match entries.lookup name with
  | none => some (entries ++ [(name, .table .opened [])])
  | some (.table .passed inner) => some (entries.replace name (.table .opened inner))
  | some _ => none

/-- Open a new table in a list of tables by its last name. -/
def openEach (name : String) (entries : Entries) : Option Entries :=
  match entries.lookup name with
  | none => some (entries ++ [(name, .tables [[]])])
  | some (.tables earlier) => some (entries.replace name (.tables ([] :: earlier)))
  | some _ => none

end Entries

/-- The outermost table, and the path of the open one. -/
structure Draft where
  /-- The outermost table. -/
  root : Entries
  /-- The path of the open table. -/
  current : List String

namespace Draft

/-- Nothing was read. -/
def empty : Draft := ⟨[], []⟩

/-- The draft after a statement, if the statement is in order. -/
def extend (draft : Draft) : Statement → Option Draft
  | .header isEach path =>
    match path.getLast? with
    | none => none
    | some name =>
      let change (_ : TableKind) (entries : Entries) : Option Entries :=
        if isEach then entries.openEach name else entries.openTable name
      (draft.root.modify false change path.dropLast .opened).map fun root => ⟨root, path⟩
  | .assign path name value =>
    (draft.root.modify false (fun _ entries => Entries.assign path name value entries)
      draft.current .opened).map fun root => { draft with root }

end Draft

mutual

/-- The document of a tree. -/
def Tree.document : Tree → Document
  | .value document => document
  | .table _ entries => .table (entriesDocument entries)
  | .tables latestFirst => .list (tablesDocument latestFirst).reverse

/-- The documents of names. -/
def entriesDocument : List (String × Tree) → List (String × Document)
  | [] => []
  | (name, tree) :: rest => (name, tree.document) :: entriesDocument rest

/-- The documents of tables, in the order given. -/
def tablesDocument : List (List (String × Tree)) → List Document
  | [] => []
  | entries :: rest => .table (entriesDocument entries) :: tablesDocument rest

end

/-- The document that statements build, if they are in order. -/
def assemble (statements : List Statement) : Option Document :=
  (statements.foldlM Draft.extend .empty).map fun draft => .table (entriesDocument draft.root)

/-- The document of named values between braces, if they are in order. -/
def inlineDocument (pairs : List (List String × String × Document)) : Option Document :=
  (pairs.foldlM (fun entries (path, name, value) => Entries.assign path name value entries)
    ([] : Entries)).map fun entries => .table (entriesDocument entries)

end Standby.Toml
