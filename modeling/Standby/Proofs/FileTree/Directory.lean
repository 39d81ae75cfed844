import Standby.Proofs.FileTree.Walk
import Standby.Proofs.FileTree.Replacement

/-!
# Names in a directory

A path that is continued by a name leads through its directory (`EntersPath`), which is one place
of the tree, to what stands under the name there (`entry_joinPath`). The path leads to the same
place as long as directories stay directories and links stay links (`Retains`), whatever happens to
files.
-/
namespace Standby

open FileTree

section Paths

variable {directory name : String}

/-- A path without a slash is relative. -/
theorem isAbsolutePath_of_unslashed (unslashed : '/' ∉ name.toList) :
    isAbsolutePath name = false := by
  rw [isAbsolutePath]
  cases characters : name.toList with
  | nil => rfl
  | cons first rest =>
    have notSlash : first ≠ '/' := by
      rintro rfl
      exact unslashed (by simp [characters])
    simpa using notSlash

/-- A path without slashes is its only part. -/
theorem pathParts_of_unslashed (unslashed : '/' ∉ name.toList) : pathParts name = [name] := by
  have single : name.toList.splitOnP (· == '/') = [name.toList] := by
    rw [List.splitOnP_eq_singleton]
    intro character member
    rw [beq_eq_false_iff_ne]
    rintro rfl
    exact unslashed member
  rw [pathParts, single, List.map_singleton, String.ofList_toList]

/-- A name of an entry of a directory: one step of a path. -/
structure IsEntryName (name : String) : Prop extends IsName name where
  /-- A name is no way through several directories. -/
  unslashed : '/' ∉ name.toList
  /-- A name is not empty. -/
  nonempty : name ≠ ""

namespace IsEntryName

/-- The name of an entry is not empty. -/
theorem toList_ne_nil (entry : IsEntryName name) : name.toList ≠ [] := by
  intro empty
  exact entry.nonempty (String.toList_inj.mp empty)

/-- The name of an entry is a relative path. -/
theorem not_isAbsolutePath (entry : IsEntryName name) : isAbsolutePath name = false :=
  isAbsolutePath_of_unslashed entry.unslashed

/-- The name of an entry is its only part. -/
theorem pathParts_eq (entry : IsEntryName name) : pathParts name = [name] :=
  pathParts_of_unslashed entry.unslashed

end IsEntryName

/-- The parts of two paths with a slash between them. -/
theorem pathParts_append (base path : String) :
    pathParts (base ++ "/" ++ path) = pathParts base ++ pathParts path := by
  have slash : (base ++ "/" ++ path).toList = base.toList ++ '/' :: path.toList := by
    simp [String.toList_append]
  rw [pathParts, slash, List.splitOnP_append_cons _ _ (by rfl), List.map_append]
  rfl

/-- A directory's path continued by a relative path takes the steps of both. -/
theorem steps_joinPath_of_relative {path : String} (relative : isAbsolutePath path = false)
    (directory : String) :
    (Route.ofPath (joinPath directory path)).steps =
      (Route.ofPath directory).steps ++ (Route.ofPath path).steps := by
  have joined (base : String) : (pathParts (base ++ "/" ++ path)).filter (· != "") =
      (pathParts base).filter (· != "") ++ (pathParts path).filter (· != "") := by
    rw [pathParts_append, List.filter_append]
  rw [joinPath, relative, if_neg Bool.false_ne_true]
  simp only [Route.ofPath]
  split
  · rename_i short
    rw [Bool.or_eq_true] at short
    rcases short with empty | trailing
    · have none_left : directory = "" := by simpa using empty
      rw [none_left, String.empty_append]
      rfl
    · -- The slash at the end of the directory's path is the one between the two.
      obtain ⟨base, rfl⟩ : ∃ base : String, directory = base ++ "/" := by
        have last : directory.toList.getLast? = some '/' := by simpa using trailing
        obtain ⟨before, split⟩ := List.getLast?_eq_some_iff.mp last
        refine ⟨.ofList before, String.toList_inj.mp ?_⟩
        rw [split, String.toList_append, String.toList_ofList]
        rfl
      have ended : (pathParts (base ++ "/")).filter (· != "") =
          (pathParts base).filter (· != "") := by
        have split := pathParts_append base ""
        rw [String.append_empty] at split
        rw [split, List.filter_append]
        simp [pathParts]
      rw [joined, ended]
  · exact joined directory

/-- A directory's path continued by a name takes one more step. -/
theorem steps_joinPath (entry : IsEntryName name) (directory : String) :
    (Route.ofPath (joinPath directory name)).steps =
      (Route.ofPath directory).steps ++ [name] := by
  have single : (Route.ofPath name).steps = [name] := by
    rw [Route.ofPath, entry.pathParts_eq]
    simp [entry.nonempty]
  rw [steps_joinPath_of_relative entry.not_isAbsolutePath, single]

/-- A directory's path continued by a relative path begins where it did. -/
theorem isAbsolute_joinPath {path : String} (relative : isAbsolutePath path = false)
    (directory : String) :
    (Route.ofPath (joinPath directory path)).isAbsolute = (Route.ofPath directory).isAbsolute := by
  simp only [Route.ofPath]
  rw [joinPath, relative, if_neg Bool.false_ne_true]
  by_cases empty : directory = ""
  · rw [empty]
    exact relative
  · have filled : directory.toList ≠ [] := fun none_left =>
      empty (String.toList_inj.mp none_left)
    obtain ⟨first, rest, characters⟩ := List.exists_cons_of_ne_nil filled
    split <;> simp [isAbsolutePath, String.toList_append, characters]

/-- The path of an entry is not empty. -/
theorem joinPath_ne_empty (entry : IsEntryName name) (directory : String) :
    (joinPath directory name).isEmpty = false := by
  rw [Bool.eq_false_iff]
  intro empty
  have steps := steps_joinPath entry directory
  rw [String.isEmpty_iff.mp empty] at steps
  exact absurd steps (by simp [Route.ofPath, pathParts])

/-- A path that ends with a name does not end with a slash. -/
theorem isTrailing_joinPath (entry : IsEntryName name) (directory : String) :
    (Route.ofPath (joinPath directory name)).isTrailing = false := by
  have ends (base : String) : ((base ++ name).toList.getLast? == some '/') = false := by
    have filled := entry.toList_ne_nil
    rw [String.toList_append, List.getLast?_append, List.getLast?_eq_some_getLast filled,
      Option.some_or, beq_eq_false_iff_ne]
    intro last
    exact entry.unslashed (Option.some.inj last ▸ List.getLast_mem filled)
  simp only [Route.ofPath]
  rw [joinPath, entry.not_isAbsolutePath, if_neg Bool.false_ne_true]
  split
  · exact ends directory
  · exact ends (directory ++ "/")

end Paths

namespace FileTree

/-- Where the walk of a route begins. -/
def start (tree : FileTree) (route : Route) : Place := if route.isAbsolute then [] else tree.home

/-- Steps lead from one place through directories and links to another, from which a walk can go on
with the links that are left. -/
inductive Enters (tree : FileTree) (place : Place) (left : Nat) : Nat → Place → List String → Prop
  where
  /-- No more steps. -/
  | done : Enters tree place left left place []
  /-- A step that stays. -/
  | stay {links : Nat} {here : Place} {rest : List String} :
    Enters tree place left links here rest → Enters tree place left links here ("." :: rest)
  /-- A step up. -/
  | up {links : Nat} {here : Place} {rest : List String} :
    Enters tree place left links here.dropLast rest →
      Enters tree place left links here (".." :: rest)
  /-- A step to a directory. -/
  | enter {links : Nat} {here : Place} {step : String} {rest : List String} {mode : Nat}
    (named : IsName step) (directory : tree.node? (here ++ [step]) = some (.directory mode)) :
    Enters tree place left links (here ++ [step]) rest →
      Enters tree place left links here (step :: rest)
  /-- A step to a link, which is followed. -/
  | follow {links : Nat} {here : Place} {step target : String} {rest : List String}
    (named : IsName step) (link : tree.node? (here ++ [step]) = some (.link target)) :
    Enters tree place left links (if (Route.ofPath target).isAbsolute then [] else here)
        ((Route.ofPath target).wholeSteps ++ rest) →
      Enters tree place left (links + 1) here (step :: rest)

section Enters

variable {tree : FileTree} {place found : Place} {left links : Nat} {here : Place}
  {steps tail : List String} {followLast : Bool} {node : Option FileNode} {name : String}

/-- A walk through a place goes on from there. -/
theorem Enters.walk_append (enters : Enters tree place left links here steps)
    (followLast : Bool) (more : tail ≠ []) :
    tree.walk followLast links here (steps ++ tail) =
      tree.walk followLast left place tail := by
  induction enters with
  | done => rfl
  | stay _ ih => rw [List.cons_append, walk_stay, ih]
  | up _ ih => rw [List.cons_append, walk_up, ih]
  | enter named directory _ ih => rw [List.cons_append, walk_enter named directory, ih]
  | @follow _ _ _ _ rest named link _ ih =>
    have followed : ((rest ++ tail).isEmpty && !followLast) = false := by simp [more]
    rw [List.cons_append, walk_follow named link followed, ← List.append_assoc, ih]

/-- A walk that leads somewhere enters a place on its way. -/
theorem Leads.enters (leads : Leads tree followLast found node links here (steps ++ tail))
    (more : tail ≠ []) :
    ∃ place left, Enters tree place left links here steps ∧
      Leads tree followLast found node left place tail := by
  generalize all : steps ++ tail = route at leads
  -- Either the steps are over, and the walk goes on from here, or they begin with the same step.
  induction leads generalizing steps with
  | done => exact absurd (List.append_eq_nil_iff.mp all).2 more
  | stay rest ih =>
    rcases List.append_eq_cons_iff.mp all with ⟨rfl, rfl⟩ | ⟨steps, rfl, rfl⟩
    · exact ⟨_, _, .done, .stay rest⟩
    · obtain ⟨place, left, enters, onward⟩ := ih rfl
      exact ⟨place, left, .stay enters, onward⟩
  | up rest ih =>
    rcases List.append_eq_cons_iff.mp all with ⟨rfl, rfl⟩ | ⟨steps, rfl, rfl⟩
    · exact ⟨_, _, .done, .up rest⟩
    · obtain ⟨place, left, enters, onward⟩ := ih rfl
      exact ⟨place, left, .up enters, onward⟩
  | enter named directory rest ih =>
    rcases List.append_eq_cons_iff.mp all with ⟨rfl, rfl⟩ | ⟨steps, rfl, rfl⟩
    · exact ⟨_, _, .done, .enter named directory rest⟩
    · obtain ⟨place, left, enters, onward⟩ := ih rfl
      exact ⟨place, left, .enter named directory enters, onward⟩
  | reach named arrives there noDirectory unfollowed =>
    rcases List.append_eq_cons_iff.mp all with ⟨rfl, rfl⟩ | ⟨steps, rfl, ended⟩
    · exact ⟨_, _, .done, .reach named arrives there noDirectory unfollowed⟩
    · exact absurd (List.append_eq_nil_iff.mp ended.symm).2 more
  | follow named link followed rest ih =>
    rcases List.append_eq_cons_iff.mp all with ⟨rfl, rfl⟩ | ⟨steps, rfl, rfl⟩
    · exact ⟨_, _, .done, .follow named link followed rest⟩
    · obtain ⟨place, left, enters, onward⟩ := ih (List.append_assoc _ steps tail)
      exact ⟨place, left, .follow named link enters, onward⟩

/-- A walk that follows every link ends where its steps lead. -/
theorem Enters.walk (enters : Enters tree place left links here steps) :
    tree.walk true links here steps = .ok (place, tree.node? place) := by
  induction enters with
  | done => exact walk_nil
  | stay _ ih => rw [walk_stay, ih]
  | up _ ih => rw [walk_up, ih]
  | enter named directory _ ih => rw [walk_enter named directory, ih]
  | follow named link _ ih => rw [walk_follow named link (Bool.and_false _), ih]

/-- A walk to a directory enters it. -/
theorem Leads.enters_directory {mode : Nat}
    (leads : Leads tree followLast place (some (.directory mode)) links here steps) :
    ∃ left, Enters tree place left links here steps := by
  induction leads with
  | done => exact ⟨_, .done⟩
  | stay _ ih => exact ih.imp fun _ => .stay
  | up _ ih => exact ih.imp fun _ => .up
  | enter named directory _ ih => exact ih.imp fun _ => .enter named directory
  | reach _ _ _ noDirectory _ => exact absurd rfl (noDirectory mode)
  | follow named link _ _ ih => exact ih.imp fun _ => .follow named link

/-- Without links and steps up, a walk stays under its beginning. -/
theorem Leads.under (leads : Leads tree followLast found node links here steps)
    (inward : ".." ∉ steps)
    (linkless : ∀ name rest target, tree.node? (here ++ name :: rest) ≠ some (.link target)) :
    ∃ names, found = here ++ names := by
  induction leads with
  | done => exact ⟨[], (List.append_nil _).symm⟩
  | stay _ ih => exact ih (fun up => inward (List.mem_cons_of_mem _ up)) linkless
  | up => exact absurd List.mem_cons_self inward
  | @enter _ here step _ _ _ _ _ ih =>
    obtain ⟨names, rfl⟩ := ih (fun up => inward (List.mem_cons_of_mem _ up))
      fun name rest target => by simpa using linkless step (name :: rest) target
    exact ⟨step :: names, by simp⟩
  | reach _ arrives => exact ⟨_, arrives.symm⟩
  | follow _ link => exact absurd link (linkless _ _ _)

/-- Steps that are taken stay, go up or are names. -/
theorem Enters.isName_of_mem (enters : Enters tree place left links here steps)
    (member : name ∈ steps) : name = "." ∨ name = ".." ∨ IsName name := by
  induction enters with
  | done => cases member
  | stay _ ih =>
    rcases List.mem_cons.mp member with rfl | later
    · exact .inl rfl
    · exact ih later
  | up _ ih =>
    rcases List.mem_cons.mp member with rfl | later
    · exact .inr (.inl rfl)
    · exact ih later
  | enter named _ _ ih =>
    rcases List.mem_cons.mp member with rfl | later
    · exact .inr (.inr named)
    · exact ih later
  | follow named _ _ ih =>
    rcases List.mem_cons.mp member with rfl | later
    · exact .inr (.inr named)
    · exact ih (List.mem_append_right _ later)

/-- A step to a name ends at the name, if links are not followed. -/
theorem walk_name (named : IsName name) (tree : FileTree) (links : Nat) (here : Place) :
    tree.walk false links here [name] =
      .ok (here ++ [name], tree.node? (here ++ [name])) := by
  cases there : tree.node? (here ++ [name]) with
  | none => rw [walk_absent named there, List.isEmpty_nil, if_pos rfl]
  | some node =>
    cases node with
    | file => rw [walk_file named there, List.isEmpty_nil, if_pos rfl]
    | directory => rw [walk_enter named there, walk_nil, there]
    | link => exact walk_link named there rfl

end Enters

/-- The path of a directory leads to a place, from which a walk can go on. -/
def EntersPath (tree : FileTree) (directory : String) (place : Place) (left : Nat) : Prop :=
  tree.Enters place left linkLimit (tree.start (.ofPath directory)) (Route.ofPath directory).steps

section EntersPath

variable {tree : FileTree} {directory name : String} {place other found : Place}
  {left more : Nat} {node : Option FileNode}

/-- To follow a sound route is to walk from where it begins. -/
theorem follow_eq_walk_start {route : Route} (sound : route.isSound = true)
    (some_step : route.isEmpty = false) (tree : FileTree) (followLast : Bool)
    (steps : List String) :
    tree.follow followLast route steps =
      tree.walk followLast linkLimit (tree.start route) steps :=
  follow_eq_walk sound some_step tree followLast steps

/-- The path of the root leads to the root. -/
theorem entersPath_root (tree : FileTree) : tree.EntersPath "/" [] linkLimit := by
  have steps : (Route.ofPath "/").steps = [] := by decide +kernel
  have start : tree.start (.ofPath "/") = [] := by
    rw [FileTree.start, if_pos (by decide +kernel)]
  rw [EntersPath, steps, start]
  exact .done

/-- A path that leads to a directory enters it. -/
theorem entersPath_of_locate {followLast : Bool} {mode : Nat}
    (located : tree.locate followLast (.ofPath directory) = .ok (place, some (.directory mode))) :
    ∃ left, tree.EntersPath directory place left := by
  obtain ⟨sound, some_step⟩ := isSound_of_follow located
  rw [locate, follow_eq_walk_start sound some_step, Route.wholeSteps] at located
  split at located
  · obtain ⟨other, left, enters, -⟩ :=
      (leads_of_walk located).enters (List.cons_ne_nil "." [])
    have arrived := enters.walk_append followLast (List.cons_ne_nil "." [])
    rw [located, walk_stay, walk_nil] at arrived
    have same : other = place := (congrArg Prod.fst (Except.ok.inj arrived)).symm
    exact ⟨left, same ▸ enters⟩
  · exact (leads_of_walk located).enters_directory

/-- What a route leads to stands in the place that it leads to. -/
theorem node?_of_locate {route : Route} {followLast : Bool}
    (located : tree.locate followLast route = .ok (place, node)) : tree.node? place = node := by
  obtain ⟨sound, some_step⟩ := isSound_of_follow located
  rw [locate, follow_eq_walk sound some_step] at located
  exact (leads_of_walk located).node_eq

/-- A path that enters a directory leads to it. -/
theorem EntersPath.locate_directory (enters : tree.EntersPath directory place left)
    (sound : (Route.ofPath directory).isSound = true)
    (some_step : (Route.ofPath directory).isEmpty = false) :
    tree.locate true (.ofPath directory) = .ok (place, tree.node? place) := by
  rw [locate, follow_eq_walk_start sound some_step, Route.wholeSteps]
  split
  · have walked := Enters.walk_append enters true (List.cons_ne_nil "." [])
    rw [walk_stay, walk_nil] at walked
    exact walked
  · exact Enters.walk enters

/-- The path of an entry begins where that of its directory does. -/
theorem start_joinPath {path : String} (relative : isAbsolutePath path = false)
    (tree : FileTree) (directory : String) :
    tree.start (.ofPath (joinPath directory path)) = tree.start (.ofPath directory) := by
  rw [start, isAbsolute_joinPath relative, start]

/-- The last step to an entry is its name. -/
theorem wholeSteps_joinPath (entry : IsEntryName name) (directory : String) :
    (Route.ofPath (joinPath directory name)).wholeSteps =
      (Route.ofPath directory).steps ++ [name] := by
  rw [Route.wholeSteps, isTrailing_joinPath entry, if_neg Bool.false_ne_true,
    steps_joinPath entry]

/-- A route that ends with a name has a step. -/
theorem isEmpty_joinPath (entry : IsEntryName name) (directory : String) :
    (Route.ofPath (joinPath directory name)).isEmpty = false := by
  rw [Route.isEmpty, steps_joinPath entry]
  simp

/-- A route to a name in a directory is walked to the directory and one step on. -/
theorem EntersPath.follow_joinPath (enters : tree.EntersPath directory place left)
    (entry : IsEntryName name) (sound : (Route.ofPath (joinPath directory name)).isSound = true)
    (followLast : Bool) :
    tree.follow followLast (.ofPath (joinPath directory name))
        ((Route.ofPath directory).steps ++ [name]) =
      tree.walk followLast left place [name] := by
  rw [follow_eq_walk_start sound (isEmpty_joinPath entry directory)]
  have walked := Enters.walk_append enters followLast (List.cons_ne_nil name [])
  rw [← start_joinPath entry.not_isAbsolutePath] at walked
  exact walked

/-- What stands under a name in a directory. -/
theorem EntersPath.entry_joinPath (enters : tree.EntersPath directory place left)
    (entry : IsEntryName name)
    (sound : (Route.ofPath (joinPath directory name)).isSound = true) :
    tree.entry (.ofPath (joinPath directory name)) =
      .ok (place ++ [name], tree.node? (place ++ [name])) := by
  rw [FileTree.entry, steps_joinPath entry, enters.follow_joinPath entry sound,
    walk_name entry.toIsName]

/-- Where nothing stands under a name in a directory, nothing is found. -/
theorem EntersPath.status_joinPath_of_absent (enters : tree.EntersPath directory place left)
    (entry : IsEntryName name) (sound : (Route.ofPath (joinPath directory name)).isSound = true)
    (absent : tree.node? (place ++ [name]) = none) :
    tree.status false (.ofPath (joinPath directory name)) = .error .notFound := by
  have named := enters.entry_joinPath entry sound
  rw [absent, FileTree.entry, steps_joinPath entry] at named
  rw [FileTree.status, locate, wholeSteps_joinPath entry, named]

/-- What is found under a name stands in the directory that the path leads to. -/
theorem entersPath_of_entry (entry : IsEntryName name)
    (named : tree.entry (.ofPath (joinPath directory name)) = .ok (found, node)) :
    ∃ place left, tree.EntersPath directory place left ∧ found = place ++ [name] ∧
      node = tree.node? found ∧
      (Route.ofPath (joinPath directory name)).isSound = true := by
  have sound := (isSound_of_follow named).1
  have leads := leads_of_entry named
  rw [steps_joinPath entry, isAbsolute_joinPath entry.not_isAbsolutePath] at leads
  obtain ⟨place, left, enters, -⟩ := leads.enters (List.cons_ne_nil name [])
  have here : tree.EntersPath directory place left := enters
  have same := here.entry_joinPath entry sound
  rw [named] at same
  obtain ⟨rfl, rfl⟩ := Prod.mk.inj (Except.ok.inj same)
  exact ⟨place, left, here, rfl, rfl, sound⟩

/-- A path leads to one place. -/
theorem EntersPath.place_eq (enters : tree.EntersPath directory place left)
    (again : tree.EntersPath directory other more) : place = other := by
  have one := Enters.walk_append enters false (List.cons_ne_nil "." [])
  have two := Enters.walk_append again false (List.cons_ne_nil "." [])
  rw [walk_stay, walk_nil] at one two
  exact congrArg Prod.fst (Except.ok.inj (one.symm.trans two))

/-- A route to a name leads to what stands there, unless this is a link. -/
theorem EntersPath.locate_joinPath (enters : tree.EntersPath directory place left)
    (entry : IsEntryName name) (sound : (Route.ofPath (joinPath directory name)).isSound = true)
    (noLink : ∀ target, tree.node? (place ++ [name]) ≠ some (.link target)) :
    tree.locate true (.ofPath (joinPath directory name)) =
      .ok (place ++ [name], tree.node? (place ++ [name])) := by
  rw [locate, wholeSteps_joinPath entry, enters.follow_joinPath entry sound]
  cases there : tree.node? (place ++ [name]) with
  | none => rw [walk_absent entry.toIsName there, List.isEmpty_nil, if_pos rfl]
  | some node =>
    cases node with
    | file => rw [walk_file entry.toIsName there, List.isEmpty_nil, if_pos rfl]
    | directory => rw [walk_enter entry.toIsName there, walk_nil, there]
    | link target => exact absurd there (noLink target)

/-- A path that no file system takes is not read. -/
theorem read_of_unsound {route : Route} (unsound : route.isSound = false) (tree : FileTree) :
    tree.read route = .error .badName := by
  rw [FileTree.read, status, locate, follow, unsound]
  rfl

/-- A directory in a directory is entered. -/
theorem EntersPath.joinPath (enters : tree.EntersPath directory place left)
    (entry : IsEntryName name) (sound : (Route.ofPath (joinPath directory name)).isSound = true)
    {mode : Nat} (there : tree.node? (place ++ [name]) = some (.directory mode)) :
    ∃ left, tree.EntersPath (Standby.joinPath directory name) (place ++ [name]) left := by
  have located := enters.locate_joinPath entry sound (by simp [there])
  rw [there] at located
  exact entersPath_of_locate located

end EntersPath

/-- Directories stay directories and links stay links, so that what led somewhere leads there
still. -/
structure Retains (before after : FileTree) : Prop where
  /-- Relative routes begin where they did. -/
  home : after.home = before.home
  /-- A directory stays, whatever its permission bits. -/
  directory : ∀ place mode, before.node? place = some (.directory mode) →
    ∃ mode, after.node? place = some (.directory mode)
  /-- A link stays. -/
  link : ∀ place target, before.node? place = some (.link target) →
    after.node? place = some (.link target)

namespace Retains

variable {before middle after tree : FileTree} {place : Place} {left : Nat} {directory : String}

/-- A walk that enters a directory enters it still. -/
theorem enters {links : Nat} {here : Place} {steps : List String}
    (retains : Retains before after) (enters : Enters before place left links here steps) :
    Enters after place left links here steps := by
  induction enters with
  | done => exact .done
  | stay _ ih => exact .stay ih
  | up _ ih => exact .up ih
  | enter named there _ ih =>
    obtain ⟨mode, there⟩ := retains.directory _ _ there
    exact .enter named there ih
  | follow named there _ ih => exact .follow named (retains.link _ _ there) ih

/-- A path leads where it did. -/
theorem entersPath (retains : Retains before after)
    (enters : before.EntersPath directory place left) :
    after.EntersPath directory place left := by
  have begins : after.start (.ofPath directory) = before.start (.ofPath directory) := by
    rw [start, retains.home, start]
  rw [EntersPath, begins]
  exact retains.enters enters

end Retains

/-- A file, or nothing: what can be put or removed without a change of any way. -/
def IsLeaf : Option FileNode → Prop
  | none => True
  | some (.file ..) => True
  | some _ => False

/-- A change of a leaf changes no way. -/
theorem retains_of_leaf {before after : FileTree} {place : Place} (home : after.home = before.home)
    (leaf : IsLeaf (before.node? place))
    (elsewhere : ∀ sought, sought ≠ place → after.node? sought = before.node? sought) :
    Retains before after := by
  have apart {sought : Place} {node : FileNode} (there : before.node? sought = some node)
      (noLeaf : ¬ IsLeaf (some node)) : after.node? sought = some node := by
    rw [elsewhere sought, there]
    rintro rfl
    rw [there] at leaf
    exact noLeaf leaf
  exact ⟨home, fun sought mode there => ⟨mode, apart there id⟩, fun sought target there =>
    apart there id⟩

/-- A file can be put in the place of a leaf. -/
theorem retains_put {tree : FileTree} {place : Place} (leaf : IsLeaf (tree.node? place))
    (node : FileNode) : Retains tree (tree.put place node) :=
  retains_of_leaf rfl leaf fun _ apart => node?_put_of_ne tree node apart

/-- A leaf can be removed. -/
theorem retains_delete {tree : FileTree} {place : Place} (leaf : IsLeaf (tree.node? place)) :
    Retains tree (tree.delete place) :=
  retains_of_leaf rfl leaf fun _ apart => node?_delete_of_ne tree apart

end FileTree
end Standby
