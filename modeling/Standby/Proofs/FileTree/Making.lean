import Mathlib.Data.List.Induction
import Standby.Proofs.FileTree.Acquisition

/-!
# Directories that are made

A directory that is made is one that its path leads to
(`Disk.isDirectory_of_makeDirectories`). On a disk that works, the directories on the way of a path
are made unless a file or a link stands in the way (`Disk.makeDirectories_of_passable`).
-/
namespace Standby

open FileTree

namespace FileTree

variable {tree after : FileTree} {path directory name : String} {place : Place} {left : Nat}

/-- Steps to a place where nothing stands lead there once a directory is made in the place. -/
theorem Leads.enters_made {links : Nat} {here : Place} {steps : List String} (mode : Nat)
    (leads : Leads tree false place none links here steps) :
    ∃ left, Enters (tree.put place (.directory mode)) place left links here steps := by
  have absent := leads.node_eq
  have retains : Retains tree (tree.put place (.directory mode)) :=
    retains_put (by rw [absent]; trivial) _
  have inside : place ≠ [] := by
    rintro rfl
    cases absent
  have made : (tree.put place (.directory mode)).node? place = some (.directory mode) := by
    rw [node?_put _ _ _ _ inside, if_pos rfl]
  induction leads with
  | done => exact ⟨_, .done⟩
  | stay _ ih => exact ih.imp fun _ => .stay
  | up _ ih => exact ih.imp fun _ => .up
  | enter named directory _ ih =>
    obtain ⟨mode, directory⟩ := retains.directory _ _ directory
    exact ih.imp fun _ => .enter named directory
  | reach named arrives =>
    subst arrives
    exact ⟨_, .enter named made .done⟩
  | follow named link _ _ ih => exact ih.imp fun _ => .follow named (retains.link _ _ link)

/-- A directory that is made is one that its path leads to. -/
theorem isDirectory_of_makeDirectory (made : tree.makeDirectory (.ofPath path) = .ok after) :
    after.isDirectory (.ofPath path) = true := by
  rw [makeDirectory] at made
  split at made
  · cases made
  · cases made
  · rename_i place found
    cases made
    obtain ⟨sound, some_step⟩ := isSound_of_follow found
    have leads := leads_of_entry found
    have absent := leads.node_eq
    have inside : place ≠ [] := by
      rintro rfl
      cases absent
    obtain ⟨left, enters⟩ := leads.enters_made newDirectoryMode
    have entered : (tree.put place (.directory newDirectoryMode)).EntersPath path place left :=
      enters
    rw [isDirectory, status, entered.locate_directory sound some_step,
      node?_put _ _ _ _ inside, if_pos rfl]

/-- A path at which a directory is found enters it. -/
theorem entersPath_of_status {followLast : Bool} {mode : Nat}
    (found : tree.status followLast (.ofPath path) = .ok (.directory mode)) :
    ∃ place left, tree.EntersPath path place left := by
  rw [status] at found
  split at found
  · cases found
  · cases found
  · rename_i place node located
    cases found
    exact ⟨place, entersPath_of_locate located⟩

/-- The permission bits of a directory can be set. -/
theorem setMode_of_isDirectory {route : Route} (directory : tree.isDirectory route = true)
    (mode : Nat) : ∃ after, tree.setMode route mode = .ok after := by
  rw [isDirectory, status] at directory
  rw [setMode]
  cases located : tree.locate true route with
  | error fault => simp [located] at directory
  | ok found =>
    obtain ⟨place, _ | node⟩ := found
    · simp [located] at directory
    · cases node with
      | directory => exact ⟨_, rfl⟩
      | _ => simp [located] at directory

/-- A path that leads to a directory enters it. -/
theorem entersPath_of_isDirectory (directory : tree.isDirectory (.ofPath path) = true) :
    ∃ place left, tree.EntersPath path place left := by
  rw [isDirectory] at directory
  split at directory
  · rename_i found
    exact entersPath_of_status found
  · cases directory

end FileTree

/-- Directories that are made are there in the end. -/
theorem Disk.isDirectory_of_makeDirectories {disk next : Disk} {path : String}
    (made : disk.makeDirectories path = (.ok (), next)) (named : path.isEmpty = false) :
    next.tree.isDirectory (.ofPath path) = true := by
  rw [makeDirectories, makeDirectories.go.eq_def] at made
  dsimp only at made
  rw [if_neg (Bool.eq_false_iff.mp named)] at made
  split at made
  · rename_i altered
    cases made
    exact isDirectory_of_makeDirectory (tree_of_alter altered)
  · split at made
    · split at made
      · cases made
      · split at made
        · rename_i altered
          cases made
          exact isDirectory_of_makeDirectory (tree_of_alter altered)
        · split at made
          · rename_i there
            cases made
            exact there
          · cases made
    · cases made
  · split at made
    · rename_i there
      cases made
      exact there
    · cases made

/-- No operation on a disk fails by itself. -/
def Disk.Works (disk : Disk) : Prop := ∀ operation, disk.outage operation = none

namespace Disk.Works

variable {disk : Disk}

/-- On a disk that works a question is answered by the tree. -/
theorem inquire (works : disk.Works) {α : Type} (operation : FileTree → Except IoFault α) :
    disk.inquire operation =
      (operation disk.tree, { disk with operations := disk.operations + 1 }) := by
  simp only [Disk.inquire, works disk.operations]

/-- On a disk that works a change is carried out on the tree, or refused by it. -/
theorem alter (works : disk.Works) (operation : FileTree → Except IoFault FileTree) :
    disk.alter operation =
      match operation disk.tree with
      | .error fault => (.error fault, { disk with operations := disk.operations + 1 })
      | .ok tree => (.ok (), { disk with tree, operations := disk.operations + 1 }) := by
  rw [Disk.alter]
  split
  · rename_i outage
    cases (works disk.operations).symm.trans outage
  · cases operation disk.tree <;> rfl

/-- A disk works on when directories have been made. -/
theorem of_makeDirectories (works : disk.Works) {path : String} {result : Except IoFault Unit}
    {next : Disk} (made : disk.makeDirectories path = (result, next)) : next.Works := by
  have outages := disk.outage_makeDirectories path
  rw [made] at outages
  exact fun operation => by rw [outages, works]

end Disk.Works

section Paths

variable {name last : String}

/-- The parts of a path between slashes are the path again. -/
theorem intercalate_pathParts (path : String) : "/".intercalate (pathParts path) = path := by
  have parts : path.toList.splitOnP (· == '/') = path.toList.splitOn '/' := rfl
  refine String.toList_inj.mp ?_
  rw [String.toList_intercalate, pathParts, List.map_map, parts]
  have same : String.toList ∘ String.ofList = id := funext fun _ => String.toList_ofList
  rw [same, List.map_id]
  exact List.intercalate_splitOn '/'

/-- The last part of a path that is continued by a name is the name. -/
theorem pathParts_joinPath (entry : IsEntryName name) (base : String) :
    ∃ front, pathParts (joinPath base name) = front ++ [name] := by
  have joined (base : String) : pathParts (base ++ "/" ++ name) = pathParts base ++ [name] := by
    rw [pathParts_append, entry.pathParts_eq]
  rw [joinPath, entry.not_isAbsolutePath, if_neg Bool.false_ne_true]
  split
  · rename_i short
    rw [Bool.or_eq_true] at short
    rcases short with empty | trailing
    · rw [String.isEmpty_iff.mp empty, String.empty_append]
      exact ⟨[], entry.pathParts_eq⟩
    · have last : base.toList.getLast? = some '/' := by simpa using trailing
      obtain ⟨before, split⟩ := List.getLast?_eq_some_iff.mp last
      have ended : base = .ofList before ++ "/" := by
        refine String.toList_inj.mp ?_
        rw [split, String.toList_append, String.toList_ofList]
        rfl
      rw [ended]
      exact ⟨_, joined _⟩
  · exact ⟨_, joined base⟩

/-- A name is no idle part. -/
theorem dropIdleParts_cons (entry : IsEntryName name) (rest : List String) :
    dropIdleParts (name :: rest) = name :: rest := by
  cases rest with
  | nil => rfl
  | cons => simp [dropIdleParts, entry.nonempty, entry.moves]

/-- A name in a directory that was named before is in that directory. -/
theorem parentPath?_joinPath (entry : IsEntryName name) (final : IsEntryName last)
    (base : String) :
    parentPath? (joinPath (joinPath base name) last) = some (joinPath base name) := by
  obtain ⟨front, parts⟩ := pathParts_joinPath entry base
  have ended : joinPath (joinPath base name) last = joinPath base name ++ "/" ++ last := by
    have untrailed := isTrailing_joinPath entry base
    simp only [Route.ofPath] at untrailed
    rw [joinPath, final.not_isAbsolutePath, if_neg Bool.false_ne_true, joinPath_ne_empty entry,
      untrailed]
    rfl
  have whole : (pathParts (joinPath (joinPath base name) last)).reverse =
      last :: name :: front.reverse := by
    rw [ended, pathParts_append, parts, final.pathParts_eq]
    simp
  have back : (name :: front.reverse).reverse = pathParts (joinPath base name) := by
    rw [parts, List.reverse_cons, List.reverse_reverse]
  rw [parentPath?, whole, dropIdleParts_cons final]
  simp only [dropIdleParts_cons entry, back]
  split
  · rename_i root
    rw [parts] at root
    exact absurd (by simpa using congrArg List.getLast? root) entry.nonempty
  · rw [intercalate_pathParts]

/-- A path that is continued is one that a file system takes only if the path itself is. -/
theorem isSound_of_joinPath (entry : IsEntryName name) {base : String}
    (sound : (Route.ofPath (joinPath base name)).isSound = true) :
    (Route.ofPath base).isSound = true := by
  have shorter : (Route.ofPath base).size ≤ (Route.ofPath (joinPath base name)).size := by
    simp only [Route.ofPath]
    rw [joinPath, entry.not_isAbsolutePath, if_neg Bool.false_ne_true]
    split <;> simp only [String.utf8ByteSize_append] <;> omega
  simp only [Route.isSound, steps_joinPath entry, List.all_append, Bool.and_eq_true,
    decide_eq_true_eq] at sound ⊢
  exact ⟨Nat.le_trans shorter sound.1, sound.2.1⟩

/-- The path of entries within one another is not empty. -/
theorem foldl_joinPath_ne_empty {names : List String} (entries : ∀ name ∈ names, IsEntryName name)
    (some_name : names ≠ []) (base : String) : (names.foldl joinPath base).isEmpty = false := by
  obtain ⟨front, name, rfl⟩ := List.eq_nil_or_concat names |>.resolve_left some_name
  rw [List.concat_eq_append] at entries ⊢
  rw [List.foldl_append]
  exact joinPath_ne_empty (entries name (by simp)) _

/-- A name in the directory of names is in that directory. -/
theorem parentPath?_foldl_joinPath {names : List String}
    (entries : ∀ name ∈ names, IsEntryName name) (some_name : names ≠ []) (entry : IsEntryName last)
    (base : String) :
    parentPath? (joinPath (names.foldl joinPath base) last) = some (names.foldl joinPath base) := by
  obtain ⟨front, name, rfl⟩ := List.eq_nil_or_concat names |>.resolve_left some_name
  rw [List.concat_eq_append] at entries ⊢
  rw [List.foldl_append]
  exact parentPath?_joinPath (entries name (by simp)) entry _

/-- Names continue a path by as many steps. -/
theorem steps_foldl_joinPath {names : List String} (entries : ∀ name ∈ names, IsEntryName name)
    (base : String) :
    (Route.ofPath (names.foldl joinPath base)).steps = (Route.ofPath base).steps ++ names := by
  induction names generalizing base with
  | nil => simp
  | cons name rest ih =>
    rw [List.foldl_cons, ih (fun other member => entries other (List.mem_cons_of_mem _ member)),
      steps_joinPath (entries name List.mem_cons_self), List.append_assoc]
    rfl

end Paths

namespace FileTree

variable {tree : FileTree} {here place found : Place} {left links more : Nat}
  {steps tail names : List String}

/-- Steps to a place and steps from there are steps all the way. -/
theorem Enters.trans (enters : Enters tree place left links here steps)
    (onward : Enters tree found more left place tail) :
    Enters tree found more links here (steps ++ tail) := by
  induction enters with
  | done => exact onward
  | stay _ ih => exact .stay ih
  | up _ ih => exact .up ih
  | enter named directory _ ih => exact .enter named directory ih
  | follow named link _ ih =>
    rw [List.append_assoc] at ih
    exact .follow named link ih

/-- Along names from a place nothing stands but directories: what is missing can be made. -/
def IsPassable (tree : FileTree) (place : Place) (names : List String) : Prop :=
  ∀ front name, front ++ [name] <+: names → ∀ node, tree.node? (place ++ front ++ [name]) =
    some node → ∃ mode, node = .directory mode

/-- Names that are passable stay so when directories are made. -/
theorem IsPassable.of_extends {after : FileTree} (passable : tree.IsPassable place names)
    (grown : Extends tree after) : after.IsPassable place names := by
  intro front name onward node there
  rcases grown.node (place ++ front ++ [name]) with same | ⟨-, made⟩
  · exact passable front name onward node (same.symm.trans there)
  · rw [there] at made
    exact ⟨_, Option.some.inj made⟩

/-- The first of some passable names are passable. -/
theorem IsPassable.front {front : List String} (passable : tree.IsPassable place (front ++ tail)) :
    tree.IsPassable place front :=
  fun before name within => passable before name (within.trans (List.prefix_append front tail))

/-- The last of some passable names are passable from where the first lead. -/
theorem IsPassable.back {front : List String} (passable : tree.IsPassable place (front ++ tail)) :
    tree.IsPassable (place ++ front) tail := by
  intro before name within node there
  refine passable (front ++ before) name ?_ node (by simpa using there)
  rw [List.append_assoc]
  exact (List.prefix_append_right_inj front).mpr within

/-- Names along which nothing stands but directories lead to the last of them, or one that is not
the last is missing. -/
theorem enters_or_missing (named : ∀ name ∈ names, IsName name)
    (passable : tree.IsPassable here names) :
    Enters tree (here ++ names) left left here names ∨
      ∀ followLast tail, tail ≠ [] →
        tree.walk followLast left here (names ++ tail) = .error .notFound := by
  induction names generalizing here with
  | nil =>
    rw [List.append_nil]
    exact .inl .done
  | cons name rest ih =>
    have first := named name List.mem_cons_self
    cases there : tree.node? (here ++ [name]) with
    | none =>
      refine .inr fun followLast tail more => ?_
      rw [List.cons_append, walk_absent first there, if_neg (by simp [more])]
    | some node =>
      obtain ⟨mode, rfl⟩ := passable [] name (by simp) node (by simpa using there)
      have further : tree.IsPassable (here ++ [name]) rest :=
        fun front other within node stands => passable (name :: front) other
          (by simpa using within) node (by simpa using stands)
      have onward := ih (fun other member => named other (List.mem_cons_of_mem _ member)) further
      rw [List.append_assoc] at onward
      refine onward.imp (.enter first there) fun missing followLast tail more => ?_
      rw [List.cons_append, walk_enter first there, missing followLast tail more]

/-- The path of entries within one another begins where that of the outer one does. -/
theorem start_foldl_joinPath {base : String} (entries : ∀ name ∈ names, IsEntryName name) :
    tree.start (.ofPath (names.foldl joinPath base)) = tree.start (.ofPath base) := by
  induction names generalizing base with
  | nil => rfl
  | cons name rest ih =>
    rw [List.foldl_cons, ih fun other member => entries other (List.mem_cons_of_mem _ member),
      start_joinPath (entries name List.mem_cons_self).not_isAbsolutePath]

/-- Steps from the directory of a path lead where the path leads that they continue. -/
theorem EntersPath.foldl_joinPath {base : String} (enters : tree.EntersPath base place left)
    (entries : ∀ name ∈ names, IsEntryName name)
    (onward : Enters tree found more left place names) :
    tree.EntersPath (names.foldl Standby.joinPath base) found more := by
  rw [EntersPath, start_foldl_joinPath entries, steps_foldl_joinPath entries]
  exact Enters.trans enters onward

/-- A path that ends with a name leads to what it names, unless this is a link that is followed. -/
theorem locate_eq_entry {name : String} (entry : IsEntryName name) (tree : FileTree)
    (base : String) :
    tree.locate false (.ofPath (joinPath base name)) =
      tree.entry (.ofPath (joinPath base name)) := by
  rw [locate, FileTree.entry, wholeSteps_joinPath entry, steps_joinPath entry]

section Missing

variable {base name : String} {followLast : Bool}

/-- Where a directory is missing, nothing is found under a name in it. -/
theorem follow_of_missing (enters : tree.EntersPath base place left)
    (entries : ∀ name ∈ names, IsEntryName name) (entry : IsEntryName name)
    (sound : (Route.ofPath (joinPath (names.foldl joinPath base) name)).isSound = true)
    (missing : tree.walk followLast left place (names ++ [name]) = .error .notFound) :
    tree.follow followLast (.ofPath (joinPath (names.foldl joinPath base) name))
      (Route.ofPath (joinPath (names.foldl joinPath base) name)).steps = .error .notFound := by
  rw [follow_eq_walk_start sound (isEmpty_joinPath entry _),
    start_joinPath entry.not_isAbsolutePath, start_foldl_joinPath entries, steps_joinPath entry,
    steps_foldl_joinPath entries, List.append_assoc, Enters.walk_append enters followLast (by simp),
    missing]

/-- Names along which nothing stands but directories are those of a directory, or nothing is found
there. -/
theorem locate_of_passable (enters : tree.EntersPath base place left)
    (entries : ∀ name ∈ names, IsEntryName name) (some_name : names ≠ [])
    (sound : (Route.ofPath (names.foldl joinPath base)).isSound = true)
    (passable : tree.IsPassable place names) :
    (∃ found mode, tree.locate false (.ofPath (names.foldl joinPath base)) =
        .ok (found, some (.directory mode))) ∨
      tree.status false (.ofPath (names.foldl joinPath base)) = .error .notFound := by
  obtain ⟨front, name, rfl⟩ := List.eq_nil_or_concat names |>.resolve_left some_name
  rw [List.concat_eq_append] at entries passable sound ⊢
  have entry := entries name (by simp)
  have front_entries (other : String) (member : other ∈ front) : IsEntryName other :=
    entries other (List.mem_append_left _ member)
  rw [List.foldl_append] at sound ⊢
  have reached : Enters tree (place ++ front) left left place front ∨ _ :=
    enters_or_missing (fun other member => (front_entries other member).toIsName) passable.front
  rcases reached with onward | missing
  · have entered := enters.foldl_joinPath front_entries onward
    cases there : tree.node? (place ++ front ++ [name]) with
    | none => exact .inr (entered.status_joinPath_of_absent entry sound there)
    | some node =>
      obtain ⟨mode, rfl⟩ := passable front name (List.prefix_refl _) node there
      refine .inl ⟨place ++ front ++ [name], mode, ?_⟩
      rw [List.foldl_cons, List.foldl_nil, locate_eq_entry entry,
        entered.entry_joinPath entry sound, there]
  · refine .inr ?_
    rw [List.foldl_cons, List.foldl_nil, status, locate_eq_entry entry, FileTree.entry,
      follow_of_missing enters front_entries entry sound
        (missing false [name] (List.cons_ne_nil _ _))]

end Missing

end FileTree

namespace Disk

variable {disk : Disk} {base name : String} {place : Place} {left : Nat} {names : List String}

/-- A directory is made at a path by an attempt, or it is there already. -/
def Attempts (path : String) (disk after : Disk) : Prop :=
  disk.alter (·.makeDirectory (.ofPath path)) = (.ok (), after) ∨
    disk.alter (·.makeDirectory (.ofPath path)) = (.error .alreadyExists, after) ∧
      after.tree.isDirectory (.ofPath path) = true

/-- An attempt to make a directory in a directory makes it, or it is there already. -/
theorem attempts_of_entered (works : disk.Works) (enters : disk.tree.EntersPath base place left)
    (entry : IsEntryName name) (sound : (Route.ofPath (joinPath base name)).isSound = true)
    (passable : disk.tree.IsPassable place [name]) :
    ∃ after, Attempts (joinPath base name) disk after ∧
      ∃ left, after.tree.EntersPath (joinPath base name) (place ++ [name]) left := by
  simp only [Attempts, works.alter]
  cases there : disk.tree.node? (place ++ [name]) with
  | none =>
    obtain ⟨made, makes, same, entered⟩ :=
      DirectoryLock.makeDirectory_of_absent enters entry sound there
    have stands : made.node? (place ++ [name]) = some (.directory newDirectoryMode) := by
      rw [same, node?_put_name, if_pos rfl]
    rw [makes]
    exact ⟨_, .inl rfl, entered.joinPath entry sound stands⟩
  | some node =>
    obtain ⟨mode, rfl⟩ := passable [] name (by simp) node (by simpa using there)
    have named := enters.entry_joinPath entry sound
    have located := enters.locate_joinPath entry sound (by simp [there])
    rw [there] at named located
    refine ⟨{ disk with operations := disk.operations + 1 }, .inr ⟨?_, ?_⟩,
      enters.joinPath entry sound there⟩
    · rw [makeDirectory, named]
    · rw [isDirectory, status, located]

/-- Where the first attempt is enough, no other directory is made. -/
theorem go_of_attempts_once {path : String} {after : Disk} (filled : path.isEmpty = false)
    (attempts : Attempts path disk after) (fuel : Nat) :
    makeDirectories.go fuel path disk = (.ok (), after) := by
  rw [makeDirectories.go.eq_def]
  simp only [filled, Bool.false_eq_true, ↓reduceIte]
  rcases attempts with made | ⟨refused, there⟩
  · simp only [made]
  · simp only [refused, there, ↓reduceIte]

/-- Where the parent is missing, it is made before a second attempt. -/
theorem go_of_attempts_twice {path parent : String} {refused middle after : Disk} {fuel : Nat}
    (filled : path.isEmpty = false)
    (missing : disk.alter (·.makeDirectory (.ofPath path)) = (.error .notFound, refused))
    (inside : parentPath? path = some parent)
    (made : makeDirectories.go fuel parent refused = (.ok (), middle))
    (attempts : Attempts path middle after) :
    makeDirectories.go (fuel + 1) path disk = (.ok (), after) := by
  rw [makeDirectories.go.eq_def]
  simp only [filled, Bool.false_eq_true, ↓reduceIte, missing, inside, made]
  rcases attempts with made | ⟨present, there⟩
  · simp only [made]
  · simp only [present, there, ↓reduceIte]

/-- A disk that works does so after directories were made, and has what it had. -/
theorem works_and_extends_of_go (works : disk.Works) {fuel : Nat} {path : String} {middle : Disk}
    {result : Except IoFault Unit} (made : makeDirectories.go fuel path disk = (result, middle)) :
    middle.Works ∧ Extends disk.tree middle.tree := by
  have outages := go_of_attempts (fun before after => after.outage = before.outage)
    (fun _ => rfl) (fun first second => second.trans first)
    (fun route disk => disk.outage_alter (·.makeDirectory route)) fuel path disk
  have grown := go_of_attempts (fun before after => Extends before.tree after.tree)
    (fun disk => .refl disk.tree) .trans (fun _ _ => extends_of_alter rfl) fuel path disk
  rw [made] at outages grown
  exact ⟨fun operation => by rw [outages, works], grown⟩

/-- The directories of passable names are made from a directory that is entered. -/
theorem go_of_passable (works : disk.Works) (enters : disk.tree.EntersPath base place left)
    (entries : ∀ name ∈ names, IsEntryName name) (some_name : names ≠ [])
    (sound : (Route.ofPath (names.foldl joinPath base)).isSound = true)
    (passable : disk.tree.IsPassable place names) {fuel : Nat} (enough : names.length ≤ fuel + 1) :
    ∃ after, makeDirectories.go fuel (names.foldl joinPath base) disk = (.ok (), after) ∧
      ∃ left, after.tree.EntersPath (names.foldl joinPath base) (place ++ names) left := by
  induction names using List.reverseRecOn generalizing fuel disk with
  | nil => exact absurd rfl some_name
  | append_singleton front name ih =>
    have entry := entries name (by simp)
    have front_entries (other : String) (member : other ∈ front) : IsEntryName other :=
      entries other (List.mem_append_left _ member)
    rw [List.foldl_append] at sound ⊢
    simp only [List.foldl_cons, List.foldl_nil] at sound ⊢
    rw [← List.append_assoc]
    have filled := joinPath_ne_empty entry (front.foldl joinPath base)
    rcases enters_or_missing (fun other member => (front_entries other member).toIsName)
      passable.front with onward | missing
    · obtain ⟨after, attempts, inside⟩ := attempts_of_entered works
        (enters.foldl_joinPath front_entries onward) entry sound passable.back
      exact ⟨after, go_of_attempts_once filled attempts fuel, inside⟩
    -- The directory of the last name is missing, so it is made first.
    have some_front : front ≠ [] := by
      rintro rfl
      have stays := missing false ["."] (List.cons_ne_nil _ _)
      rw [List.nil_append, walk_stay, walk_nil] at stays
      cases stays
    have long := List.length_pos_iff.mpr some_front
    rw [List.length_append, List.length_singleton] at enough
    obtain _ | fuel := fuel
    · omega
    have refused : disk.alter (·.makeDirectory
        (.ofPath (joinPath (front.foldl joinPath base) name))) =
          (.error .notFound, { disk with operations := disk.operations + 1 }) := by
      rw [works.alter, makeDirectory, FileTree.entry, follow_of_missing enters front_entries entry
        sound (missing false [name] (List.cons_ne_nil _ _))]
    have next : ({ disk with operations := disk.operations + 1 } : Disk).Works := works
    obtain ⟨middle, made, _, inside⟩ := ih next enters front_entries some_front
      (isSound_of_joinPath entry sound) passable.front (show front.length ≤ fuel + 1 by omega)
    obtain ⟨working, grown⟩ := works_and_extends_of_go next made
    obtain ⟨after, attempts, found⟩ := attempts_of_entered working inside entry sound
      (passable.of_extends grown).back
    have parent := parentPath?_foldl_joinPath front_entries some_front entry base
    exact ⟨after, go_of_attempts_twice filled refused parent made attempts, found⟩

/-- On a disk that works the directories along names are made unless something else stands in the
way. -/
theorem makeDirectories_of_passable (works : disk.Works)
    (enters : disk.tree.EntersPath base place left) (entries : ∀ name ∈ names, IsEntryName name)
    (some_name : names ≠ []) (sound : (Route.ofPath (names.foldl joinPath base)).isSound = true)
    (passable : disk.tree.IsPassable place names) :
    ∃ after, disk.makeDirectories (names.foldl joinPath base) = (.ok (), after) ∧
      ∃ left, after.tree.EntersPath (names.foldl joinPath base) (place ++ names) left := by
  refine go_of_passable works enters entries some_name sound passable ?_
  have steps := steps_foldl_joinPath entries base
  have parts : (Route.ofPath (names.foldl joinPath base)).steps.length ≤
      (pathParts (names.foldl joinPath base)).length := List.length_filter_le _ _
  rw [steps, List.length_append] at parts
  omega

end Disk

end Standby
