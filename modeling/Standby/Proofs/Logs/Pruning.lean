import Standby.Logs.Prune
import Standby.Proofs.FileTree.Directory
import Standby.Proofs.FileTree.Listing
import Standby.Proofs.Logs.Expiry

/-!
# What pruning removes

Pruning considers the regular files of a directory whose names begin with the name of the log, and
asks the disk to remove each of those that the limits do not keep, one operation each. A removal
fails if the disk fails at its operation or takes no path of that length; nothing but the files
whose removal does not fail is touched (`log_retention_is_exact`).
-/
namespace Standby

open FileTree

/-- The names in a tree are names that entries of a directory have. -/
def FileTree.IsNamed (tree : FileTree) : Prop :=
  ∀ place name node, tree.node? (place ++ [name]) = some node → IsEntryName name

/-- A regular file in a directory whose name is a text and begins with the name of the log. -/
def FileTree.IsLogFile (tree : FileTree) (place : Place) (logName : String) (entry : LogEntry) :
    Prop :=
  ∃ name bytes mode modified, tree.named? place name = some (.file bytes mode modified) ∧
    name.text? = some entry.name ∧ entry.modified = .ofMillis modified ∧
    logName.toList <+: entry.name.toList

namespace PruneReport

/-- The names of log files are the texts that begin with the name of the log. -/
theorem logFileName?_eq_some_iff {logName text : String} {name : FileName} :
    logFileName? logName name = some text ↔
      name.text? = some text ∧ logName.toList <+: text.toList := by
  rw [logFileName?, Option.filter_eq_some_iff, List.isPrefixOf_iff_prefix]

/-- The log files in a listing are the regular files with a name of the log. -/
theorem mem_logFiles_iff {logName : String} {listing : List (FileName × FileNode)}
    {entry : LogEntry} :
    entry ∈ logFiles logName listing ↔
      ∃ name bytes mode modified, (name, .file bytes mode modified) ∈ listing ∧
        name.text? = some entry.name ∧ entry.modified = .ofMillis modified ∧
        logName.toList <+: entry.name.toList := by
  rw [logFiles, List.mem_filterMap]
  constructor
  · rintro ⟨⟨name, node⟩, listed, found⟩
    dsimp only at found
    split at found
    · rename_i text bytes mode modified named
      cases found
      obtain ⟨told, begins⟩ := logFileName?_eq_some_iff.mp named
      exact ⟨name, bytes, mode, modified, listed, told, rfl, begins⟩
    · cases found
  · rintro ⟨name, bytes, mode, modified, listed, told, dated, begins⟩
    refine ⟨_, listed, ?_⟩
    simp only [logFileName?_eq_some_iff.mpr ⟨told, begins⟩]
    rw [← dated]

/-- The names of the log files in a listing stand there in the same order. -/
theorem logFiles_sublist (logName : String) (listing : List (FileName × FileNode)) :
    ((logFiles logName listing).map fun entry => FileName.text entry.name).Sublist
      (listing.map (·.1)) := by
  induction listing with
  | nil => exact .slnil
  | cons found rest ih =>
    obtain ⟨name, node⟩ := found
    rw [logFiles, List.filterMap_cons]
    dsimp only
    split
    · exact ih.cons name
    · rename_i entry chosen
      split at chosen
      · rename_i text bytes mode modified named
        cases chosen
        obtain rfl := FileName.text?_eq_some_iff.mp (logFileName?_eq_some_iff.mp named).1
        exact ih.cons_cons _
      · cases chosen

end PruneReport

namespace FileTree

variable {tree : FileTree} {route : Route} {place : Place} {logName : String}

/-- A route to a directory lists it. -/
theorem list_of_locate {mode : Nat}
    (located : tree.locate true route = .ok (place, some (.directory mode))) :
    tree.list route = .ok (tree.children place) := by
  rw [FileTree.list, located]

/-- Only a directory is listed. -/
theorem locate_of_list {listing : List (FileName × FileNode)}
    (listed : tree.list route = .ok listing) :
    ∃ place mode, tree.locate true route = .ok (place, some (.directory mode)) ∧
      listing = tree.children place := by
  rw [FileTree.list] at listed
  split at listed
  · cases listed
  · rename_i place mode located
    cases listed
    exact ⟨place, mode, located, rfl⟩
  · cases listed
  · cases listed

/-- The log files of a directory are those that stand in it. -/
theorem mem_logFiles_children_iff {entry : LogEntry} :
    entry ∈ PruneReport.logFiles logName (tree.children place) ↔
      tree.IsLogFile place logName entry := by
  simp only [PruneReport.mem_logFiles_iff, mem_children_iff, IsLogFile]

/-- No log file of a directory is listed twice. -/
theorem nodup_logFiles_children (tree : FileTree) (place : Place) (logName : String) :
    ((PruneReport.logFiles logName (tree.children place)).map (·.name)).Nodup := by
  have distinct := (PruneReport.logFiles_sublist logName _).nodup (tree.nodup_children place)
  rw [← Function.comp_def FileName.text, ← List.map_map] at distinct
  exact distinct.of_map

/-- The tree without some files of a directory. -/
def without (tree : FileTree) (place : Place) (files : List LogEntry) : FileTree :=
  files.foldl (fun tree entry => tree.delete (place ++ [entry.name])) tree

/-- The files that a tree is without are gone, and everything else stays. -/
theorem node?_without (tree : FileTree) (place : Place) (files : List LogEntry) (sought : Place) :
    (tree.without place files).node? sought =
      if ∃ entry ∈ files, sought = place ++ [entry.name] then none else tree.node? sought := by
  induction files generalizing tree with
  | nil => simp [without]
  | cons entry rest ih =>
    have later := ih (tree.delete (place ++ [entry.name]))
    rw [node?_delete_name] at later
    refine later.trans ?_
    simp only [List.mem_cons, exists_eq_or_imp]
    split
    · rename_i listed
      rw [if_pos (.inr listed)]
    · rename_i unlisted
      simp only [unlisted, or_false]

/-- Relative routes begin where they did, and what has a name that is no text stays. -/
theorem frame_without (tree : FileTree) (place : Place) (files : List LogEntry) :
    (tree.without place files).home = tree.home ∧
      (tree.without place files).strays = tree.strays := by
  induction files generalizing tree with
  | nil => exact ⟨rfl, rfl⟩
  | cons entry rest ih => exact ih (tree.delete (place ++ [entry.name]))

end FileTree

namespace Disk

/-- The disk lists the directory that a path leads to, at a place. -/
def Lists (disk : Disk) (directory : String) (place : Place) : Prop :=
  disk.outage disk.operations = none ∧
    ∃ mode, disk.tree.locate true (.ofPath directory) = .ok (place, some (.directory mode))

/-- The disk carries a removal out: it does not fail at the operation, and it takes the path. -/
def carriesOut (disk : Disk) (directory : String) (attempt : LogEntry × Nat) : Bool :=
  (disk.outage attempt.2).isNone && (Route.ofPath (joinPath directory attempt.1.name)).isSound

/-- The files whose removal the disk carries out when it is asked to remove files one after the
other, with the number of the first of these operations. -/
def removals (disk : Disk) (directory : String) (first : Nat) (files : List LogEntry) :
    List LogEntry :=
  ((files.zipIdx first).filter (disk.carriesOut directory)).map (·.1)

/-- A disk has listed a directory and was then asked to remove some files of it. -/
structure Prunes (disk : Disk) (directory : String) (place : Place) (selected : List LogEntry)
    (report : PruneReport) (after : Disk) : Prop where
  /-- Each of the files was tried once. -/
  tried : after.operations = disk.operations + 1 + selected.length
  /-- Each of the files was counted once. -/
  counted : report.removed + report.failed = selected.length
  /-- A removal that was carried out was counted as such. -/
  removed : report.removed = (disk.removals directory (disk.operations + 1) selected).length
  /-- The files whose removal was carried out are gone. -/
  gone : ∀ entry ∈ disk.removals directory (disk.operations + 1) selected,
    after.tree.node? (place ++ [entry.name]) = none
  /-- Nothing else was touched. -/
  untouched : ∀ sought, (∀ entry ∈ disk.removals directory (disk.operations + 1) selected,
    sought ≠ place ++ [entry.name]) → after.tree.node? sought = disk.tree.node? sought
  /-- What has a name that is no text was not touched either. -/
  strays : after.tree.strays = disk.tree.strays
  /-- Relative routes begin where they did. -/
  home : after.tree.home = disk.tree.home

variable {disk : Disk} {directory : String} {place : Place} {left : Nat} {report : PruneReport}

/-- A removal that is carried out takes the file away and nothing else; one that is not leaves the
tree as it was. -/
theorem removeOne_eq {entry : LogEntry} {bytes : ByteArray} {mode : Nat} {modified : Int}
    (enters : disk.tree.EntersPath directory place left) (named : IsEntryName entry.name)
    (there : disk.tree.node? (place ++ [entry.name]) = some (.file bytes mode modified)) :
    PruneReport.removeOne directory (report, disk) entry =
      if disk.carriesOut directory (entry, disk.operations) then
        ({ report with removed := report.removed + 1 },
          { disk with
            tree := disk.tree.delete (place ++ [entry.name])
            operations := disk.operations + 1 })
      else
        ({ report with failed := report.failed + 1 },
          { disk with operations := disk.operations + 1 }) := by
  rw [PruneReport.removeOne, alter, carriesOut]
  cases outage : disk.outage disk.operations with
  | some fault => rfl
  | none =>
    cases sound : (Route.ofPath (joinPath directory entry.name)).isSound with
    | false =>
      have refused : disk.tree.removeFile (.ofPath (joinPath directory entry.name)) =
          .error .badName := by
        rw [FileTree.removeFile, FileTree.entry, FileTree.follow, sound]
        rfl
      simp [refused]
    | true =>
      have removed : disk.tree.removeFile (.ofPath (joinPath directory entry.name)) =
          .ok (disk.tree.delete (place ++ [entry.name])) := by
        rw [FileTree.removeFile, enters.entry_joinPath named sound, there]
        simp only [isTrailing_joinPath named, Bool.false_eq_true, ↓reduceIte]
      simp [removed]

/-- A file is removed if its removal is carried out. -/
theorem removals_cons (disk : Disk) (directory : String) (first : Nat) (entry : LogEntry)
    (rest : List LogEntry) :
    disk.removals directory first (entry :: rest) =
      if disk.carriesOut directory (entry, first) then
        entry :: disk.removals directory (first + 1) rest
      else disk.removals directory (first + 1) rest := by
  rw [removals, List.zipIdx_cons, List.filter_cons]
  split <;> rfl

/-- No more files are removed than there are. -/
theorem length_removals_le (disk : Disk) (directory : String) (first : Nat)
    (files : List LogEntry) : (disk.removals directory first files).length ≤ files.length := by
  rw [removals, List.length_map]
  exact Nat.le_trans (List.length_filter_le _ _) (Nat.le_of_eq List.length_zipIdx)

/-- Which removals are carried out is said by the failures of the disk alone. -/
theorem removals_moved (disk : Disk) (tree : FileTree) (operations : Nat) :
    removals { disk with tree, operations } = disk.removals := rfl

/-- Files are removed one after the other, each by an operation of its own. -/
theorem foldl_removeOne (report : PruneReport) {files : List LogEntry}
    (distinct : (files.map (·.name)).Nodup)
    (enters : disk.tree.EntersPath directory place left)
    (stand : ∀ entry ∈ files, IsEntryName entry.name ∧ ∃ bytes mode modified,
      disk.tree.node? (place ++ [entry.name]) = some (.file bytes mode modified)) :
    files.foldl (PruneReport.removeOne directory) (report, disk) =
      ({ report with
          removed := report.removed + (disk.removals directory disk.operations files).length
          failed := report.failed +
            (files.length - (disk.removals directory disk.operations files).length) },
        { disk with
          tree := disk.tree.without place (disk.removals directory disk.operations files)
          operations := disk.operations + files.length }) := by
  induction files generalizing report disk with
  | nil => rfl
  | cons entry rest ih =>
    obtain ⟨fresh, distinct⟩ := List.nodup_cons.mp distinct
    obtain ⟨named, bytes, mode, modified, there⟩ := stand entry List.mem_cons_self
    have others (other : LogEntry) (later : other ∈ rest) :=
      stand other (List.mem_cons_of_mem _ later)
    have bound := disk.length_removals_le directory (disk.operations + 1) rest
    rw [List.foldl_cons, removeOne_eq enters named there, removals_cons]
    by_cases works : disk.carriesOut directory (entry, disk.operations) = true
    · have leaf : IsLeaf (disk.tree.node? (place ++ [entry.name])) := by
        rw [there]
        trivial
      rw [if_pos works, if_pos works]
      refine (ih _ distinct ((retains_delete leaf).entersPath enters)
        fun other later => ?_).trans ?_
      · obtain ⟨named, bytes, mode, modified, there⟩ := others other later
        refine ⟨named, bytes, mode, modified, ?_⟩
        have apart : place ++ [other.name] ≠ place ++ [entry.name] := by
          intro same
          have name : other.name = entry.name := by simpa using same
          exact fresh (List.mem_map.mpr ⟨other, later, name⟩)
        rw [node?_delete_of_ne _ apart, there]
      · simp only [removals_moved, List.length_cons, Prod.mk.injEq, PruneReport.mk.injEq,
          Disk.mk.injEq, true_and, and_true]
        exact ⟨⟨by omega, by omega⟩, rfl, by omega⟩
    · rw [if_neg works, if_neg works]
      refine (ih _ distinct ?_ ?_).trans ?_
      · exact enters
      · exact others
      · simp only [removals_moved, List.length_cons, Prod.mk.injEq, PruneReport.mk.injEq,
          Disk.mk.injEq, true_and, and_true]
        exact ⟨by omega, by omega⟩

/-- A directory is pruned of the log files that are not to be kept. -/
theorem pruneLogs_of_lists {logName : String} (limits : RetentionLimits) (now : Instant)
    (named : disk.tree.IsNamed) (lists : disk.Lists directory place) :
    let candidates := PruneReport.logFiles logName (disk.tree.children place)
    ∃ report after, disk.pruneLogs directory logName limits now = (.ok report, after) ∧
      report.candidates = candidates.length ∧
      disk.Prunes directory place (limits.expire now candidates).1 report after := by
  intro candidates
  obtain ⟨works, mode, located⟩ := lists
  obtain ⟨left, enters⟩ := entersPath_of_locate located
  have divided := limits.divides_expire now candidates
  have chosen : (limits.expire now candidates).1 ⊆ candidates :=
    List.Subset.trans (List.subset_append_left _ _) divided.whole.subset
  have distinct : ((limits.expire now candidates).1.map (·.name)).Nodup := by
    have all := (divided.whole.map (·.name)).nodup_iff.mpr
      (disk.tree.nodup_logFiles_children place logName)
    rw [List.map_append] at all
    exact (List.nodup_append.mp all).1
  have stand (entry : LogEntry) (selected : entry ∈ (limits.expire now candidates).1) :
      IsEntryName entry.name ∧ ∃ bytes mode modified,
        disk.tree.node? (place ++ [entry.name]) = some (.file bytes mode modified) := by
    obtain ⟨name, bytes, mode, modified, there, told, -⟩ :=
      mem_logFiles_children_iff.mp (chosen selected)
    obtain rfl := FileName.text?_eq_some_iff.mp told
    exact ⟨named place entry.name _ there, bytes, mode, modified, there⟩
  have listed : disk.inquire (·.list (.ofPath directory)) =
      (.ok (disk.tree.children place), { disk with operations := disk.operations + 1 }) := by
    simp only [inquire, works, list_of_locate located]
  have started : ({ disk with operations := disk.operations + 1 } : Disk).tree.EntersPath
      directory place left := enters
  have result : disk.pruneLogs directory logName limits now =
      Prod.map .ok id ((limits.expire now candidates).1.foldl (PruneReport.removeOne directory)
        (⟨candidates.length, 0, 0⟩, { disk with operations := disk.operations + 1 })) := by
    rw [pruneLogs, listed]
    rfl
  rw [foldl_removeOne _ distinct started stand] at result
  simp only [removals_moved, Nat.zero_add] at result
  have bound := disk.length_removals_le directory (disk.operations + 1)
    (limits.expire now candidates).1
  exact ⟨_, _, result, rfl,
    { tried := rfl
      counted := Nat.add_sub_cancel' bound
      removed := rfl
      gone := fun entry removed => (node?_without _ _ _ _).trans (if_pos ⟨entry, removed, rfl⟩)
      untouched := fun sought elsewhere => by
        refine (node?_without _ _ _ _).trans (if_neg ?_)
        rintro ⟨entry, removed, same⟩
        exact elsewhere entry removed same
      strays := (frame_without _ _ _).2
      home := (frame_without _ _ _).1 }⟩

/-- A directory that the disk does not list is not pruned. -/
theorem pruneLogs_of_not_lists {logName : String} (limits : RetentionLimits) (now : Instant)
    (unlisted : ∀ place, ¬ disk.Lists directory place) :
    ∃ fault, disk.pruneLogs directory logName limits now =
      (.error fault, { disk with operations := disk.operations + 1 }) := by
  have refused : ∃ fault, disk.inquire (·.list (.ofPath directory)) =
      (.error fault, { disk with operations := disk.operations + 1 }) := by
    rw [inquire]
    cases works : disk.outage disk.operations with
    | some fault => exact ⟨fault, rfl⟩
    | none =>
      cases listed : disk.tree.list (.ofPath directory) with
      | error fault => exact ⟨fault, rfl⟩
      | ok listing =>
        obtain ⟨place, mode, located, -⟩ := locate_of_list listed
        exact absurd ⟨works, mode, located⟩ (unlisted place)
  obtain ⟨fault, refused⟩ := refused
  exact ⟨fault, by rw [pruneLogs, refused]⟩

end Disk

/-- Log files are removed exactly as the limits want it: for all lists, limits and moments the files
that are removed and those that are kept divide the list as they should. A directory that is listed
is pruned of just the files that are removed of its log files, which are the regular files whose
names are texts that begin with the name of the log: each of them is tried once and counted once,
and nothing else is touched. A directory that is not listed is not pruned. -/
theorem log_retention_is_exact (limits : RetentionLimits) (now : Instant) :
    (∀ (Name : Type) (entries : List (LogEntry Name)),
      limits.Divides now entries (limits.expire now entries).1 (limits.expire now entries).2) ∧
    ∀ (directory logName : String) (disk : Disk), disk.tree.IsNamed →
      match disk.pruneLogs directory logName limits now with
      | (.error _, after) => (∀ place, ¬ disk.Lists directory place) ∧ after.tree = disk.tree
      | (.ok report, after) => ∃ place candidates, disk.Lists directory place ∧
          (∀ entry, entry ∈ candidates ↔ disk.tree.IsLogFile place logName entry) ∧
          (candidates.map (·.name)).Nodup ∧ report.candidates = candidates.length ∧
          disk.Prunes directory place (limits.expire now candidates).1 report after := by
  refine ⟨fun _ => limits.divides_expire now, fun directory logName disk named => ?_⟩
  by_cases listed : ∃ place, disk.Lists directory place
  · obtain ⟨place, lists⟩ := listed
    obtain ⟨report, after, result, counted, prunes⟩ :=
      Disk.pruneLogs_of_lists limits now named lists
    rw [result]
    exact ⟨place, _, lists, fun _ => mem_logFiles_children_iff,
      disk.tree.nodup_logFiles_children place logName, counted, prunes⟩
  · have unlisted := not_exists.mp listed
    obtain ⟨fault, result⟩ := Disk.pruneLogs_of_not_lists limits now unlisted
    rw [result]
    exact ⟨unlisted, rfl⟩

/-- A directory with an old log file and a file that is none. -/
def loggedTree : FileTree :=
  ((FileTree.ofHome []).put ["app.log.1"] (.file .empty 0o644 0)).put ["notes"]
    (.file .empty 0o644 0)

/-- Two files stand in the tree with an old log, one of which is no log. -/
theorem node?_loggedTree (name : String) (place : Place) :
    loggedTree.node? (place ++ [name]) =
      if place ++ [name] = ["notes"] ∨ place ++ [name] = ["app.log.1"] then
        some (.file .empty 0o644 0) else none := by
  rw [loggedTree, node?_put _ _ _ _ (by simp), node?_put _ _ _ _ (by simp)]
  have bare : (FileTree.ofHome []).node? (place ++ [name]) = none := by
    rw [node?, List.isEmpty_eq_false_iff.mpr (by simp)]
    rfl
  rw [bare]
  by_cases first : place ++ [name] = ["notes"] <;> simp [first]

/-- The tree with an old log has proper names. -/
theorem isNamed_loggedTree : loggedTree.IsNamed := by
  intro place name node there
  rw [node?_loggedTree] at there
  split at there
  · rename_i here
    have listed : name = "notes" ∨ name = "app.log.1" := by
      refine here.imp ?_ ?_ <;> intro same <;> simpa using congrArg List.getLast? same
    rcases listed with rfl | rfl <;>
      exact ⟨⟨by decide, by decide, by decide +kernel⟩, by decide +kernel, by decide⟩
  · cases there

/-- A log file too many is removed, and the file beside it stays. -/
theorem old_log_is_pruned :
    loggedTree.IsNamed ∧ ∃ report after,
      (Disk.ofTree loggedTree).pruneLogs "." "app.log" ⟨none, some 0⟩ ⟨0⟩ = (.ok report, after) ∧
      report.candidates = 1 ∧ report.removed = 1 ∧
      after.tree.node? ["app.log.1"] = none ∧
      after.tree.node? ["notes"] = some (.file .empty 0o644 0) := by
  have located : loggedTree.locate true (.ofPath ".") = .ok ([], some (.directory 0o755)) := by
    have steps : (Route.ofPath ".").wholeSteps = ["."] := by decide +kernel
    rw [locate, steps, follow_eq_walk (by decide +kernel) (by decide +kernel), walk_stay, walk_nil]
    rfl
  have pruned := (log_retention_is_exact ⟨none, some 0⟩ ⟨0⟩).2 "." "app.log" (.ofTree loggedTree)
    isNamed_loggedTree
  refine ⟨isNamed_loggedTree, ?_⟩
  cases result : (Disk.ofTree loggedTree).pruneLogs "." "app.log" ⟨none, some 0⟩ ⟨0⟩ with
  | mk outcome after =>
    rw [result] at pruned
    cases outcome with
    | error fault => exact absurd ⟨rfl, _, located⟩ (pruned.1 [])
    | ok report =>
      obtain ⟨place, candidates, lists, isCandidate, distinct, counted, prunes⟩ := pruned
      obtain ⟨-, mode, same⟩ := lists
      obtain rfl : [] = place := congrArg Prod.fst (Except.ok.inj (located.symm.trans same))
      have members (entry : LogEntry) :
          entry ∈ candidates ↔ entry ∈ [(⟨"app.log.1", ⟨0⟩⟩ : LogEntry)] := by
        rw [isCandidate, List.mem_singleton]
        constructor
        · rintro ⟨name, bytes, mode, modified, there, told, dated, begins⟩
          obtain rfl := FileName.text?_eq_some_iff.mp told
          have stands := (node?_loggedTree entry.name []).symm.trans there
          split at stands
          · rename_i here
            cases stands
            obtain ⟨name, moment⟩ := entry
            rcases here with here | here <;> cases here
            · exact absurd begins (show ¬ "app.log".toList <+: "notes".toList by decide)
            · exact congrArg _ dated
          · cases stands
        · rintro rfl
          exact ⟨.text "app.log.1", .empty, 0o644, 0, rfl, rfl, rfl, by decide⟩
      have once : candidates.Nodup := List.Pairwise.of_map _ (fun _ _ => mt (congrArg _)) distinct
      have sole : candidates = [⟨"app.log.1", ⟨0⟩⟩] := List.perm_singleton.mp
        ((List.perm_ext_iff_of_nodup once (by simp)).mpr members)
      have chosen : ((⟨none, some 0⟩ : RetentionLimits).expire ⟨0⟩ candidates).1 = candidates := by
        rw [sole]
        simp [RetentionLimits.expire, RetentionLimits.splitByAge, RetentionLimits.splitByCount]
      have gone : (Disk.ofTree loggedTree).removals "."
          ((Disk.ofTree loggedTree).operations + 1) candidates = [⟨"app.log.1", ⟨0⟩⟩] := by
        rw [sole]
        decide +kernel
      rw [chosen] at prunes
      obtain ⟨-, -, removed, absent, untouched, -, -⟩ := prunes
      rw [gone] at removed absent untouched
      refine ⟨report, after, rfl, ?_, removed, absent _ List.mem_cons_self, ?_⟩
      · rw [counted, sole]
        rfl
      · exact (untouched ["notes"] (by simp)).trans (node?_loggedTree "notes" [])

/-- The bytes of a name. -/
def FileName.toBytes : FileName → List UInt8
  | text value => value.toUTF8.data.toList
  | bytes value _ => value

/-- A name that begins with the name of a log and ends with a byte that no text has. -/
def strayName : FileName := .bytes ("app.log.".toUTF8.data.toList ++ [0xff]) (by decide +kernel)

/-- A directory with a file of such a name. -/
def strayTree : FileTree :=
  { FileTree.ofHome [] with
    strays := .insert .empty ⟨.ofPlace [], strayName.toBytes, by decide +kernel⟩
      (.file .empty 0o644 0) }

/-- A regular file whose name begins with the name of the log is not considered if the name is no
text, however old it is; and where no directory is, there is no report that nothing was there. -/
theorem stray_log_is_kept :
    "app.log".toUTF8.data.toList <+: strayName.toBytes ∧
    strayTree.named? [] strayName = some (.file .empty 0o644 0) ∧
    (∃ after, (Disk.ofTree strayTree).pruneLogs "." "app.log" ⟨none, some 0⟩ ⟨0⟩ =
        (.ok ⟨0, 0, 0⟩, after) ∧
      after.tree.named? [] strayName = some (.file .empty 0o644 0)) ∧
    ∃ after, (Disk.ofTree strayTree).pruneLogs "missing" "app.log" ⟨none, some 0⟩ ⟨0⟩ =
      (.error .notFound, after) := by
  have here : strayTree.locate true (.ofPath ".") = .ok ([], some (.directory 0o755)) := by
    have steps : (Route.ofPath ".").wholeSteps = ["."] := by decide +kernel
    rw [locate, steps, follow_eq_walk (by decide +kernel) (by decide +kernel), walk_stay, walk_nil]
    rfl
  have nowhere : strayTree.locate true (.ofPath "missing") = .ok (["missing"], none) := by
    have steps : (Route.ofPath "missing").wholeSteps = ["missing"] := by decide +kernel
    rw [locate, steps, follow_eq_walk (by decide +kernel) (by decide +kernel)]
    exact walk_absent ⟨by decide, by decide, by decide +kernel⟩ rfl
  have unlisted : strayTree.list (.ofPath "missing") = .error .notFound := by
    rw [FileTree.list, nowhere]
  have unseen : PruneReport.logFiles "app.log" (strayTree.children []) = [] := rfl
  refine ⟨by decide +kernel, rfl, ⟨{ Disk.ofTree strayTree with operations := 1 }, ?_, rfl⟩,
    ⟨{ Disk.ofTree strayTree with operations := 1 }, ?_⟩⟩
  · simp [Disk.pruneLogs, Disk.inquire, Disk.ofTree, list_of_locate here, unseen,
      RetentionLimits.expire, RetentionLimits.splitByAge, RetentionLimits.splitByCount]
  · simp only [Disk.pruneLogs, Disk.inquire, Disk.ofTree, unlisted]

end Standby
