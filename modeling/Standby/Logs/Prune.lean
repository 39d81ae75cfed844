import Standby.FileTree.Disk
import Standby.Logs.Retention

/-!
# Pruning a log directory

Only regular files whose names begin with the name of the log are considered, and only those whose
names are texts.
-/
namespace Standby

namespace FileTree

/-- What stands directly in the directory that a route leads to, by name. -/
def list (tree : FileTree) (route : Route) : Except IoFault (List (FileName × FileNode)) :=
  match tree.locate true route with
  | .error fault => .error fault
  | .ok (place, some (.directory _)) => .ok (tree.children place)
  | .ok (_, some _) => .error .notDirectory
  | .ok (_, none) => .error .notFound

end FileTree

/-- What pruning has done. -/
structure PruneReport where
  /-- The files that were considered. -/
  candidates : Nat
  /-- The files that were removed. -/
  removed : Nat
  /-- The files that could not be removed. -/
  failed : Nat
  deriving DecidableEq

namespace PruneReport

/-- A name in a listing is that of a log file: it is a text and begins with the name of the log. -/
def logFileName? (logName : String) (name : FileName) : Option String :=
  name.text?.filter fun text => logName.toList.isPrefixOf text.toList

/-- The log files in a listing. -/
def logFiles (logName : String) (listing : List (FileName × FileNode)) : List LogEntry :=
  listing.filterMap fun (name, node) =>
    match logFileName? logName name, node with
    | some name, .file _ _ modified => some ⟨name, modified⟩
    | _, _ => none

/-- Remove a file and count it. -/
def removeOne (directory : String) (found : PruneReport × Disk) (entry : LogEntry) :
    PruneReport × Disk :=
  let (report, disk) := found
  match disk.alter (·.removeFile (.ofPath (joinPath directory entry.name))) with
  | (.ok _, disk) => ({ report with removed := report.removed + 1 }, disk)
  | (.error _, disk) => ({ report with failed := report.failed + 1 }, disk)

end PruneReport

namespace Disk

/-- Remove the log files of a directory that are not to be kept. -/
def pruneLogs (directory logName : String) (limits : RetentionLimits) (now : Instant)
    (disk : Disk) : Except IoFault PruneReport × Disk :=
  match disk.inquire (·.list (.ofPath directory)) with
  | (.error fault, disk) => (.error fault, disk)
  | (.ok listing, disk) =>
    let entries := PruneReport.logFiles logName listing
    let (report, disk) := (limits.expire now entries).1.foldl (PruneReport.removeOne directory)
      (⟨entries.length, 0, 0⟩, disk)
    (.ok report, disk)

end Disk
end Standby
