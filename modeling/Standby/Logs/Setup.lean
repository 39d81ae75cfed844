import Standby.Config.Paths
import Standby.Logs.Prune

/-!
# Setting logs up

When log files are wanted their directory is made, old files are removed, and the file of the
moment is opened for appending. A directory that cannot be made leaves the node without log files.
-/
namespace Standby

/-- The name of the log, with which the names of all its files begin. -/
def logName : String := "stripe-sync.log"

/-- The name of the log file that is written at a moment, which names every file of a log that is
rotated. -/
def LogRotation.fileName (rotation : LogRotation) (moment : String) : String :=
  match rotation with
  | .never => logName
  | .daily => logName ++ "." ++ moment
  | .hourly => logName ++ "." ++ moment
  | .minutely => logName ++ "." ++ moment

namespace Disk

/-- Open a file for appending; a file that is missing is made. -/
def openForAppending (path : String) (disk : Disk) : Except IoFault Unit × Disk :=
  disk.alter (·.touch (.ofPath path) 0o644)

/-- Set log files up at a moment, whose text goes into the name of the log file. -/
def setUpLogs (environment : Environment) (logging : FileLogging) (moment : String) (now : Instant)
    (disk : Disk) : Except IoFault Unit × Disk :=
  if !logging.isEnabled then (.ok (), disk)
  else
    let directory := logging.logPath environment
    match disk.makeDirectories directory with
    | (.error fault, disk) => (.error fault, disk)
    | (.ok _, disk) =>
      let limits := RetentionLimits.ofSettings logging
      let disk := if limits.isEnabled then (disk.pruneLogs directory logName limits now).2 else disk
      disk.openForAppending (joinPath directory (logging.rotation.fileName moment))

end Disk
end Standby
