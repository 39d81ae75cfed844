import Standby.Config.Environment
import Standby.FileTree.Path

/-!
# Directories of a node

Where data and logs are kept unless the configuration says so: in the directory that the
environment names, in the data directory of the desktop, or under the home directory.
-/
namespace Standby

open Standby.Text

namespace Environment

/-- The name of the node's own directory. -/
def applicationDirectory : String := "stripe-sync"

/-- A variable that is set and not empty. -/
def nonEmpty? (environment : Environment) (name : String) : Option String :=
  (environment.get? name).filter fun value => !value.isEmpty

/-- The home directory. -/
def home (environment : Environment) : String :=
  ((environment.nonEmpty? "HOME").or environment.accountHome).getD "/tmp"

/-- The directory of the data of applications. -/
def sharedDirectory (environment : Environment) : String :=
  (environment.nonEmpty? "XDG_DATA_HOME").getD
    (joinPath (joinPath environment.home ".local") "share")

/-- The directory of the node's data: the one that is named, as it is named, unless the name is
blank. -/
def dataPath (environment : Environment) : String :=
  match (environment.get? dataDirectory).filter fun path => !isBlank path with
  | some path => path
  | none => joinPath environment.sharedDirectory applicationDirectory

/-- The directory of the node's logs. -/
def logPath (environment : Environment) : String := joinPath environment.dataPath "logs"

end Environment

/-- The directory of a configured node's data. -/
def ClusterSettings.dataPath (settings : ClusterSettings) (environment : Environment) : String :=
  settings.dataDirectory.getD environment.dataPath

/-- The directory of a configured node's logs. -/
def FileLogging.logPath (logging : FileLogging) (environment : Environment) : String :=
  logging.directory.getD environment.logPath

end Standby
