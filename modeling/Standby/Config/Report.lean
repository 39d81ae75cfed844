import Standby.Config.Paths
import Standby.Discovery.Report
import Standby.Fault

/-!
# Reports of configurations

A configuration is reported with what follows from it in an environment: the server, the group, the
directory of the data, and what discovery is set up with.
-/
namespace Standby

open Document

/-- A refused part of a configuration is reported in its place. -/
def Config.report (environment : Environment) (config : Config) : Document :=
  let server : String :=
    match config.server with
    | .ok server => server.name
    | .error fault => "error: " ++ fault.message
  let discovery : Document :=
    match config.membership with
    | .ok membership => membership.report
    | .error fault => (Fault.config fault).toDocument
  .table [("config", config.toDocument), ("server_id", server),
    ("group", shown config.cluster.group), ("data_dir", config.cluster.dataPath environment),
    ("discovery", discovery)]

end Standby
