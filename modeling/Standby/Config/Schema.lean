import Standby.Config.Fault
import Standby.Discovery.Membership
import Standby.Document.Decode
import Standby.Identity.Stripe
import Standby.Limits

/-!
# The configuration

The settings of a node. Every setting has a default, so a configuration may leave any of them
out; only an entry of the peer list names both its parts.
-/
namespace Standby

open Document

/-- The layout of log lines. -/
inductive LogFormat where
  | tree
  | pretty
  | compact
  | json
  deriving DecidableEq, Inhabited, Repr

namespace LogFormat

/-- The name of a layout. -/
def name : LogFormat → String
  | tree => "tree"
  | pretty => "pretty"
  | compact => "compact"
  | json => "json"

/-- A layout is stored as its name. -/
def toDocument (format : LogFormat) : Document := .text format.name

/-- A stored layout is one of the names. -/
def ofDocument (dialect : Dialect) : Decoder LogFormat :=
  choice dialect ([tree, pretty, compact, json].map fun format => (format.name, format))

end LogFormat

/-- How often a new log file is begun. -/
inductive LogRotation where
  | daily
  | hourly
  | minutely
  | never
  deriving DecidableEq, Inhabited, Repr

namespace LogRotation

/-- The name of a rotation. -/
def name : LogRotation → String
  | daily => "daily"
  | hourly => "hourly"
  | minutely => "minutely"
  | never => "never"

/-- A rotation is stored as its name. -/
def toDocument (rotation : LogRotation) : Document := .text rotation.name

/-- A stored rotation is one of the names. -/
def ofDocument (dialect : Dialect) : Decoder LogRotation :=
  choice dialect ([daily, hourly, minutely, never].map fun rotation => (rotation.name, rotation))

end LogRotation

/-- The settings of log files. -/
structure FileLogging where
  /-- Log files are written. -/
  isEnabled : Bool
  /-- The directory of log files. -/
  directory : Option String
  /-- The layout of lines. -/
  format : LogFormat
  /-- How often a new file is begun. -/
  rotation : LogRotation
  /-- Older log files are removed. -/
  maxAgeDays : Option UInt64
  /-- Only so many log files are kept. -/
  maxFiles : Option UInt64
  deriving DecidableEq

namespace FileLogging

/-- No files; if there are any, a new one each day, kept for a week and ten at most. -/
def standard : FileLogging := ⟨false, none, .json, .daily, some 7, some 10⟩

instance : Inhabited FileLogging := ⟨standard⟩

/-- The settings of log files as a record. -/
def toDocument (logging : FileLogging) : Document :=
  .table [("enabled", .bool logging.isEnabled), ("dir", ofOption .text logging.directory),
    ("format", logging.format.toDocument), ("rotation", logging.rotation.toDocument),
    ("retention_max_age_days", ofOption ofUInt64 logging.maxAgeDays),
    ("retention_max_files", ofOption ofUInt64 logging.maxFiles)]

/-- Settings left out are the standard ones. -/
def ofDocument (dialect : Dialect) : Decoder FileLogging := fun document => do
  let [isEnabled, directory, format, rotation, maxAgeDays, maxFiles] ← fieldsIn dialect .partly
    ["enabled", "dir", "format", "rotation", "retention_max_age_days", "retention_max_files"]
    document | none
  let isEnabled ← orDefault standard.isEnabled boolean isEnabled
  let directory ← orDefault standard.directory (optional string) directory
  let format ← orDefault standard.format (LogFormat.ofDocument dialect) format
  let rotation ← orDefault standard.rotation (LogRotation.ofDocument dialect) rotation
  let maxAgeDays ← orDefault standard.maxAgeDays (optional uint64) maxAgeDays
  let maxFiles ← orDefault standard.maxFiles (optional uint64) maxFiles
  some { isEnabled, directory, format, rotation, maxAgeDays, maxFiles }

end FileLogging

/-- The settings of logs. -/
structure Logging where
  /-- Log lines go to the terminal. -/
  isShown : Bool
  /-- The layout of lines there. -/
  format : LogFormat
  /-- Which lines are logged. -/
  filter : Option String
  /-- The settings of log files. -/
  file : FileLogging
  deriving DecidableEq

namespace Logging

/-- Compact lines on the terminal. -/
def standard : Logging := ⟨true, .compact, none, .standard⟩

instance : Inhabited Logging := ⟨standard⟩

/-- The settings of logs as a record. -/
def toDocument (logging : Logging) : Document :=
  .table [("stdout", .bool logging.isShown), ("stdout_format", logging.format.toDocument),
    ("filter", ofOption .text logging.filter), ("file", logging.file.toDocument)]

/-- Settings left out are the standard ones. -/
def ofDocument (dialect : Dialect) : Decoder Logging := fun document => do
  let [isShown, format, filter, file] ← fieldsIn dialect .partly
    ["stdout", "stdout_format", "filter", "file"] document | none
  let isShown ← orDefault standard.isShown boolean isShown
  let format ← orDefault standard.format (LogFormat.ofDocument dialect) format
  let filter ← orDefault standard.filter (optional string) filter
  let file ← orDefault standard.file (FileLogging.ofDocument dialect) file
  some { isShown, format, filter, file }

end Logging

/-- The settings of a node's identity. -/
structure ClusterSettings where
  /-- The name of the server. -/
  serverName : String
  /-- The number of its group. -/
  groupId : Int32
  /-- The directory of its data. -/
  dataDirectory : Option String
  deriving DecidableEq

namespace ClusterSettings

/-- The first server, without a group. -/
def standard : ClusterSettings := ⟨"server-0", GroupId.null.number, none⟩

instance : Inhabited ClusterSettings := ⟨standard⟩

/-- The group of a node. -/
def group (settings : ClusterSettings) : GroupId := ⟨settings.groupId⟩

/-- The settings of a node's identity as a record. -/
def toDocument (settings : ClusterSettings) : Document :=
  .table [("server_name", .text settings.serverName),
    ("group_id", .integer settings.groupId.toInt),
    ("data_dir", ofOption .text settings.dataDirectory)]

/-- Settings left out are the standard ones. -/
def ofDocument (dialect : Dialect) : Decoder ClusterSettings := fun document => do
  let [serverName, groupId, dataDirectory] ← fieldsIn dialect .partly
    ["server_name", "group_id", "data_dir"] document | none
  let serverName ← orDefault standard.serverName string serverName
  let groupId ← orDefault standard.groupId int32 groupId
  let dataDirectory ← orDefault standard.dataDirectory (optional string) dataDirectory
  some { serverName, groupId, dataDirectory }

end ClusterSettings

/-- A listed server and where it is reached. -/
structure PeerEntry where
  /-- The name of the server. -/
  server : String
  /-- Its address. -/
  address : String
  deriving DecidableEq

namespace PeerEntry

/-- An entry as a record. -/
def toDocument (entry : PeerEntry) : Document :=
  .table [("server", .text entry.server), ("addr", .text entry.address)]

/-- An entry names both its parts. -/
def ofDocument (dialect : Dialect) : Decoder PeerEntry := fun document => do
  let [server, address] ← fieldsIn dialect .whole ["server", "addr"] document | none
  let server ← required string server
  let address ← required string address
  some { server, address }

end PeerEntry

/-- The settings of discovery. -/
structure MembershipSettings where
  /-- The listed servers. -/
  peers : List PeerEntry
  /-- The first delay between attempts in milliseconds. -/
  backoffBase : UInt64
  /-- The longest delay between attempts in milliseconds. -/
  backoffMax : UInt64
  deriving DecidableEq

namespace MembershipSettings

/-- No servers; delays from a quarter of a second to ten seconds. -/
def standard : MembershipSettings := ⟨[], 250, 10000⟩

instance : Inhabited MembershipSettings := ⟨standard⟩

/-- The delays between attempts; the longest is at least the first. -/
def backoff (settings : MembershipSettings) : BackoffPolicy where
  base := .ofMillis settings.backoffBase
  max := .ofMillis (max settings.backoffMax settings.backoffBase)

/-- The settings of discovery as a record. -/
def toDocument (settings : MembershipSettings) : Document :=
  .table [("peers", .list (settings.peers.map PeerEntry.toDocument)),
    ("backoff_base_ms", ofUInt64 settings.backoffBase),
    ("backoff_max_ms", ofUInt64 settings.backoffMax)]

/-- Settings left out are the standard ones. -/
def ofDocument (dialect : Dialect) : Decoder MembershipSettings := fun document => do
  let [peers, backoffBase, backoffMax] ← fieldsIn dialect .partly
    ["peers", "backoff_base_ms", "backoff_max_ms"] document | none
  let peers ← orDefault standard.peers (listOf (PeerEntry.ofDocument dialect)) peers
  let backoffBase ← orDefault standard.backoffBase uint64 backoffBase
  let backoffMax ← orDefault standard.backoffMax uint64 backoffMax
  some { peers, backoffBase, backoffMax }

end MembershipSettings

/-- The settings of the work on entities. -/
structure ApplySettings where
  /-- The number of lanes; without lanes requests run at once. -/
  workers : UInt64
  deriving DecidableEq

namespace ApplySettings

/-- Four lanes. -/
def standard : ApplySettings := ⟨4⟩

instance : Inhabited ApplySettings := ⟨standard⟩

/-- The settings of the work on entities as a record. -/
def toDocument (settings : ApplySettings) : Document :=
  .table [("workers", ofUInt64 settings.workers)]

/-- Settings left out are the standard ones. -/
def ofDocument (dialect : Dialect) : Decoder ApplySettings := fun document => do
  let [workers] ← fieldsIn dialect .partly ["workers"] document | none
  let workers ← orDefault standard.workers uint64 workers
  some { workers }

end ApplySettings

/-- The settings of a node. -/
structure Config where
  /-- The settings of logs. -/
  logging : Logging
  /-- The bounds of replication. -/
  limits : Limits
  /-- The settings of the node's identity. -/
  cluster : ClusterSettings
  /-- The settings of discovery. -/
  discovery : MembershipSettings
  /-- The settings of the work on entities. -/
  apply : ApplySettings
  deriving DecidableEq

namespace Config

/-- The standard settings. -/
def standard : Config := ⟨.standard, .standard, .standard, .standard, .standard⟩

instance : Inhabited Config := ⟨standard⟩

/-- The settings of a node as a record. -/
def toDocument (config : Config) : Document :=
  .table [("logging", config.logging.toDocument), ("limits", config.limits.toDocument),
    ("cluster", config.cluster.toDocument), ("discovery", config.discovery.toDocument),
    ("apply", config.apply.toDocument)]

/-- Settings left out are the standard ones. -/
def ofDocument (dialect : Dialect) : Decoder Config := fun document => do
  let [logging, limits, cluster, discovery, apply] ← fieldsIn dialect .partly
    ["logging", "limits", "cluster", "discovery", "apply"] document | none
  let logging ← orDefault .standard (Logging.ofDocument dialect) logging
  let limits ← orDefault .standard (Limits.ofDocument dialect) limits
  let cluster ← orDefault .standard (ClusterSettings.ofDocument dialect) cluster
  let discovery ← orDefault .standard (MembershipSettings.ofDocument dialect) discovery
  let apply ← orDefault .standard (ApplySettings.ofDocument dialect) apply
  some { logging, limits, cluster, discovery, apply }

/-- A configured name as a server. -/
def serverOf (field name : String) : Except ConfigFault ServerId :=
  match ServerId.parse name with
  | .ok server => .ok server
  | .error refusal => .error (.invalid field refusal.message)

/-- The server of the configuration. -/
def server (config : Config) : Except ConfigFault ServerId :=
  serverOf "cluster.server_name" config.cluster.serverName

/-- A listed server as discovery takes it. -/
def peerAddress (entry : PeerEntry) : Except ConfigFault PeerAddress :=
  match serverOf "discovery.peers.server" entry.server with
  | .ok server => .ok ⟨server, entry.address⟩
  | .error fault => .error fault

/-- What discovery works on: the servers as they are listed, the node itself included. -/
def membership (config : Config) : Except ConfigFault Membership := do
  let own ← config.server
  let peers ← config.discovery.peers.mapM peerAddress
  .ok { own, peers, backoff := config.discovery.backoff }

end Config
end Standby
