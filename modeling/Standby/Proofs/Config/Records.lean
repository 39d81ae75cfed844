import Standby.Config.File
import Standby.Proofs.Document.Kept

/-!
# Settings survive their text

Each record of the configuration is found wherever its table was kept, setting by setting. What has
no value is not kept and reads as the default of its setting, so a bound on old log files that is
switched off comes back as the standard one (`Config.reloaded`); every other setting without a value
has none by default, and comes back as it was.
-/
namespace Standby

open Document

/-- A format of the log is found. -/
theorem LogFormat.finds (dialect : Dialect) (format : LogFormat) :
    Finds (ofDocument dialect) format.toDocument format := by
  rintro _ ⟨⟩
  cases format <;> rfl

/-- A rotation of the log is found. -/
theorem LogRotation.finds (dialect : Dialect) (rotation : LogRotation) :
    Finds (ofDocument dialect) rotation.toDocument rotation := by
  rintro _ ⟨⟩
  cases rotation <;> rfl

/-- A listed server is found where its table was kept. -/
theorem PeerEntry.finds (dialect : Dialect) (entry : PeerEntry) :
    Finds (ofDocument dialect) entry.toDocument entry := by
  refine finds_record fun kept each => ?_
  obtain ⟨server, address, -⟩ := each
  simp [finds_text _ _ server, finds_text _ _ address]

/-- The settings of a node's identity are found where their table was kept. -/
theorem ClusterSettings.finds (dialect : Dialect) (settings : ClusterSettings) :
    Finds (ofDocument dialect) settings.toDocument settings := by
  refine finds_record fun kept each => ?_
  obtain ⟨serverName, groupId, dataDirectory, -⟩ := each
  simp [(finds_text _).orDefault serverName, (finds_signed _).orDefault groupId,
    orDefault_optional finds_text dataDirectory, standard]

/-- The settings of discovery are found where their table was kept. -/
theorem MembershipSettings.finds (dialect : Dialect) (settings : MembershipSettings) :
    Finds (ofDocument dialect) settings.toDocument settings := by
  refine finds_record fun kept each => ?_
  obtain ⟨peers, base, max, -⟩ := each
  simp [(finds_list (PeerEntry.finds dialect) _).orDefault peers, (finds_word _).orDefault base,
    (finds_word _).orDefault max]

/-- The settings of the work on entities are found where their table was kept. -/
theorem ApplySettings.finds (dialect : Dialect) (settings : ApplySettings) :
    Finds (ofDocument dialect) settings.toDocument settings := by
  refine finds_record fun kept each => ?_
  obtain ⟨workers, -⟩ := each
  simp [(finds_word _).orDefault workers]

/-- The bounds of replication are found where their table was kept. -/
theorem Limits.finds (dialect : Dialect) (limits : Limits) :
    Finds (ofDocument dialect) limits.toDocument limits := by
  refine finds_record fun kept each => ?_
  obtain ⟨events, bytes, payload, -⟩ := each
  simp [(finds_word _).orDefault events, (finds_word _).orDefault bytes,
    (finds_word _).orDefault payload]

/-- The settings of log files as they are found in their text: a bound that is switched off is the
standard one there. -/
def FileLogging.reloaded (logging : FileLogging) : FileLogging :=
  { logging with
    maxAgeDays := logging.maxAgeDays.or standard.maxAgeDays
    maxFiles := logging.maxFiles.or standard.maxFiles }

/-- The settings of log files are found where their table was kept, but for bounds that are
switched off. -/
theorem FileLogging.finds (dialect : Dialect) (logging : FileLogging) :
    Finds (ofDocument dialect) logging.toDocument logging.reloaded := by
  have noDirectory : standard.directory = none := rfl
  refine finds_record fun kept each => ?_
  obtain ⟨isEnabled, directory, format, rotation, maxAgeDays, maxFiles, -⟩ := each
  simp [(finds_bool _).orDefault isEnabled, orDefault_optional finds_text directory,
    (LogFormat.finds _ _).orDefault format, (LogRotation.finds _ _).orDefault rotation,
    orDefault_optional finds_word maxAgeDays, orDefault_optional finds_word maxFiles, noDirectory,
    reloaded]

/-- The settings of logs as they are found in their text. -/
def Logging.reloaded (logging : Logging) : Logging := { logging with file := logging.file.reloaded }

/-- The settings of logs are found where their table was kept. -/
theorem Logging.finds (dialect : Dialect) (logging : Logging) :
    Finds (ofDocument dialect) logging.toDocument logging.reloaded := by
  have noFilter : standard.filter = none := rfl
  refine finds_record fun kept each => ?_
  obtain ⟨isShown, format, filter, file, -⟩ := each
  simp [(finds_bool _).orDefault isShown, (LogFormat.finds _ _).orDefault format,
    orDefault_optional finds_text filter, (FileLogging.finds _ _).orDefault file, noFilter,
    reloaded]

/-- No table or list stands in a word. -/
@[simp] theorem nesting_word (value : UInt64) : nesting (ofUInt64 value) = 0 := nesting_integer _

/-- No table or list stands in a text that may be left out. -/
@[simp] theorem nesting_optional_text (value : Option String) :
    nesting (ofOption .text value) = 0 := by
  cases value <;> simp [ofOption]

/-- No table or list stands in a word that may be left out. -/
@[simp] theorem nesting_optional_word (value : Option UInt64) :
    nesting (ofOption ofUInt64 value) = 0 := by
  cases value <;> simp [ofOption]

namespace Config

/-- The settings of a node as they are found in their text. -/
def reloaded (config : Config) : Config := { config with logging := config.logging.reloaded }

/-- The settings of a node are found where their table was kept. -/
theorem finds (dialect : Dialect) (config : Config) :
    Finds (ofDocument dialect) config.toDocument config.reloaded := by
  refine finds_record fun kept each => ?_
  obtain ⟨logging, limits, cluster, discovery, apply, -⟩ := each
  simp [(Logging.finds _ _).orDefault logging, (Limits.finds _ _).orDefault limits,
    (ClusterSettings.finds _ _).orDefault cluster,
    (MembershipSettings.finds _ _).orDefault discovery, (ApplySettings.finds _ _).orDefault apply,
    reloaded]

/-- Settings come back as they were exactly if both bounds on old log files are on. -/
theorem reloaded_eq_iff (config : Config) :
    config.reloaded = config ↔
      config.logging.file.maxAgeDays.isSome ∧ config.logging.file.maxFiles.isSome := by
  obtain ⟨⟨isShown, format, filter, file⟩, limits, cluster, discovery, apply⟩ := config
  obtain ⟨isEnabled, directory, layout, rotation, maxAgeDays, maxFiles⟩ := file
  cases maxAgeDays <;> cases maxFiles <;>
    simp [reloaded, Logging.reloaded, FileLogging.reloaded, FileLogging.standard]

/-- The tables of listed servers hold no tables. -/
theorem nestingOfItems_peers (peers : List PeerEntry) :
    nestingOfItems (peers.map PeerEntry.toDocument) ≤ 1 := by
  induction peers with
  | nil => exact Nat.zero_le 1
  | cons entry rest ih =>
    rw [List.map_cons, nestingOfItems, PeerEntry.toDocument]
    exact Nat.max_le.mpr ⟨by simp [nestingOfEntries], ih⟩

/-- A listed server names each of its parts once. -/
theorem areOrderlyItems_peers (peers : List PeerEntry) :
    AreOrderlyItems (peers.map PeerEntry.toDocument) := by
  induction peers with
  | nil => trivial
  | cons entry rest ih =>
    refine ⟨?_, ih⟩
    simp [PeerEntry.toDocument, IsOrderly, AreOrderly]

/-- The tables of a configuration name everything once. -/
theorem isOrderly_toDocument (config : Config) : IsOrderly config.toDocument := by
  simp [toDocument, Logging.toDocument, LogFormat.toDocument, FileLogging.toDocument,
    LogRotation.toDocument, Limits.toDocument, ClusterSettings.toDocument,
    MembershipSettings.toDocument, ApplySettings.toDocument, IsOrderly, AreOrderly,
    isOrderly_of_plain, areOrderlyItems_peers]

/-- How deep tables and lists stand in one another in a configuration. -/
def depth : Nat := 4

/-- The tables of a configuration are not deep in one another. -/
theorem nesting_toDocument (config : Config) : nesting config.toDocument ≤ depth := by
  have peers := nestingOfItems_peers config.discovery.peers
  simp [toDocument, Logging.toDocument, LogFormat.toDocument, FileLogging.toDocument,
    LogRotation.toDocument, Limits.toDocument, ClusterSettings.toDocument,
    MembershipSettings.toDocument, ApplySettings.toDocument, nestingOfEntries, depth]
  omega

/-- The text of a configuration in a faithful format holds its settings. -/
theorem ofText_of_text? {format : Format} (faithful : format.IsFaithful depth) {config : Config}
    {text : String} (written : config.text? format = some text) :
    ofText format text = some config.reloaded :=
  finds format.dialect config _
    (faithful _ text config.isOrderly_toDocument config.nesting_toDocument written)

end Config
end Standby
