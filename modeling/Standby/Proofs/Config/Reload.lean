import Standby.Proofs.Config.Records
import Standby.Proofs.FileTree.Replacement
import Standby.Proofs.Toml.Roundtrip

/-!
# Saved configurations

What is loaded after a configuration was saved, and what stands where after one could not be
saved. A save replaces the file as a whole, so a save that fails leaves it; in a format that is
faithful a save that succeeds is followed by a load of the same settings, but for bounds on old log
files that are switched off.
-/
namespace Standby

namespace Environment

/-- No variable that overrides a setting is set. -/
def IsSilent (environment : Environment) : Prop :=
  ∀ name ∈ [serverName, groupId, dataDirectory, applyWorkers], environment.get? name = none

/-- An environment that says nothing overrides nothing. -/
theorem IsSilent.override_eq {environment : Environment} (silent : environment.IsSilent)
    (config : Config) : environment.override config = config := by
  have noValue {name : String}
      (member : name ∈ [serverName, groupId, dataDirectory, applyWorkers]) :
      environment.value? name = none := by
    rw [value?, silent name member]
    rfl
  have noNumber : environment.int32? groupId = none := by
    rw [int32?, noValue (by simp)]
    rfl
  have noCount : environment.uint64? applyWorkers = none := by
    rw [uint64?, noValue (by simp)]
    rfl
  rw [override, noValue (by simp), noValue (by simp), noNumber, noCount]
  rfl

end Environment

namespace Config

open Document (Format)

variable {environment : Environment} {path : String} {config : Config} {disk next : Disk}
  {format : Format}

/-- The disk on which the file of a path is replaced: the directories on the way have been made. -/
def prepared (path : String) (disk : Disk) : Disk := (disk.makeDirectories (directoryOf path)).2

/-- A save that succeeds has put the text of the configuration in the place of the file. -/
theorem tree_of_save (saved : save path config disk format = (.ok (), next)) :
    ∃ text, config.text? format = some text ∧
      (prepared path disk).tree.replaceFile (.ofPath path) text.toUTF8 0o600 = .ok next.tree := by
  rw [save] at saved
  rw [prepared]
  split at saved
  · cases saved
  · rename_i made prepared_eq
    rw [prepared_eq]
    split at saved
    · cases saved
    · rename_i text written
      refine ⟨text, written, ?_⟩
      split at saved
      · cases saved
      · rename_i replaced
        cases saved
        exact Disk.tree_of_replaceFile replaced

/-- A save that fails has made directories at most. -/
theorem extends_of_failed_save {fault : ConfigFault}
    (failed : save path config disk format = (.error fault, next)) :
    FileTree.Extends disk.tree next.tree := by
  have grown := disk.extends_makeDirectories (directoryOf path)
  rw [save] at failed
  split at failed
  · rename_i stopped
    rw [stopped] at grown
    cases failed
    exact grown
  · rename_i made prepared_eq
    rw [prepared_eq] at grown
    split at failed
    · cases failed
      exact grown
    · split at failed
      · rename_i cause left refused
        cases failed
        have kept := Disk.tree_replaceFile_of_error _ _ _ _ cause (by rw [refused])
        rw [refused] at kept
        rw [kept]
        exact grown
      · cases failed

/-- A configuration that has a text is saved on a disk that works, in a directory that is there. -/
theorem save_of_ready {text : String} {place : Place} {node : FileNode} {mode : Nat}
    {tree : FileTree}
    (works : ∀ operation, disk.outage operation = none) (written : config.text? format = some text)
    (named : (directoryOf path).isEmpty = false)
    (there : disk.tree.entry (.ofPath (directoryOf path)) = .ok (place, some node))
    (directory : disk.tree.status true (.ofPath (directoryOf path)) = .ok (.directory mode))
    (replaced : disk.tree.replaceFile (.ofPath path) text.toUTF8 0o600 = .ok tree) :
    save path config disk format =
      (.ok (), { disk with tree, operations := disk.operations + 5 }) := by
  have isDirectory : disk.tree.isDirectory (.ofPath (directoryOf path)) = true := by
    rw [FileTree.isDirectory, directory]
  have put : ({ disk with operations := disk.operations + 1 } : Disk).replaceFile (directoryOf path)
      path text.toUTF8 = (.ok (), { disk with tree, operations := disk.operations + 5 }) :=
    Disk.replaceFile_of_ready (fun _ _ => works _) directory replaced
  rw [save, Disk.makeDirectories_of_there named (works _) there isDirectory]
  simp only [written, put]

/-- A load fails with the read of its file. -/
theorem load_of_error {cause : IoFault}
    (failed : (disk.inquire (·.read (.ofPath path))).1 = .error cause) :
    (load environment path disk format).1 = .error (.read path cause) := by
  rw [load, readText]
  generalize disk.inquire (·.read (.ofPath path)) = answer at failed ⊢
  obtain ⟨result, after⟩ := answer
  cases failed
  rfl

/-- A load finds what the text of its file holds. -/
theorem load_of_text {text : String} {stored : Config}
    (found : (disk.inquire (·.read (.ofPath path))).1 = .ok text.toUTF8)
    (holds : ofText format text = some stored) :
    (load environment path disk format).1 = .ok (environment.override stored) := by
  have decoded : String.fromUTF8? text.toUTF8 = some text := dif_pos text.isValidUTF8
  rw [load, readText]
  generalize disk.inquire (·.read (.ofPath path)) = answer at found ⊢
  obtain ⟨result, after⟩ := answer
  cases found
  simp only [decoded, holds]

/-- What is loaded after a save in a format that is faithful. Where the save succeeded, the load
finds the settings, in which a bound on old log files that was switched off is the standard one
again; so it finds what was saved exactly if both bounds were on. It fails only with the disk, or
where the path leads through the link whose place the file took. Where the save failed, there are
new directories at most, so the file is what it was. -/
theorem load_after_save {format : Format} (faithful : format.IsFaithful depth)
    {environment : Environment} (silent : environment.IsSilent) (path : String) (config : Config)
    (disk : Disk) :
    (∀ next, save path config disk format = (.ok (), next) →
      ((load environment path next format).1 = .ok config ↔
        next.outage next.operations = none ∧ (prepared path disk).tree.IsClear (.ofPath path) ∧
          config.logging.file.maxAgeDays.isSome ∧ config.logging.file.maxFiles.isSome) ∧
      (next.outage next.operations = none → (prepared path disk).tree.IsClear (.ofPath path) →
        (load environment path next format).1 = .ok config.reloaded) ∧
      (next.outage next.operations = none → ¬ (prepared path disk).tree.IsClear (.ofPath path) →
        (load environment path next format).1 = .error (.read path .notDirectory) ∧
        ∃ place target,
          (prepared path disk).tree.entry (.ofPath path) = .ok (place, some (.link target))) ∧
      (∀ cause, next.outage next.operations = some cause →
        (load environment path next format).1 = .error (.read path cause))) ∧
    (∀ fault next, save path config disk format = (.error fault, next) →
      FileTree.Extends disk.tree next.tree ∧
      ∀ bytes, disk.tree.read (.ofPath path) = .ok bytes →
        next.tree.read (.ofPath path) = .ok bytes) := by
  refine ⟨fun next saved => ?_, fun fault next failed => ?_⟩
  · obtain ⟨text, written, replaced⟩ := tree_of_save saved
    have fails (cause : IoFault) (outage : next.outage next.operations = some cause) :
        (load environment path next format).1 = .error (.read path cause) :=
      load_of_error (by rw [Disk.inquire, outage])
    have found (works : next.outage next.operations = none)
        (clear : (prepared path disk).tree.IsClear (.ofPath path)) :
        (load environment path next format).1 = .ok config.reloaded := by
      rcases FileTree.read_of_replaceFile replaced with ⟨-, read⟩ | ⟨-, unclear, -⟩
      · rw [load_of_text ((next.inquire_of_no_outage _ works).trans read)
          (ofText_of_text? faithful written), silent.override_eq]
      · exact absurd clear unclear
    have lost (works : next.outage next.operations = none)
        (unclear : ¬ (prepared path disk).tree.IsClear (.ofPath path)) :
        (load environment path next format).1 = .error (.read path .notDirectory) ∧
        ∃ place target,
          (prepared path disk).tree.entry (.ofPath path) = .ok (place, some (.link target)) := by
      rcases FileTree.read_of_replaceFile replaced with ⟨clear, -⟩ | ⟨link, -, read⟩
      · exact absurd clear unclear
      · exact ⟨load_of_error ((next.inquire_of_no_outage _ works).trans read), link⟩
    refine ⟨⟨fun same => ?_, ?_⟩, found, lost, fails⟩
    · cases outage : next.outage next.operations with
      | some cause => cases same.symm.trans (fails cause outage)
      | none =>
        by_cases clear : (prepared path disk).tree.IsClear (.ofPath path)
        · have unchanged := Except.ok.inj ((found outage clear).symm.trans same)
          exact ⟨rfl, clear, config.reloaded_eq_iff.mp unchanged⟩
        · cases same.symm.trans (lost outage clear).1
    · rintro ⟨works, clear, bounded⟩
      rw [found works clear, config.reloaded_eq_iff.mpr bounded]
  · have grown := extends_of_failed_save failed
    exact ⟨grown, fun bytes read => grown.read read⟩

section Sample

/-- A configuration by which log files of any age are kept. -/
def ageless : Config :=
  { standard with
    logging := { Logging.standard with file := { FileLogging.standard with maxAgeDays := none } } }

/-- A disk on which nothing stands. -/
def blank : Disk := .ofTree (.ofHome [])

/-- The working directory of a blank disk is its root. -/
theorem locate_blank (followLast : Bool) :
    blank.tree.follow followLast (.ofPath ".") ["."] = .ok ([], some (.directory 0o755)) := by
  rw [FileTree.follow_eq_walk (by decide +kernel) (by decide +kernel)]
  exact FileTree.walk_stay.trans FileTree.walk_nil

/-- Nothing stands at the name of a file. -/
theorem entry_blank : blank.tree.entry (.ofPath "stripe.toml") = .ok (["stripe.toml"], none) := by
  have steps : (Route.ofPath "stripe.toml").steps = ["stripe.toml"] := by decide +kernel
  rw [FileTree.entry, steps, FileTree.follow_eq_walk (by decide +kernel) (by decide +kernel)]
  exact FileTree.walk_absent ⟨by decide, by decide, by decide +kernel⟩ rfl

/-- The bound that is switched off in a saved configuration is on again in the loaded one. -/
theorem ageless_comes_back_bounded :
    (⟨.empty, none⟩ : Environment).IsSilent ∧
    Toml.format.IsFaithful depth ∧
    ∃ next, save "stripe.toml" ageless blank Toml.format = (.ok (), next) ∧
      (load ⟨.empty, none⟩ "stripe.toml" next Toml.format).1 = .ok ageless.reloaded ∧
      (load ⟨.empty, none⟩ "stripe.toml" next Toml.format).1 ≠ .ok ageless ∧
      ageless.reloaded.logging.file.maxAgeDays = some 7 := by
  have silent : (⟨.empty, none⟩ : Environment).IsSilent := fun _ _ => rfl
  have faithful : Toml.format.IsFaithful depth := Toml.isFaithful_format.mono (by decide)
  obtain ⟨text, written⟩ := Option.isSome_iff_exists.mp
    (show (ageless.text? Toml.format).isSome = true by decide +kernel)
  have directory : directoryOf "stripe.toml" = "." := by decide +kernel
  have here : (Route.ofPath ".").steps = ["."] ∧ (Route.ofPath ".").wholeSteps = ["."] := by
    decide +kernel
  have there : blank.tree.entry (.ofPath ".") = .ok ([], some (.directory 0o755)) := by
    rw [FileTree.entry, here.1, locate_blank]
  have status : blank.tree.status true (.ofPath ".") = .ok (.directory 0o755) := by
    rw [FileTree.status, FileTree.locate, here.2, locate_blank]
  have replaced : blank.tree.replaceFile (.ofPath "stripe.toml") text.toUTF8 0o600 =
      .ok (blank.tree.put ["stripe.toml"] (.file text.toUTF8 0o600 0)) := by
    have untrailed : (Route.ofPath "stripe.toml").isTrailing = false := by decide +kernel
    rw [FileTree.replaceFile, entry_blank]
    simp only [untrailed, Bool.false_eq_true, ↓reduceIte]
  have saved := save_of_ready (fun _ => rfl) written (by rw [directory]; rfl)
    (by rw [directory]; exact there) (by rw [directory]; exact status) replaced
  have prepared_eq : prepared "stripe.toml" blank = { blank with operations := 1 } := by
    have isDirectory : blank.tree.isDirectory (.ofPath ".") = true := by
      rw [FileTree.isDirectory, status]
    rw [prepared, directory, Disk.makeDirectories_of_there rfl rfl there isDirectory]
    rfl
  have clear : (prepared "stripe.toml" blank).tree.IsClear (.ofPath "stripe.toml") := by
    rw [prepared_eq]
    rcases FileTree.read_of_replaceFile replaced with ⟨clear, -⟩ | ⟨⟨_, _, link⟩, -⟩
    · exact clear
    · cases entry_blank.symm.trans link
  obtain ⟨⟨exactly, found, -⟩, -⟩ := And.imp_left (fun after => after _ saved)
    (load_after_save faithful silent "stripe.toml" ageless blank)
  refine ⟨silent, faithful, _, saved, found rfl clear, fun same => ?_, rfl⟩
  have bounded := (exactly.mp same).2.2.1
  cases bounded

end Sample

end Config
end Standby
