import Mathlib.Data.List.TakeWhile
import Standby.Config.Paths
import Standby.Proofs.FileTree.Comparison

/-!
# The directory that the environment names

The environment names the directory of the data for two readers. The configuration takes the name
without the blanks at its ends, and the default directories take it as it is named. They agree
exactly on a name without blanks at its ends, and only there the default directory of the logs is
sure to be within the directory of the data (`data_directories_agree_iff`).
-/
namespace Standby

namespace Text

/-- A text is blanks, the text without the blanks at its ends, which does not begin with a blank,
and blanks again. -/
theorem exists_blanks_around (text : String) :
    ∃ before after, text.toList = before ++ (trim text).toList ++ after ∧
      (∀ c ∈ before, isBlankChar c = true) ∧ (∀ c ∈ after, isBlankChar c = true) ∧
      ∀ first rest, (trim text).toList = first :: rest → isBlankChar first = false := by
  let onward := text.toList.dropWhile isBlankChar
  have back : (trim text).toList ++ (onward.reverse.takeWhile isBlankChar).reverse = onward := by
    rw [trim, String.toList_ofList, trimChars, ← List.reverse_append,
      List.takeWhile_append_dropWhile, List.reverse_reverse]
  refine ⟨text.toList.takeWhile isBlankChar, (onward.reverse.takeWhile isBlankChar).reverse, ?_,
    fun c => List.mem_takeWhile_imp, fun c member => ?_, fun first rest begins => ?_⟩
  · rw [List.append_assoc, back, List.takeWhile_append_dropWhile]
  · exact List.mem_takeWhile_imp (List.mem_reverse.mp member)
  · have stops := List.head?_dropWhile_not isBlankChar text.toList
    rw [show text.toList.dropWhile isBlankChar = _ from back.symm, begins] at stops
    exact stops

/-- A text that is not blank is not empty when it is trimmed. -/
theorem trim_ne_empty {text : String} (visible : isBlank text = false) : trim text ≠ "" := by
  intro nothing
  rw [← String.toList_inj, trim, String.toList_ofList] at nothing
  have blank : isBlank text = true := (trimChars_eq_nil_iff _).mp nothing
  rw [visible] at blank
  cases blank

end Text

open Text

/-- A path begins as it does without the blanks at its ends, or its first component is another. -/
theorem trim_cases {path : String} (visible : isBlank path = false) :
    (∃ tail, path = trim path ++ tail ∧ '/' ∉ tail.toList ∧ tail ≠ ".") ∨
      (¬ (trim path).toList <+: path.toList ∧ ∃ first other rest more,
        first ≠ other ∧ pathComponents path = first :: rest ∧
          pathComponents (trim path) = other :: more) := by
  obtain ⟨before, after, split, early, late, begins⟩ := exists_blanks_around path
  cases before with
  | nil =>
    refine .inl ⟨String.ofList after, ?_, ?_, ?_⟩
    · rw [← String.toList_inj, split]
      simp
    · rw [String.toList_ofList]
      exact fun slash => absurd (late _ slash) (by decide)
    · intro stays
      have point : '.' ∈ after := by
        rw [← String.toList_ofList (l := after), stays]
        exact List.mem_cons_self
      exact absurd (late _ point) (by decide)
  | cons blank blanks =>
    obtain ⟨first, rest, trimmed⟩ : ∃ first rest, (trim path).toList = first :: rest :=
      List.exists_cons_of_ne_nil fun nothing =>
        trim_ne_empty visible (String.toList_inj.mp nothing)
    have differs : blank ≠ first := by
      rintro rfl
      exact absurd (early blank List.mem_cons_self) (by simp [begins _ _ trimmed])
    obtain ⟨part, parts, own⟩ := exists_pathComponents_of_cons split
    obtain ⟨part', parts', other⟩ := exists_pathComponents_of_cons trimmed
    refine .inr ⟨fun same => ?_, _, _, _, _, fun same => ?_, own, other⟩
    · rw [split, trimmed] at same
      exact differs (List.cons_prefix_cons.mp same).1.symm
    · exact differs (List.cons.inj (String.ofList_inj.mp same)).1

/-- The configuration takes the directory that the environment names without the blanks at its ends,
and the default directories take it as it is. The directory of the data is the same for both exactly
if the name has no blanks at its ends. The default directory of the logs is within the configured
directory of the data exactly if that is so, or if the blanks are all at the end, behind a slash or
a step that stays. -/
theorem data_directories_agree_iff (config : Config) (environment : Environment) (value : String)
    (isSet : environment.get? Environment.dataDirectory = some value)
    (visible : isBlank value = false) (logging : FileLogging) :
    let configured := (environment.override config).cluster.dataPath environment
    let logs := FileLogging.logPath { logging with directory := none } environment
    (configured = trim value ∧ environment.dataPath = value ∧ logs = joinPath value "logs") ∧
      (pathComponents configured = pathComponents environment.dataPath ↔ trim value = value) ∧
      (pathComponents configured <+: pathComponents logs ↔
        trim value = value ∨ (trim value).toList <+: value.toList ∧ EndsIdly (trim value)) := by
  intro configured logs
  have named : trim value ≠ "" := trim_ne_empty visible
  have own : configured = trim value := by
    have read : environment.value? Environment.dataDirectory = some (trim value) := by
      simp [Environment.value?, isSet, Option.filter, named]
    change ((environment.value? Environment.dataDirectory).or
      config.cluster.dataDirectory).getD _ = _
    rw [read]
    rfl
  have data : environment.dataPath = value := by
    simp [Environment.dataPath, isSet, Option.filter, visible]
  have logged : logs = joinPath value "logs" := by
    change joinPath environment.dataPath "logs" = _
    rw [data]
  have filled : value ≠ "" := by
    rintro rfl
    exact named (by decide +kernel)
  have onward : pathComponents logs = pathComponents value ++ ["logs"] := by
    rw [logged, pathComponents_joinPath filled (by decide) (by decide)]
  refine ⟨⟨own, data, logged⟩, ?_⟩
  rw [onward, own, data]
  rcases trim_cases visible with ⟨tail, split, unslashed, moves⟩ | ⟨apart, first, other, rest, more,
    differs, begins, trimmed⟩
  · have begins : (trim value).toList <+: value.toList := by
      rw [show value.toList = _ from congrArg String.toList split, String.toList_append]
      exact List.prefix_append _ _
    by_cases whole : tail = ""
    · have same : trim value = value := by
        rw [whole, String.append_empty] at split
        exact split.symm
      simp [same]
    · have differs : trim value ≠ value := fun same => by
        rw [same] at split
        exact whole (String.append_eq_left_iff.mp split.symm)
      obtain ⟨idle, busy⟩ := pathComponents_extend named unslashed whole moves
      rw [← split] at idle busy
      by_cases ends : EndsIdly (trim value)
      · obtain ⟨name, longer⟩ := idle ends
        simp [differs, begins, ends, longer]
      · obtain ⟨front, last, short, long⟩ := busy ends
        have changed : last ≠ last ++ tail := fun same =>
          whole (String.append_eq_left_iff.mp same.symm)
        simp [differs, ends, short, long, changed]
  · have padded : trim value ≠ value := fun same => by
      rw [same] at apart
      exact apart List.prefix_rfl
    simp [begins, trimmed, padded, apart, differs.symm]

/-- An environment that names the directory of the data with blanks at both ends. -/
def paddedEnvironment : Environment :=
  ⟨.ofList [(Environment.dataDirectory, " /srv/stripe ")], none⟩

/-- With blanks at its ends the name that the environment gives stands for two directories, and the
logs are not kept within the configured one. -/
theorem padded_name_divides_directories :
    paddedEnvironment.get? Environment.dataDirectory = some " /srv/stripe " ∧
      isBlank " /srv/stripe " = false ∧
      (paddedEnvironment.override .standard).cluster.dataPath paddedEnvironment = "/srv/stripe" ∧
      pathComponents ((paddedEnvironment.override .standard).cluster.dataPath paddedEnvironment) ≠
        pathComponents paddedEnvironment.dataPath ∧
      ¬ pathComponents ((paddedEnvironment.override .standard).cluster.dataPath
        paddedEnvironment) <+: pathComponents (FileLogging.standard.logPath paddedEnvironment) := by
  have isSet : paddedEnvironment.get? Environment.dataDirectory = some " /srv/stripe " := by
    decide +kernel
  have visible : isBlank " /srv/stripe " = false := by decide +kernel
  obtain ⟨⟨own, -, -⟩, same, within⟩ :=
    data_directories_agree_iff .standard paddedEnvironment _ isSet visible .standard
  have trimmed : trim " /srv/stripe " = "/srv/stripe" := by decide +kernel
  have padded : trim " /srv/stripe " ≠ " /srv/stripe " := by decide +kernel
  refine ⟨isSet, visible, own.trans trimmed, fun agree => padded (same.mp agree), fun inside => ?_⟩
  rcases within.mp inside with agree | ⟨begins, -⟩
  · exact padded agree
  · exact absurd begins (by decide +kernel)

end Standby
