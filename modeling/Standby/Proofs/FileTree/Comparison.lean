import Standby.Proofs.FileTree.Making

/-!
# Paths that are compared

Paths are the same when they have the same components, and a path is within another when its
components go on from those of the other. Slashes that follow each other, slashes at the end and
steps that stay are no components, but the step with which a path begins always is
(`pathComponents_slash`). So blanks at the end of a path name another entry, or one that is within
the path without them (`pathComponents_extend`).
-/
namespace Standby

/-- A part of a path that names something. -/
def isNamedPart (part : String) : Bool := part != "" && part != "."

/-- The components of a path by its parts: the root if the first part is empty, else the first part
whatever it is, and then the parts that name something. -/
def componentsOfParts : List String → List String
  | [] => []
  | [""] => []
  | "" :: rest => "/" :: rest.filter isNamedPart
  | first :: rest => first :: rest.filter isNamedPart

/-- The components of a path, by which paths are compared. -/
def pathComponents (path : String) : List String := componentsOfParts (pathParts path)

example : pathComponents "//srv/./a//" = ["/", "srv", "a"] := by decide +kernel

example : pathComponents "./a/." = [".", "a"] := by decide +kernel

variable {path base last : String}

/-- Every path has a part. -/
theorem pathParts_ne_nil (path : String) : pathParts path ≠ [] := by
  simp [pathParts, List.splitOnP_ne_nil]

/-- An empty part is no component. -/
theorem filter_isNamedPart_empty : [""].filter isNamedPart = [] := by decide

/-- The last part of several is a component if it names something. -/
theorem componentsOfParts_concat {front : List String} (several : front ≠ []) (last : String) :
    componentsOfParts (front ++ [last]) =
      componentsOfParts (front ++ [""]) ++ [last].filter isNamedPart := by
  obtain ⟨first, rest, rfl⟩ := List.exists_cons_of_ne_nil several
  have apart (part : String) : rest ++ [part] ≠ [] := by simp
  by_cases root : first = ""
  · subst root
    simp [componentsOfParts, apart, List.filter_append, filter_isNamedPart_empty]
  · simp [componentsOfParts, root, List.filter_append, filter_isNamedPart_empty]

/-- The parts of a path with a slash at its end. -/
theorem pathParts_trailing (base : String) : pathParts (base ++ "/") = pathParts base ++ [""] := by
  have parts := pathParts_append base ""
  rwa [String.append_empty, show pathParts "" = [""] by decide +kernel] at parts

/-- A path that goes on behind a slash has one more component if the last part names something. -/
theorem pathComponents_slash (base : String) (unslashed : '/' ∉ last.toList) :
    pathComponents (base ++ "/" ++ last) =
      pathComponents (base ++ "/") ++ [last].filter isNamedPart := by
  rw [pathComponents, pathComponents, pathParts_append, pathParts_of_unslashed unslashed,
    pathParts_trailing, componentsOfParts_concat (pathParts_ne_nil base)]

/-- A slash at the end of a path is no component. -/
theorem pathComponents_trailing (named : base ≠ "") :
    pathComponents (base ++ "/") = pathComponents base := by
  rw [pathComponents, pathComponents, pathParts_trailing]
  cases parts : pathParts base with
  | nil => exact absurd parts (pathParts_ne_nil base)
  | cons first rest =>
    by_cases root : first = ""
    · have several : rest ≠ [] := by
        rintro rfl
        have whole := intercalate_pathParts base
        rw [parts, root] at whole
        exact named whole.symm
      simp [componentsOfParts, root, several, List.filter_append, filter_isNamedPart_empty]
    · simp [componentsOfParts, root, List.filter_append, filter_isNamedPart_empty]

/-- A name continues a path by one component. -/
theorem pathComponents_joinPath (named : base ≠ "") (unslashed : '/' ∉ last.toList)
    (names : isNamedPart last = true) :
    pathComponents (joinPath base last) = pathComponents base ++ [last] := by
  have kept : [last].filter isNamedPart = [last] := by simp [names]
  have filled : base.isEmpty = false := by simpa [String.isEmpty_iff] using named
  rw [joinPath, isAbsolutePath_of_unslashed unslashed, if_neg Bool.false_ne_true, filled,
    Bool.false_or]
  split
  · rename_i trailing
    have ends : base.toList.getLast? = some '/' := by simpa using trailing
    obtain ⟨before, split⟩ := List.getLast?_eq_some_iff.mp ends
    obtain rfl : base = String.ofList before ++ "/" := by
      rw [← String.toList_inj, split]
      simp
    rw [pathComponents_slash _ unslashed, kept]
  · rw [pathComponents_slash base unslashed, kept, pathComponents_trailing named]

/-- The first component of a path begins with its first character. -/
theorem exists_pathComponents_of_cons {first : Char} {rest : List Char}
    (characters : path.toList = first :: rest) :
    ∃ more components, pathComponents path = String.ofList (first :: more) :: components := by
  obtain ⟨part, parts, split⟩ := List.exists_cons_of_ne_nil (List.splitOnP_ne_nil (· == '/') rest)
  by_cases slash : first = '/'
  · subst slash
    have whole : pathParts path = "" :: String.ofList part :: parts.map String.ofList := by
      rw [pathParts, characters, List.splitOnP_cons_eq_if_modifyHead, if_pos (by rfl), split]
      rfl
    exact ⟨[], _, by rw [pathComponents, whole]; rfl⟩
  · have whole : pathParts path =
        String.ofList (first :: part) :: parts.map String.ofList := by
      rw [pathParts, characters, List.splitOnP_cons_eq_if_modifyHead,
        if_neg (by simpa using slash), split]
      rfl
    exact ⟨part, (parts.map String.ofList).filter isNamedPart, by
      rw [pathComponents, whole]; simp [componentsOfParts]⟩

/-- A path is its only part, or there is a last part behind a slash. -/
theorem unslashed_or_exists_last (path : String) :
    '/' ∉ path.toList ∨ ∃ base last, path = base ++ "/" ++ last ∧ '/' ∉ last.toList := by
  by_cases slash : '/' ∈ path.toList
  · obtain ⟨after, before, split, unslashed⟩ :=
      List.eq_append_cons_of_mem (List.mem_reverse.mpr slash)
    refine .inr ⟨String.ofList before.reverse, String.ofList after.reverse, ?_, by simpa⟩
    rw [← String.toList_inj, ← List.reverse_reverse path.toList, split]
    simp
  · exact .inl slash

/-- A path whose last part names nothing: it ends with a slash, or with a step that stays. -/
def EndsIdly (path : String) : Prop :=
  ['/'] <:+ path.toList ∨ ['/', '.'] <:+ path.toList

/-- What follows the last slash is empty if a text ends with a slash. -/
theorem eq_nil_of_trailing {front before rest : List Char} (unslashed : '/' ∉ rest)
    (same : front ++ ['/'] = before ++ '/' :: rest) : rest = [] := by
  rcases List.eq_nil_or_concat rest with nothing | ⟨middle, final, rfl⟩
  · exact nothing
  · have whole : front ++ ['/'] = (before ++ '/' :: middle) ++ [final] := by simpa using same
    obtain ⟨-, last⟩ := List.append_inj' whole rfl
    cases last
    exact absurd (by simp) unslashed

/-- A path ends idly exactly if there is a slash before its last part and that names nothing. -/
theorem endsIdly_slash_iff (unslashed : '/' ∉ last.toList) :
    EndsIdly (base ++ "/" ++ last) ↔ isNamedPart last = false := by
  have characters : (base ++ "/" ++ last).toList = base.toList ++ '/' :: last.toList := by
    simp [String.toList_append]
  have idle : isNamedPart last = false ↔ last.toList = [] ∨ last.toList = ['.'] := by
    rw [isNamedPart, Bool.and_eq_false_iff, bne_eq_false_iff_eq, bne_eq_false_iff_eq,
      ← String.toList_inj, ← String.toList_inj]
    rfl
  rw [EndsIdly, characters, idle]
  constructor
  · rintro (⟨front, ends⟩ | ⟨front, ends⟩)
    · exact .inl (eq_nil_of_trailing unslashed ends)
    · rcases List.eq_nil_or_concat last.toList with nothing | ⟨middle, final, split⟩
      · exact .inl nothing
      · rw [split, List.concat_eq_append] at ends unslashed ⊢
        have whole : (front ++ ['/']) ++ ['.'] = (base.toList ++ '/' :: middle) ++ [final] := by
          simpa using ends
        obtain ⟨before, point⟩ := List.append_inj' whole rfl
        have alone : middle = [] :=
          eq_nil_of_trailing (fun slash => unslashed (List.mem_append_left _ slash)) before
        cases point
        exact .inr (by rw [alone, List.nil_append])
  · rintro (nothing | stays)
    · exact .inl ⟨base.toList, by rw [nothing]⟩
    · exact .inr ⟨base.toList, by rw [stays]⟩

/-- A path without slashes does not end idly. -/
theorem not_endsIdly_of_unslashed (unslashed : '/' ∉ path.toList) : ¬ EndsIdly path := by
  rintro (ends | ends)
  · exact unslashed (ends.subset (by simp))
  · exact unslashed (ends.subset (by simp))

/-- Characters at the end of a path that ends idly name an entry of it; at the end of any other path
they change the last component. -/
theorem pathComponents_extend (named : path ≠ "") {tail : String} (unslashed : '/' ∉ tail.toList)
    (filled : tail ≠ "") (moves : tail ≠ ".") :
    (EndsIdly path → ∃ name, pathComponents (path ++ tail) = pathComponents path ++ [name]) ∧
      (¬ EndsIdly path → ∃ front last, pathComponents path = front ++ [last] ∧
        pathComponents (path ++ tail) = front ++ [last ++ tail]) := by
  have longer (last : String) : last ++ tail ≠ "" := by
    intro nothing
    exact filled (String.append_eq_empty_iff.mp nothing).2
  have names (last : String) : isNamedPart (last ++ tail) = true := by
    have moves : last ++ tail ≠ "." := by
      intro stays
      rw [← String.toList_inj, String.toList_append] at stays
      rcases List.append_eq_singleton_iff.mp stays with ⟨-, point⟩ | ⟨-, nothing⟩
      · exact moves (String.toList_inj.mp point)
      · exact filled (String.toList_inj.mp nothing)
    simp [isNamedPart, longer last, moves]
  rcases unslashed_or_exists_last path with alone | ⟨base, last, rfl, alone⟩
  · have single (name : String) (filled : name ≠ "") (alone : '/' ∉ name.toList) :
        pathComponents name = [name] := by
      rw [pathComponents, pathParts_of_unslashed alone]
      simp [componentsOfParts, filled]
    refine ⟨fun idle => absurd idle (not_endsIdly_of_unslashed alone), fun _ => ⟨[], path, ?_, ?_⟩⟩
    · exact single path named alone
    · exact single _ (longer path) (by simp [alone, unslashed])
  · have apart : '/' ∉ (last ++ tail).toList := by simp [alone, unslashed]
    have extended : pathComponents (base ++ "/" ++ last ++ tail) =
        pathComponents (base ++ "/") ++ [last ++ tail] := by
      rw [String.append_assoc, pathComponents_slash base apart]
      simp [names]
    rw [extended, pathComponents_slash base alone, endsIdly_slash_iff alone]
    refine ⟨fun idle => ⟨last ++ tail, by simp [idle]⟩, fun named => ⟨_, last, ?_, rfl⟩⟩
    simp [named]

end Standby
