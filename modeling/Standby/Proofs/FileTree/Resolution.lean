import Standby.Proofs.FileTree.Directory

/-!
# Where a path leads by its text

A path is resolved by its text alone: a step that stays is left out, and a step up takes back the
name before it, leaves the beginning of a relative path, or stays at the root (`Resolved.ofPath`).
Paths are joined by going on from where the first one leads (`ofPath_joinPath`), so it can be read
off two paths whether the second one leads to an entry of any directory that the first one names
(`continued_eq_entry_iff`).
-/
namespace Standby

/-- The place that a path leads to by its text. -/
structure Resolved where
  /-- The number of directories that a relative path leaves, or none if it begins at the root. -/
  ascent : Option Nat
  /-- The names that are entered from there. -/
  names : List String
  deriving DecidableEq, Repr

namespace Resolved

variable {base onward : Resolved} {name : String}

/-- The place where relative paths begin. -/
def here : Resolved := ⟨some 0, []⟩

/-- A name in a place. -/
def entry (base : Resolved) (name : String) : Resolved :=
  { base with names := base.names ++ [name] }

/-- The place above a place; above the root is the root. -/
def up (base : Resolved) : Resolved :=
  if base.names = [] then { base with ascent := base.ascent.map (· + 1) }
  else { base with names := base.names.dropLast }

/-- The place after a step of a path. -/
def move (base : Resolved) (step : String) : Resolved :=
  if step = "." then base else if step = ".." then base.up else base.entry step

/-- The place that a path leads to. -/
def ofPath (path : String) : Resolved :=
  (Route.ofPath path).steps.foldl move ⟨if isAbsolutePath path then none else some 0, []⟩

/-- The place that a path leads to from a place. -/
def continued (base onward : Resolved) : Resolved :=
  match onward.ascent with
  | none => onward
  | some climbs =>
    { ascent := base.ascent.map (· + (climbs - base.names.length))
      names := base.names.take (base.names.length - climbs) ++ onward.names }

/-- Entries of one directory are the same if their names are. -/
@[simp] theorem entry_inj {other : String} : base.entry name = base.entry other ↔ name = other := by
  simp [entry]

/-- Above an entry is its directory. -/
theorem up_entry (base : Resolved) (name : String) : (base.entry name).up = base := by
  simp [entry, up]

/-- A place is that of no names, or a name in a place. -/
theorem eq_entry (base : Resolved) : base.names = [] ∨ ∃ front name, base = entry front name := by
  rcases List.eq_nil_or_concat base.names with empty | ⟨front, name, names⟩
  · exact .inl empty
  · exact .inr ⟨⟨base.ascent, front⟩, name, by simp [entry, ← List.concat_eq_append, ← names]⟩

/-- To go on nowhere is to stay. -/
theorem continued_here (base : Resolved) : base.continued here = base := by
  simp [continued, here]

/-- To go on from here is to go. -/
theorem here_continued (onward : Resolved) : here.continued onward = onward := by
  obtain ⟨ascent, names⟩ := onward
  cases ascent <;> simp [continued, here]

/-- To go on to an entry is to go on and to enter it. -/
theorem continued_entry (base onward : Resolved) (name : String) :
    base.continued (onward.entry name) = (base.continued onward).entry name := by
  cases ascent : onward.ascent <;> simp [continued, entry, ascent]

/-- A path that leaves one directory more leads one directory further up. -/
theorem continued_climb (base : Resolved) (climbs : Nat) :
    base.continued ⟨some (climbs + 1), []⟩ = (base.continued ⟨some climbs, []⟩).up := by
  simp only [continued, up, List.append_nil, Option.map_map]
  by_cases above : base.names.length ≤ climbs
  · have further : climbs + 1 - base.names.length = climbs - base.names.length + 1 := by omega
    have none_left : base.names.length - climbs = 0 := by omega
    rw [if_pos (by simp [none_left]), further]
    simp [none_left, Function.comp_def, Nat.add_assoc, Nat.sub_succ]
  · have some_left : base.names.take (base.names.length - climbs) ≠ [] := by
      simp only [ne_eq, List.take_eq_nil_iff, not_or]
      refine ⟨by omega, ?_⟩
      rintro empty
      simp [empty] at above
    have level : climbs + 1 - base.names.length = climbs - base.names.length := by omega
    have shorter : base.names.length - (climbs + 1) =
        min (min (base.names.length - climbs) base.names.length - 1)
          (base.names.length - climbs) := by omega
    rw [if_neg some_left, level, List.dropLast_eq_take, List.take_take, List.length_take, shorter]

/-- To go on and up is to go on and then up. -/
theorem continued_up (base onward : Resolved) :
    base.continued onward.up = (base.continued onward).up := by
  rcases onward.eq_entry with empty | ⟨front, name, rfl⟩
  · obtain ⟨ascent, names⟩ := onward
    obtain rfl : names = [] := empty
    cases ascent with
    | none => rfl
    | some climbs => exact continued_climb base climbs
  · rw [up_entry, continued_entry, up_entry]

/-- To go on by a step more is to go on and to take the step. -/
theorem continued_move (base onward : Resolved) (step : String) :
    (base.continued onward).move step = base.continued (onward.move step) := by
  rw [move, move]
  split
  · rfl
  split
  · exact (continued_up base onward).symm
  · exact (continued_entry base onward step).symm

/-- Steps are taken from a place as they are from where relative paths begin. -/
theorem foldl_move (steps : List String) (base : Resolved) :
    steps.foldl move base = base.continued (steps.foldl move here) := by
  rw [← List.foldl_hom base.continued (continued_move base), continued_here]

/-- What goes on from the root is resolved from the root. -/
theorem ascent_continued_none (names : List String) (onward : Resolved) :
    (continued ⟨none, names⟩ onward).ascent = none := by
  cases ascent : onward.ascent <;> simp [continued, ascent]

/-- Paths are joined by going on from where the first one leads. -/
theorem ofPath_joinPath (base path : String) :
    ofPath (joinPath base path) = (ofPath base).continued (ofPath path) := by
  cases absolute : isAbsolutePath path with
  | true =>
    have from_root : (ofPath path).ascent = none := by
      rw [ofPath, foldl_move, absolute, if_pos rfl, ascent_continued_none]
    rw [joinPath, absolute, if_pos rfl, continued, from_root]
  | false =>
    have begins : isAbsolutePath (joinPath base path) = isAbsolutePath base :=
      isAbsolute_joinPath absolute base
    rw [ofPath, steps_joinPath_of_relative absolute, begins, List.foldl_append, foldl_move]
    simp only [ofPath, absolute]
    rfl

example : ofPath (joinPath "state/" "../../a//./b/") = ⟨some 1, ["a", "b"]⟩ := by decide +kernel

/-- A path leads to an entry of a place under a name: an absolute path from the root, and a relative
path by entering again what it leaves. -/
def LeadsToEntry (onward base : Resolved) (name : String) : Prop :=
  match onward.ascent with
  | none => onward = base.entry name
  | some climbs =>
    (base.ascent = none ∨ climbs ≤ base.names.length) ∧
      onward.names = base.names.drop (base.names.length - climbs) ++ [name]

/-- A path continued by another is an entry exactly if the other one leads to it. -/
theorem continued_eq_entry_iff (base onward : Resolved) (name : String) :
    base.continued onward = base.entry name ↔ onward.LeadsToEntry base name := by
  obtain ⟨ascent, names⟩ := onward
  cases ascent with
  | none => exact Iff.rfl
  | some climbs =>
    have level : base.ascent.map (· + (climbs - base.names.length)) = base.ascent ↔
        base.ascent = none ∨ climbs ≤ base.names.length := by
      cases base.ascent with
      | none => simp
      | some => simp [Nat.sub_eq_zero_iff_le]
    have whole : base.names ++ [name] = base.names.take (base.names.length - climbs) ++
        (base.names.drop (base.names.length - climbs) ++ [name]) := by
      rw [← List.append_assoc, List.take_append_drop]
    rw [continued, entry, Resolved.mk.injEq, level, whole, List.append_cancel_left_eq,
      LeadsToEntry]

end Resolved

/-- A name that is a path of one step, which leads to an entry. -/
structure IsPlainName (name : String) : Prop where
  /-- The step does not stay. -/
  moves : name ≠ "."
  /-- The step does not go up. -/
  goesDown : name ≠ ".."
  /-- A name is no way through several directories. -/
  unslashed : '/' ∉ name.toList
  /-- A name is not empty. -/
  nonempty : name ≠ ""

/-- The name of an entry is plain. -/
theorem IsEntryName.isPlainName {name : String} (entry : IsEntryName name) : IsPlainName name :=
  ⟨entry.moves, entry.goesDown, entry.unslashed, entry.nonempty⟩

namespace Resolved

variable {name path : String}

/-- A plain name leads to the entry of that name. -/
theorem ofPath_of_isPlainName (plain : IsPlainName name) : ofPath name = here.entry name := by
  have steps : (Route.ofPath name).steps = [name] := by
    simp [Route.ofPath, pathParts_of_unslashed plain.unslashed, plain.nonempty]
  have relative := isAbsolutePath_of_unslashed plain.unslashed
  simp [ofPath, steps, relative, move, plain.moves, plain.goesDown, here]

/-- A plain name continues a path by an entry. -/
theorem ofPath_joinPath_of_isPlainName (plain : IsPlainName name) (base : String) :
    ofPath (joinPath base name) = (ofPath base).entry name := by
  rw [ofPath_joinPath, ofPath_of_isPlainName plain, continued_entry, continued_here]

/-- No part of a path has a slash. -/
theorem unslashed_of_mem_pathParts (member : name ∈ pathParts path) : '/' ∉ name.toList := by
  obtain ⟨part, among, rfl⟩ := List.mem_map.mp member
  rw [String.toList_ofList]
  clear member
  generalize path.toList = characters at among
  induction characters generalizing part with
  | nil =>
    rw [List.splitOnP_nil, List.mem_singleton] at among
    rw [among]
    exact List.not_mem_nil
  | cons character characters ih =>
    rw [List.splitOnP_cons_eq_if_modifyHead] at among
    split at among
    · rcases List.mem_cons.mp among with rfl | among
      · exact List.not_mem_nil
      · exact ih part among
    · rename_i apart
      cases parts : characters.splitOnP (· == '/') with
      | nil =>
        rw [parts] at among
        cases among
      | cons first rest =>
        rw [parts] at among ih
        rcases List.mem_cons.mp among with rfl | among
        · have unslashed := ih first List.mem_cons_self
          intro slash
          rcases List.mem_cons.mp slash with rfl | slash
          · exact apart rfl
          · exact unslashed slash
        · exact ih part (List.mem_cons_of_mem _ among)

/-- A step enters no name but itself. -/
theorem mem_names_move {base : Resolved} {step : String} (member : name ∈ (base.move step).names) :
    name ∈ base.names ∨ name = step ∧ step ≠ "." ∧ step ≠ ".." := by
  rw [move] at member
  split at member
  · exact .inl member
  rename_i moves
  split at member
  · rw [up] at member
    split at member
    · exact .inl member
    · exact .inl (List.dropLast_subset _ member)
  · rename_i goesDown
    rcases List.mem_append.mp member with before | last
    · exact .inl before
    · exact .inr ⟨List.mem_singleton.mp last, moves, goesDown⟩

/-- The names that steps lead through are those of the base or of the steps. -/
theorem mem_names_foldl {base : Resolved} {steps : List String}
    (member : name ∈ (steps.foldl move base).names) :
    name ∈ base.names ∨ name ∈ steps ∧ name ≠ "." ∧ name ≠ ".." := by
  induction steps generalizing base with
  | nil => exact .inl member
  | cons step rest ih =>
    rcases ih member with before | ⟨later, dots⟩
    · rcases mem_names_move before with before | ⟨rfl, dots⟩
      · exact .inl before
      · exact .inr ⟨List.mem_cons_self, dots⟩
    · exact .inr ⟨List.mem_cons_of_mem _ later, dots⟩

/-- The names that a path enters are plain. -/
theorem isPlainName_of_mem_names (member : name ∈ (ofPath path).names) : IsPlainName name := by
  rcases mem_names_foldl member with none_before | ⟨step, moves, goesDown⟩
  · cases none_before
  · obtain ⟨part, filled⟩ := List.mem_filter.mp step
    exact ⟨moves, goesDown, unslashed_of_mem_pathParts part, by simpa using filled⟩

/-- A path is the name of an entry of the place where it begins exactly if it is a plain name. -/
theorem ofPath_eq_entry_self_iff : ofPath name = here.entry name ↔ IsPlainName name := by
  constructor
  · intro resolved
    have entered : name ∈ (ofPath name).names := by simp [resolved, entry]
    exact isPlainName_of_mem_names entered
  · exact ofPath_of_isPlainName

end Resolved
end Standby
