import Mathlib.Data.List.Basic
import Standby.Logs.Retention

/-!
# Which log files expire

The limits divide log files into those that are removed and those that are kept
(`RetentionLimits.Divides`). The two limits work one after the other: the age takes every file that
is past it, and only the files within the age are counted. Of these the oldest are removed, just as
many as are too many; files of one moment go in the order in which they are listed, since the sort
by time keeps it (`filter_byTime`).
-/
namespace Standby

variable {Name : Type}

/-- More time than is allowed has passed since the last change of a file. Since a moment in the
future no time has passed. -/
def LogEntry.IsPast (maxAge : Option Duration) (now : Instant) (entry : LogEntry Name) : Prop :=
  ∃ span ∈ maxAge, (span.nanos : Int) < max 0 (now.nanos - entry.modified.nanos)

instance (maxAge : Option Duration) (now : Instant) :
    DecidablePred fun entry : LogEntry Name => entry.IsPast maxAge now :=
  fun _ => inferInstanceAs (Decidable (∃ _ ∈ maxAge, _))

namespace RetentionLimits

/-- The files past the age. -/
def past (limits : RetentionLimits) (now : Instant) (entries : List (LogEntry Name)) :
    List (LogEntry Name) :=
  entries.filter fun entry => entry.IsPast limits.maxAge now

/-- The files within the age. -/
def within (limits : RetentionLimits) (now : Instant) (entries : List (LogEntry Name)) :
    List (LogEntry Name) :=
  entries.filter fun entry => ¬ entry.IsPast limits.maxAge now

/-- Log files are divided as the limits want it at a moment. -/
structure Divides (limits : RetentionLimits) (now : Instant)
    (entries removed kept : List (LogEntry Name)) : Prop where
  /-- No file is lost and none is listed twice. -/
  whole : (removed ++ kept).Perm entries
  /-- Every file past the age is removed. -/
  young : ∀ entry ∈ kept, ¬ entry.IsPast limits.maxAge now
  /-- No more files are kept than may be. -/
  bounded : ∀ count ∈ limits.maxFiles, kept.length ≤ count.toNat
  /-- Files within the age are removed only if there are more of them than may be kept, and then
  just as many as are too many. -/
  excess : limits.within now removed ≠ [] → ∃ count ∈ limits.maxFiles,
    count.toNat < (limits.within now entries).length ∧
      (limits.within now removed).length = (limits.within now entries).length - count.toNat
  /-- What is kept is at least as recent as what is removed within the age. -/
  recent : ∀ old ∈ limits.within now removed, ∀ entry ∈ kept,
    old.modified.nanos ≤ entry.modified.nanos
  /-- Of the files of one moment those listed first are removed. -/
  inOrder : ∀ moment, (limits.within now (removed ++ kept)).filter (·.modified = moment) =
    (limits.within now entries).filter (·.modified = moment)
  /-- Without limits nothing is removed. -/
  unlimited : limits.maxAge = none → limits.maxFiles = none → removed = [] ∧ kept = entries

variable {limits : RetentionLimits} {now : Instant} {entries : List (LogEntry Name)}

/-- The files past the age are those that are too old, and the others are within it. -/
theorem splitByAge_eq (limits : RetentionLimits) (now : Instant)
    (entries : List (LogEntry Name)) :
    splitByAge limits.maxAge now entries =
      (limits.past now entries, limits.within now entries) := by
  rw [past, within]
  cases limits.maxAge with
  | none => simp [splitByAge, LogEntry.IsPast]
  | some span =>
    have older (entry : LogEntry Name) :
        entry.isOlder now span = decide (entry.IsPast (some span) now) := by
      rw [LogEntry.isOlder, decide_eq_decide]
      simp only [LogEntry.IsPast, LogEntry.age, Option.mem_some_iff, exists_eq_left']
      omega
    simp only [splitByAge, List.partition_eq_filter_filter, older]
    congr 1
    refine List.filter_congr fun entry _ => ?_
    simp

/-- Files by the time of their last change; files of one time stay in order. -/
def byTime (entries : List (LogEntry Name)) : List (LogEntry Name) :=
  entries.mergeSort fun left right => left.modified.nanos ≤ right.modified.nanos

/-- The files by their times are the files. -/
theorem byTime_perm (entries : List (LogEntry Name)) : (byTime entries).Perm entries :=
  List.mergeSort_perm entries _

/-- The order by time, as the sort asks for it. -/
theorem isUntil_trans (left middle right : LogEntry Name)
    (first : decide (left.modified.nanos ≤ middle.modified.nanos) = true)
    (second : decide (middle.modified.nanos ≤ right.modified.nanos) = true) :
    decide (left.modified.nanos ≤ right.modified.nanos) = true :=
  decide_eq_true (Int.le_trans (of_decide_eq_true first) (of_decide_eq_true second))

/-- Of two files one is not later than the other. -/
theorem isUntil_total (left right : LogEntry Name) :
    (decide (left.modified.nanos ≤ right.modified.nanos) ||
      decide (right.modified.nanos ≤ left.modified.nanos)) = true := by
  simp only [Bool.or_eq_true, decide_eq_true_eq]
  exact Int.le_total _ _

/-- Files by their times are in the order of their times. -/
theorem pairwise_byTime (entries : List (LogEntry Name)) :
    (byTime entries).Pairwise fun left right => left.modified.nanos ≤ right.modified.nanos :=
  (List.pairwise_mergeSort isUntil_trans isUntil_total entries).imp of_decide_eq_true

/-- The sort by time keeps the order of the files of one moment. -/
theorem filter_byTime (entries : List (LogEntry Name)) (moment : Instant) :
    (byTime entries).filter (·.modified = moment) = entries.filter (·.modified = moment) := by
  have same : (entries.filter (·.modified = moment)).Pairwise fun left right =>
      decide (left.modified.nanos ≤ right.modified.nanos) = true := by
    refine List.pairwise_of_forall_mem_list fun left first right second => ?_
    have here := of_decide_eq_true (List.mem_filter.mp first).2
    have there := of_decide_eq_true (List.mem_filter.mp second).2
    rw [here, there]
    exact decide_eq_true (Int.le_refl _)
  have kept := (List.sublist_mergeSort isUntil_trans isUntil_total same List.filter_sublist).filter
    (·.modified = moment)
  simp only [List.filter_filter, Bool.and_self] at kept
  exact (kept.eq_of_length ((byTime_perm entries).filter _).length_eq.symm).symm

/-- The oldest files are those at the front of the list by time. -/
theorem splitByCount_some (count : UInt64) (entries : List (LogEntry Name)) :
    splitByCount (some count) entries =
      ((byTime entries).take (entries.length - count.toNat),
        (byTime entries).drop (entries.length - count.toNat)) := by
  rw [← (byTime_perm entries).length_eq]
  exact List.splitAt_eq

/-- The files over the count and the others are the files. -/
theorem splitByCount_perm (maxFiles : Option UInt64) (entries : List (LogEntry Name)) :
    ((splitByCount maxFiles entries).1 ++ (splitByCount maxFiles entries).2).Perm entries := by
  cases maxFiles with
  | none => exact .refl entries
  | some count =>
    rw [splitByCount_some, List.take_append_drop]
    exact byTime_perm entries

/-- Files of one time keep their order. -/
theorem filter_splitByCount (maxFiles : Option UInt64) (entries : List (LogEntry Name))
    (moment : Instant) :
    ((splitByCount maxFiles entries).1 ++ (splitByCount maxFiles entries).2).filter
      (·.modified = moment) = entries.filter (·.modified = moment) := by
  cases maxFiles with
  | none => rfl
  | some count =>
    rw [splitByCount_some, List.take_append_drop]
    exact filter_byTime entries moment

/-- No more files are left than the count allows. -/
theorem length_splitByCount {maxFiles : Option UInt64} {count : UInt64} (given : count ∈ maxFiles)
    (entries : List (LogEntry Name)) : (splitByCount maxFiles entries).2.length ≤ count.toNat := by
  rw [Option.mem_def.mp given, splitByCount_some, List.length_drop,
    (byTime_perm entries).length_eq]
  omega

/-- Files are over the count only if there are more, and then as many as that. -/
theorem splitByCount_excess {maxFiles : Option UInt64} {entries : List (LogEntry Name)}
    (some_file : (splitByCount maxFiles entries).1 ≠ []) :
    ∃ count ∈ maxFiles, count.toNat < entries.length ∧
      (splitByCount maxFiles entries).1.length = entries.length - count.toNat := by
  cases maxFiles with
  | none => exact absurd rfl some_file
  | some count =>
    have positive := List.length_pos_iff.mpr some_file
    rw [splitByCount_some, List.length_take, (byTime_perm entries).length_eq] at positive ⊢
    exact ⟨count, rfl, by omega, by omega⟩

/-- The files over the count are not later than the others. -/
theorem splitByCount_recent (maxFiles : Option UInt64) {entries : List (LogEntry Name)} :
    ∀ old ∈ (splitByCount maxFiles entries).1, ∀ entry ∈ (splitByCount maxFiles entries).2,
      old.modified.nanos ≤ entry.modified.nanos := by
  cases maxFiles with
  | none => exact fun _ none => absurd none List.not_mem_nil
  | some count =>
    have sorted := pairwise_byTime entries
    rw [← List.take_append_drop (entries.length - count.toNat) (byTime entries)] at sorted
    rw [splitByCount_some]
    exact (List.pairwise_append.mp sorted).2.2

/-- Of some files and then others those within the limits come one after the other. -/
theorem within_append (limits : RetentionLimits) (now : Instant)
    (left right : List (LogEntry Name)) :
    limits.within now (left ++ right) = limits.within now left ++ limits.within now right :=
  List.filter_append left right

/-- The files past the age are not within it. -/
theorem within_past (limits : RetentionLimits) (now : Instant)
    (entries : List (LogEntry Name)) :
    limits.within now (limits.past now entries) = [] := by
  refine List.filter_eq_nil_iff.mpr fun entry member => ?_
  simpa using (List.mem_filter.mp member).2

/-- Every file is past the age or within it. -/
theorem past_append_within_perm (limits : RetentionLimits) (now : Instant)
    (entries : List (LogEntry Name)) :
    (limits.past now entries ++ limits.within now entries).Perm entries := by
  simpa [past, within] using
    List.filter_append_perm (fun entry => decide (entry.IsPast limits.maxAge now)) entries

/-- All files within the age are within it. -/
theorem within_of_subset {files : List (LogEntry Name)}
    (subset : files ⊆ limits.within now entries) :
    limits.within now files = files :=
  List.filter_eq_self.mpr fun _ member => (List.mem_filter.mp (subset member)).2

/-- What the limits remove and keep is a division as they want it. -/
theorem divides_expire (limits : RetentionLimits) (now : Instant)
    (entries : List (LogEntry Name)) :
    limits.Divides now entries (limits.expire now entries).1 (limits.expire now entries).2 := by
  let excess := (splitByCount limits.maxFiles (limits.within now entries)).1
  let kept := (splitByCount limits.maxFiles (limits.within now entries)).2
  have expired : limits.expire now entries = (limits.past now entries ++ excess, kept) := by
    rw [expire, splitByAge_eq]
  -- only files within the age are counted, so the files past it are just those the age takes
  have counted : (excess ++ kept).Perm (limits.within now entries) := splitByCount_perm _ _
  have removed : limits.within now (limits.past now entries ++ excess) = excess := by
    rw [within_append, within_past, List.nil_append]
    exact within_of_subset (List.Subset.trans (List.subset_append_left _ _) counted.subset)
  rw [expired]
  exact
    { whole := by
        rw [List.append_assoc]
        exact (counted.append_left _).trans (past_append_within_perm limits now entries)
      young := fun entry member => by
        have listed := counted.subset (List.mem_append_right excess member)
        simpa using (List.mem_filter.mp listed).2
      bounded := fun count given => length_splitByCount given _
      excess := by
        rw [removed]
        exact splitByCount_excess
      recent := by
        rw [removed]
        exact splitByCount_recent _
      inOrder := fun moment => by
        rw [List.append_assoc, within_append, within_past, List.nil_append,
          within_of_subset counted.subset]
        exact filter_splitByCount _ _ moment
      unlimited := fun ageless countless => by
        have young : limits.within now entries = entries := by
          simp [within, LogEntry.IsPast, ageless]
        have old : limits.past now entries = [] := by
          simp [past, LogEntry.IsPast, ageless]
        simp only [excess, kept, countless, young, old]
        exact ⟨rfl, rfl⟩ }

end RetentionLimits
end Standby
