import Standby.Config.Schema

/-!
# Log retention

Log files that are too old are removed, and then the oldest ones beyond a number. A file dated in
the future has no age. Files of one time are removed in the order in which they are listed.
-/
namespace Standby

/-- A moment. -/
structure Instant where
  /-- The nanoseconds since the epoch, which are negative before it. -/
  nanos : Int
  deriving DecidableEq

namespace Instant

/-- The moment some milliseconds after the epoch. -/
def ofMillis (count : Int) : Instant := ⟨count * nanosPerMilli⟩

/-- Where a moment is given as a whole number, that counts milliseconds. -/
instance : Coe Int Instant := ⟨ofMillis⟩

end Instant

/-- A log file. What its name is makes no difference to how long it is kept. -/
structure LogEntry (Name : Type := String) where
  /-- The name of the file. -/
  name : Name
  /-- The time of its last change. -/
  modified : Instant
  deriving DecidableEq

/-- Which log files are kept. -/
structure RetentionLimits where
  /-- Older files are removed. -/
  maxAge : Option Duration
  /-- Only so many files are kept. -/
  maxFiles : Option UInt64
  deriving DecidableEq

namespace RetentionLimits

/-- A number of days; one that is too large for any duration is as long as the longest number of
whole seconds. -/
def days (count : UInt64) : Duration :=
  .ofSeconds (.ofNat (min (count.toNat * 86400) (UInt64.size - 1)))

/-- The limits of configured log files. -/
def ofSettings (logging : FileLogging) : RetentionLimits :=
  ⟨logging.maxAgeDays.map days, logging.maxFiles⟩

/-- Any file is ever removed. -/
def isEnabled (limits : RetentionLimits) : Bool := limits.maxAge.isSome || limits.maxFiles.isSome

end RetentionLimits

section Expiry

variable {Name : Type}

namespace LogEntry

/-- The age of a file at a moment in nanoseconds. -/
def age (entry : LogEntry Name) (now : Instant) : Nat := (now.nanos - entry.modified.nanos).toNat

/-- A file is older than a duration. -/
def isOlder (entry : LogEntry Name) (now : Instant) (span : Duration) : Bool :=
  span.nanos < entry.age now

end LogEntry

namespace RetentionLimits

/-- The files past an age and those within it. -/
def splitByAge (maxAge : Option Duration) (now : Instant) (entries : List (LogEntry Name)) :
    List (LogEntry Name) × List (LogEntry Name) :=
  match maxAge with
  | none => ([], entries)
  | some span => entries.partition fun entry => entry.isOlder now span

/-- The files beyond a number, the oldest first, and the others. -/
def splitByCount (maxFiles : Option UInt64) (entries : List (LogEntry Name)) :
    List (LogEntry Name) × List (LogEntry Name) :=
  match maxFiles with
  | none => ([], entries)
  | some count =>
    let sorted := entries.mergeSort fun left right => left.modified.nanos ≤ right.modified.nanos
    sorted.splitAt (sorted.length - count.toNat)

/-- The files that are removed and those that are kept. -/
def expire (limits : RetentionLimits) (now : Instant) (entries : List (LogEntry Name)) :
    List (LogEntry Name) × List (LogEntry Name) :=
  let (old, within) := splitByAge limits.maxAge now entries
  let (excess, kept) := splitByCount limits.maxFiles within
  (old ++ excess, kept)

end RetentionLimits

end Expiry

end Standby
