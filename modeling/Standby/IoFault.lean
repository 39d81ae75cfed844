/-!
# Failures of file operations

What the file system answers when it refuses an operation.
-/
namespace Standby

/-- The reason for which a file operation failed. -/
inductive IoFault where
  /-- Nothing is at the path. -/
  | notFound
  /-- A name on the way is not a directory. -/
  | notDirectory
  /-- Something is at the path already. -/
  | alreadyExists
  /-- A directory is where a file is needed. -/
  | isDirectory
  /-- Links lead to links without end. -/
  | linkLoop
  /-- A path or a name in it is too long, or it has a zero character. -/
  | badName
  /-- A directory is not empty. -/
  | notEmpty
  /-- Anything else, with its text. -/
  | other (text : String)
  deriving DecidableEq, Repr

/-- The text of a failure. -/
def IoFault.message : IoFault → String
  | notFound => "No such file or directory (os error 2)"
  | notDirectory => "Not a directory (os error 20)"
  | alreadyExists => "File exists (os error 17)"
  | isDirectory => "Is a directory (os error 21)"
  | linkLoop => "Too many levels of symbolic links (os error 40)"
  | badName => "File name too long (os error 36)"
  | notEmpty => "Directory not empty (os error 39)"
  | other text => text

end Standby
