/-!
# Paths

A path is a text of names between slashes. Joining a relative path to a base goes on from the
base, and joining an absolute one replaces it. A route is a path as the file system walks it; one
that is too long or has a zero character is not walked at all.
-/
namespace Standby

/-- The characters between the slashes of a path. -/
def pathParts (path : String) : List String :=
  (path.toList.splitOnP (· == '/')).map String.ofList

/-- A path that begins at the root. -/
def isAbsolutePath (path : String) : Bool := path.toList.head? == some '/'

/-- A path continued by another; an absolute path begins anew. -/
def joinPath (base path : String) : String :=
  if isAbsolutePath path then path
  else if base.isEmpty || base.toList.getLast? == some '/' then base ++ path
  else base ++ "/" ++ path

/-- The parts of a path, the last one first, from the last part that names something. The first
part of the path stays whatever it is. -/
def dropIdleParts : List String → List String
  | [] => []
  | [first] => [first]
  | part :: next :: before =>
    if part = "" || part = "." then dropIdleParts (next :: before) else part :: next :: before

/-- The path of the directory in which a path names something; the root and the empty path are in
none. -/
def parentPath? (path : String) : Option String :=
  match dropIdleParts (pathParts path).reverse with
  | [] => none
  | [first] => if first = "" then none else some ""
  | _ :: before =>
    match (dropIdleParts before).reverse with
    | [""] => some "/"
    | parts => some ("/".intercalate parts)

/-- A path as it is walked: names, `.` for staying and `..` for going up. -/
structure Route where
  /-- The walk begins at the root. -/
  isAbsolute : Bool
  /-- The steps of the walk. -/
  steps : List String
  /-- The path ends with a slash, so it can only lead to a directory. -/
  isTrailing : Bool
  /-- The number of bytes of the path. -/
  size : Nat
  deriving DecidableEq, Repr

namespace Route

/-- The route of a path. -/
def ofPath (path : String) : Route :=
  { isAbsolute := isAbsolutePath path
    steps := (pathParts path).filter (· != "")
    isTrailing := path.toList.getLast? == some '/'
    size := path.utf8ByteSize }

/-- The number of bytes that a path may have. -/
def sizeLimit : Nat := 4095

/-- A path that a file system takes at all: neither too long nor with a zero character. -/
def isSound (route : Route) : Bool :=
  route.size ≤ sizeLimit && route.steps.all fun step => !step.toList.contains '\x00'

/-- The steps to the very end: a slash at the end is a step that stays, which only a directory
allows. -/
def wholeSteps (route : Route) : List String :=
  if route.isTrailing then route.steps ++ ["."] else route.steps

/-- The route of no steps stays where it is. -/
def isEmpty (route : Route) : Bool := !route.isAbsolute && route.steps.isEmpty

end Route
end Standby
