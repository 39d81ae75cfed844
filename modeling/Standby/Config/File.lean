import Standby.Config.Environment
import Standby.FileTree.Disk
import Standby.Json.Dialect
import Standby.Toml.Dialect

/-!
# The configuration file

A configuration is kept in a file, which is read as a whole and replaced as a whole. What the
environment overrides is never written. How the file is spelled is the matter of a format, which is
a parameter here: whatever reads and writes texts takes its place.
-/
namespace Standby.Config

open Document (Format)

/-- The configuration of a text. -/
def ofText (format : Format) (text : String) : Option Config :=
  (format.read text).bind (ofDocument format.dialect)

/-- The text of a configuration; a number that no integer of the format holds leaves it without
one. -/
def text? (format : Format) (config : Config) : Option String := format.write config.toDocument

/-- Read a file of characters. -/
def readText (path : String) (disk : Disk) : Except IoFault String × Disk :=
  match disk.inquire (·.read (.ofPath path)) with
  | (.error cause, disk) => (.error cause, disk)
  | (.ok bytes, disk) =>
    match String.fromUTF8? bytes with
    | some text => (.ok text, disk)
    | none => (.error (.other "stream did not contain valid UTF-8"), disk)

/-- Read a configuration and let the environment override it. -/
def load (environment : Environment) (path : String) (disk : Disk)
    (format : Format := Toml.format) : Except ConfigFault Config × Disk :=
  match readText path disk with
  | (.error cause, disk) => (.error (.read path cause), disk)
  | (.ok text, disk) =>
    match ofText format text with
    | none => (.error (.parse path "not a configuration"), disk)
    | some config => (.ok (environment.override config), disk)

/-- Read a configuration if that is possible; else the standard one takes its place. -/
def loadOrDefault (environment : Environment) (path : String) (disk : Disk)
    (format : Format := Toml.format) : Config × Disk :=
  match load environment path disk format with
  | (.ok config, disk) => (config, disk)
  | (.error _, disk) => (environment.override .standard, disk)

/-- The directory of a file; a file without one is in the working directory. -/
def directoryOf (path : String) : String :=
  match parentPath? path with
  | none => "."
  | some parent => if parent.isEmpty then "." else parent

/-- Write a configuration in the place of a file, in a directory that is made if it is missing. -/
def save (path : String) (config : Config) (disk : Disk) (format : Format := Toml.format) :
    Except ConfigFault Unit × Disk :=
  let directory := directoryOf path
  match disk.makeDirectories directory with
  | (.error cause, disk) => (.error (.write directory cause), disk)
  | (.ok _, disk) =>
    match config.text? format with
    | none => (.error (.render "out-of-range value"), disk)
    | some text =>
      match disk.replaceFile directory path text.toUTF8 with
      | (.error cause, disk) => (.error (.write path cause), disk)
      | (.ok _, disk) => (.ok (), disk)

end Standby.Config
