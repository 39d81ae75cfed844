import Standby.Config.Environment

/-!
# Log levels

Which lines are logged is said by the environment, else by the configuration, else by the
verbosity that was asked for. A filter that says nothing leaves it to the verbosity.
-/
namespace Standby

/-- How much is logged; each level includes those before it. -/
inductive LogLevel where
  | off
  | error
  | warn
  | info
  | debug
  | trace
  deriving DecidableEq, Inhabited, Repr

namespace LogLevel

/-- The name of a level. -/
def name : LogLevel → String
  | off => "off"
  | error => "error"
  | warn => "warn"
  | info => "info"
  | debug => "debug"
  | trace => "trace"

/-- The level of a verbosity. -/
def ofVerbosity : Nat → LogLevel
  | 0 => error
  | 1 => info
  | _ => debug

/-- The level of a name in letters of either case. Any other word names a part of the program, of
which everything is logged. -/
def ofName (word : String) : LogLevel :=
  (([off, error, warn, info, debug, trace].map fun level => (level.name, level)).lookup
    (String.ofList (word.toList.map Char.toLower))).getD trace

/-- The variable that holds a filter. -/
def filterVariable : String := "STRIPE_LOG"

/-- The level up to which lines are logged. -/
def effective (environment : Environment) (verbosity : Nat) (configured : Option String) :
    LogLevel :=
  match (environment.get? filterVariable).or configured with
  | none => ofVerbosity verbosity
  | some filter => if filter.isEmpty then ofVerbosity verbosity else ofName filter

end LogLevel
end Standby
