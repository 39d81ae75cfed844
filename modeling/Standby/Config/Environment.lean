import Standby.Config.Schema
import Standby.Ordered.Map
import Standby.Text.Numeral

/-!
# The environment

Some settings may come from the environment, which overrides the configuration. Blanks at the ends
of a value do not count; a value that is blank or cannot be used is ignored.
-/
namespace Standby

open Standby.Text

/-- The environment of a process. -/
structure Environment where
  /-- The variables that are set. -/
  bindings : SortedMap String String
  /-- The home directory of the account. -/
  accountHome : Option String

namespace Environment

/-- The value of a variable as it is set. -/
def get? (environment : Environment) (name : String) : Option String :=
  environment.bindings.get? name

/-- The name of the server. -/
def serverName : String := "STRIPE_SERVER_NAME"

/-- The number of the group. -/
def groupId : String := "STRIPE_GROUP_ID"

/-- The directory of the data. -/
def dataDirectory : String := "STRIPE_DATA_DIR"

/-- The number of lanes. -/
def applyWorkers : String := "STRIPE_APPLY_WORKERS"

/-- The value of a variable without the blanks at its ends, if anything is left. -/
def value? (environment : Environment) (name : String) : Option String :=
  ((environment.get? name).map trim).filter fun value => !value.isEmpty

/-- A variable that holds a signed word of 32 bits. -/
def int32? (environment : Environment) (name : String) : Option Int32 := do
  let value ← signed? (← environment.value? name).toList
  if Int32.minValue.toInt ≤ value ∧ value ≤ Int32.maxValue.toInt then some (.ofInt value) else none

/-- A variable that holds a word of 64 bits. -/
def uint64? (environment : Environment) (name : String) : Option UInt64 := do
  let value ← unsigned? (← environment.value? name).toList
  if value < UInt64.size then some (.ofNat value) else none

/-- The configuration with what the environment overrides. -/
def override (environment : Environment) (config : Config) : Config :=
  { config with
    cluster :=
      { serverName := (environment.value? serverName).getD config.cluster.serverName
        groupId := (environment.int32? groupId).getD config.cluster.groupId
        dataDirectory := (environment.value? dataDirectory).or config.cluster.dataDirectory }
    apply := ⟨(environment.uint64? applyWorkers).getD config.apply.workers⟩ }

end Environment
end Standby
