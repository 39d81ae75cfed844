import Standby.Document.Decode

/-!
# Limits of replication

What a node holds back for one key of one entity while the key is being copied, and the size of
one piece of a copy, are bounded.
-/
namespace Standby

open Document

/-- The bounds of a replication stream. -/
structure Limits where
  /-- The most operations held back for one key. -/
  deferredEvents : UInt64
  /-- The most payload bytes held back for one key. -/
  deferredBytes : UInt64
  /-- The most bytes in one piece of a copy. -/
  syncPayloadBytes : UInt64
  deriving DecidableEq, Repr

namespace Limits

/-- Fifty thousand operations, 64 MiB held back, and pieces of 16 MiB. -/
def standard : Limits := ⟨50000, 67108864, 16777216⟩

instance : Inhabited Limits := ⟨standard⟩

/-- Limits are stored as a record of three numbers. -/
def toDocument (limits : Limits) : Document :=
  .table [("max_deferred_events_per_key", ofUInt64 limits.deferredEvents),
    ("max_deferred_bytes_per_key", ofUInt64 limits.deferredBytes),
    ("max_sync_payload_bytes", ofUInt64 limits.syncPayloadBytes)]

/-- A limit left out has its standard value. -/
def ofDocument (dialect : Dialect) : Decoder Limits := fun document => do
  let [events, bytes, payload] ← fieldsIn dialect .partly
    ["max_deferred_events_per_key", "max_deferred_bytes_per_key", "max_sync_payload_bytes"]
    document | none
  let events ← orDefault standard.deferredEvents uint64 events
  let bytes ← orDefault standard.deferredBytes uint64 bytes
  let payload ← orDefault standard.syncPayloadBytes uint64 payload
  some ⟨events, bytes, payload⟩

end Limits
end Standby
