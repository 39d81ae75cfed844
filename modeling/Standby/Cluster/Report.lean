import Standby.Cluster.Station
import Standby.Document.Build

/-!
# Reports of nodes

A report is a document of the state of a node, of its record or of a lock, with names and numbers
instead of stored forms.
-/
namespace Standby

open Document

/-- A stripe is reported by its name. -/
def StripeId.report (id : StripeId) : Document := id.name

/-- A group is reported by its number. -/
def GroupId.report (group : GroupId) : Document := group.number

/-- Connections are reported in their order. -/
def reportConnections (connections : SortedSet ConnectionId) : Document :=
  listOfValues shown connections.toList

/-- The stripes of groups are reported in pairs. -/
def reportEntries (entries : List StripeEntry) : Document :=
  listOfValues (fun entry => .list [entry.group.report, entry.stripe.report]) entries

/-- A registry is reported in the order of the groups. -/
def Registry.report (registry : Registry) : Document :=
  reportEntries (ClusterRecord.entriesOf registry.map)

/-- A record is reported by its parts. -/
def ClusterRecord.report (record : ClusterRecord) : Document :=
  .table [("stripe", ofOption StripeId.report record.stripeId), ("group", record.groupId.report),
    ("state", record.state.name), ("conns", reportConnections record.connections),
    ("map", reportEntries record.stripeIds)]

/-- A node is reported by what it knows. -/
def Node.report {Store : Type} (node : Node Store) : Document :=
  .table [("group", node.group.report), ("stripe", ofOption StripeId.report node.stripeId),
    ("next", node.nextChannel.number), ("state", node.state.name),
    ("conns", reportConnections node.connections), ("map", node.registry.report)]

/-- A station is reported by its node. -/
def Station.report (station : Station) : Document := ofOption Node.report station.node?

/-- What the bookkeeping of clients needs is reported in a list. -/
def ChannelSeed.report (seed : ChannelSeed) : Document :=
  .list [seed.stripe, seed.next.number, reportConnections seed.connections]

/-- The holder of a lock is reported by its process, unless it is the given owner. -/
def LockMeta.report (owner : LockOwner) (holder : LockMeta) : Document :=
  let process : List (String × Document) :=
    if holder.pid == owner.pid then
      [("self", true), ("dated", decide (holder.startedAt > 0))]
    else [("pid", holder.pid.toNat), ("started_at_ms", holder.startedAt)]
  .table ([("server", shown holder.server), ("version", holder.version)] ++ process)

end Standby
