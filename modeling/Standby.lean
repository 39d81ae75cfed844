import Standby.Catalogue
import Standby.Cluster.Fault
import Standby.Cluster.FlatFile
import Standby.Cluster.Node
import Standby.Cluster.Operation
import Standby.Cluster.Persistor
import Standby.Cluster.Record
import Standby.Cluster.Registry
import Standby.Cluster.Report
import Standby.Cluster.Station
import Standby.Config.Environment
import Standby.Config.Fault
import Standby.Config.File
import Standby.Config.Paths
import Standby.Config.Report
import Standby.Config.Schema
import Standby.Discovery.Backoff
import Standby.Discovery.Fault
import Standby.Discovery.Membership
import Standby.Discovery.Peer
import Standby.Discovery.PeerLoop
import Standby.Discovery.Rehearsal
import Standby.Discovery.Report
import Standby.Document.Basic
import Standby.Document.Build
import Standby.Document.Decode
import Standby.Document.Format
import Standby.Document.Lenient
import Standby.Duration
import Standby.Fault
import Standby.FileTree.Basic
import Standby.FileTree.Disk
import Standby.FileTree.Lock
import Standby.FileTree.LockRoom
import Standby.FileTree.Path
import Standby.Identity.Connection
import Standby.Identity.Entity
import Standby.Identity.InvalidId
import Standby.Identity.Operation
import Standby.Identity.Record
import Standby.Identity.Report
import Standby.Identity.Server
import Standby.Identity.Stripe
import Standby.Identity.Uuid
import Standby.IoFault
import Standby.Json.Dialect
import Standby.Json.Reader
import Standby.Json.Symbol
import Standby.Json.Writer
import Standby.Lifecycle
import Standby.Limits
import Standby.Logs.Level
import Standby.Logs.Prune
import Standby.Logs.Retention
import Standby.Logs.Setup
import Standby.Ordered.Map
import Standby.Ordered.Set
import Standby.Proofs.Cluster.Abandonment
import Standby.Proofs.Cluster.Agreement
import Standby.Proofs.Cluster.Allocation
import Standby.Proofs.Cluster.Channels
import Standby.Proofs.Cluster.Custody
import Standby.Proofs.Cluster.Durability
import Standby.Proofs.Cluster.Holding
import Standby.Proofs.Cluster.Keeping
import Standby.Proofs.Cluster.Opening
import Standby.Proofs.Cluster.Permanence
import Standby.Proofs.Cluster.Persistence
import Standby.Proofs.Cluster.Placement
import Standby.Proofs.Cluster.Record
import Standby.Proofs.Cluster.Refusal
import Standby.Proofs.Cluster.Tenancy
import Standby.Proofs.Cluster.Transition
import Standby.Proofs.Cluster.Validity
import Standby.Proofs.Config.Directories
import Standby.Proofs.Config.Records
import Standby.Proofs.Config.Reload
import Standby.Proofs.Discovery.Delays
import Standby.Proofs.Discovery.Normalization
import Standby.Proofs.Discovery.Pairing
import Standby.Proofs.Document.Fields
import Standby.Proofs.Document.Kept
import Standby.Proofs.FileTree.Acquisition
import Standby.Proofs.FileTree.Comparison
import Standby.Proofs.FileTree.Directory
import Standby.Proofs.FileTree.Holder
import Standby.Proofs.FileTree.Listing
import Standby.Proofs.FileTree.Making
import Standby.Proofs.FileTree.Replacement
import Standby.Proofs.FileTree.Resolution
import Standby.Proofs.FileTree.Walk
import Standby.Proofs.Identity.Spelling
import Standby.Proofs.Identity.Validity
import Standby.Proofs.Json.Spelling
import Standby.Proofs.Logs.Expiry
import Standby.Proofs.Logs.Pruning
import Standby.Proofs.Ordered.Map
import Standby.Proofs.Ordered.Set
import Standby.Proofs.Replication.Acceptance
import Standby.Proofs.Replication.Acknowledgement
import Standby.Proofs.Replication.Assurance
import Standby.Proofs.Replication.Barrier
import Standby.Proofs.Replication.Baseline
import Standby.Proofs.Replication.Contact
import Standby.Proofs.Replication.Deferral
import Standby.Proofs.Replication.Effects
import Standby.Proofs.Replication.Entry
import Standby.Proofs.Replication.Fate
import Standby.Proofs.Replication.Feeding
import Standby.Proofs.Replication.Grammar
import Standby.Proofs.Replication.Growth
import Standby.Proofs.Replication.HeldLists
import Standby.Proofs.Replication.Lapse
import Standby.Proofs.Replication.Ledger
import Standby.Proofs.Replication.Nesting
import Standby.Proofs.Replication.OpenKey
import Standby.Proofs.Replication.Overtaking
import Standby.Proofs.Replication.Passage
import Standby.Proofs.Replication.Pipeline
import Standby.Proofs.Replication.Precedence
import Standby.Proofs.Replication.Progress
import Standby.Proofs.Replication.Registration
import Standby.Proofs.Replication.Run
import Standby.Proofs.Replication.SlotOrder
import Standby.Proofs.Replication.Statistics
import Standby.Proofs.Replication.Teardown
import Standby.Proofs.Replication.Transition
import Standby.Proofs.Replication.WholePass
import Standby.Proofs.Text.Numeral
import Standby.Proofs.Toml.Arrangement
import Standby.Proofs.Toml.Assembly
import Standby.Proofs.Toml.Roundtrip
import Standby.Proofs.Toml.Spelling
import Standby.Replication.Bootstrap
import Standby.Replication.Completion
import Standby.Replication.Deferral
import Standby.Replication.Fault
import Standby.Replication.Feed
import Standby.Replication.Host
import Standby.Replication.Lanes
import Standby.Replication.Message
import Standby.Replication.Rehearsal
import Standby.Replication.Report
import Standby.Replication.Script
import Standby.Replication.Session
import Standby.Replication.Surroundings
import Standby.Replication.Trace
import Standby.Stored
import Standby.Text.Blank
import Standby.Text.Hex
import Standby.Text.Numeral
import Standby.Text.Printable
import Standby.Text.Quoted
import Standby.Toml.Dialect
import Standby.Toml.Reader
import Standby.Toml.Scalar
import Standby.Toml.Tree
import Standby.Toml.Writer
import Standby.Transience
