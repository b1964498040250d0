import Dataplane.Buffer.Content
import Dataplane.Clock
import Dataplane.Demo.Report
import Dataplane.Flat.Exec
import Dataplane.Frame.Headers
import Dataplane.Frame.Udp
import Dataplane.Launch
import Dataplane.Lock.Bench
import Dataplane.Lock.Contest
import Dataplane.Main
import Dataplane.Platform
import Dataplane.Pool.Bulk
import Dataplane.Pool.Cache
import Dataplane.Pool.Drill
import Dataplane.Port.Burst
import Dataplane.Port.Lifecycle
import Dataplane.Port.Registry
import Dataplane.Registers
import Dataplane.Session.Exec
import Dataplane.Text.Utf8
import Dataplane.Traffic.Forwarder
import Dataplane.Traffic.Generator
import Dataplane.Proofs.Pool.Slots
import Dataplane.Proofs.Pool.Checks
import Dataplane.Proofs.Pool.Ledger
import Dataplane.Proofs.Pool.Allocation
import Dataplane.Proofs.Pool.Caching
import Dataplane.Proofs.Buffer.Windows
import Dataplane.Proofs.Buffer.Sharing
import Dataplane.Proofs.Client.Basic
import Dataplane.Proofs.Port.Frames
import Dataplane.Proofs.Client.Accounting
import Dataplane.Proofs.Port.Ends
import Dataplane.Proofs.Port.Tables
import Dataplane.Proofs.Port.Handles
import Dataplane.Proofs.Port.Feeds
import Dataplane.Proofs.Port.Wiring
import Dataplane.Proofs.Client.Wiring
import Dataplane.Proofs.Client.Producers
import Dataplane.Proofs.Client.Delivery
import Dataplane.Proofs.Port.Ages
import Dataplane.Proofs.Client.Stages
import Dataplane.Proofs.Port.Counters
import Dataplane.Proofs.Client.Evolution
import Dataplane.Proofs.Port.Behind
import Dataplane.Proofs.Client.Conservation
import Dataplane.Proofs.Client.Closing
import Dataplane.Proofs.Pool.Crowd
import Dataplane.Proofs.Pool.Schedules
import Dataplane.Proofs.Client.Failures
import Dataplane.Proofs.Client.Chores
import Dataplane.Proofs.Flat.Bursts
import Dataplane.Proofs.Flat.Record
import Dataplane.Proofs.Flat.Signs
import Dataplane.Proofs.Lock.Visits
import Dataplane.Proofs.Lock.Nesting
import Dataplane.Proofs.Demo.Conclusion
import Dataplane.Proofs.Buffer.Contents
import Dataplane.Proofs.Port.Passage
import Dataplane.Proofs.Traffic.Loads
import Dataplane.Proofs.Demo.Circulation
import Dataplane.Proofs.Client.Registry
import Dataplane.Proofs.Flat.Counts
import Dataplane.Proofs.Flat.Pointers
import Dataplane.Proofs.Pool.Releases
import Dataplane.Proofs.Pool.Bulk
import Dataplane.Proofs.Client.Bulk
import Dataplane.Proofs.Flat.Bulk
import Dataplane.Proofs.Port.Receipts
import Dataplane.Proofs.Port.Dispatch
import Dataplane.Proofs.Client.Bursts
import Dataplane.Proofs.Client.Edits
import Dataplane.Proofs.Client.Caches
import Dataplane.Proofs.Flat.Widths
import Dataplane.Proofs.Port.Boundaries
import Dataplane.Proofs.Client.Upkeep
import Dataplane.Proofs.Client.Attempts
import Dataplane.Proofs.Port.Control
import Dataplane.Proofs.Client.Pauses
import Dataplane.Proofs.Pool.Layout
import Dataplane.Proofs.Buffer.Fillings
import Dataplane.Proofs.Clock
import Dataplane.Proofs.Frame.Readback
