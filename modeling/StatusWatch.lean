import StatusWatch.Cluster.Scripted
import StatusWatch.Main
import StatusWatch.Proofs.Watch.Ticks
import StatusWatch.Proofs.Yields
import StatusWatch.Proofs.Watch.Script
import StatusWatch.Proofs.Progress.Shown
import StatusWatch.Proofs.Progress.Deltas
import StatusWatch.Proofs.Settled
import StatusWatch.Proofs.Reading
import StatusWatch.Proofs.Snapshot.Faithful
import StatusWatch.Proofs.Watch.FirstTick
import StatusWatch.Proofs.Condition.Local
import StatusWatch.Proofs.Condition.Steps
import StatusWatch.Proofs.Condition.Bounds
import StatusWatch.Proofs.Condition.Template
import StatusWatch.Proofs.Catalog
import StatusWatch.Proofs.StatusRules
import StatusWatch.Proofs.Session.Settled
import StatusWatch.Proofs.Manifest
import StatusWatch.Proofs.Session.Agreement
import StatusWatch.Proofs.StatusRules.Definitions
import StatusWatch.Proofs.StatusRules.Judges
import StatusWatch.Proofs.Receipts
import StatusWatch.Proofs.Snapshot.Fresh
import StatusWatch.Proofs.Reading.Provenance
import StatusWatch.Proofs.Snapshot.SideBySide
import StatusWatch.Proofs.Watch.SideBySide
import StatusWatch.Proofs.Watch.Fresh
import StatusWatch.Proofs.Watch.DefaultVersion
import StatusWatch.Proofs.Reading.Workloads
import StatusWatch.Proofs.Watch.Workloads
import StatusWatch.Proofs.StatusRules.Complete
import StatusWatch.Proofs.Snapshot.Lifetime
import StatusWatch.Proofs.Watch.Interrupted
import StatusWatch.Proofs.Reading.Lookup
import StatusWatch.Proofs.Reading.Overrides
import StatusWatch.Proofs.Watch.Overrides
import StatusWatch.Proofs.StatusRules.Checks
import StatusWatch.Proofs.StatusRules.Withdrawn
import StatusWatch.Proofs.Session.Rows
import StatusWatch.Proofs.Condition.Spelled
import StatusWatch.Proofs.Snapshot.Asked
import StatusWatch.Proofs.Snapshot.Answers
import StatusWatch.Proofs.Condition.Rearranged
import StatusWatch.Proofs.Condition.Integers
import StatusWatch.Proofs.Condition.Coherence
import StatusWatch.Proofs.Catalog.History
import StatusWatch.Proofs.Readiness
import StatusWatch.Proofs.StatusRules.Reserved
import StatusWatch.Proofs.Client.Listing
import StatusWatch.Proofs.Selector
import StatusWatch.Proofs.Progress.Tracked
import StatusWatch.Proofs.Manifest.Flattened
import StatusWatch.Proofs.Override
