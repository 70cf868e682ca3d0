import TrueNorth.AuditLog.Archive
import TrueNorth.AuditLog.Chain
import TrueNorth.AuditLog.Daily
import TrueNorth.AuditLog.Exporting
import TrueNorth.AuditLog.Filed
import TrueNorth.AuditLog.Phases
import TrueNorth.AuditLog.PurgeSafety
import TrueNorth.AuditLog.Recovery
import TrueNorth.AuditLog.Retention
import TrueNorth.AuditLog.RunSteps
import TrueNorth.AuditLog.Shelf
import TrueNorth.AuditLog.Verify
import TrueNorth.AuditLog.Writes
import TrueNorth.CircuitBreakers.Breaker
import TrueNorth.CircuitBreakers.Contract
import TrueNorth.Cmi5.Launched
import TrueNorth.Cmi5.Satisfied
import TrueNorth.Cmi5.Scope
import TrueNorth.Cmi5.Sequence
import TrueNorth.Cmi5.Verdicts
import TrueNorth.ConsoleRelay.Bounds
import TrueNorth.ConsoleRelay.Chunks
import TrueNorth.ConsoleRelay.ClientStream
import TrueNorth.ConsoleRelay.ViewOnly
import TrueNorth.ContentFeeds.Match
import TrueNorth.ContentReview.Exactness
import TrueNorth.Fencing.Keep
import TrueNorth.Fencing.Wrapper
import TrueNorth.Firewalls.Faithful
import TrueNorth.LabSessions.CapacityGate
import TrueNorth.LabSessions.Delivery
import TrueNorth.LabSessions.Lifecycle
import TrueNorth.LabSessions.Networks
import TrueNorth.LabSessions.Outbox
import TrueNorth.LearningPaths.Dropped
import TrueNorth.Lib.Bypass
import TrueNorth.Lib.Custody
import TrueNorth.Lib.Deliveries
import TrueNorth.Lib.Grid
import TrueNorth.Lib.Loads
import TrueNorth.Lib.Sightings
import TrueNorth.Lib.Successions
import TrueNorth.MaintenanceWindows.Covering
import TrueNorth.MaintenanceWindows.Spans
import TrueNorth.NetGuard.ClientAddress
import TrueNorth.NetGuard.Fetch
import TrueNorth.NetGuard.Guarded
import TrueNorth.PortGroups.LiveCheck
import TrueNorth.Quizzes.Edited
import TrueNorth.Quizzes.Key
import TrueNorth.RangeAlloc.External
import TrueNorth.RangeCertification.Evidence
import TrueNorth.RangeCredentials.Accounts
import TrueNorth.RangeCredentials.Operations
import TrueNorth.RangeCredentials.Preservation
import TrueNorth.RangeCredentials.Recorded
import TrueNorth.RangeCredentials.Settled
import TrueNorth.RangeCredentials.Steady
import TrueNorth.RangeInventory.AsBuilt
import TrueNorth.RangeIsolation.Codes
import TrueNorth.RangeOps.ForceRelease
import TrueNorth.RangeOps.Holds
import TrueNorth.RangeOps.Invariant
import TrueNorth.RedisLocks.Sweeps
import TrueNorth.Rendering.Addressing
import TrueNorth.Rendering.Vlans
import TrueNorth.ResultTransfer.ConsumedOnce
import TrueNorth.ResultTransfer.History
import TrueNorth.ResultTransfer.Transfer
import TrueNorth.ScenarioRuns.Bookkeeping
import TrueNorth.ScenarioRuns.Once
import TrueNorth.Scheduler.Admissions
import TrueNorth.Scheduler.Approved
import TrueNorth.Scheduler.Batched
import TrueNorth.Scheduler.Bookings
import TrueNorth.Scheduler.Capacity
import TrueNorth.Scheduler.ClassRanges
import TrueNorth.Scheduler.Clock
import TrueNorth.Scheduler.Commitments
import TrueNorth.Scheduler.DoubleBooking
import TrueNorth.Scheduler.Ics
import TrueNorth.Scheduler.Lifecycle
import TrueNorth.Scheduler.OneOwner
import TrueNorth.Scheduler.Overcommit
import TrueNorth.Scheduler.Ownership
import TrueNorth.Scheduler.Screened
import TrueNorth.Scheduler.Terms
import TrueNorth.Scoring.LatestEvents
import TrueNorth.Scoring.ListOrder
import TrueNorth.Scoring.Repeated
import TrueNorth.Scoring.StoreOrders
import TrueNorth.Scoring.UserDisabled
import TrueNorth.TemplateAccounts.RedactYaml
import TrueNorth.TemplateCopies.Spared
