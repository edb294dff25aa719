import TicketService.Interleaving.Program
import TicketService.Interleaving.System
import TicketService.Interleaving.Guarantee
import TicketService.Interleaving.Autocommit
import TicketService.Interleaving.Sequential
import TicketService.Interleaving.Solo
import TicketService.Interleaving.Along
import TicketService.Interleaving.Reach
import TicketService.Interleaving.Phases
import TicketService.Interleaving.Mirror
import TicketService.Interleaving.Waiting
import TicketService.Interleaving.Locking
import TicketService.Interleaving.Recovery
import TicketService.Interleaving.Beside
import TicketService.Shared.Table
import TicketService.Shared.Projection
import TicketService.Shared.Retries
import TicketService.Shared.Segments
import TicketService.Shared.Base64
import TicketService.Shared.Der
import TicketService.Shared.Utf16
import TicketService.Model.Data
import TicketService.Model.Store
import TicketService.Model.Scan
import TicketService.Model.TicketWrite
import TicketService.Model.SeatHandler
import TicketService.Model.Projections
import TicketService.Model.Calls
import TicketService.Model.Publisher
import TicketService.Model.Dev
import TicketService.Model.Tokens
import TicketService.Refinement.Effects
import TicketService.Refinement.Locks
import TicketService.Refinement.Change
import TicketService.Refinement.Rules
import TicketService.Refinement.Scans
import TicketService.Refinement.Writes
import TicketService.Refinement.Service
import TicketService.Refinement.Life
import TicketService.Refinement.Records
import TicketService.Refinement.Trail
import TicketService.Refinement.Feed
import TicketService.Refinement.Statements
import TicketService.Refinement.Alone
import TicketService.Refinement.Exits
import TicketService.Refinement.Accepts
import TicketService.Refinement.Outcomes
import TicketService.Refinement.Spans
import TicketService.Refinement.Polling
import TicketService.Refinement.Leases
import TicketService.Refinement.LockOrder
import TicketService.Refinement.Deletions
import TicketService.Refinement.Kinds
import TicketService.Refinement.Grounds
import TicketService.Refinement.Attempts
import TicketService.Refinement.Decisions
import TicketService.Refinement.Deployment
import TicketService.Refinement.Delays
import TicketService.Refinement.Announcements
import TicketService.Properties.Nonces
import TicketService.Properties.Authentication
import TicketService.Properties.DeviceHash
import TicketService.Properties.DeviceBinding
import TicketService.Properties.DeviceUniqueness
import TicketService.Properties.Refusal
import TicketService.Properties.Reads
import TicketService.Properties.Access
import TicketService.Properties.AccessRemoval
import TicketService.Properties.RefusedScan
import TicketService.Properties.FailedScan
import TicketService.Properties.Revocation
import TicketService.Properties.Deliveries
import TicketService.Properties.ProjectionUpdates
import TicketService.Properties.RoleRemoval
import TicketService.Properties.SettingsUpdates
import TicketService.Properties.Creation
import TicketService.Properties.AuditTrail
import TicketService.Properties.Alternation
import TicketService.Properties.RevokedOnce
import TicketService.Properties.FailedAttempts
import TicketService.Properties.Blocks
import TicketService.Properties.Outbox
import TicketService.Properties.OutboxOwnership
import TicketService.Properties.OutboxLease
import TicketService.Properties.RetryBackoff
import TicketService.Properties.RowShape
import TicketService.Properties.GenuineTokens
import TicketService.Properties.NonceMigration
import TicketService.Properties.PolicyRejections
import TicketService.Properties.Escalation
import TicketService.Properties.Reentry
import TicketService.Properties.Provisioning
import TicketService.Properties.RetrySafety
import TicketService.Properties.ScanResponse
import TicketService.Properties.SignedMessage
import TicketService.Properties.SimulatedClient
import TicketService.Properties.Completion
import TicketService.Properties.FactsOfLogs
import TicketService.Properties.Integrity
import TicketService.Properties.Deletion
import TicketService.Properties.Mediation
import TicketService.Properties.Attribution
import TicketService.Properties.Backlog
import TicketService.Properties.RevocationCauses
import TicketService.Properties.LogsTellRows
import TicketService.Properties.Messages
import TicketService.Properties.Visits
import TicketService.Properties.Availability
import TicketService.Properties.Milestones
import TicketService.Properties.KeyRotation
import TicketService.Properties.Disclosure
