import OutboundWebhook.Authority
import OutboundWebhook.Backoff
import OutboundWebhook.Budget
import OutboundWebhook.ClaimEffect
import OutboundWebhook.Config
import OutboundWebhook.Contract
import OutboundWebhook.Database
import OutboundWebhook.Dispatch
import OutboundWebhook.DomainErrors
import OutboundWebhook.Execution
import OutboundWebhook.Explanation
import OutboundWebhook.Failures
import OutboundWebhook.Faults
import OutboundWebhook.Fencing
import OutboundWebhook.Foundations.Bytes
import OutboundWebhook.Foundations.Calendar
import OutboundWebhook.Foundations.Json
import OutboundWebhook.Foundations.JsonEquality
import OutboundWebhook.Foundations.JsonSchema
import OutboundWebhook.Foundations.JsonText
import OutboundWebhook.Foundations.KeyedTable
import OutboundWebhook.Foundations.Numbering
import OutboundWebhook.Foundations.Ranking
import OutboundWebhook.Foundations.Segments
import OutboundWebhook.Foundations.Selection
import OutboundWebhook.Foundations.Sha256
import OutboundWebhook.Foundations.Simulation
import OutboundWebhook.Foundations.TransitionSystem
import OutboundWebhook.History
import OutboundWebhook.Idempotency
import OutboundWebhook.Identity
import OutboundWebhook.Inspection
import OutboundWebhook.Invariants
import OutboundWebhook.Leases
import OutboundWebhook.Lifecycle
import OutboundWebhook.Native
import OutboundWebhook.Normalization
import OutboundWebhook.Platform
import OutboundWebhook.Protocol
import OutboundWebhook.Provenance
import OutboundWebhook.Queue
import OutboundWebhook.ReadBack
import OutboundWebhook.Receiver
import OutboundWebhook.Recovery
import OutboundWebhook.Reference
import OutboundWebhook.Refinement
import OutboundWebhook.Replay
import OutboundWebhook.ReplayCycles
import OutboundWebhook.Schema
import OutboundWebhook.Secrecy
import OutboundWebhook.SecretReference
import OutboundWebhook.Service
import OutboundWebhook.Session
import OutboundWebhook.Settlement
import OutboundWebhook.Snapshot
import OutboundWebhook.Storage
import OutboundWebhook.StorageLaws
import OutboundWebhook.System
