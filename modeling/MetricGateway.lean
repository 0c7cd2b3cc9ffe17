import MetricGateway.Environment
import MetricGateway.Health
import MetricGateway.Metrics
import MetricGateway.Journal
import MetricGateway.Pulling.Registry
import MetricGateway.Broker.Basic
import MetricGateway.Mailbox
import MetricGateway.Correlator
import MetricGateway.Collaborators
import MetricGateway.Machine
import MetricGateway.Commons
import MetricGateway.Replies
import MetricGateway.Dispatch
import MetricGateway.Lifecycle.Apply
import MetricGateway.Broker.Client
import MetricGateway.Channel.Basic
import MetricGateway.WaitingRoom
import MetricGateway.Channel.Link
import MetricGateway.Service.Basic
import MetricGateway.Api
import MetricGateway.Document.Access
import MetricGateway.Document.Payload
import MetricGateway.Document.Settings
import MetricGateway.Document.State
import MetricGateway.Transcript
import MetricGateway.Service.Deployment
import MetricGateway.Proofs.Pulling.Consistency
import MetricGateway.Proofs.Pulling.Runs
import MetricGateway.Proofs.Broker.Backlog
import MetricGateway.Proofs.Fetching.Correlated
import MetricGateway.Proofs.Fetching.Delivery
import MetricGateway.Proofs.Fetching.Fates
import MetricGateway.Proofs.Fetching.Replies
import MetricGateway.Proofs.Broker.Copies
import MetricGateway.Proofs.Waiting.Contract
import MetricGateway.Proofs.Wire.Payloads
import MetricGateway.Proofs.Pulling.Targets
import MetricGateway.Proofs.Pulling.Stale
import MetricGateway.Proofs.Pulling.Refinement
import MetricGateway.Proofs.Answering.Answers
import MetricGateway.Proofs.Wire.Spelling
import MetricGateway.Proofs.Caching.Provenance
import MetricGateway.Proofs.Fetching.Courses
import MetricGateway.Proofs.Fetching.Accounts
import MetricGateway.Proofs.Channel.Progress
import MetricGateway.Proofs.Channel.DownReports
import MetricGateway.Proofs.Pulling.Announcements
import MetricGateway.Proofs.Service.Separation
import MetricGateway.Proofs.Pulling.Silence
import MetricGateway.Proofs.Pulling.Agreement
import MetricGateway.Proofs.Service.Attendance
import MetricGateway.Proofs.Service.Quiet
import MetricGateway.Proofs.Pulling.Budgets
import MetricGateway.Proofs.Pulling.Cadence
import MetricGateway.Proofs.Fetching.Refusals
import MetricGateway.Proofs.Broker.Privacy
import MetricGateway.Proofs.Caching.Lifetimes
import MetricGateway.Proofs.Caching.Batches
import MetricGateway.Proofs.Fetching.Hits
import MetricGateway.Proofs.Fetching.Removals
import MetricGateway.Proofs.Broker.Rotation
import MetricGateway.Proofs.Broker.Transparency
import MetricGateway.Proofs.Scheduling.Schedulable
import MetricGateway.Proofs.Broker.Declarations
import MetricGateway.Proofs.Channel.Sending
import MetricGateway.Proofs.Pulling.Independence
import MetricGateway.Proofs.Caching.Settings
import MetricGateway.Proofs.Wire.Cuts
import MetricGateway.Proofs.Caching.Successes
import MetricGateway.Proofs.Loading
import MetricGateway.Proofs.Pulling.Lifespans
