import MetricGateway.Broker.Binding
import MetricGateway.Correlator
import MetricGateway.Mailbox

/-!
# Answering one request

Every request is answered by a task of its own.  The task waits at most three times: for room to
publish its fetch, for the reply to the fetch, and for room to publish its answer.
-/

namespace MetricGateway
namespace Resolver

inductive Resolution where
  | cached
  /-- Without data, because no translator handles the kind of container. -/
  | noRoute
  | fetched (status : Status)
deriving DecidableEq

inductive Requester where
  | caller
  /-- To the outbox, under the exchange, the key and the correlation id of the requester. -/
  | outbox (exchange key correlation : String)
  | gone
deriving DecidableEq

inductive Task.Phase where
  | starting
  | fetching (ticket : Ticket) (fetch : Message) (correlation : String) (settings : MetricSettings)
  | awaiting (wait : WaitId) (correlation : String) (settings : MetricSettings)
  | answering (ticket : Ticket) (answer : Message) (resolution : Resolution)
deriving DecidableEq

/-- A task that answers a request; it is there until it ends. -/
structure Task where
  request : MetricRequest
  requester : Requester
  timeout : Duration
  startedAt : Instant
  phase : Task.Phase := .starting
deriving DecidableEq

abbrev TaskId := Nat

inductive Report where
  | delivered (answer : Envelope)
  | finished (result : Except GatewayError Resolution)

end Resolver
end MetricGateway
