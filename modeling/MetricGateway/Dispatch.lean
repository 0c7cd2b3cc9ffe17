import MetricGateway.Resolver.Basic

/-!
# Requests of other services

Every request that arrives gets a task of its own, so that a slow fetch holds up nothing behind it.
The answer goes to the response exchange, under the key and the correlation id of the request.
-/

namespace MetricGateway
namespace Resolver

/-- Starts a task for a request.  A request that does not decode or says nowhere to reply is
dropped. -/
def dispatch (r : Resolver) (e : Envelope) : Resolver × Option TaskId :=
  match (e.unpack : Except Wire.Fault MetricRequest) with
  | .error _ => (r.count Metrics.addDecodeFailure, none)
  | .ok request =>
      match e.replyKey? with
      | none => (r, none)
      | some key =>
          let (r, id) := r.start request
            (.outbox r.topology.responseExchange key e.correlation) r.settings.fetchTimeout
          (r, some id)

end Resolver
end MetricGateway
