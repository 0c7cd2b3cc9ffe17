import MetricGateway.Channel.Link
import MetricGateway.Settings

/-!
# Inlets

A service takes messages from eight subscriptions: the replies to its own fetches, the replies to
background polls, one for each topic of broadcasts, and the requests of other services.
-/

namespace MetricGateway
namespace Service

inductive Inlet where
  | replies
  /-- Replies to background polls, shared by all instances. -/
  | polls
  | topic (t : LifecycleTopic)
  /-- Requests of other services, shared by all instances. -/
  | requests
deriving DecidableEq

namespace Inlet

def all : List Inlet := [replies, polls] ++ LifecycleTopic.all.map topic ++ [requests]

def binding (s : ServiceSettings) : Inlet → Broker.Binding
  | replies =>
      .direct s.topology.responseExchange (s.topology.replyQueue s.service) s.resolver.replyKey
  | polls =>
      .direct s.topology.responseExchange s.topology.pollReplyQueue s.topology.pollReplyKey
  | topic t => .fanout (t.exchange s.topology.lifecycle)
  | requests =>
      .direct s.topology.requestExchange s.topology.requestQueue s.topology.requestKey

theorem mem_all (i : Inlet) : i ∈ all := by
  cases i with
  | topic t => simp [all, LifecycleTopic.mem_all]
  | replies => simp [all]
  | polls => simp [all]
  | requests => simp [all]

end Inlet
end Service
end MetricGateway
