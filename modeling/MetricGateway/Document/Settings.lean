import MetricGateway.Document.Payload
import MetricGateway.Broker.Binding
import MetricGateway.Settings

/-!
# Settings as documents

Settings are read over defaults: a field that is absent keeps its default.
-/

namespace MetricGateway
namespace Document

instance : Named LifecycleTopic where
  all := LifecycleTopic.all
  name
    | .containerUpdated => "ContainerUpdated"
    | .containerDeleted => "ContainerDeleted"
    | .metricUpdated => "MetricUpdated"
    | .metricDeleted => "MetricDeleted"
    | .policyDeleted => "DataPolicyDeleted"

instance : Shown Topology where
  toDocument t := record
    [("fetch_exchange", text t.fetchExchange), ("response_exchange", text t.responseExchange),
      ("request_exchange", text t.requestExchange), ("request_queue", text t.requestQueue),
      ("request_routing_key", text t.requestKey), ("poll_reply_key", text t.pollReplyKey),
      ("poll_reply_queue", text t.pollReplyQueue),
      ("container_updated", text t.lifecycle.containerUpdated),
      ("container_deleted", text t.lifecycle.containerDeleted),
      ("metric_updated", text t.lifecycle.metricUpdated),
      ("metric_deleted", text t.lifecycle.metricDeleted),
      ("data_policy_deleted", text t.lifecycle.policyDeleted)]

instance : Legible Topology where
  ofDocument d := do
    let t : Topology := {}
    let fetchExchange ← d.getD "fetch_exchange" t.fetchExchange
    let responseExchange ← d.getD "response_exchange" t.responseExchange
    let requestExchange ← d.getD "request_exchange" t.requestExchange
    let requestQueue ← d.getD "request_queue" t.requestQueue
    let requestKey ← d.getD "request_routing_key" t.requestKey
    let pollReplyKey ← d.getD "poll_reply_key" t.pollReplyKey
    let pollReplyQueue ← d.getD "poll_reply_queue" t.pollReplyQueue
    let containerUpdated ← d.getD "container_updated" t.lifecycle.containerUpdated
    let containerDeleted ← d.getD "container_deleted" t.lifecycle.containerDeleted
    let metricUpdated ← d.getD "metric_updated" t.lifecycle.metricUpdated
    let metricDeleted ← d.getD "metric_deleted" t.lifecycle.metricDeleted
    let policyDeleted ← d.getD "data_policy_deleted" t.lifecycle.policyDeleted
    return {
      fetchExchange := fetchExchange
      responseExchange := responseExchange
      requestExchange := requestExchange
      requestQueue := requestQueue
      requestKey := requestKey
      pollReplyKey := pollReplyKey
      pollReplyQueue := pollReplyQueue
      lifecycle := {
        containerUpdated := containerUpdated
        containerDeleted := containerDeleted
        metricUpdated := metricUpdated
        metricDeleted := metricDeleted
        policyDeleted := policyDeleted } }

def addRoute (t : RoutingTable) (d : Document) : Except Mismatch RoutingTable :=
  match d with
  | list [kind, key] => do
      let kind ← kind.as
      let key ← key.as
      return t.withRoute kind key
  | _ => .error (.expected "a route")

/-- Reads routes that are added to the standard ones, or to none. -/
instance : Legible RoutingTable where
  ofDocument d := do
    let base ← d.getD "base" "default"
    let routes ← d.getD "add" ([] : List Document)
    routes.foldlM addRoute (if base = "empty" then .empty else .standard)

instance : Shown ChannelSettings where
  toDocument s := record
    [("reconnect_delay", of s.reconnectDelay), ("sender_count", of s.senderCount),
      ("publish_buffer", of s.publishBuffer), ("delivery_buffer", of s.deliveryBuffer)]

instance : Legible ChannelSettings where
  ofDocument d := do
    let s : ChannelSettings := {}
    let reconnectDelay ← d.getD "reconnect_delay" s.reconnectDelay
    let senderCount ← d.getD "sender_count" s.senderCount
    let publishBuffer ← d.getD "publish_buffer" s.publishBuffer
    let deliveryBuffer ← d.getD "delivery_buffer" s.deliveryBuffer
    return {
      reconnectDelay := reconnectDelay
      senderCount := senderCount
      publishBuffer := publishBuffer
      deliveryBuffer := deliveryBuffer }

instance : Shown ResolverSettings where
  toDocument s := record
    [("fetch_timeout", of s.fetchTimeout), ("reply_routing_key", text s.replyKey),
      ("message_ttl", of s.messageTtl)]

def asResolverSettings (d : Document) (s : ResolverSettings) : Except Mismatch ResolverSettings := do
  let fetchTimeout ← d.getD "fetch_timeout" s.fetchTimeout
  let replyKey ← d.getD "reply_routing_key" s.replyKey
  let messageTtl ← d.getD "message_ttl" s.messageTtl
  return { fetchTimeout := fetchTimeout, replyKey := replyKey, messageTtl := messageTtl }

instance : Shown ServiceSettings where
  toDocument s := record
    [("service_id", text s.service), ("channel", of s.channel), ("resolver", of s.resolver),
      ("topology", of s.topology), ("history_enabled", flag s.historyEnabled)]

/-! ## Bindings -/

instance : Named Broker.ExchangeKind where
  all := [.direct, .fanout]
  name := Broker.ExchangeKind.label

def asFullBinding (d : Document) : Except Mismatch Broker.Binding := do
  let exchange ← d.get "exchange"
  let kind ← d.get "kind"
  let durable ← d.getD "durable" true
  let queue ← d.get? "queue"
  let keys ← d.get "keys"
  return {
    exchange := exchange
    kind := kind
    queue := match queue with
      | some name => .named name durable
      | none => .exclusive
    keys := keys }

/-- Reads a binding: one of the two usual kinds, or one that is written out in full. -/
instance : Legible Broker.Binding where
  ofDocument d :=
    match d.field? "direct", d.field? "fanout" with
    | some (list [exchange, queue, key]), _ => do
        let exchange ← exchange.as
        let queue ← queue.as
        let key ← key.as
        return .direct exchange queue key
    | _, some exchange => exchange.as.map .fanout
    | _, _ => d.asFullBinding

end Document
end MetricGateway
