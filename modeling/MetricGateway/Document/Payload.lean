import MetricGateway.Document.Access
import MetricGateway.Envelope

/-!
# Payloads as documents

The readable form of everything that travels through the broker.
-/

namespace MetricGateway
namespace Document

/-! ## Kinds and statuses -/

instance : Named ContainerKind where
  all := ContainerKind.all
  name
    | .generic => "Generic"
    | .snmpV1 => "SnmpV1"
    | .snmpV2c => "SnmpV2c"
    | .snmpV3 => "SnmpV3"
    | .flexLegacy => "FlexLegacy"

instance : Named ValueKind where
  all := ValueKind.all
  name
    | .int => "Int"
    | .float => "Float"
    | .text => "Text"
    | .bool => "Bool"

instance : Named Status where
  all := [.untyped, .ok, .invalidBody, .notFound, .failed, .internalError]
  name
    | .untyped => "Untyped"
    | .ok => "Ok"
    | .invalidBody => "InvalidBody"
    | .notFound => "NotFound"
    | .failed => "Failed"
    | .internalError => "InternalError"

/-! ## Values -/

def bitsText (bits : UInt64) : String :=
  let digits := Nat.toDigits 16 bits.toNat
  String.ofList (List.replicate (16 - digits.length) '0' ++ digits)

def asBits (d : Document) : Except Mismatch UInt64 :=
  d.asBytes.map fun bs => UInt64.ofNat (bs.foldl (fun n b => n * 256 + b.toNat) 0)

instance : Shown MetricValue where
  toDocument
    | .int v => record [("Int", of v)]
    | .float bits => record [("Float", text (bitsText bits))]
    | .text v => record [("Text", text v)]
    | .bool v => record [("Bool", flag v)]

instance : Legible MetricValue where
  ofDocument
    | record [("Int", v)] => v.as.map .int
    | record [("Float", v)] => v.asBits.map .float
    | record [("Text", v)] => v.as.map .text
    | record [("Bool", v)] => v.as.map .bool
    | _ => .error (.expected "a metric value")

/-! ## Requests and readings -/

instance : Shown MetricSelector where
  toDocument s := record [("id", of s.metric), ("metric_type", of s.valueKind)]

instance : Legible MetricSelector where
  ofDocument d := do
    let metric ← d.get "id"
    let valueKind ← d.get "metric_type"
    return { metric := metric, valueKind := valueKind }

instance : Shown MetricRequest where
  toDocument r := record
    [("container_id", of r.container), ("container_type", of r.containerKind),
      ("metric_id", of r.metric), ("metric_type", of r.valueKind),
      ("data_policy_id", of r.policy)]

instance : Legible MetricRequest where
  ofDocument d := do
    let container ← d.get "container_id"
    let containerKind ← d.get "container_type"
    let metric ← d.get "metric_id"
    let valueKind ← d.get "metric_type"
    let policy ← d.get "data_policy_id"
    return {
      container := container
      containerKind := containerKind
      metric := metric
      valueKind := valueKind
      policy := policy }

instance : Shown BatchRequest where
  toDocument r := record
    [("container_id", of r.container), ("container_type", of r.containerKind),
      ("metrics", of r.metrics)]

instance : Legible BatchRequest where
  ofDocument d := do
    let container ← d.get "container_id"
    let containerKind ← d.get "container_type"
    let metrics ← d.get "metrics"
    return { container := container, containerKind := containerKind, metrics := metrics }

instance : Shown Reading where
  toDocument r := record
    [("container_id", of r.container), ("metric_id", of r.metric),
      ("metric_type", of r.valueKind), ("value", of r.value), ("timestamp", of r.timestamp)]

instance : Legible Reading where
  ofDocument d := do
    let container ← d.get "container_id"
    let metric ← d.get "metric_id"
    let valueKind ← d.get "metric_type"
    let value ← d.get? "value"
    let timestamp ← d.get "timestamp"
    return {
      container := container
      metric := metric
      valueKind := valueKind
      value := value
      timestamp := timestamp }

instance : Shown ReadingBatch where
  toDocument b := record [("container_id", of b.container), ("responses", of b.readings)]

instance : Legible ReadingBatch where
  ofDocument d := do
    let container ← d.get "container_id"
    let readings ← d.get "responses"
    return { container := container, readings := readings }

/-! ## Notices and settings -/

instance : Shown ContainerNotice where
  toDocument n := record [("container_id", of n.container)]

instance : Legible ContainerNotice where
  ofDocument d := (d.get "container_id").map fun container => { container }

instance : Shown MetricNotice where
  toDocument n := record [("container_id", of n.container), ("metric_id", of n.metric)]

instance : Legible MetricNotice where
  ofDocument d := do
    let container ← d.get "container_id"
    let metric ← d.get "metric_id"
    return { container := container, metric := metric }

instance : Shown PolicyNotice where
  toDocument n := record [("data_policy_id", of n.policy)]

instance : Legible PolicyNotice where
  ofDocument d := (d.get "data_policy_id").map fun policy => { policy }

instance : Shown MetricSettings where
  toDocument s := record [("times", of s.budget), ("cache_duration", of s.cacheFor)]

instance : Legible MetricSettings where
  ofDocument d := do
    let budget ← d.get "times"
    let cacheFor ← d.get "cache_duration"
    return { budget := budget, cacheFor := cacheFor }

instance : Shown ContainerSettings where
  toDocument s := record [("pulling_interval", of s.interval)]

instance : Legible ContainerSettings where
  ofDocument d := (d.get "pulling_interval").map fun interval => { interval }

/-! ## Envelopes -/

instance : Shown Envelope where
  toDocument e := record
    [("msg_type", text e.msgType), ("correlation_id", text e.correlation),
      ("reply_to", text e.replyKey), ("expiration", text e.expiration),
      ("body", text (hexText e.body))]

def asEnvelope (d : Document) (body : Document → Except Mismatch Wire.Bytes) :
    Except Mismatch Envelope := do
  let msgType ← d.getD "msg_type" "1"
  let correlation ← d.getD "correlation_id" ""
  let replyKey ← d.getD "reply_to" ""
  let expiration ← d.getD "expiration" ""
  let bytes ← match d.field? "body" with
    | some b => body b
    | none => .ok []
  return {
    msgType := msgType
    correlation := correlation
    replyKey := replyKey
    expiration := expiration
    body := bytes }

end Document
end MetricGateway
