import MetricGateway.Metric
import MetricGateway.Wire.Codec

/-!
# The payloads of messages

Every type that crosses the broker has one codec: its fields in the order in which the type
declares them.
-/

namespace MetricGateway
namespace Wire

class Payload (α : Type) where
  codec : Codec α

def encode {α : Type} [Payload α] (a : α) : Bytes :=
  (Payload.codec : Codec α).encode a

def decode {α : Type} [Payload α] (bs : Bytes) : Except Fault (α × Bytes) :=
  (Payload.codec : Codec α).decode bs

def read {α : Type} [Payload α] (bs : Bytes) : Except Fault α :=
  (Payload.codec : Codec α).read bs

namespace Codec

def containerKind : Codec ContainerKind := variant ContainerKind.all

def valueKind : Codec ValueKind := variant ValueKind.all

def metricValue : Codec MetricValue where
  encode
    | .int v => littleEndian 4 0 ++ i64.encode v
    | .float bits => littleEndian 4 1 ++ u64.encode bits
    | .text v => littleEndian 4 2 ++ text.encode v
    | .bool v => littleEndian 4 3 ++ bool.encode v
  decode bs := do
    let (n, rest) ← readLittleEndian 4 bs
    match n with
    | 0 => (i64.iso MetricValue.int fun | .int v => v | _ => 0).decode rest
    | 1 => (u64.iso MetricValue.float fun | .float v => v | _ => 0).decode rest
    | 2 => (text.iso MetricValue.text fun | .text v => v | _ => "").decode rest
    | 3 => (bool.iso MetricValue.bool fun | .bool v => v | _ => false).decode rest
    | n => .error (.unknownVariant n 4)

def metricRequest : Codec MetricRequest :=
  (i32.pair (containerKind.pair (i32.pair (valueKind.pair i32)))).iso
    (fun (container, containerKind, metric, valueKind, policy) =>
      { container, containerKind, metric, valueKind, policy })
    (fun r => (r.container, r.containerKind, r.metric, r.valueKind, r.policy))

def metricSelector : Codec MetricSelector :=
  (i32.pair valueKind).iso
    (fun (metric, valueKind) => { metric, valueKind })
    (fun s => (s.metric, s.valueKind))

def batchRequest : Codec BatchRequest :=
  (i32.pair (containerKind.pair (list metricSelector))).iso
    (fun (container, containerKind, metrics) => { container, containerKind, metrics })
    (fun r => (r.container, r.containerKind, r.metrics))

def reading : Codec Reading :=
  (i32.pair (i32.pair (valueKind.pair ((option metricValue).pair i64)))).iso
    (fun (container, metric, valueKind, value, timestamp) =>
      { container, metric, valueKind, value, timestamp })
    (fun r => (r.container, r.metric, r.valueKind, r.value, r.timestamp))

def readingBatch : Codec ReadingBatch :=
  (i32.pair (list reading)).iso
    (fun (container, readings) => { container, readings })
    (fun b => (b.container, b.readings))

def metricSettings : Codec MetricSettings :=
  (u16.pair duration).iso
    (fun (budget, cacheFor) => { budget, cacheFor })
    (fun s => (s.budget, s.cacheFor))

def containerSettings : Codec ContainerSettings :=
  duration.iso (fun interval => { interval }) (fun s => s.interval)

def containerNotice : Codec ContainerNotice :=
  i32.iso (fun container => { container }) (fun n => n.container)

def metricNotice : Codec MetricNotice :=
  (i32.pair i32).iso
    (fun (container, metric) => { container, metric })
    (fun n => (n.container, n.metric))

def policyNotice : Codec PolicyNotice :=
  i32.iso (fun policy => { policy }) (fun n => n.policy)

end Codec

instance : Payload ContainerKind := ⟨Codec.containerKind⟩
instance : Payload ValueKind := ⟨Codec.valueKind⟩
instance : Payload String := ⟨Codec.text⟩
instance : Payload MetricValue := ⟨Codec.metricValue⟩
instance : Payload MetricRequest := ⟨Codec.metricRequest⟩
instance : Payload MetricSelector := ⟨Codec.metricSelector⟩
instance : Payload BatchRequest := ⟨Codec.batchRequest⟩
instance : Payload Reading := ⟨Codec.reading⟩
instance : Payload ReadingBatch := ⟨Codec.readingBatch⟩
instance : Payload MetricSettings := ⟨Codec.metricSettings⟩
instance : Payload ContainerSettings := ⟨Codec.containerSettings⟩
instance : Payload ContainerNotice := ⟨Codec.containerNotice⟩
instance : Payload MetricNotice := ⟨Codec.metricNotice⟩
instance : Payload PolicyNotice := ⟨Codec.policyNotice⟩

end Wire
end MetricGateway
