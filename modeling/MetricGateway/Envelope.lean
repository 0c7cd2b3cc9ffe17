import MetricGateway.Status
import MetricGateway.Wire.Payload

/-!
# Envelopes

An envelope is what travels through the broker: an encoded body, the status of the message in its
type field, the id that ties a reply to its request, the key to which the receiver should reply and
the time the broker may keep the message.  An absent id, key or time is an empty text.
-/

namespace MetricGateway

open Wire (Bytes)

structure Envelope where
  msgType : String := ""
  correlation : String := ""
  replyKey : String := ""
  expiration : String := ""
  body : Bytes := []
deriving DecidableEq, Inhabited

namespace Envelope

def ofBody (body : Bytes) (status : Status) : Envelope :=
  { msgType := status.text, body }

def pack {α : Type} [Wire.Payload α] (payload : α) (status : Status) : Envelope :=
  ofBody (Wire.encode payload) status

def unpack {α : Type} [Wire.Payload α] (e : Envelope) : Except Wire.Fault α :=
  Wire.read e.body

def withCorrelation (e : Envelope) (id : String) : Envelope :=
  { e with correlation := id }

def replyTo (e : Envelope) (key : String) : Envelope :=
  { e with replyKey := key }

/-- The same envelope with a time to live, written in milliseconds. -/
def expiringAfter (e : Envelope) (ttl : Duration) : Envelope :=
  { e with expiration := toString ttl.wholeMillis }

def status (e : Envelope) : Status :=
  Status.ofText e.msgType

def replyKey? (e : Envelope) : Option String :=
  if e.replyKey.isEmpty then none else some e.replyKey

end Envelope

namespace Wire

def Codec.envelope : Codec Envelope :=
  (text.pair (text.pair (text.pair (text.pair blob)))).iso
    (fun (msgType, correlation, replyKey, expiration, body) =>
      { msgType, correlation, replyKey, expiration, body })
    (fun e => (e.msgType, e.correlation, e.replyKey, e.expiration, e.body))

instance : Payload Envelope := ⟨Codec.envelope⟩

end Wire

namespace Envelope

def toFrame (e : Envelope) : Bytes := Wire.encode e

def ofFrame (frame : Bytes) : Except Wire.Fault Envelope := Wire.read frame

end Envelope
end MetricGateway
