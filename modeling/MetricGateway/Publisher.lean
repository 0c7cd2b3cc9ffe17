import MetricGateway.Commons
import MetricGateway.Error
import MetricGateway.Machine

/-!
# Publishing

Machines with an outbox.  A caller outside the machine that publishes a message waits until the
outbox has taken the message or refused it.
-/

namespace MetricGateway

class Publisher (σ : Type) where
  common : σ → Commons
  onCommon : σ → (Commons → Commons) → σ

namespace Publisher

variable {σ τ : Type} [Publisher σ] [Machine σ τ]

/-- Replaces what the parts of a state share, and runs the machine to rest. -/
def settleWith (s : σ) (c : Commons) : σ := Machine.settle (onCommon s fun _ => c)

def publishAgain (s : σ) (ticket : Ticket) (m : Message) : σ × Except GatewayError Unit :=
  match (common s).resend ticket m with
  | (c, .accepted) => (settleWith s c, .ok ())
  | (_, _) => (s, .error .channelClosed)

def publish (s : σ) (m : Message) : σ × Except GatewayError Unit :=
  match (common s).send m with
  | (c, .accepted) => (settleWith s c, .ok ())
  | (c, .parked ticket) => publishAgain (settleWith s c) ticket m
  | (_, .refused) => (s, .error .channelClosed)

/-- Publishes messages, one after the other; gives the result of the last one. -/
def publishAll (s : σ) (ms : List Message) : σ × Except GatewayError Unit :=
  ms.foldl (fun (s, _) m => publish s m) (s, .ok ())

end Publisher
end MetricGateway
