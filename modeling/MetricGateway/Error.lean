import MetricGateway.Metric
import MetricGateway.Wire.Fault

/-!
# Errors

Every operation of the gateway that can fail does so with one of these causes.
-/

namespace MetricGateway

inductive Subject where
  | metric
  | container
deriving DecidableEq

namespace Subject

def label : Subject → String
  | metric => "metric"
  | container => "container"

end Subject

inductive GatewayError where
  | codec (fault : Wire.Fault)
  /-- Nobody takes messages from the outbox any more. -/
  | channelClosed
  | broker (reason : String)
  | timeout (correlation : String) (after : Duration)
  | notConfigured (subject : Subject) (id : Int32)
  | store (reason : String)
  | cache (reason : String)
deriving DecidableEq

namespace GatewayError

def message : GatewayError → String
  | codec fault => "failed to encode or decode payload: " ++ fault.message
  | channelClosed => "publish channel closed"
  | broker reason => "broker error: " ++ reason
  | timeout id after => "no reply for correlation id " ++ id ++ " within " ++ after.text
  | notConfigured subject id =>
      subject.label ++ " " ++ toString id ++ " has no real-time configuration"
  | store reason => "store error: " ++ reason
  | cache reason => "cache error: " ++ reason

def isTimeout : GatewayError → Bool
  | timeout _ _ => true
  | _ => false

end GatewayError
end MetricGateway
