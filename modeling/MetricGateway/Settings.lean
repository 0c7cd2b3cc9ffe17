import MetricGateway.Topology

/-!
# Settings

What can be tuned about one instance of the service.
-/

namespace MetricGateway

structure ChannelSettings where
  /-- Pause before a lost subscription is declared again. -/
  reconnectDelay : Duration := Duration.ofSecs 5
  /-- Number of tasks that take messages from the outbox to the broker. -/
  senderCount : Nat := 2
  publishBuffer : Nat := 1024
  deliveryBuffer : Nat := 1024
deriving DecidableEq

namespace ChannelSettings

/-- The number of sender tasks; there is always one. -/
def senders (s : ChannelSettings) : Nat := max s.senderCount 1

end ChannelSettings

structure ResolverSettings where
  fetchTimeout : Duration := Duration.ofSecs 25
  replyKey : String := "rts-1"
  messageTtl : Duration := Duration.ofSecs 30
deriving DecidableEq

structure ServiceSettings where
  /-- Identity of the instance, by default also the key of the replies to it. -/
  service : String
  channel : ChannelSettings := {}
  resolver : ResolverSettings := { replyKey := service }
  topology : Topology := {}
  routes : RoutingTable := RoutingTable.standard
  /-- Whether the readings of background polls are written to the history. -/
  historyEnabled : Bool := false
deriving DecidableEq

end MetricGateway
