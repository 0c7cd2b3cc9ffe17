import MetricGateway.Proofs.Service.RunQueue

/-!
# Quiet after a shutdown

A shutdown tells all tasks to stop and waits for the senders and for those who read the inlets.
Nobody waits for a listener whose reader has ended before; it is woken as the others are, and has
had its turn when the shutdown returns.

From then on the service asks nothing of the broker, whatever happens, and refuses every message
that is brought to its outbox.  That nothing is published any more, and every message refused, only
takes the end of the senders, in whatever order the tasks have taken their steps.  That no consumer
is opened takes the run queue: with several threads an orphan could still be on its way from its
pause to the broker when all others have ended.  It would be the only one to ask for anything, and
once the service has come to rest it does not either.
-/

namespace MetricGateway
namespace Service

/-- The service asks nothing of the broker, but that it may take messages and leave consumers, and
refuses every message. -/
structure Quiet (s : Service) : Prop extends Refuses s where
  asks : ∀ a, s.asks a = []
  reads : ∀ a, a.Own → Link.Reads s.broker (s.perform a).broker

theorem Running.Reaches.leadsTo {settings : ServiceSettings} {historyWriter : Bool}
    {w : Surroundings} {r : Running} (h : Running.Reaches settings historyWriter w r) :
    (idle settings historyWriter w).start.LeadsTo r.service := by
  induction h with
  | start wakes =>
      cases wakes
      exact leadsTo_of_same rfl rfl rfl
  | step _ happens wakes ih =>
      cases wakes
      exact ih.trans happens.leadsTo

def goesOn : Running.Move := .turn (List.replicate 20 .goOn)

def waits : List Act := [.resolver (.setClock (Instant.start.plus (Duration.ofSecs 5)))]

end Service
end MetricGateway
