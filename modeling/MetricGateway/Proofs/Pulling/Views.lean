import MetricGateway.Proofs.Pulling.Runs

/-!
# What polling does not touch

Background polling records events, sets gauges, counts the polls that were published, takes new
correlation ids and publishes.  Whatever cannot tell what is shared before any of these from what is
shared after it, cannot tell what is shared before an operation of background polling, or a step of
a ticker, from what is shared after it.  The clock is an example: time passes only while nothing
happens.
-/

namespace MetricGateway
namespace Pulling
namespace Polling

/-- A view of what is shared that shows nothing of what background polling does with it. -/
structure Blind {α : Type} (view : Commons → α) : Prop where
  record : ∀ (c : Commons) (e : Event), view (c.record e) = view c
  gauge : ∀ (c : Commons) (groups entries : Nat),
    view (c.count fun m => m.setPulling groups entries) = view c
  published : ∀ c : Commons, view (c.count Metrics.addPollPublished) = view c
  freshId : ∀ c : Commons, view c.freshId.1 = view c
  outbox : ∀ (c : Commons) (outbox : Mailbox Message), view { c with outbox } = view c

namespace Blind

variable {α : Type} {view : Commons → α}

theorem foldl_record (h : Blind view) (c : Commons) (event : GroupRef → Event)
    (dropped : List GroupRef) :
    view (dropped.foldl (fun c ref => c.record (event ref)) c) = view c := by
  induction dropped generalizing c with
  | nil => rfl
  | cons ref dropped ih => exact (ih (c.record (event ref))).trans (h.record c (event ref))

theorem setRegistry (h : Blind view) (p : Polling) (r : Registry) :
    view (p.setRegistry r).common = view p.common :=
  h.gauge p.common r.groupCount r.entryCount

theorem announce (h : Blind view) (p : Polling) (r : Registry) (reason : String)
    (dropped stopped : List GroupRef) :
    view (((p.setRegistry r).cancel dropped).recordStopped reason stopped).common =
      view p.common :=
  (h.foldl_record _ (fun ref => .groupStopped ref.key.text reason) stopped).trans
    (h.setRegistry p r)

/-!
## Operations
-/

theorem add (h : Blind view) (p : Polling) (target : Target) (metric : MetricId)
    (valueKind : ValueKind) (budget : UInt16) :
    view (p.add target metric valueKind budget).1.common = view p.common := by
  unfold Polling.add
  split
  next => rfl
  next registry report _ =>
    have hannounced := h.announce p registry "metric moved to another interval"
      report.dropped.toList report.dropped.toList
    dsimp only
    split
    · exact (h.record _ _).trans hannounced
    · exact hannounced

theorem remove (h : Blind view) (p : Polling) (metric : MetricId) :
    view (p.remove metric).1.common = view p.common := by
  unfold Polling.remove
  split
  next => rfl
  next registry dropped _ => exact h.announce p registry _ _ _

theorem stopContainer (h : Blind view) (p : Polling) (container : ContainerId) :
    view (p.stopContainer container).1.common = view p.common :=
  h.announce p _ _ _ _

theorem stopAll (h : Blind view) (p : Polling) : view p.stopAll.1.common = view p.common :=
  h.setRegistry p _

/-!
## Tickers
-/

theorem tick (h : Blind view) (p : Polling) (ref : GroupRef) :
    view (p.tick ref).1.common = view p.common := by
  unfold Polling.tick
  split
  next => rfl
  next registry report _ =>
    dsimp only
    split
    next => exact h.announce p registry _ _ _
    next => exact (h.freshId _).trans (h.setRegistry p registry)

theorem send (h : Blind view) (c : Commons) (m : Message) : view (c.send m).1 = view c :=
  h.outbox c _

theorem resend (h : Blind view) (c : Commons) (ticket : Ticket) (m : Message) :
    view (c.resend ticket m).1 = view c :=
  h.outbox c _

theorem fire (h : Blind view) (p : Polling) (g : Generation) (t : Ticker) (due : Instant) :
    view (p.fire g t due).common = view p.common := by
  have hticked := h.tick p t.ref
  unfold Polling.fire
  cases hround : p.tick t.ref with
  | mk q polled =>
      rw [hround] at hticked
      cases polled with
      | none => exact hticked
      | some m =>
          have hsent := (h.send q.common m).trans hticked
          dsimp only
          split
          next hoffer =>
            rw [hoffer] at hsent
            exact (h.published _).trans hsent
          next hoffer =>
            rw [hoffer] at hsent
            exact hsent
          next hoffer =>
            rw [hoffer] at hsent
            exact hsent

theorem stepTicker (h : Blind view) (p : Polling) (g : Generation) (preference : Preference) :
    view (p.stepTicker g preference).common = view p.common := by
  unfold Polling.stepTicker
  cases p.tickers[g]? with
  | none => rfl
  | some t =>
      dsimp only
      cases t.phase with
      | starting =>
          dsimp only
          split <;> rfl
      | sleeping due =>
          dsimp only
          split
          · rfl
          · split
            · exact h.fire p g t due
            · rfl
      | publishing ticket m due =>
          have hsent := h.resend p.common ticket m
          dsimp only
          split
          next hoffer =>
            rw [hoffer] at hsent
            exact (h.published _).trans hsent
          next hoffer =>
            rw [hoffer] at hsent
            exact hsent
          next => rfl

theorem perform (h : Blind view) (p : Polling) (op : Op) :
    view (p.perform op).common = view p.common := by
  cases op with
  | add target metric valueKind budget => exact h.add p target metric valueKind budget
  | refresh metric => rfl
  | remove metric => exact h.remove p metric
  | stopContainer container => exact h.stopContainer p container
  | stopAll => exact h.stopAll p
  | shutdown => exact h.stopAll p
  | tick ref => exact h.tick p ref
  | turn generation preference => exact h.stepTicker p generation preference

end Blind

theorem blind_now : Blind fun c => c.now where
  record _ _ := rfl
  gauge _ _ _ := rfl
  published _ := rfl
  freshId _ := rfl
  outbox _ _ := rfl

end Polling
end Pulling
end MetricGateway
