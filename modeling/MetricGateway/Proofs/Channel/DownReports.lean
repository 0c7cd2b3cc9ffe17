import MetricGateway.Proofs.Channel.Outages
import MetricGateway.Proofs.Numerals

/-!
# What the report about a degraded broker says

The report gives the number of subscriptions that are down and the exchange of the one that was lost
last.  It is written when a subscription is lost and not when one of several is up again.  So the
number is that of the listeners that pause, and of those that left their pause since the last loss.
-/

namespace MetricGateway

theorem Link.downReport_inj {n n' : Nat} {exchange exchange' : String}
    (h : downReport n exchange = downReport n' exchange') : n = n' ∧ exchange = exchange' := by
  let rest : List Char := "subscription(s) down, last lost on ".toList
  have hsplit : ∀ (n : Nat) (exchange : String),
      (downReport n exchange).toList = n.repr.toList ++ ' ' :: (rest ++ exchange.toList) := by
    intro n exchange
    unfold downReport
    rw [String.toList_append, String.toList_append, List.append_assoc]
    rfl
  have hchars := congrArg String.toList h
  rw [hsplit, hsplit] at hchars
  rcases append_cons_inj (notMem_repr rfl n) (notMem_repr rfl n') hchars with ⟨hnumber, hafter⟩
  constructor
  · exact Nat.repr_injective (String.toList_inj.mp hnumber)
  · exact String.toList_inj.mp (List.append_cancel_left hafter)

namespace Channel
namespace Watch

/-- While the broker is reported as degraded, the report names the exchange of the subscription that
was lost last, and it counts the listeners that pause together with those that left their pause
since then.  So its number is the number of listeners that pause exactly if none has left its pause
since the last loss. -/
theorem report_counts_pausing_iff (network : Network) (settings : ChannelSettings)
    (common : Commons) {health : ComponentHealth}
    (hreport : common.health.components[Component.broker.label]? = some health)
    (hhealthy : health.status = .healthy) (acts : List Act)
    (hpermitted : (start network settings common).Permitted acts)
    (hdegraded : ((start network settings common).run acts).report?.map (·.status) =
      some .degraded) :
    let w := (start network settings common).run acts
    ∃ exchange, w.incidents.lastLost? = some exchange ∧
      w.report?.bind (·.message) =
        some (Link.downReport (w.link.channels.pausing + w.incidents.reopenedSinceLoss) exchange) ∧
      ∀ n named, w.report?.bind (·.message) = some (Link.downReport n named) →
        (n = w.link.channels.pausing ↔ w.incidents.reopenedSinceLoss = 0) := by
  intro w
  have hmirrors := mirrors_run (mirrors_start network settings hreport hhealthy) hpermitted
  rcases hmirrors.told with ⟨told, hlooked, htold⟩
  have hnow : w.report? = some told := hlooked
  cases htold with
  | well _ hstatus =>
      have hboth : some told.status = some Wellness.degraded := by
        rw [← hdegraded]
        exact (congrArg (Option.map (·.status)) hnow).symm
      rw [hstatus] at hboth
      cases hboth
  | @ill exchange _ _ hlast hmessage =>
      have hrendered : w.report?.bind (·.message) = some (Link.downReport
          (w.link.channels.pausing + w.incidents.reopenedSinceLoss) exchange) := by
        rw [hnow]
        exact hmessage
      exists exchange, hlast, hrendered
      intro n named hsaid
      rw [hrendered] at hsaid
      rcases Link.downReport_inj (Option.some.inj hsaid) with ⟨hn, _⟩
      rw [← hn]
      exact Nat.add_eq_left

/-- Two subscriptions are down and none is up again. -/
theorem report_counts_pausing_two_down :
    let w := (start {} {} registered).run twoOutages
    w.link.channels.pausing = 2 ∧
      ∀ n named, w.report?.bind (·.message) = some (Link.downReport n named) → n = 2 := by
  intro w
  have hreport : registered.health.components[Component.broker.label]? =
      some { status := .healthy, checkedAt := 0 } := by decide +kernel
  have hpermitted : (start {} {} registered).Permitted twoOutages := by
    apply permitted_of_short
    · simp [twoOutages, Permits]
    · decide
  have hpausing : w.link.channels.pausing = 2 := by decide +kernel
  rcases report_counts_pausing_iff {} {} registered hreport rfl twoOutages hpermitted
    (by decide +kernel) with ⟨_, _, _, hcounts⟩
  constructor
  · exact hpausing
  · intro n named hsaid
    have hnone : w.incidents.reopenedSinceLoss = 0 := by decide +kernel
    exact ((hcounts n named hsaid).mpr hnone).trans hpausing

/-- One of them is up again; all tasks wait, and the report still counts two. -/
theorem one_up_reported_as_two_down :
    let w := (start {} {} registered).run (twoOutages ++ oneRecovery)
    Machine.atRest w.link = true ∧ w.link.channels.stopping = false ∧
      w.report?.map (·.status) = some .degraded ∧
      w.report?.bind (·.message) = some (Link.downReport 2 "events") ∧
      w.link.channels.pausing = 1 := by
  decide +kernel

end Watch
end Channel
end MetricGateway
