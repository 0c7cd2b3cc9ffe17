import MetricGateway.Metric

/-!
# Polled metrics

A polled metric has a budget of polls.  Each poll spends one of them; a requester who asks for the
metric again restores the budget, and a metric whose budget is spent is polled no more.
-/

namespace MetricGateway
namespace Pulling

/-- A polled metric and what is left of its budget. -/
structure Entry where
  metric : MetricId
  valueKind : ValueKind
  remaining : UInt16
  budget : UInt16
deriving DecidableEq

namespace Entry

def new (metric : MetricId) (valueKind : ValueKind) (budget : UInt16) : Entry :=
  { metric, valueKind, remaining := budget, budget }

def exhausted (e : Entry) : Bool := e.remaining = 0

def refresh (e : Entry) : Entry := { e with remaining := e.budget }

def renew (e : Entry) (valueKind : ValueKind) (budget : UInt16) : Entry :=
  refresh { e with valueKind, budget }

def spend (e : Entry) : Entry :=
  { e with remaining := if e.remaining = 0 then 0 else e.remaining - 1 }

def selector (e : Entry) : MetricSelector :=
  { metric := e.metric, valueKind := e.valueKind }

@[simp] theorem metric_refresh (e : Entry) : e.refresh.metric = e.metric := rfl

@[simp] theorem metric_spend (e : Entry) : e.spend.metric = e.metric := rfl

@[simp] theorem budget_spend (e : Entry) : e.spend.budget = e.budget := rfl

theorem toNat_remaining_spend (e : Entry) :
    e.spend.remaining.toNat = e.remaining.toNat - 1 := by
  by_cases h : e.remaining = 0
  · simp [spend, h]
  · have hpos : 0 < e.remaining.toNat := by
      rcases Nat.eq_zero_or_pos e.remaining.toNat with h0 | hpos
      · exact absurd (UInt16.toNat_inj.mp (by simpa using h0)) h
      · exact hpos
    have hle : (1 : UInt16) ≤ e.remaining := by
      rw [UInt16.le_iff_toNat_le]
      exact hpos
    simp [spend, h, UInt16.toNat_sub_of_le _ _ hle]

end Entry
end Pulling
end MetricGateway
