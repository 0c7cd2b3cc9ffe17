import MetricGateway.Proofs.Broker.Contents
import MetricGateway.Proofs.Broker.Openings

/-!
# Whose a queue is

The broker is watched: it is noted which consumer each exclusive queue was created for, and how each
consumer has asked for its queue.  As long as nobody gets into a queue that was created for somebody
else, the flags of the queues tell the exclusive ones from the others, and what was noted agrees
with what is there.
-/

namespace MetricGateway
namespace Broker

/-- The broker, with what somebody who has watched it knows. -/
structure Watched where
  broker : Broker := {}
  /-- The consumer that a queue that is there was created for, where it was asked for as an
  exclusive one. -/
  owner : String → Option ConsumerId := fun _ => none
  asked : ConsumerId → Option QueueSpec := fun _ => none

namespace Watched

def perform (w : Watched) (op : Op) : Watched where
  broker := w.broker.perform op
  owner name :=
    if name ∉ (w.broker.perform op).queues then none
    else if name ∈ w.broker.queues then w.owner name
    else (w.broker.opening? op).bind fun o =>
      if o.spec = .exclusive then some o.consumer else none
  asked c :=
    match w.broker.opening? op with
    | some o => if c = o.consumer then some o.spec else w.asked c
    | none => w.asked c

def run (w : Watched) (ops : List Op) : Watched := ops.foldl perform w

theorem broker_run (w : Watched) (ops : List Op) : (w.run ops).broker = w.broker.run ops := by
  induction ops generalizing w with
  | nil => rfl
  | cons op ops ih => exact ih (w.perform op)

/-- What holds as long as names do not clash: an exclusive queue has a name that the broker has
made, no consumer but its own, and an empty backlog; all other queues, and they alone, were asked
for by name, by each of their consumers. -/
structure Orderly (w : Watched) : Prop where
  wired : w.broker.Wired
  made : ∀ {name : String} {c : ConsumerId}, w.owner name = some c →
    ∃ n ≤ w.broker.namedQueues, name = madeName n
  opened : ∀ {name : String} {c : ConsumerId}, w.owner name = some c → c < w.broker.opened
  present : ∀ {name : String} {c : ConsumerId}, w.owner name = some c → name ∈ w.broker.queues
  flagged : ∀ {name : String} {q : Queue}, w.broker.queues[name]? = some q →
    q.exclusive = (w.owner name).isSome
  alone : ∀ {name : String} {c : ConsumerId}, w.owner name = some c →
    ∀ d ∈ w.broker.members name, d = c
  quiet : ∀ {name : String} {c : ConsumerId}, w.owner name = some c → w.broker.waiting name = []
  guests : ∀ {name : String}, w.owner name = none → ∀ c ∈ w.broker.members name,
    ∃ durable, w.asked c = some (.named name durable)
  asked_lt : ∀ {c : ConsumerId} {spec : QueueSpec}, w.asked c = some spec → c < w.broker.opened
  asked_for : ∀ name : String, name ∈ w.broker.queues ∧ w.owner name = none ↔
    ∃ c durable, w.asked c = some (.named name durable)

theorem orderly_empty : ({} : Watched).Orderly where
  wired := wired_empty
  made h := by cases h
  opened h := by cases h
  present h := by cases h
  flagged h := by simp at h
  alone h := by cases h
  quiet h := by cases h
  guests _ c hc := by simp [members] at hc
  asked_lt h := by cases h
  asked_for name := by simp

variable {w : Watched} {op : Op}

theorem Orderly.shared (h : w.Orderly) {name : String} (hnobody : w.owner name = none) :
    ∀ q, w.broker.queues[name]? = some q → q.exclusive = false := by
  intro q hq
  rw [h.flagged hq, hnobody]
  rfl

theorem Orderly.exclusive (h : w.Orderly) {name : String} {c : ConsumerId}
    (howner : w.owner name = some c) {q : Queue} (hq : w.broker.queues[name]? = some q) :
    q.exclusive = true := by
  rw [h.flagged hq, howner]
  rfl

/-!
## Operations that open nothing
-/

theorem asked_of_none (hnone : w.broker.opening? op = none) : (w.perform op).asked = w.asked := by
  funext c
  unfold perform
  dsimp only
  rw [hnone]

theorem Orderly.owner_of_mem_iff (h : w.Orderly)
    (hmem : ∀ name, name ∈ (w.broker.perform op).queues ↔ name ∈ w.broker.queues) :
    (w.perform op).owner = w.owner := by
  funext name
  unfold perform
  dsimp only
  by_cases hname : name ∈ w.broker.queues
  · rw [if_neg (not_not_intro ((hmem name).mpr hname)), if_pos hname]
  · rw [if_pos fun hafter => hname ((hmem name).mp hafter)]
    cases howner : w.owner name with
    | none => rfl
    | some c => exact absurd (h.present howner) hname

theorem members_of_serves {b after : Broker} (h : b.Serves after) (name : String) :
    after.members name ⊆ b.members name := by
  intro c hc
  by_cases hmem : name ∈ after.queues
  · rcases exists_lookup_of_mem hmem with ⟨q', hq'⟩
    rcases h.queue hq' with ⟨q, hq, _, hsub, _⟩
    rw [members_of_getElem? hq'] at hc
    rw [members_of_getElem? hq]
    exact hsub hc
  · rw [members_of_not_mem hmem] at hc
    cases hc

theorem Orderly.serves (h : w.Orderly) (hnone : w.broker.opening? op = none)
    (hserves : w.broker.Serves (w.broker.perform op)) : (w.perform op).Orderly := by
  have hasked := asked_of_none hnone
  have howner := h.owner_of_mem_iff hserves.mem
  have hbroker : (w.perform op).broker = w.broker.perform op := rfl
  constructor <;> simp only [howner, hasked, hbroker]
  case wired => exact h.wired.perform op
  case made => rw [hserves.made]; exact h.made
  case opened => rw [hserves.opened]; exact h.opened
  case present => exact fun hname => (hserves.mem _).mpr (h.present hname)
  case flagged =>
    intro name q' hq'
    rcases hserves.queue hq' with ⟨q, hq, hflag, _⟩
    rw [hflag, h.flagged hq]
  case alone => exact fun hname d hd => h.alone hname d (members_of_serves hserves _ hd)
  case quiet =>
    intro name c hname
    have hbefore := h.quiet hname
    rcases exists_lookup_of_mem ((hserves.mem name).mpr (h.present hname)) with ⟨q', hq'⟩
    rcases hserves.queue hq' with ⟨q, hq, _, _, hbacklog⟩
    rw [waiting_of_getElem? hq] at hbefore
    rw [waiting_of_getElem? hq', hbacklog (h.exclusive hname hq), hbefore]
  case guests => exact fun hname c hc => h.guests hname c (members_of_serves hserves _ hc)
  case asked_lt => rw [hserves.opened]; exact h.asked_lt
  case asked_for =>
    intro name
    rw [hserves.mem name]
    exact h.asked_for name

theorem Orderly.mem_queues_cancelAll (h : w.Orderly) (name : String) :
    name ∈ w.broker.cancelAll.queues ↔ name ∈ w.broker.queues ∧ w.owner name = none := by
  cases howner : w.owner name with
  | none => simp only [Broker.mem_queues_cancelAll (h.shared howner), and_true]
  | some c =>
      rcases exists_lookup_of_mem (h.present howner) with ⟨q, hq⟩
      have hgone : w.broker.cancelAll.queues[name]? = none := by
        unfold Broker.cancelAll
        rw [Std.ExtTreeMap.getElem?_map, Std.ExtTreeMap.getElem?_filter', hq]
        simp [h.exclusive howner hq]
      rw [Std.ExtTreeMap.mem_iff_isSome_getElem?, hgone]
      simp

theorem Orderly.cancelAll (h : w.Orderly) : (w.perform .cancelAll).Orderly := by
  have hasked : (w.perform .cancelAll).asked = w.asked := asked_of_none rfl
  have hbroker : (w.perform .cancelAll).broker = w.broker.cancelAll := rfl
  have howner : ∀ name, (w.perform .cancelAll).owner name = none := by
    intro name
    unfold Watched.perform
    dsimp only
    split
    next => rfl
    next hmem =>
      have hstays := (h.mem_queues_cancelAll name).mp (Decidable.not_not.mp hmem)
      rw [if_pos hstays.1, hstays.2]
  constructor <;> simp only [howner, hasked, hbroker]
  case wired => exact h.wired.cancelAll
  case made => exact fun hname => by cases hname
  case opened => exact fun hname => by cases hname
  case present => exact fun hname => by cases hname
  case flagged =>
    intro name q' hq'
    have hstays := (h.mem_queues_cancelAll name).mp (mem_of_lookup hq')
    rcases exists_lookup_of_mem hstays.1 with ⟨q, hq⟩
    have hshared := h.shared hstays.2 q hq
    cases (queues_cancelAll hq hshared).symm.trans hq'
    exact hshared
  case alone => exact fun hname => by cases hname
  case quiet => exact fun hname => by cases hname
  case guests =>
    intro name _ c hc
    rw [members_cancelAll] at hc
    cases hc
  case asked_lt => exact h.asked_lt
  case asked_for =>
    intro name
    rw [h.mem_queues_cancelAll name, and_iff_left trivial]
    exact h.asked_for name

/-!
## Opening
-/

section

variable {o : Opening} (ho : w.broker.opening? op = some o)
  (hopens : w.broker.Opens o (w.broker.perform op))
include ho hopens

theorem asked_of_opens (c : ConsumerId) :
    (w.perform op).asked c = if c = w.broker.opened then some o.spec else w.asked c := by
  unfold perform
  dsimp only
  rw [ho]
  dsimp only
  rw [hopens.consumer]

theorem asked_of_lt {c : ConsumerId} (hc : c < w.broker.opened) :
    (w.perform op).asked c = w.asked c := by
  rw [asked_of_opens ho hopens, if_neg (Nat.ne_of_lt hc)]

omit ho in
theorem mem_queues_opens (name : String) :
    name ∈ (w.broker.perform op).queues ↔ name = o.queue ∨ name ∈ w.broker.queues := by
  by_cases hname : name = o.queue
  · subst hname
    rcases hopens.own with ⟨q, hq, _⟩
    exact ⟨fun _ => Or.inl rfl, fun _ => mem_of_lookup hq⟩
  · rw [Std.ExtTreeMap.mem_iff_isSome_getElem?, hopens.queue_of_ne hname,
      ← Std.ExtTreeMap.mem_iff_isSome_getElem?]
    exact ⟨Or.inr, fun hor => hor.resolve_left hname⟩

theorem Orderly.owner_of_opens (h : w.Orderly) (name : String) :
    (w.perform op).owner name =
      if name = o.queue ∧ name ∉ w.broker.queues ∧ o.spec = .exclusive then some w.broker.opened
      else w.owner name := by
  unfold perform
  dsimp only
  rw [ho, Option.bind_some, hopens.consumer]
  by_cases hmem : name ∈ w.broker.queues
  · have hafter := (mem_queues_opens hopens name).mpr (Or.inr hmem)
    rw [if_neg (not_not_intro hafter), if_pos hmem, if_neg fun hnew => hnew.2.1 hmem]
  · have hnobody : w.owner name = none := by
      cases howner : w.owner name with
      | none => rfl
      | some c => exact absurd (h.present howner) hmem
    rw [if_neg hmem, hnobody]
    by_cases hname : name = o.queue
    · have hafter := (mem_queues_opens hopens name).mpr (Or.inl hname)
      rw [if_neg (not_not_intro hafter)]
      simp only [hname, true_and, hname ▸ hmem, not_false_eq_true]
    · have hafter : name ∉ (w.broker.perform op).queues := by
        rw [mem_queues_opens hopens]
        exact fun hor => hor.elim hname hmem
      rw [if_pos hafter, if_neg fun hnew => hname hnew.1]

theorem Orderly.guest_of_opens (h : w.Orderly) {name : String} (hnobody : w.owner name = none)
    {c : ConsumerId} (hc : c ∈ w.broker.members name) :
    ∃ durable, (w.perform op).asked c = some (.named name durable) := by
  rw [asked_of_lt ho hopens (h.wired.opened name c hc)]
  exact h.guests hnobody c hc

theorem Orderly.asked_lt_of_opens (h : w.Orderly) {c : ConsumerId} {spec : QueueSpec}
    (hasked : (w.perform op).asked c = some spec) : c < (w.broker.perform op).opened := by
  rw [hopens.opened]
  rw [asked_of_opens ho hopens] at hasked
  split at hasked
  next heq => exact Nat.lt_succ_of_le (Nat.le_of_eq heq)
  next => exact Nat.lt_succ_of_lt (h.asked_lt hasked)

/-- A queue that is asked for by name is shared, and nobody gets into a private one. -/
theorem Orderly.opens_named (h : w.Orderly) {name : String} {durable : Bool}
    (hspec : o.spec = .named name durable) (hnobody : w.owner name = none) :
    (w.perform op).Orderly := by
  have hqueue : o.queue = name := by
    rw [hopens.queue, hspec]
    rfl
  have howner : (w.perform op).owner = w.owner := by
    funext other
    rw [h.owner_of_opens ho hopens, hspec, if_neg (by simp)]
  have hbroker : (w.perform op).broker = w.broker.perform op := rfl
  have hmade : (w.broker.perform op).namedQueues = w.broker.namedQueues := by
    rw [hopens.made, hspec]
    rfl
  have hne : ∀ {other c}, w.owner other = some c → other ≠ o.queue := by
    intro other c hother heq
    rw [heq, hqueue, hnobody] at hother
    cases hother
  constructor <;> simp only [howner, hbroker]
  case wired => exact h.wired.perform op
  case made => rw [hmade]; exact h.made
  case opened =>
    rw [hopens.opened]
    exact fun hother => Nat.lt_succ_of_lt (h.opened hother)
  case present => exact fun hother => (mem_queues_opens hopens _).mpr (Or.inr (h.present hother))
  case flagged =>
    intro other q hq
    by_cases hother : other = o.queue
    · subst hother
      rcases hopens.own with ⟨q', hq', hflag⟩
      cases hq'.symm.trans hq
      rw [hflag, hspec, hqueue, hnobody]
      rfl
    · rw [hopens.queue_of_ne hother] at hq
      exact h.flagged hq
  case alone =>
    intro other c hother d hd
    rw [members_congr (hopens.queue_of_ne (hne hother))] at hd
    exact h.alone hother d hd
  case quiet =>
    intro other c hother
    rw [waiting_congr (hopens.queue_of_ne (hne hother))]
    exact h.quiet hother
  case guests =>
    intro other hother c hc
    by_cases hsame : other = o.queue
    · subst hsame
      rw [hopens.own_members] at hc
      rcases List.mem_append.mp hc with hold | hnew
      · exact h.guest_of_opens ho hopens hother hold
      · rw [asked_of_opens ho hopens, if_pos (List.mem_singleton.mp hnew), hspec, hqueue]
        exact ⟨durable, rfl⟩
    · rw [members_congr (hopens.queue_of_ne hsame)] at hc
      exact h.guest_of_opens ho hopens hother hc
  case asked_lt => exact h.asked_lt_of_opens ho hopens
  case asked_for =>
    intro other
    rw [mem_queues_opens hopens]
    constructor
    · rintro ⟨rfl | hold, hother⟩
      · rw [hqueue]
        refine ⟨w.broker.opened, durable, ?_⟩
        rw [asked_of_opens ho hopens, if_pos rfl, hspec]
      · rcases (h.asked_for other).mp ⟨hold, hother⟩ with ⟨c, durable, hasked⟩
        exact ⟨c, durable, (asked_of_lt ho hopens (h.asked_lt hasked)).trans hasked⟩
    · rintro ⟨c, durable', hasked⟩
      rw [asked_of_opens ho hopens] at hasked
      split at hasked
      next =>
        rw [hspec] at hasked
        cases hasked
        exact ⟨Or.inl hqueue.symm, hnobody⟩
      next =>
        rcases (h.asked_for other).mpr ⟨c, durable', hasked⟩ with ⟨hold, hother⟩
        exact ⟨Or.inr hold, hother⟩

theorem Orderly.opens_exclusive (h : w.Orderly) (hspec : o.spec = .exclusive)
    (hfresh : o.queue ∉ w.broker.queues) : (w.perform op).Orderly := by
  have hqueue : o.queue = madeName (w.broker.namedQueues + 1) := by
    rw [hopens.queue, hspec]
    rfl
  have hmade : (w.broker.perform op).namedQueues = w.broker.namedQueues + 1 := by
    rw [hopens.made, hspec]
    rfl
  have howner : ∀ name, (w.perform op).owner name =
      if name = o.queue then some w.broker.opened else w.owner name := by
    intro name
    rw [h.owner_of_opens ho hopens]
    by_cases hname : name = o.queue
    · rw [if_pos ⟨hname, hname ▸ hfresh, hspec⟩, if_pos hname]
    · rw [if_neg fun hnew => hname hnew.1, if_neg hname]
  have hbroker : (w.perform op).broker = w.broker.perform op := rfl
  constructor <;> simp only [hbroker]
  case wired => exact h.wired.perform op
  case made =>
    intro name c hname
    rw [howner] at hname
    rw [hmade]
    split at hname
    next heq => exact ⟨_, Nat.le_refl _, heq.trans hqueue⟩
    next =>
      rcases h.made hname with ⟨n, hn, heq⟩
      exact ⟨n, Nat.le_succ_of_le hn, heq⟩
  case opened =>
    intro name c hname
    rw [howner] at hname
    rw [hopens.opened]
    split at hname
    next =>
      cases hname
      exact Nat.lt_succ_self _
    next => exact Nat.lt_succ_of_lt (h.opened hname)
  case present =>
    intro name c hname
    rw [howner] at hname
    rw [mem_queues_opens hopens]
    split at hname
    next heq => exact Or.inl heq
    next => exact Or.inr (h.present hname)
  case flagged =>
    intro name q hq
    rw [howner]
    split
    next heq =>
      subst heq
      rcases hopens.own with ⟨q', hq', hflag⟩
      cases hq'.symm.trans hq
      rw [hflag, hspec]
      rfl
    next hne =>
      rw [hopens.queue_of_ne hne] at hq
      exact h.flagged hq
  case alone =>
    intro name c hname d hd
    rw [howner] at hname
    split at hname
    next heq =>
      cases hname
      rw [heq, hopens.own_members, members_of_not_mem hfresh] at hd
      exact List.mem_singleton.mp hd
    next hne =>
      rw [members_congr (hopens.queue_of_ne hne)] at hd
      exact h.alone hname d hd
  case quiet =>
    intro name c hname
    rw [howner] at hname
    split at hname
    next heq =>
      rw [heq, hopens.own_waiting, waiting_of_not_mem hfresh]
      rfl
    next hne =>
      rw [waiting_congr (hopens.queue_of_ne hne)]
      exact h.quiet hname
  case guests =>
    intro name hname c hc
    rw [howner] at hname
    split at hname
    next => cases hname
    next hne =>
      rw [members_congr (hopens.queue_of_ne hne)] at hc
      exact h.guest_of_opens ho hopens hname hc
  case asked_lt => exact h.asked_lt_of_opens ho hopens
  case asked_for =>
    intro name
    rw [howner, mem_queues_opens hopens]
    constructor
    · rintro ⟨hmem, hname⟩
      split at hname
      next => cases hname
      next hne =>
        rcases (h.asked_for name).mp ⟨hmem.resolve_left hne, hname⟩ with ⟨c, durable, hasked⟩
        exact ⟨c, durable, (asked_of_lt ho hopens (h.asked_lt hasked)).trans hasked⟩
    · rintro ⟨c, durable, hasked⟩
      rw [asked_of_opens ho hopens, hspec] at hasked
      split at hasked
      next => cases hasked
      next =>
        rcases (h.asked_for name).mpr ⟨c, durable, hasked⟩ with ⟨hold, hname⟩
        have hne : name ≠ o.queue := fun heq => hfresh (heq ▸ hold)
        rw [if_neg hne]
        exact ⟨Or.inr hold, hname⟩

end

end Watched
end Broker
end MetricGateway
