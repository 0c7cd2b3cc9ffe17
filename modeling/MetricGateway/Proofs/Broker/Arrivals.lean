import MetricGateway.Proofs.Broker.Holding

/-!
# What arrives at a queue with one subscriber

A message that is meant for the queue is led there by one route, so one copy of it joins the end of
the line: the consumer holds it, or it waits in the queue where no consumer is attached.  As long as
the line is no longer than the buffer of a consumer, nothing is dropped.
-/

namespace MetricGateway
namespace Broker

variable {b : Broker} {q : DirectQueue} {holder : Option ConsumerId}

/-! ## Copies of a message -/

theorem View.Receives.of_nobody {m : Message} {backlog : List Message} {w : View}
    (h : View.Receives m ⟨false, [], backlog⟩ w) : w = ⟨false, [], pile backlog m⟩ := by
  generalize hv : View.mk false [] backlog = v at h
  cases h with
  | handed => simp at hv
  | overflowed => simp at hv
  | kept =>
      cases hv
      rfl
  | dropped => cases hv

theorem View.Receives.of_reader {m : Message} {exclusive : Bool} {c : ConsumerId}
    {held backlog : List Message} {w : View} (hroom : held.length < consumerBuffer)
    (h : View.Receives m ⟨exclusive, [(c, held)], backlog⟩ w) :
    w = ⟨exclusive, [(c, held ++ [m])], backlog⟩ := by
  generalize hv : View.mk exclusive [(c, held)] backlog = v at h
  cases h with
  | @handed _ before _ _ after _ _ =>
      rw [View.mk.injEq] at hv
      rcases hv with ⟨hexclusive, hreaders, hbacklog⟩
      rcases List.singleton_eq_append_iff.mp hreaders with ⟨hbefore, hafter⟩ | ⟨_, hafter⟩
      · cases hafter
        rw [hbefore, hexclusive, hbacklog]
        rfl
      · cases hafter
  | @overflowed _ before _ _ after _ hfull =>
      rw [View.mk.injEq] at hv
      rcases List.singleton_eq_append_iff.mp hv.2.1 with ⟨_, hafter⟩ | ⟨_, hafter⟩
      · cases hafter
        exact absurd hroom (Nat.not_lt.mpr hfull)
      · cases hafter
  | kept => simp at hv
  | dropped => simp at hv

/-- Where nobody reads a shared queue, the copies pile up, and the newest messages stay. -/
theorem View.Copies.of_unread {m : Message} {n : Nat} {backlog : List Message} {w : View}
    (h : View.Copies m n ⟨false, [], backlog⟩ w) (hle : backlog.length ≤ maxBacklog) :
    w = ⟨false, [], newest (backlog ++ List.replicate n m)⟩ := by
  induction n generalizing backlog with
  | zero =>
      cases h
      rw [List.replicate_zero, List.append_nil, newest_of_le hle]
  | succ n ih =>
      rcases h with _ | ⟨hreceives, hrest⟩
      have hnext := hreceives.of_nobody
      rw [pile_eq_newest hle] at hnext
      subst hnext
      rw [ih hrest (length_newest_le _), newest_newest_append, List.append_assoc,
        List.replicate_succ]
      rfl

theorem View.Copies.of_nobody {m : Message} {n : Nat} {backlog : List Message} {w : View}
    (h : View.Copies m n ⟨false, [], backlog⟩ w) (hroom : backlog.length + n ≤ maxBacklog) :
    w = ⟨false, [], backlog ++ List.replicate n m⟩ := by
  have hfits : (backlog ++ List.replicate n m).length ≤ maxBacklog := by
    rw [List.length_append, List.length_replicate]
    exact hroom
  rw [h.of_unread (Nat.le_of_add_right_le hroom), newest_of_le hfits]

theorem View.Copies.of_reader {m : Message} {n : Nat} {exclusive : Bool} {c : ConsumerId}
    {held backlog : List Message} {w : View}
    (h : View.Copies m n ⟨exclusive, [(c, held)], backlog⟩ w)
    (hroom : held.length + n ≤ consumerBuffer) :
    w = ⟨exclusive, [(c, held ++ List.replicate n m)], backlog⟩ := by
  induction n generalizing held with
  | zero =>
      cases h
      rw [List.replicate_zero, List.append_nil]
  | succ n ih =>
      rcases h with _ | ⟨hreceives, hrest⟩
      have hnext := hreceives.of_reader (by omega)
      subst hnext
      rw [ih hrest (by simp only [List.length_append, List.length_singleton]; omega),
        List.replicate_succ, List.append_assoc]
      rfl

theorem view_of_shared {name : String}
    (hshared : ∀ queue, b.queues[name]? = some queue → queue.exclusive = false) :
    b.view name =
      ⟨false, (b.readers name).map fun id => (id, b.unread id), b.waiting name⟩ := by
  unfold view
  rw [Std.ExtTreeMap.getD_eq_getD_getElem?]
  cases hq : b.queues[name]? with
  | none => rfl
  | some queue => rw [Option.getD_some, hshared queue hq]

theorem Held.received {name : String} {after : Broker} {m : Message} {n : Nat}
    (h : b.Held name holder)
    (hshared : ∀ queue, b.queues[name]? = some queue → queue.exclusive = false)
    (hout : b.HandsOut after) (hview : (b.view name).Copies m n (after.view name))
    (hothers : ∀ c, b.standing c = some (name, false) → after.unread c = b.unread c)
    (hroom : (b.line name holder).length + n ≤ consumerBuffer) :
    after.Held name holder ∧
      after.line name holder = b.line name holder ++ List.replicate n m ∧
      (after.view name).exclusive = false := by
  have hfits : (b.waiting name).length + n ≤ maxBacklog := by
    have hbuffer : consumerBuffer ≤ maxBacklog := by decide
    unfold line at hroom
    rw [List.length_append] at hroom
    omega
  rw [view_of_shared hshared] at hview
  cases h with
  | vacant hreaders =>
      rw [hreaders] at hview
      have hafter := hview.of_nobody hfits
      refine ⟨Held.vacant ?_, congrArg View.backlog hafter, congrArg View.exclusive hafter⟩
      rw [hout.readers]
      exact hreaders
  | detached hstanding hreaders =>
      rw [hreaders] at hview
      have hafter := hview.of_nobody hfits
      refine ⟨Held.detached ?_ ?_, ?_, congrArg View.exclusive hafter⟩
      · rw [hout.standing]
        exact hstanding
      · rw [hout.readers]
        exact hreaders
      · unfold line
        rw [show after.waiting name = _ from congrArg View.backlog hafter, ← List.append_assoc]
        exact congrArg (· ++ b.waiting name ++ List.replicate n m) (hothers _ hstanding)
  | @attached c hstanding hreaders hwaiting =>
      rw [hreaders, hwaiting] at hview
      have hheld : (b.unread c).length + n ≤ consumerBuffer := by
        unfold line at hroom
        rw [List.length_append] at hroom
        exact Nat.le_trans (Nat.add_le_add_right (Nat.le_add_right _ _) n) hroom
      have hafter := hview.of_reader hheld
      have hkept : after.waiting name = [] := congrArg View.backlog hafter
      refine ⟨Held.attached ?_ ?_ hkept, ?_, congrArg View.exclusive hafter⟩
      · rw [hout.standing]
        exact hstanding
      · rw [hout.readers]
        exact hreaders
      · have hreads := congrArg View.readers hafter
        unfold view at hreads
        dsimp only at hreads
        rw [hout.readers, hreaders] at hreads
        have hunread : after.unread c = b.unread c ++ List.replicate n m :=
          congrArg Prod.snd (List.cons.inj hreads).1
        unfold line
        rw [hkept, hwaiting, List.append_nil, List.append_nil]
        exact hunread

theorem Keeps.length_leading (h : b.Keeps q holder) (m : Message) :
    (b.leading m q.name).length = if q.name ∈ b.queues ∧ q.Matches m then 1 else 0 := by
  have hleads : ∀ r ∈ b.leading m q.name, r = ⟨q.exchange, m.key, q.name⟩ ∧ q.Matches m := by
    intro r hr
    rcases List.mem_filter.mp hr with ⟨hroute, hleading⟩
    rcases of_decide_eq_true hleading with ⟨hqueue, hexchange, hkey⟩
    rcases h.routed r hroute hqueue with ⟨hown, hkeys⟩
    have hname : q.name ∈ b.queues := hqueue ▸ h.wired.queue_mem r hroute
    have hmessage : m.exchange = q.exchange := hexchange.symm.trans hown
    have hsame : r.key = m.key := by
      rcases hkey with hfanout | hsame
      · rw [hmessage, (h.bound hname).1] at hfanout
        cases hfanout
      · exact hsame
    refine ⟨?_, hmessage, hsame ▸ hkeys⟩
    cases r
    simp_all
  have hcount : (b.leading m q.name).length ≤ 1 := by
    have hnodup : (b.leading m q.name).Nodup := h.wired.routes_nodup.filter _
    have hreplicate := List.eq_replicate_of_mem fun r hr => (hleads r hr).1
    rw [hreplicate, List.nodup_replicate] at hnodup
    exact hnodup
  split
  next hmeant =>
    rcases hmeant with ⟨hname, hexchange, hkey⟩
    have hroute := (h.bound hname).2 m.key hkey
    have hmem : ⟨q.exchange, m.key, q.name⟩ ∈ b.leading m q.name := by
      apply List.mem_filter.mpr
      exact ⟨hroute, decide_eq_true ⟨rfl, hexchange.symm, Or.inr rfl⟩⟩
    exact Nat.le_antisymm hcount (List.length_pos_of_mem hmem)
  next hnot =>
    rw [List.length_eq_zero_iff]
    apply List.eq_nil_iff_forall_not_mem.mpr
    intro r hr
    rcases hleads r hr with ⟨heq, hmatches⟩
    have hname : q.name ∈ b.queues := by
      have hroute := h.wired.queue_mem r (List.mem_of_mem_filter hr)
      rw [heq] at hroute
      exact hroute
    exact hnot ⟨hname, hmatches⟩

theorem deliverAll_ok {frame : Wire.Bytes} {envelope : Envelope}
    (hframe : Envelope.ofFrame frame = .ok envelope) (b : Broker) (exchange key : String)
    (names : List String) : (b.deliverAll exchange key frame names).2 = .ok () := by
  induction names generalizing b with
  | nil => rfl
  | cons name names ih =>
      unfold deliverAll
      rw [hframe]
      exact ih _

/-- A message that can be written in a frame is published, or nothing happens. -/
theorem publish_of_not_ok {m : Message} (hfits : m.envelope.Fits)
    (h : (b.publish m).2 ≠ .ok ()) : (b.publish m).1 = b := by
  unfold publish at h ⊢
  split
  · rfl
  next haccepting =>
    rw [if_neg haccepting] at h
    cases hkind : b.exchanges[m.exchange]? with
    | none => rfl
    | some kind =>
        rw [hkind] at h
        exact absurd (deliverAll_ok hfits.ofFrame_toFrame b _ _ _) h

theorem Keeps.publish (h : b.Keeps q holder) {m : Message} (hfits : m.envelope.Fits)
    (hroom : (b.line q.name holder ++ q.accepted b (.publish m)).length ≤ consumerBuffer) :
    (b.publish m).1.Keeps q holder ∧
      (b.publish m).1.line q.name holder =
        b.line q.name holder ++ q.accepted b (.publish m) := by
  by_cases hok : (b.publish m).2 = .ok ()
  · have hout := handsOut_publish b m
    rcases h.wired.publish_copies hfits hok with ⟨hcopies, hunread⟩
    have hview := hcopies q.name
    rw [h.length_leading] at hview
    have haccepted : q.accepted b (.publish m) =
        List.replicate (if q.name ∈ b.queues ∧ q.Matches m then 1 else 0) m := by
      rw [DirectQueue.accepted_publish]
      split
      next hall => rw [if_pos hall.2, List.replicate_one]
      next hnot => rw [if_neg fun hmeant => hnot ⟨hok, hmeant⟩, List.replicate_zero]
    have hothers : ∀ c, b.standing c = some (q.name, false) →
        (b.publish m).1.unread c = b.unread c := by
      intro c hstanding
      apply hunread
      intro name _ hreader
      have hattached := h.seated.attached name c hreader
      rw [hstanding] at hattached
      cases hattached
    rw [haccepted, List.length_append, List.length_replicate] at hroom
    rcases h.held.received h.shared hout hview hothers hroom with ⟨hheld, hline, hshared⟩
    constructor
    · constructor
      · exact h.wired.publish m
      · exact h.seated.publish m
      · intro queue hqueue
        rw [view_of_getElem? hqueue] at hshared
        exact hshared
      · rcases hout.frame with ⟨queues, consumers, hframe⟩
        rw [hframe]
        exact h.routed
      · intro hname
        have hbound := h.bound ((hout.queue_mem q.name).mp hname)
        rcases hout.frame with ⟨queues, consumers, hframe⟩
        rw [hframe]
        exact hbound
      · exact hheld
    · rw [haccepted]
      exact hline
  · have hnone : q.accepted b (.publish m) = [] := if_neg fun hall => hok hall.1
    rw [publish_of_not_ok hfits hok, hnone, List.append_nil]
    exact ⟨h, rfl⟩

/-! ## Operations of others -/

/-- Of what others do, only a publish and cancelling all consumers can concern the queue. -/
theorem Keeps.perform_cases (h : b.Keeps q holder) {op : Op} (hspared : q.Spares b op) :
    b.Undisturbed (b.perform op) q holder ∨ (∃ m, op = .publish m ∧ m.envelope.Fits) ∨
      op = .cancelAll := by
  cases op with
  | openConsumer binding => exact Or.inl (h.undisturbed_openConsumer hspared)
  | publish m => exact Or.inr (Or.inl ⟨m, rfl, hspared⟩)
  | take id => exact Or.inl (h.undisturbed_take hspared)
  | close id => exact Or.inl (h.undisturbed_close hspared)
  | cancelAll => exact Or.inr (Or.inr rfl)
  | setRefusing refusing =>
      exact Or.inl ⟨rfl, rfl, fun _ _ => Iff.rfl, fun hdirect => hdirect, fun _ _ => ⟨rfl, rfl⟩⟩

/-- Whatever others do that spares the queue, the line only grows by what is accepted. -/
theorem Keeps.perform (h : b.Keeps q holder) {op : Op} (hspared : q.Spares b op)
    (hroom : (b.line q.name holder ++ q.accepted b op).length ≤ consumerBuffer) :
    (b.perform op).Keeps q holder ∧
      (b.perform op).line q.name holder = b.line q.name holder ++ q.accepted b op := by
  cases op with
  | publish m => exact h.publish hspared hroom
  | cancelAll => exact ⟨h.cancelAll, h.line_cancelAll.trans (List.append_nil _).symm⟩
  | _ =>
      rcases h.perform_cases hspared with hundisturbed | ⟨m, hpublish, _⟩ | hcancel
      · exact ⟨hundisturbed.keeps h (h.wired.perform _) (h.seated.perform h.wired _),
          hundisturbed.line.trans (List.append_nil _).symm⟩
      · cases hpublish
      · cases hcancel

theorem Keeps.mem_queues_perform (h : b.Keeps q holder) {op : Op} (hspared : q.Spares b op) :
    q.name ∈ (b.perform op).queues ↔ q.name ∈ b.queues := by
  rcases h.perform_cases hspared with hundisturbed | ⟨m, hpublish, _⟩ | hcancel
  · exact hundisturbed.mem_queues_iff
  · rw [hpublish]
    exact (handsOut_publish b m).queue_mem q.name
  · rw [hcancel]
    exact mem_queues_cancelAll h.shared

theorem Keeps.standing_perform (h : b.Keeps q holder) {op : Op} (hspared : q.Spares b op)
    (hop : op ≠ .cancelAll) {c : ConsumerId} (hc : c ∈ holder) :
    (b.perform op).standing c = b.standing c := by
  rcases h.perform_cases hspared with hundisturbed | ⟨m, hpublish, _⟩ | hcancel
  · exact (hundisturbed.holder c hc).1
  · rw [hpublish]
    exact congrFun (handsOut_publish b m).standing c
  · exact absurd hcancel hop

end Broker
end MetricGateway
