import MetricGateway.Proofs.Channel.Stopping
import MetricGateway.Proofs.Fetching.Frames
import MetricGateway.Proofs.Service.Broadcasts

/-!
# Shutting down

A shutdown tells all tasks to stop.  What a service asks of the broker is asked by its senders and
its listeners, and who of them has stopped does not go on; every inbox is read by the task of an
inlet, or by nobody.
-/

namespace MetricGateway
namespace Service

open Channel (Subscription SubscriptionId)

/-- What an act makes the service ask of the broker: to publish a message, or to open a consumer. -/
def asks (s : Service) : Act → List Broker.Op
  | .task (.network t) preference => s.link.asks t preference
  | _ => []

/-- Acts of the service and of its callers; the other ones are those of others at the broker. -/
def Act.Own : Act → Prop
  | .task (.network (.client _)) _ => False
  | .other _ => False
  | .join _ _ => False
  | _ => True

/-- Every inlet has one subscription, and an inbox that belongs to no inlet is read by nobody. -/
structure Attached (s : Service) : Prop where
  distinct : (s.inlets.map (·.1)).Nodup
  read : ∀ {id : SubscriptionId} {sub : Subscription}, s.channels.subscriptions[id]? = some sub →
    (∃ i, (i, id) ∈ s.inlets) ∨ sub.inbox.closed = true

variable {s s' s'' : Service}

/-! ## What is asked of the broker is all that it notices -/

/-- The way from one state of a service to a later one. -/
structure LeadsTo (s s' : Service) : Prop where
  link : s.link.LeadsTo s'.link
  attached : s.Attached → s'.Attached

theorem LeadsTo.trans (h : s.LeadsTo s') (h' : s'.LeadsTo s'') : s.LeadsTo s'' where
  link := h.link.trans h'.link
  attached := fun hattached => h'.attached (h.attached hattached)

theorem leadsTo_of_link (hlink : s.link.LeadsTo s'.link) (hinlets : s'.inlets = s.inlets) :
    s.LeadsTo s' where
  link := hlink
  attached := by
    intro hattached
    constructor
    · rw [hinlets]
      exact hattached.distinct
    · intro id sub' hsub'
      rcases hlink.subscriptions hsub' with ⟨sub, hsub, hages⟩
      rw [hinlets]
      rcases hattached.read hsub with hread | hclosed
      · exact Or.inl hread
      · exact Or.inr (hages.closed hclosed)

theorem leadsTo_of_same (hinlets : s'.inlets = s.inlets) (hchannels : s'.channels = s.channels)
    (houtbox : s'.common.outbox.closed = s.common.outbox.closed) : s.LeadsTo s' :=
  leadsTo_of_link (Link.leadsTo_of_same hchannels houtbox) hinlets

theorem leadsTo_actOn (s : Service) (a : Fetching.Act) :
    s.LeadsTo { s with resolver := Fetching.actOn s.resolver a } :=
  leadsTo_of_same rfl rfl (Fetching.effect_actOn s.resolver a).closed

/-- The subscription of an inlet that is closed belongs to nobody from then on. -/
theorem leadsTo_closeInlet (s : Service) (i : Inlet) : s.LeadsTo (s.closeInlet i) := by
  unfold closeInlet
  cases hid : s.inlets.lookup i with
  | none => exact leadsTo_of_same rfl rfl rfl
  | some id =>
      refine ⟨Link.leadsTo_unsubscribe s.link id, ?_⟩
      intro hattached
      rcases List.lookup_eq_some_iff.mp hid with ⟨before, after, heq, _⟩
      have hinlet : (i, id) ∈ s.inlets := heq ▸ List.mem_append_right before List.mem_cons_self
      constructor
      · exact hattached.distinct.sublist (List.filter_sublist.map _)
      · intro other sub hsub
        rcases Link.lookup_unsubscribe hsub with hclosed | ⟨hne, hold⟩
        · exact Or.inr hclosed
        · rcases hattached.read hold with ⟨j, hj⟩ | hclosed
          · have hother : j ≠ i := by
              rintro rfl
              have hsame := List.inj_on_of_nodup_map hattached.distinct hj hinlet rfl
              exact hne (congrArg Prod.snd hsame)
            exact Or.inl ⟨j, List.mem_filter.mpr ⟨hj, by simpa using hother⟩⟩
          · exact Or.inr hclosed

theorem stable_leadsTo (s : Service) : Stable s.LeadsTo where
  resolved := fun a h => h.trans (leadsTo_actOn _ a)
  counted := fun _ h => h.trans (leadsTo_of_same rfl rfl rfl)
  received := fun id h => h.trans (leadsTo_of_link (Link.leadsTo_receive _ id) rfl)
  closed := fun h => h.trans (leadsTo_closeInlet _ .polls)
  moved := fun _ _ _ h => h.trans (leadsTo_of_same rfl rfl rfl)

theorem leadsTo_shutdown (s : Service) : s.LeadsTo s.shutdown := by
  have hpolling := (leadsTo_actOn s (.polling .shutdown)).link
  have htold : s.link.LeadsTo s.shutdown.link :=
    ⟨fun _ => rfl, hpolling.subscriptions, hpolling.senders, hpolling.outbox, hpolling.attended⟩
  exact leadsTo_of_link htold rfl

theorem leadsTo_perform (s : Service) (a : Act) : s.LeadsTo (s.perform a) := by
  cases a with
  | task t preference =>
      have hinner := fun hinner =>
        (stable_leadsTo s).step (leadsTo_of_same rfl rfl rfl) (t := t) hinner preference
      cases t with
      | network t => exact leadsTo_of_link (Link.leadsTo_step s.link t preference) rfl
      | inlet i => exact hinner nofun
      | handler => exact hinner nofun
      | resolver a => exact hinner nofun
  | resolver a => exact leadsTo_actOn s a
  | other op => exact leadsTo_of_same rfl rfl rfl
  | join binding role =>
      show s.LeadsTo (s.withLink (s.link.join binding role).1)
      unfold Link.join
      split <;> exact leadsTo_of_same rfl rfl rfl
  | shutdown => exact leadsTo_shutdown s

theorem leadsTo_run (s : Service) (acts : List Act) : s.LeadsTo (s.run acts) := by
  induction acts generalizing s with
  | nil => exact leadsTo_of_same rfl rfl rfl
  | cons a acts ih => exact (leadsTo_perform s a).trans (ih (s.perform a))

/-! ## A service that has just started -/

theorem Attached.openInlet (h : s.Attached) {i : Inlet}
    (hdistinct : (s.inlets.map (·.1) ++ [i]).Nodup) : (s.openInlet i).Attached where
  distinct := by
    show ((s.inlets ++ [(i, s.channels.made)]).map (·.1)).Nodup
    rw [List.map_append]
    exact hdistinct
  read := by
    intro id sub hsub
    have hlooked := (lookup_insert _ _ _ _).symm.trans hsub
    split at hlooked
    next heq => exact Or.inl ⟨i, List.mem_append_right _ (heq ▸ List.mem_cons_self)⟩
    next =>
      rcases h.read hlooked with ⟨j, hj⟩ | hclosed
      · exact Or.inl ⟨j, List.mem_append_left _ hj⟩
      · exact Or.inr hclosed

theorem Attached.foldl_openInlet (h : s.Attached) (inlets : List Inlet)
    (hdistinct : (s.inlets.map (·.1) ++ inlets).Nodup) :
    (inlets.foldl Service.openInlet s).Attached := by
  induction inlets generalizing s with
  | nil => exact h
  | cons i inlets ih =>
      have hfirst : (s.inlets.map (·.1) ++ [i]).Sublist (s.inlets.map (·.1) ++ i :: inlets) :=
        (List.Sublist.refl _).append (List.singleton_sublist.mpr List.mem_cons_self)
      apply ih (h.openInlet (hdistinct.sublist hfirst))
      show ((s.inlets ++ [(i, s.channels.made)]).map (·.1) ++ inlets).Nodup
      rw [List.map_append, List.append_assoc]
      exact hdistinct

theorem senders_foldl_openInlet (s : Service) (inlets : List Inlet) :
    (inlets.foldl openInlet s).channels.senders = s.channels.senders := by
  induction inlets generalizing s with
  | nil => rfl
  | cons i inlets ih => exact ih (s.openInlet i)

theorem warmUp_frame (s : Service) :
    s.warmUp.inlets = s.inlets ∧ s.warmUp.channels = s.channels := by
  unfold warmUp
  split <;> exact ⟨rfl, rfl⟩

theorem attached_start (settings : ServiceSettings) (historyWriter : Bool) (w : Surroundings) :
    (idle settings historyWriter w).start.Attached ∧
      (idle settings historyWriter w).start.channels.senders ≠ [] := by
  let opening : Service :=
    { (idle settings historyWriter w).onCommon (·.registerParts) with
      channels := .start settings.channel }
  let opened := Inlet.all.foldl openInlet opening
  have hwarm := warmUp_frame opened
  constructor
  · have hopening : opening.Attached := ⟨List.nodup_nil, nofun⟩
    have hdistinct : Inlet.all.Nodup := by decide
    have hopened : opened.Attached := hopening.foldl_openInlet Inlet.all hdistinct
    have hwarmed : opened.warmUp.Attached := by
      constructor
      · rw [hwarm.1]
        exact hopened.distinct
      · rw [hwarm.1, hwarm.2]
        exact hopened.read
    exact ⟨hwarmed.distinct, hwarmed.read⟩
  · have hsenders : opened.channels.senders = List.range settings.channel.senders :=
      senders_foldl_openInlet opening Inlet.all
    show opened.warmUp.channels.senders ≠ []
    rw [hwarm.2, hsenders]
    intro hnone
    have hzero : settings.channel.senders = 0 := List.range_eq_nil.mp hnone
    unfold ChannelSettings.senders at hzero
    omega

/-! ## After the last sender -/

/-- Every message is refused that somebody brings to the outbox, or brought before and comes back
for. -/
structure Refuses (s : Service) : Prop where
  first : ∀ m, Publisher.publish s m = (s, .error .channelClosed)
  again : ∀ ticket m, s.common.outbox.answers ticket = true ∧
    Publisher.publishAgain s ticket m = (s, .error .channelClosed)

end Service
end MetricGateway
