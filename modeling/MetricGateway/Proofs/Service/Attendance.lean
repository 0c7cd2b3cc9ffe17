import Mathlib.Data.List.Infix
import MetricGateway.Proofs.Service.Broadcasts

/-!
# Every broadcast is applied

The handler and the tasks of the topics take turns with all other tasks.  A broadcast that was read
is applied after a bounded number of their turns, whatever else happens meanwhile and however many
broadcasts come after it: those do not overtake it in the line, and a task that stands in line keeps
its place, and gets the room that is made for it.
-/

namespace MetricGateway
namespace Service

/-- The turns of the handler after which a task that was given room finds its broadcast applied: two
for every broadcast in a full line and for its own one, and one to finish before. -/
def lineTurns : Nat := 515

/-- The handler owes the next `n` broadcasts of a topic within `b` of its turns. -/
inductive Due (s : Service) (t : LifecycleTopic) (n b : Nat) : Prop where
  | inLine (k : Nat) (covers : n ≤ (t.of (s.line.take k)).length)
      (soon : 2 * k ≤ b + s.applying.toList.length)
  /-- The last one is in the hands of the task of the topic, which stands in line for room. -/
  | queued (p : Parked) (waits : s.parked? t = some p) (ahead behind : List Ticket)
      (place : s.events.waiting = ahead ++ p.ticket :: behind)
      (covers : n ≤ (t.of s.line).length + 1)
      (soon : 2 * ahead.length + 1 + s.applying.toList.length + lineTurns ≤ b)

/-- The last one of the next `n` broadcasts of a topic is in the hands of the task of the topic, for
which room is kept. -/
structure Admitted (s : Service) (t : LifecycleTopic) (n b : Nat) : Prop where
  room : ∃ p, s.parked? t = some p ∧ p.ticket ∈ s.events.granted
  covers : n ≤ (t.of s.line).length + 1
  soon : lineTurns ≤ b

variable {s s' : Service} {t : LifecycleTopic} {n b : Nat}

/-!
## The line grows at its end
-/

/-- Nothing overtakes what is in the line, and nobody who stands in line loses its place. -/
structure Extends (s s' : Service) : Prop where
  applying : s'.applying = s.applying
  line : s.events.toList <+: s'.events.toList
  waiting : s.events.waiting <+: s'.events.waiting
  parked : ∀ {t : LifecycleTopic} {p : Parked}, s.parked? t = some p →
    p.ticket ∉ s.events.granted → s'.parked? t = some p

theorem Extends.line_grows (h : s.Extends s') : s.line <+: s'.line := by
  unfold Service.line
  rw [h.applying]
  exact (List.prefix_append_right_inj _).mpr h.line

theorem Lined.extends_alike (h : s.Lined) (halike : s.Alike s') : s.Extends s' where
  applying := halike.applying
  line := halike.events ▸ List.prefix_refl _
  waiting := halike.events ▸ List.prefix_refl _
  parked := by
    intro t p hp _
    rw [h.parked?_congr (h.alike halike) halike.parked]
    exact hp

theorem Heard.extends (hheard : s.Heard t s') (h : s.Lined) : s.Extends s' := by
  have h' := h.after_heard hheard
  have helsewhere := fun {other : LifecycleTopic} (hne : other ≠ t) =>
    hheard.parked?_of_ne h h' hne
  cases hheard with
  | waited _ alike _ => exact h.extends_alike alike
  | dropped _ _ _ _ alike _ => exact h.extends_alike alike
  | lined _ _ event _ _ _ holds waiting _ _ applying parked _ =>
      constructor
      · exact applying
      · exact holds ▸ List.prefix_append _ _
      · exact waiting ▸ List.prefix_refl _
      · intro other p hp _
        rw [h.parked?_congr h' (.of_eq parked)]
        exact hp
  | joined _ _ event _ free ticket _ holds waiting _ _ applying _ _ =>
      constructor
      · exact applying
      · exact holds ▸ List.prefix_refl _
      · exact waiting ▸ List.prefix_append _ _
      · intro other p hp _
        rw [helsewhere]
        · exact hp
        · rintro rfl
          rw [free] at hp
          cases hp
  | passed q waited _ answered _ holds waiting _ _ applying _ _ =>
      constructor
      · exact applying
      · exact holds ▸ List.prefix_append _ _
      · exact waiting ▸ List.prefix_refl _
      · intro other p hp hdenied
        rw [helsewhere]
        · exact hp
        · rintro rfl
          cases waited.symm.trans hp
          exact hdenied answered

theorem of_length_le {events more : List LifecycleEvent} (h : events <+: more)
    (t : LifecycleTopic) : (t.of events).length ≤ (t.of more).length :=
  (h.filter _).length_le

theorem Lined.not_granted (h : s.Lined) {ticket : Ticket} (hwaits : ticket ∈ s.events.waiting) :
    ticket ∉ s.events.granted := by
  intro hgranted
  have hnodup := h.orderly.line.nodup_iff.mpr h.orderly.nodup
  exact (List.nodup_append.mp hnodup).2.2 _ hwaits _ hgranted rfl

theorem Due.extends (hdue : s.Due t n b) (h : s.Lined) (hextends : s.Extends s') :
    s'.Due t n b := by
  cases hdue with
  | inLine k covers soon =>
      refine .inLine k ?_ (hextends.applying ▸ soon)
      exact Nat.le_trans covers (of_length_le (hextends.line_grows.take k) t)
  | queued p waits ahead behind place covers soon =>
      have hplace : p.ticket ∈ s.events.waiting := place ▸ List.mem_append_right _ List.mem_cons_self
      rcases hextends.waiting with ⟨more, hmore⟩
      refine .queued p (hextends.parked waits (h.not_granted hplace)) ahead (behind ++ more) ?_ ?_
        (hextends.applying ▸ soon)
      · rw [← hmore, place, List.append_assoc]
        rfl
      · have hline := of_length_le hextends.line_grows t
        omega

/-!
## Turns of the handler
-/

theorem Lined.waiting_eq_nil (h : s.Lined) (hempty : s.events.toList = []) :
    s.events.waiting = [] := by
  by_contra hwaiting
  have hfull := h.orderly.full hwaiting
  have hline := h.orderly.line.length_eq
  have hparked := h.length_parked_le
  rw [h.capacity, hempty, List.length_nil] at hfull
  rw [List.length_append, List.length_map] at hline
  omega

theorem length_applying_le (s : Service) : s.applying.toList.length ≤ 1 := by
  cases s.applying <;> simp

theorem Due.handled (hdue : s.Due t n b) (h : s.Lined) (hhandled : s.Handled s') :
    s'.Due t (n - (t.of s.applying.toList).length) (b - 1) ∨
      s'.Admitted t (n - (t.of s.applying.toList).length) (b - 1) := by
  have hline := hhandled.line_eq
  cases hdue with
  | inLine k covers soon =>
      left
      cases hhandled with
      | waited idle empty same =>
          have hnone : s.line = [] := by
            unfold line
            rw [idle, empty]
            rfl
          rw [hnone, List.take_nil] at covers
          have hzero : n = 0 := Nat.le_zero.mp covers
          exact .inLine 0 (by omega) (Nat.zero_le _)
      | took idle event applying _ _ _ _ _ _ _ =>
          rw [idle, Option.toList_none] at hline soon ⊢
          rw [hline] at covers
          refine .inLine k covers ?_
          rw [List.length_nil] at soon
          rw [applying, Option.toList_some, List.length_singleton]
          omega
      | applied event busy done _ _ _ _ =>
          rw [busy, Option.toList_some] at hline soon ⊢
          rw [List.length_singleton] at soon
          cases k with
          | zero =>
              have hzero : n = 0 := Nat.le_zero.mp covers
              exact .inLine 0 (by omega) (Nat.zero_le _)
          | succ k =>
              rw [hline, List.singleton_append, List.take_succ_cons, ← List.singleton_append,
                of_append, List.length_append] at covers
              refine .inLine k (by omega) ?_
              rw [done, Option.toList_none, List.length_nil]
              omega
  | queued p waits ahead behind place covers soon =>
      have hwaits : s'.parked? t = some p := (hhandled.parked?_eq t).trans waits
      have hcovers : n - (t.of s.applying.toList).length ≤ (t.of s'.line).length + 1 := by
        rw [hline, of_append, List.length_append] at covers
        omega
      cases hhandled with
      | waited _ empty _ =>
          have hwaiting := h.waiting_eq_nil empty
          rw [hwaiting] at place
          exact absurd place.symm (List.append_ne_nil_of_right_ne_nil _ (List.cons_ne_nil _ _))
      | took idle event applying _ _ waiting granted _ _ _ =>
          rw [idle, Option.toList_none, List.length_nil] at soon
          cases ahead with
          | nil =>
              -- The first one in line gets the room of the broadcast that was taken.
              rw [List.length_nil] at soon
              refine Or.inr ⟨⟨p, hwaits, ?_⟩, hcovers, by omega⟩
              rw [granted, place]
              exact List.mem_append_right _ (List.mem_singleton_self _)
          | cons first ahead =>
              refine Or.inl (.queued p hwaits ahead behind ?_ hcovers ?_)
              · rw [waiting, place]
                rfl
              · rw [applying, Option.toList_some, List.length_singleton]
                rw [List.length_cons] at soon
                omega
      | applied event busy done _ events _ _ =>
          refine Or.inl (.queued p hwaits ahead behind (events ▸ place) hcovers ?_)
          rw [busy, Option.toList_some, List.length_singleton] at soon
          rw [done, Option.toList_none, List.length_nil]
          omega

/-!
## Turns of a task that was given room
-/

theorem Admitted.handled (hadmitted : s.Admitted t n b) (hhandled : s.Handled s') :
    s'.Admitted t (n - (t.of s.applying.toList).length) b := by
  rcases hadmitted.room with ⟨p, waits, hgranted⟩
  have covers := hadmitted.covers
  rw [hhandled.line_eq, of_append, List.length_append] at covers
  refine ⟨⟨p, ?_, hhandled.granted hgranted⟩, by omega, hadmitted.soon⟩
  rw [hhandled.parked?_eq]
  exact waits

theorem Admitted.alike (hadmitted : s.Admitted t n b) (h : s.Lined) (halike : s.Alike s') :
    s'.Admitted t n b := by
  rcases hadmitted.room with ⟨p, waits, hgranted⟩
  refine ⟨⟨p, ?_, halike.events ▸ hgranted⟩, ?_, hadmitted.soon⟩
  · rw [h.parked?_congr (h.alike halike) halike.parked]
    exact waits
  · exact Nat.le_trans hadmitted.covers
      (Nat.add_le_add_right (of_length_le (h.extends_alike halike).line_grows t) 1)

/-- The tasks of other topics leave the room to the task for which it is kept. -/
theorem Admitted.heard (hadmitted : s.Admitted t n b) (h : s.Lined) {other : LifecycleTopic}
    (hne : t ≠ other) (hheard : s.Heard other s') : s'.Admitted t n b := by
  rcases hadmitted.room with ⟨p, waits, hgranted⟩
  have hline := of_length_le (hheard.extends h).line_grows t
  have hwaits : s'.parked? t = some p :=
    (hheard.parked?_of_ne h (h.after_heard hheard) hne).trans waits
  refine ⟨⟨p, hwaits, ?_⟩, Nat.le_trans hadmitted.covers (Nat.add_le_add_right hline 1),
    hadmitted.soon⟩
  cases hheard with
  | waited _ alike _ => exact alike.events ▸ hgranted
  | dropped _ _ _ _ alike _ => exact alike.events ▸ hgranted
  | lined _ _ _ _ _ _ _ _ granted _ _ _ _ => exact granted ▸ hgranted
  | joined _ _ _ _ _ _ _ _ _ granted _ _ _ _ => exact granted ▸ hgranted
  | passed q waited _ _ _ _ _ granted _ _ _ _ =>
      rcases h.parked?_eq_some_iff.mp waits with ⟨hp, htopic⟩
      rcases h.parked?_eq_some_iff.mp waited with ⟨hq, htopic'⟩
      rw [granted]
      refine (List.mem_erase_of_ne ?_).mpr hgranted
      intro hticket
      have hsame := List.inj_on_of_nodup_map h.orderly.nodup hp hq hticket
      rw [← hsame, htopic] at htopic'
      exact hne htopic'

theorem Admitted.turn (hadmitted : s.Admitted t n b) (h : s.Lined) (hheard : s.Heard t s') :
    s'.Due t n (b - 1) := by
  have h' := h.after_heard hheard
  rcases hadmitted.room with ⟨p, waits, hgranted⟩
  have covers := hadmitted.covers
  have soon := hadmitted.soon
  cases hheard with
  | waited _ _ denied => exact absurd hgranted (denied p waits)
  | dropped _ _ _ _ _ free => rw [free] at waits; cases waits
  | lined _ _ _ _ free => rw [free] at waits; cases waits
  | joined _ _ _ _ free => rw [free] at waits; cases waits
  | passed q waited _ _ _ holds _ _ _ applying _ _ =>
      rcases h.parked?_eq_some_iff.mp waited with ⟨hq, htopic⟩
      have hline : s'.line = s.line ++ [q.event] := by
        unfold line
        rw [applying, holds, List.append_assoc]
      have hlength : s'.line.length ≤ 257 := by
        have hroom := h'.orderly.room
        have hbusy := length_applying_le s'
        rw [h'.capacity] at hroom
        unfold line
        rw [List.length_append]
        omega
      refine .inLine s'.line.length ?_ ?_
      · rw [List.take_length, hline, of_append, of_singleton, (h.told q hq).trans htopic,
          if_pos rfl, List.length_append, List.length_singleton]
        exact covers
      · unfold lineTurns at soon
        omega

/-!
## Stretches of a run
-/

/-- The next `n` broadcasts of a topic are on their way. -/
def Owed (s : Service) (t : LifecycleTopic) (n b : Nat) : Prop := s.Due t n b ∨ s.Admitted t n b

theorem Due.mono (hdue : s.Due t n b) {b' : Nat} (hle : b ≤ b') : s.Due t n b' := by
  cases hdue with
  | inLine k covers soon => exact .inLine k covers (by omega)
  | queued p waits ahead behind place covers soon =>
      exact .queued p waits ahead behind place covers (by omega)

theorem Owed.mono (howed : s.Owed t n b) {b' : Nat} (hle : b ≤ b') : s.Owed t n b' := by
  rcases howed with hdue | hadmitted
  · exact Or.inl (hdue.mono hle)
  · exact Or.inr ⟨hadmitted.room, hadmitted.covers, Nat.le_trans hadmitted.soon hle⟩

def settles (s : Service) (t : LifecycleTopic) (a : Act) : Nat := (t.of (s.applies a)).length

def settled (s : Service) (t : LifecycleTopic) (acts : List Act) : Nat :=
  (t.of (s.along applies acts)).length

theorem settled_cons (s : Service) (t : LifecycleTopic) (a : Act) (acts : List Act) :
    s.settled t (a :: acts) = s.settles t a + (s.perform a).settled t acts := by
  unfold settled settles
  rw [← List.length_append, ← of_append]
  rfl

theorem settled_append (s : Service) (t : LifecycleTopic) (acts more : List Act) :
    s.settled t (acts ++ more) = s.settled t acts + (s.run acts).settled t more := by
  unfold settled
  rw [along_append, of_append, List.length_append]

/-- Every act is a turn of the handler, a turn of the task of a topic, or of neither kind. -/
theorem act_cases (a : Act) : (∃ preference, a = .task .handler preference) ∨
    (∃ t preference, a = .task (.inlet (.topic t)) preference) ∨ a.Foreign := by
  unfold Act.Foreign
  split
  next t preference => exact Or.inr (Or.inl ⟨t, preference, rfl⟩)
  next preference => exact Or.inl ⟨preference, rfl⟩
  next => exact Or.inr (Or.inr trivial)

theorem Due.other (hdue : s.Due t n b) (h : s.Lined) {a : Act}
    (hnot : ∀ preference, a ≠ .task .handler preference) :
    (s.perform a).Due t (n - s.settles t a) b := by
  rcases act_cases a with ⟨preference, rfl⟩ | ⟨other, preference, rfl⟩ | hforeign
  · exact absurd rfl (hnot preference)
  · exact hdue.extends h ((h.heard other).extends h)
  · unfold settles
    rw [(takes_of_foreign hforeign s).2]
    exact hdue.extends h (h.extends_alike (alike_perform hforeign))

theorem Admitted.other (hadmitted : s.Admitted t n b) (h : s.Lined) {a : Act}
    (hnot : ∀ preference, a ≠ .task (.inlet (.topic t)) preference) :
    (s.perform a).Admitted t (n - s.settles t a) b := by
  rcases act_cases a with ⟨preference, rfl⟩ | ⟨other, preference, rfl⟩ | hforeign
  · exact hadmitted.handled h.handled
  · refine hadmitted.heard h ?_ (h.heard other)
    rintro rfl
    exact hnot preference rfl
  · unfold settles
    rw [(takes_of_foreign hforeign s).2]
    exact hadmitted.alike h (alike_perform hforeign)

theorem Owed.perform (howed : s.Owed t n b) (h : s.Lined) (a : Act) :
    (s.perform a).Owed t (n - s.settles t a) b := by
  rcases howed with hdue | hadmitted
  · by_cases hturn : ∃ preference, a = .task .handler preference
    · rcases hturn with ⟨preference, rfl⟩
      exact Owed.mono (hdue.handled h h.handled) (Nat.sub_le b 1)
    · exact Or.inl (hdue.other h fun preference heq => hturn ⟨preference, heq⟩)
  · by_cases hturn : ∃ preference, a = .task (.inlet (.topic t)) preference
    · rcases hturn with ⟨preference, rfl⟩
      exact Or.inl ((hadmitted.turn h (h.heard t)).mono (Nat.sub_le b 1))
    · exact Or.inr (hadmitted.other h fun preference heq => hturn ⟨preference, heq⟩)

theorem Owed.run (howed : s.Owed t n b) (h : s.Lined) (acts : List Act) :
    (s.run acts).Owed t (n - s.settled t acts) b := by
  induction acts generalizing s n with
  | nil => exact howed
  | cons a acts ih =>
      rw [settled_cons, ← Nat.sub_sub]
      exact ih (howed.perform h a) (h.perform a)

/-- A stretch of a run in which the handler and the task of a topic get a turn each. -/
structure Attends (t : LifecycleTopic) (acts : List Act) : Prop where
  handler : ∃ preference, Act.task .handler preference ∈ acts
  topic : ∃ preference, Act.task (.inlet (.topic t)) preference ∈ acts

theorem Due.attended (hdue : s.Due t n b) (h : s.Lined) {acts : List Act}
    (hturn : ∃ preference, Act.task .handler preference ∈ acts) :
    (s.run acts).Owed t (n - s.settled t acts) (b - 1) := by
  induction acts generalizing s n with
  | nil =>
      rcases hturn with ⟨_, hmem⟩
      cases hmem
  | cons a acts ih =>
      rw [settled_cons, ← Nat.sub_sub]
      by_cases hnow : ∃ preference, a = .task .handler preference
      · rcases hnow with ⟨preference, rfl⟩
        exact Owed.run (hdue.handled h h.handled) (h.perform (.task .handler preference)) acts
      · rcases hturn with ⟨preference, hmem⟩
        have hlater := List.mem_of_ne_of_mem (fun heq => hnow ⟨preference, heq.symm⟩) hmem
        exact ih (hdue.other h fun preference heq => hnow ⟨preference, heq⟩) (h.perform a)
          ⟨preference, hlater⟩

theorem Admitted.attended (hadmitted : s.Admitted t n b) (h : s.Lined) {acts : List Act}
    (hturn : ∃ preference, Act.task (.inlet (.topic t)) preference ∈ acts) :
    (s.run acts).Owed t (n - s.settled t acts) (b - 1) := by
  induction acts generalizing s n with
  | nil =>
      rcases hturn with ⟨_, hmem⟩
      cases hmem
  | cons a acts ih =>
      rw [settled_cons, ← Nat.sub_sub]
      by_cases hnow : ∃ preference, a = .task (.inlet (.topic t)) preference
      · rcases hnow with ⟨preference, rfl⟩
        have hdue := hadmitted.turn h (h.heard t)
        exact Owed.run (Or.inl hdue) (h.perform (.task (.inlet (.topic t)) preference)) acts
      · rcases hturn with ⟨preference, hmem⟩
        have hlater := List.mem_of_ne_of_mem (fun heq => hnow ⟨preference, heq.symm⟩) hmem
        exact ih (hadmitted.other h fun preference heq => hnow ⟨preference, heq⟩) (h.perform a)
          ⟨preference, hlater⟩

theorem Owed.attended (howed : s.Owed t n b) (h : s.Lined) {acts : List Act}
    (hattends : Attends t acts) : (s.run acts).Owed t (n - s.settled t acts) (b - 1) := by
  rcases howed with hdue | hadmitted
  · exact hdue.attended h hattends.handler
  · exact hadmitted.attended h hattends.topic

theorem Owed.rounds (howed : s.Owed t n b) (h : s.Lined) {rounds : List (List Act)}
    (hattends : ∀ acts ∈ rounds, Attends t acts) :
    (s.run rounds.flatten).Owed t (n - s.settled t rounds.flatten) (b - rounds.length) := by
  induction rounds generalizing s n b with
  | nil => exact howed
  | cons acts rounds ih =>
      rw [List.forall_mem_cons] at hattends
      rw [List.flatten_cons, run_append, settled_append, ← Nat.sub_sub, List.length_cons,
        Nat.add_comm, ← Nat.sub_sub]
      exact ih (howed.attended h hattends.1) (h.run acts) hattends.2

theorem Owed.eq_zero (howed : s.Owed t n 0) : n = 0 := by
  rcases howed with hdue | hadmitted
  · cases hdue with
    | inLine k covers soon =>
        have hbusy := length_applying_le s
        have hk : k = 0 := by omega
        rw [hk] at covers
        exact Nat.le_zero.mp covers
    | queued p waits ahead behind place covers soon => omega
  · have soon := hadmitted.soon
    unfold lineTurns at soon
    omega

/-- Whatever is on the way is owed within 525 turns: those of a full line, and two for each task that
may stand in line for room. -/
theorem Lined.owed (h : s.Lined) (t : LifecycleTopic) : s.Owed t (s.inFlight t).length 525 := by
  have hlength : s.line.length ≤ 257 := by
    have hroom := h.orderly.room
    have hbusy := length_applying_le s
    rw [h.capacity] at hroom
    unfold line
    rw [List.length_append]
    omega
  cases hp : s.parked? t with
  | none =>
      refine Or.inl (.inLine s.line.length ?_ (by omega))
      unfold inFlight line
      rw [hp, List.take_length, Option.map_none, Option.toList_none, List.append_nil]
  | some p =>
      have hmem := (h.parked?_eq_some_iff.mp hp).1
      have covers : (s.inFlight t).length ≤ (t.of s.line).length + 1 := by
        unfold inFlight line
        rw [hp, List.length_append]
        exact Nat.le_refl _
      have hcount := h.orderly.line.length_eq
      have hparked := h.length_parked_le
      rw [List.length_append, List.length_map] at hcount
      have hticket := h.orderly.line.mem_iff.mpr (List.mem_map_of_mem hmem)
      rcases List.mem_append.mp hticket with hwaits | hgranted
      · rcases List.append_of_mem hwaits with ⟨ahead, behind, hplace⟩
        have hbusy := length_applying_le s
        rw [hplace, List.length_append, List.length_cons] at hcount
        refine Or.inl (.queued p hp ahead behind hplace covers ?_)
        unfold lineTurns
        omega
      · exact Or.inr ⟨⟨p, hp, hgranted⟩, covers, by unfold lineTurns; omega⟩

theorem Lined.served (h : s.Lined) {rounds : List (List Act)} (hcount : 525 ≤ rounds.length)
    (hattends : ∀ acts ∈ rounds, Attends t acts) :
    s.inFlight t <+: t.of (s.along applies rounds.flatten) := by
  have howed : (s.run rounds.flatten).Owed t
      ((s.inFlight t).length - s.settled t rounds.flatten) 0 :=
    ((h.owed t).rounds h hattends).mono (by omega)
  have hsettled : (s.inFlight t).length ≤ (t.of (s.along applies rounds.flatten)).length :=
    Nat.le_of_sub_eq_zero howed.eq_zero
  have hbalance := h.balance_run rounds.flatten t
  exact List.prefix_of_prefix_length_le ⟨_, hbalance⟩ (List.prefix_append _ _) hsettled

end Service
end MetricGateway
