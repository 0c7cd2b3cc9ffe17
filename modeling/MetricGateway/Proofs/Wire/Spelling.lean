import MetricGateway.Proofs.Caching.Lookups
import MetricGateway.Proofs.Scheduling.Rebuild
import MetricGateway.Proofs.Wire.Canonical

/-!
# The spellings of payloads

Every payload is accepted in the bytes in which it is written, but for its durations: each of them
may stand with a second or more among its nanoseconds.  So two spellings of a payload are equally
long, and a payload without a duration has one spelling.  What is cached from the reply to a poll
was therefore cut out of the reply.
-/

namespace MetricGateway
namespace Wire

/-!
## Models
-/

namespace Codec

theorem exact_containerKind : containerKind.Exact := exact_variant (by decide)

theorem exact_valueKind : valueKind.Exact := exact_variant (by decide)

theorem exact_metricValue : metricValue.Exact := by
  intro bs v rest h
  obtain ⟨⟨n, tail⟩, hn, h⟩ := exists_of_bind_eq_ok h
  obtain ⟨hbytes, -⟩ := readLittleEndian_eq_ok hn
  have hbehind : ∀ {α : Type} {c : Codec α} {make : α → MetricValue} {back : MetricValue → α},
      c.Exact → (∀ a, back (make a) = a) → (c.iso make back).decode tail = .ok (v, rest) →
        ∃ used, bs = (littleEndian 4 n ++ used) ++ rest ∧ used = c.encode (back v) := by
    intro α c make back hexact hback hdecode
    obtain ⟨used, htail, hused⟩ := hexact.iso hback hdecode
    exact ⟨used, by rw [hbytes, htail, List.append_assoc], hused⟩
  dsimp only at h
  split at h
  next =>
    obtain ⟨used, hbytes, rfl⟩ := hbehind exact_i64 (fun _ => rfl) h
    obtain ⟨⟨value, _⟩, _, hmake⟩ := exists_of_bind_eq_ok h
    cases hmake
    exact ⟨_, hbytes, rfl⟩
  next =>
    obtain ⟨used, hbytes, rfl⟩ := hbehind exact_u64 (fun _ => rfl) h
    obtain ⟨⟨value, _⟩, _, hmake⟩ := exists_of_bind_eq_ok h
    cases hmake
    exact ⟨_, hbytes, rfl⟩
  next =>
    obtain ⟨used, hbytes, rfl⟩ := hbehind exact_text (fun _ => rfl) h
    obtain ⟨⟨value, _⟩, _, hmake⟩ := exists_of_bind_eq_ok h
    cases hmake
    exact ⟨_, hbytes, rfl⟩
  next =>
    obtain ⟨used, hbytes, rfl⟩ := hbehind exact_bool (fun _ => rfl) h
    obtain ⟨⟨value, _⟩, _, hmake⟩ := exists_of_bind_eq_ok h
    cases hmake
    exact ⟨_, hbytes, rfl⟩
  next => cases h

theorem exact_metricRequest : metricRequest.Exact := by
  apply Exact.iso
  · apply exact_i32.pair
    apply exact_containerKind.pair
    exact exact_i32.pair (exact_valueKind.pair exact_i32)
  · intro fields
    rfl

theorem exact_metricSelector : metricSelector.Exact :=
  (exact_i32.pair exact_valueKind).iso fun _ => rfl

theorem exact_batchRequest : batchRequest.Exact := by
  apply Exact.iso
  · exact exact_i32.pair (exact_containerKind.pair exact_metricSelector.list)
  · intro fields
    rfl

theorem exact_reading : reading.Exact := by
  apply Exact.iso
  · apply exact_i32.pair
    apply exact_i32.pair
    exact exact_valueKind.pair (exact_metricValue.option.pair exact_i64)
  · intro fields
    rfl

theorem exact_readingBatch : readingBatch.Exact :=
  (exact_i32.pair exact_reading.list).iso fun _ => rfl

theorem accepts_metricSettings : metricSettings.Accepts fun used s =>
    ∃ field, used = u16.encode s.budget ++ field ∧ SpellsDuration field s.cacheFor := by
  apply Accepts.mono
  · exact (Accepts.pair exact_u16 accepts_duration).iso
  · rintro used s ⟨fields, rfl, front, back, rfl, rfl, hback⟩
    exact ⟨back, rfl, hback⟩

theorem accepts_containerSettings :
    containerSettings.Accepts fun used s => SpellsDuration used s.interval := by
  apply Accepts.mono
  · exact accepts_duration.iso
  · rintro used s ⟨d, rfl, hused⟩
    exact hused

theorem exact_containerNotice : containerNotice.Exact := exact_i32.iso fun _ => rfl

theorem exact_metricNotice : metricNotice.Exact := (exact_i32.pair exact_i32).iso fun _ => rfl

theorem exact_policyNotice : policyNotice.Exact := exact_i32.iso fun _ => rfl

theorem exact_envelope : envelope.Exact := by
  apply Exact.iso
  · apply exact_text.pair
    apply exact_text.pair
    exact exact_text.pair (exact_text.pair exact_blob)
  · intro fields
    rfl

end Codec

/-!
## Payloads of any type
-/

namespace PayloadType

/-- The spellings of a payload whose durations are spelled in some way: everything else stands as it
is written. -/
def Spells (durations : Bytes → Duration → Prop) : (t : PayloadType) → Bytes → t.Value → Prop
  | duration, used, d => durations used d
  | metricSettings, used, s =>
      ∃ field, used = Codec.u16.encode s.budget ++ field ∧ durations field s.cacheFor
  | containerSettings, used, s => durations used s.interval
  | optional t, used, a? => Codec.SpellsOption (t.Spells durations) used a?
  | list t, used, as => Codec.SpellsList (t.Spells durations) used as
  | t, used, v => used = t.codec.encode v

/-- There is no duration in a payload. -/
def Timeless : (t : PayloadType) → t.Value → Prop
  | duration, _ | metricSettings, _ | containerSettings, _ => False
  | optional t, a? => ∀ a ∈ a?, t.Timeless a
  | list t, as => ∀ a ∈ as, t.Timeless a
  | _, _ => True

theorem accepts (t : PayloadType) : t.codec.Accepts (t.Spells Codec.SpellsDuration) := by
  induction t with
  | containerKind => exact Codec.exact_containerKind
  | valueKind => exact Codec.exact_valueKind
  | text => exact Codec.exact_text
  | duration => exact Codec.accepts_duration
  | metricValue => exact Codec.exact_metricValue
  | metricRequest => exact Codec.exact_metricRequest
  | metricSelector => exact Codec.exact_metricSelector
  | batchRequest => exact Codec.exact_batchRequest
  | reading => exact Codec.exact_reading
  | readingBatch => exact Codec.exact_readingBatch
  | metricSettings => exact Codec.accepts_metricSettings
  | containerSettings => exact Codec.accepts_containerSettings
  | containerNotice => exact Codec.exact_containerNotice
  | metricNotice => exact Codec.exact_metricNotice
  | policyNotice => exact Codec.exact_policyNotice
  | envelope => exact Codec.exact_envelope
  | optional t ih => exact Codec.Accepts.option ih
  | list t ih => exact Codec.Accepts.list ih

/-- The bytes that are written for a payload are its spelling with the written durations. -/
theorem spells_encode_iff {t : PayloadType} {used : Bytes} {v : t.Value} :
    t.Spells (fun field d => field = Codec.duration.encode d) used v ↔ used = t.codec.encode v := by
  induction t generalizing used with
  | metricSettings =>
      constructor
      · rintro ⟨field, rfl, rfl⟩
        rfl
      · rintro rfl
        exact ⟨_, rfl, rfl⟩
  | optional t ih =>
      constructor
      · intro h
        cases h with
        | none => rfl
        | some hpart =>
            rw [ih.mp hpart]
            rfl
      · rintro rfl
        cases v with
        | none => exact .none
        | some a => exact .some (ih.mpr rfl)
  | list t ih =>
      have hspells : t.Spells (fun field d => field = Codec.duration.encode d) =
          fun used v => used = t.codec.encode v := by
        funext used v
        exact propext ih
      show Codec.SpellsList (t.Spells _) used v ↔ _
      rw [hspells]
      constructor
      · rintro ⟨parts, rfl, hitems⟩
        rw [hitems.eq_flatMap]
        rfl
      · rintro rfl
        exact ⟨_, rfl, Codec.spellsItems_flatMap v⟩
  | _ => exact Iff.rfl

theorem Spells.of_timeless {durations durations' : Bytes → Duration → Prop} {t : PayloadType}
    {used : Bytes} {v : t.Value} (h : t.Spells durations used v) (htimeless : t.Timeless v) :
    t.Spells durations' used v := by
  induction t generalizing used with
  | duration => cases htimeless
  | metricSettings => cases htimeless
  | containerSettings => cases htimeless
  | optional t ih =>
      cases h with
      | none => exact .none
      | some hpart => exact .some (ih hpart (htimeless _ rfl))
  | list t ih =>
      rcases h with ⟨parts, rfl, hitems⟩
      exact ⟨parts, rfl, hitems.mono fun used a ha hused => ih hused (htimeless a ha)⟩
  | _ => exact h

/-- The spellings of a payload are equally long if those of its durations are. -/
theorem Spells.length_eq {durations : Bytes → Duration → Prop}
    (hdurations : ∀ field d, durations field d → field.length = 12) {t : PayloadType}
    {used : Bytes} {v : t.Value} (h : t.Spells durations used v) :
    used.length = (t.codec.encode v).length := by
  have hwritten : ∀ {field d}, durations field d →
      field.length = (Codec.duration.encode d).length := by
    intro field d hfield
    rw [hdurations field d hfield, Codec.length_encode_duration]
  induction t generalizing used with
  | duration => exact hwritten h
  | metricSettings =>
      rcases h with ⟨field, rfl, hfield⟩
      show _ = (Codec.u16.encode v.budget ++ Codec.duration.encode v.cacheFor).length
      rw [List.length_append, List.length_append, hwritten hfield]
  | containerSettings => exact hwritten (d := v.interval) h
  | optional t ih =>
      cases h with
      | none => rfl
      | some hpart => exact congrArg (· + 1) (ih hpart)
  | list t ih =>
      rcases h with ⟨parts, rfl, hitems⟩
      show _ = (littleEndian 8 v.length ++ v.flatMap t.codec.encode).length
      rw [List.length_append, List.length_append, hitems.length_eq fun used a hused => ih hused]
  | _ => exact congrArg List.length h

end PayloadType

/-!
## What is cached from a poll
-/

/-- The readings of a batch stand in the reply one behind the other, as they are written. -/
theorem slice_of_unpack {reply : Envelope} {batch : ReadingBatch} (h : reply.unpack = .ok batch)
    {earlier later : List Reading} {reading : Reading}
    (hreadings : batch.readings = earlier ++ reading :: later) :
    ∃ rest, reply.body =
      (Codec.i32.encode batch.container ++ littleEndian 8 batch.readings.length ++
        earlier.flatMap encode) ++ encode reading ++ (later.flatMap encode ++ rest) := by
  have hdecode : ∃ rest, Codec.readingBatch.decode reply.body = .ok (batch, rest) := by
    change (Codec.readingBatch.decode reply.body).map (·.1) = .ok batch at h
    cases hresult : Codec.readingBatch.decode reply.body with
    | error fault =>
        rw [hresult] at h
        cases h
    | ok p =>
        rw [hresult] at h
        cases h
        exact ⟨p.2, rfl⟩
  obtain ⟨rest, hdecode⟩ := hdecode
  obtain ⟨used, hbody, rfl⟩ := Codec.exact_readingBatch hdecode
  refine ⟨rest, ?_⟩
  have hencode : Codec.readingBatch.encode batch = Codec.i32.encode batch.container ++
      (littleEndian 8 batch.readings.length ++ batch.readings.flatMap encode) := rfl
  have hitems : batch.readings.flatMap encode =
      earlier.flatMap encode ++ (encode reading ++ later.flatMap encode) := by
    rw [hreadings, List.flatMap_append, List.flatMap_cons]
  rw [hbody, hencode, hitems]
  simp only [List.append_assoc]

/-- Whatever a lookup gives after a reply to a poll was given before, or was cut out of the
reply. -/
theorem shown_handlePoll {r : Resolver} {history : Bool} {reply : Envelope} {t : Instant}
    (hle : r.now.nanos ≤ t.nanos) {metric : MetricId} {body : Bytes}
    (h : (r.handlePoll history reply).1.collaborators.cache.shown t metric = some body) :
    r.collaborators.cache.shown t metric = some body ∨
      ∃ (batch : ReadingBatch) (earlier later : List Reading) (reading : Reading) (rest : Bytes),
        reply.unpack = .ok batch ∧ batch.readings = earlier ++ reading :: later ∧
        reading.metric = metric ∧ body = encode reading ∧
        reply.body =
          (Codec.i32.encode batch.container ++ littleEndian 8 batch.readings.length ++
            earlier.flatMap encode) ++ body ++ (later.flatMap encode ++ rest) := by
  rw [Resolver.follows_handlePoll history r reply t metric hle] at h
  cases hlast : Deposit.last? (Resolver.pollDeposits history r reply) metric with
  | none =>
      rw [hlast] at h
      exact Or.inl h
  | some d =>
      rw [hlast] at h
      replace h : d.shown t = some body := h
      have hmetric := (Deposit.last?_eq_some_iff.mp hlast).1
      obtain ⟨-, batch, hbatch, earlier, reading, later, settings, hreadings, -, rfl⟩ :=
        Resolver.mem_pollDeposits history (Deposit.mem_of_last? hlast)
      have hbody : body = encode reading := by
        unfold Deposit.shown at h
        split at h <;> cases h
        rfl
      obtain ⟨rest, hslice⟩ := slice_of_unpack hbatch hreadings
      subst hbody
      exact Or.inr ⟨batch, earlier, later, reading, rest, hbatch, hreadings, hmetric, rfl, hslice⟩

/-!
## Canonical encodings
-/

namespace PayloadType

/-- Bytes that are accepted as a payload begin with a spelling of it.  The spelling is as long as
what is written for the payload and differs from it in durations at most, where twelve bytes with a
second or more among the nanoseconds stand for the carried ones.  So two byte strings that are
accepted as one payload without a duration begin in the same way.  And what a lookup in the cache
gives after a reply to a poll, and did not give before, is the encoding of a reading of the reply at
the very place where the reading stands in it. -/
theorem decode_canonical :
    (∀ (t : PayloadType) (bs rest : Bytes) (v : t.Value), decode bs = .ok (v, rest) →
      ∃ used, bs = used ++ rest ∧ t.Spells Codec.SpellsDuration used v ∧
        used.length = (encode v).length ∧ (t.Timeless v → used = encode v)) ∧
      (∀ (t : PayloadType) (written : Bytes) (v : t.Value),
        t.Spells (fun field d => field = Codec.duration.encode d) written v ↔
          written = encode v) ∧
      (∀ (t : PayloadType) (bs bs' rest rest' : Bytes) (v : t.Value), t.Timeless v →
        decode bs = .ok (v, rest) → decode bs' = .ok (v, rest') →
          ∃ used, bs = used ++ rest ∧ bs' = used ++ rest') ∧
      ∀ (r : Resolver) (history : Bool) (reply : Envelope) (t : Instant) (metric : MetricId)
        (body : Bytes), r.now.nanos ≤ t.nanos →
        (r.handlePoll history reply).1.collaborators.cache.shown t metric = some body →
          r.collaborators.cache.shown t metric = some body ∨
            ∃ (batch : ReadingBatch) (earlier later : List Reading) (reading : Reading)
              (rest : Bytes),
              reply.unpack = .ok batch ∧ batch.readings = earlier ++ reading :: later ∧
              reading.metric = metric ∧ body = encode reading ∧
              reply.body =
                (Codec.i32.encode batch.container ++ littleEndian 8 batch.readings.length ++
                  earlier.flatMap encode) ++ body ++ (later.flatMap encode ++ rest) := by
  have hfront : ∀ (t : PayloadType) (bs rest : Bytes) (v : t.Value),
      decode bs = .ok (v, rest) →
        ∃ used, bs = used ++ rest ∧ t.Spells Codec.SpellsDuration used v ∧
          used.length = (encode v).length ∧ (t.Timeless v → used = encode v) := by
    intro t bs rest v h
    obtain ⟨used, hbytes, hspells⟩ := t.accepts h
    refine ⟨used, hbytes, hspells, ?_, ?_⟩
    · exact hspells.length_eq fun field d hfield => hfield.length_eq
    · exact fun htimeless => spells_encode_iff.mp (hspells.of_timeless htimeless)
  refine ⟨hfront, fun t written v => spells_encode_iff, ?_, ?_⟩
  · intro t bs bs' rest rest' v htimeless h h'
    obtain ⟨used, hbytes, -, -, hused⟩ := hfront t bs rest v h
    obtain ⟨used', hbytes', -, -, hused'⟩ := hfront t bs' rest' v h'
    have hsame : used' = used := (hused' htimeless).trans (hused htimeless).symm
    exact ⟨used, hbytes, hsame ▸ hbytes'⟩
  · intro r history reply t metric body hle h
    exact shown_handlePoll hle h

/-- Settings whose duration stands as one second and one second and seven nanoseconds. -/
def uncarried : Bytes := Codec.u16.encode 5 ++ (Codec.u64.encode 1 ++ Codec.u32.encode 1000000007)

/-- A reply to a poll with a reading that is not stored, because nothing is known of its metric, and
one that is. -/
def twoReadings : Envelope :=
  Envelope.pack (α := ReadingBatch)
    { container := 7
      readings := [
        { container := 7, metric := 41, valueKind := .text, value := some (.text "µ")
          timestamp := 0 },
        { container := 7, metric := 42, valueKind := .int, value := some (.int 3)
          timestamp := 0 }] }
    .ok

theorem decode_canonical_carried :
    let carried : MetricSettings := { budget := 5, cacheFor := { secs := 2, nanos := 7 } }
    let notice : ContainerNotice := { container := 7 }
    let stored := ((Resolver.unscheduled {}).handlePoll false twoReadings).1.collaborators.cache
    (∃ used, uncarried ++ [255] = used ++ [255] ∧
        metricSettings.Spells Codec.SpellsDuration used carried ∧
        used.length = (encode carried).length ∧ used ≠ encode carried) ∧
      (∃ used, encode notice ++ [1] = used ++ [1] ∧ encode notice = used ++ []) ∧
      ∃ body, stored.shown .start 42 = some body ∧
        ∃ (batch : ReadingBatch) (earlier later : List Reading) (reading : Reading) (rest : Bytes),
          twoReadings.unpack = .ok batch ∧ batch.readings = earlier ++ reading :: later ∧
          reading.metric = 42 ∧ body = encode reading ∧
          twoReadings.body =
            (Codec.i32.encode batch.container ++ littleEndian 8 batch.readings.length ++
              earlier.flatMap encode) ++ body ++ (later.flatMap encode ++ rest) := by
  intro carried notice stored
  obtain ⟨hfront, -, hshared, hpolled⟩ := decode_canonical
  refine ⟨?_, ?_, ?_⟩
  · have haccepted : decode (uncarried ++ [255]) = .ok (carried, [255]) := by decide +kernel
    obtain ⟨used, hbytes, hspells, hlength, -⟩ := hfront metricSettings _ _ carried haccepted
    refine ⟨used, hbytes, hspells, hlength, ?_⟩
    rw [← List.append_cancel_right hbytes]
    decide +kernel
  · have haccepted : decode (encode notice ++ [1]) = .ok (notice, [1]) := by decide +kernel
    have haccepted' : decode (encode notice) = .ok (notice, []) := by decide +kernel
    exact hshared containerNotice _ _ _ _ notice trivial haccepted haccepted'
  · have hbefore : (Resolver.unscheduled {}).collaborators.cache.shown .start 42 = none := by
      decide +kernel
    have hafter : (stored.shown .start 42).isSome = true := by decide +kernel
    obtain ⟨body, hbody⟩ := Option.isSome_iff_exists.mp hafter
    refine ⟨body, hbody, ?_⟩
    rcases hpolled _ false twoReadings .start 42 body (Nat.le_refl _) hbody with hold | hcut
    · cases hbefore.symm.trans hold
    · exact hcut

end PayloadType
end Wire
end MetricGateway
