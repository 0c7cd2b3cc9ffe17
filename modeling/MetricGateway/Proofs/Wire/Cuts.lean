import MetricGateway.Error
import MetricGateway.Proofs.Wire.Payloads

/-!
# Payloads that are cut short

The bytes of a payload may be cut off at any place: inside a number or a text, behind a length or a
mark, between two items of a list.  Wherever it is, the reader that comes to the cut has run out of
bytes and says so.  What stands in front of the cut is read back as it was written, so that it is
clear which reader that is.  No payload is mistaken for a shorter one, and the bytes of a payload
never begin with those of another one of its type.
-/

namespace MetricGateway
namespace Wire

/-- The faults of a reader that has run out of bytes. -/
inductive Fault.OutOfBytes : Fault → Prop where
  | unexpectedEnd : OutOfBytes .unexpectedEnd
  | textCutShort : OutOfBytes .textCutShort

/-- A reader has failed because it ran out of bytes. -/
def Starved {α : Type} (result : Except Fault α) : Prop :=
  ∃ fault, result = .error fault ∧ fault.OutOfBytes

theorem Starved.bind {α β : Type} {result : Except Fault α} (h : Starved result)
    (next : α → Except Fault β) : Starved (result >>= next) := by
  obtain ⟨fault, hfault, hout⟩ := h
  exact ⟨fault, by rw [hfault]; rfl, hout⟩

theorem mapError_read {α : Type} {c : Codec α} {bs : Bytes} {fault : Fault}
    (h : c.decode bs = .error fault) :
    (c.read bs).mapError GatewayError.codec = .error (.codec fault) := by
  unfold Codec.read
  rw [h]
  rfl

/-!
## Places of a cut
-/

/-- A cut falls into the front part, or the front part is whole and the cut falls into what stands
behind it. -/
theorem cut_append {cut lost front back : Bytes} (h : cut ++ lost = front ++ back) :
    (∃ more, more ≠ [] ∧ cut ++ more = front) ∨
      ∃ cut', cut = front ++ cut' ∧ cut' ++ lost = back := by
  rcases List.append_eq_append_iff.mp h with ⟨more, hfront, hmore⟩ | ⟨cut', hcut, hback⟩
  · cases more with
    | nil =>
        rw [List.append_nil] at hfront
        exact Or.inr ⟨[], by rw [hfront, List.append_nil], hmore⟩
    | cons b more => exact Or.inl ⟨b :: more, List.cons_ne_nil b more, hfront.symm⟩
  · exact Or.inr ⟨cut', hcut, hback.symm⟩

theorem eq_nil_of_cut_singleton {cut lost : Bytes} {b : UInt8} (hlost : lost ≠ [])
    (h : cut ++ lost = [b]) : cut = [] := by
  cases cut with
  | nil => rfl
  | cons c cut =>
      have hrest : cut ++ lost = [] := (List.cons.inj h).2
      exact absurd (List.append_eq_nil_iff.mp hrest).2 hlost

theorem readLittleEndian_of_length_lt {width : Nat} {bs : Bytes} (h : bs.length < width) :
    readLittleEndian width bs = .error .unexpectedEnd := by
  induction width generalizing bs with
  | zero => exact absurd h (Nat.not_lt_zero _)
  | succ width ih =>
      cases bs with
      | nil => rfl
      | cons b bs =>
          unfold readLittleEndian
          rw [ih (Nat.lt_of_succ_lt_succ h)]
          rfl

namespace Codec

variable {α β : Type}

/-- A value that is cut short is never read: its reader runs out of bytes. -/
def Starves (c : Codec α) (a : α) : Prop :=
  ∀ ⦃cut lost⦄, lost ≠ [] → cut ++ lost = c.encode a → Starved (c.decode cut)

/-- A value with something behind it is cut.  Either its own reader runs out of bytes, or it is read
back and the cut is left to the readers that follow. -/
theorem Starves.followed {c : Codec β} {b : β} (h : c.Starves b) (hread : c.ReadsBack b)
    {cut lost back : Bytes} (hcut : cut ++ lost = c.encode b ++ back)
    {next : β × Bytes → Except Fault α}
    (hnext : ∀ cut', cut' ++ lost = back → Starved (next (b, cut'))) :
    Starved (c.decode cut >>= next) := by
  rcases cut_append hcut with ⟨more, hmore, hfront⟩ | ⟨cut', rfl, hback⟩
  · exact (h hmore hfront).bind next
  · rw [hread cut']
    exact hnext cut' hback

/-!
## Records and words
-/

theorem Starves.pair {first : Codec α} {second : Codec β} {a : α} {b : β} (ha : first.Starves a)
    (hread : first.ReadsBack a) (hb : second.Starves b) : (first.pair second).Starves (a, b) := by
  intro cut lost hlost hcut
  apply ha.followed hread hcut
  intro cut' hback
  exact (hb hlost hback).bind _

theorem Starves.iso {c : Codec α} {make : α → β} {back : β → α} {b : β} (h : c.Starves (back b)) :
    (c.iso make back).Starves b := by
  intro cut lost hlost hcut
  exact (h hlost hcut).bind _

theorem starves_number (width n : Nat) : (number width).Starves n := by
  intro cut lost hlost hcut
  have hlength : cut.length + lost.length = width := by
    rw [← List.length_append, hcut]
    exact length_littleEndian width n
  have hpos := List.length_pos_of_ne_nil hlost
  exact ⟨.unexpectedEnd, readLittleEndian_of_length_lt (by omega), .unexpectedEnd⟩

theorem starves_u8 (b : UInt8) : u8.Starves b := (starves_number 1 b.toNat).iso

theorem starves_u16 (n : UInt16) : u16.Starves n := (starves_number 2 n.toNat).iso

theorem starves_u32 (n : UInt32) : u32.Starves n := (starves_number 4 n.toNat).iso

theorem starves_u64 (n : UInt64) : u64.Starves n := (starves_number 8 n.toNat).iso

theorem starves_i32 (n : Int32) : i32.Starves n := (starves_u32 n.toUInt32).iso

theorem starves_i64 (n : Int64) : i64.Starves n := (starves_u64 n.toUInt64).iso

theorem starves_duration (d : Duration) : duration.Starves d := by
  intro cut lost hlost hcut
  apply (starves_u64 d.secs).followed (readsBack_u64 d.secs) hcut
  intro cut' hback
  exact (starves_u32 d.nanos hlost hback).bind _

/-!
## Choices
-/

theorem starved_u8_nil : Starved (u8.decode []) :=
  starves_u8 0 (List.cons_ne_nil 0 []) rfl

theorem starves_bool (b : Bool) : bool.Starves b := by
  intro cut lost hlost hcut
  rw [eq_nil_of_cut_singleton hlost hcut]
  exact starved_u8_nil.bind _

theorem Starves.option {c : Codec α} {a? : Option α} (h : ∀ a ∈ a?, c.Starves a) :
    (option c).Starves a? := by
  intro cut lost hlost hcut
  cases a? with
  | none =>
      rw [eq_nil_of_cut_singleton hlost hcut]
      exact starved_u8_nil.bind _
  | some a =>
      apply (starves_u8 1).followed (readsBack_u8 1) hcut
      intro cut' hvalue
      exact (h a rfl hlost hvalue).bind _

theorem starves_variant [DecidableEq α] (all : List α) (a : α) : (variant all).Starves a := by
  intro cut lost hlost hcut
  exact (starves_number 4 (all.idxOf a) hlost hcut).bind _

/-!
## Sequences
-/

theorem starved_behind_length {n : Nat} (hn : n < UInt64.size) {cut lost back : Bytes}
    (hcut : cut ++ lost = littleEndian 8 n ++ back) {next : Nat × Bytes → Except Fault α}
    (hnext : ∀ cut', cut' ++ lost = back → Starved (next (n, cut'))) :
    Starved (readLittleEndian 8 cut >>= next) :=
  (starves_number 8 n).followed (readLittleEndian_length hn) hcut hnext

/-- The items in front of the one that is cut are read back, and then this one runs out of bytes. -/
theorem starved_readItems {c : Codec α} {as : List α} (hread : ∀ a ∈ as, c.ReadsBack a)
    (h : ∀ a ∈ as, c.Starves a) {cut lost : Bytes} (hlost : lost ≠ [])
    (hcut : cut ++ lost = as.flatMap c.encode) : Starved (readItems c as.length cut) := by
  induction as generalizing cut with
  | nil => exact absurd (List.append_eq_nil_iff.mp hcut).2 hlost
  | cons a as ih =>
      rw [List.flatMap_cons] at hcut
      apply (h a List.mem_cons_self).followed (hread a List.mem_cons_self) hcut
      intro cut' hitems
      have hrest := ih (fun a' ha' => hread a' (List.mem_cons_of_mem a ha'))
        (fun a' ha' => h a' (List.mem_cons_of_mem a ha')) hitems
      exact hrest.bind _

theorem starves_list {c : Codec α} {as : List α} (hlength : as.length < UInt64.size)
    (hread : ∀ a ∈ as, c.ReadsBack a) (h : ∀ a ∈ as, c.Starves a) : (list c).Starves as := by
  intro cut lost hlost hcut
  apply starved_behind_length hlength hcut
  intro cut' hitems
  exact starved_readItems hread h hlost hitems

theorem starves_blob {bs : Bytes} (h : bs.length < UInt64.size) : blob.Starves bs :=
  starves_list h (fun b _ => readsBack_u8 b) fun b _ => starves_u8 b

theorem starves_text {s : String} (h : s.utf8ByteSize < UInt64.size) : text.Starves s := by
  intro cut lost hlost hcut
  apply starved_behind_length h hcut
  intro cut' hbody
  have hshort : (cut'.take s.utf8ByteSize).length < s.utf8ByteSize := by
    have hsize : s.toByteArray.data.toList.length = s.utf8ByteSize := by simp
    have hpos := List.length_pos_of_ne_nil hlost
    have htake := List.length_take_le' s.utf8ByteSize cut'
    rw [← hbody, List.length_append] at hsize
    omega
  exact ⟨.textCutShort, if_pos hshort, .textCutShort⟩

/-!
## Models
-/

theorem starves_containerKind (k : ContainerKind) : containerKind.Starves k :=
  starves_variant ContainerKind.all k

theorem starves_valueKind (k : ValueKind) : valueKind.Starves k :=
  starves_variant ValueKind.all k

theorem starves_metricValue {v : MetricValue} (h : v.Fits) : metricValue.Starves v := by
  intro cut lost hlost hcut
  have hnumber : ∀ n < 4, (number 4).ReadsBack n :=
    fun n hn => readsBack_number (Nat.lt_trans hn (by decide))
  cases v with
  | int v =>
      apply (starves_number 4 0).followed (hnumber 0 (by decide)) hcut
      exact fun cut' hvalue => (starves_i64 v hlost hvalue).bind _
  | float bits =>
      apply (starves_number 4 1).followed (hnumber 1 (by decide)) hcut
      exact fun cut' hvalue => (starves_u64 bits hlost hvalue).bind _
  | text v =>
      apply (starves_number 4 2).followed (hnumber 2 (by decide)) hcut
      exact fun cut' hvalue => (starves_text h hlost hvalue).bind _
  | bool v =>
      apply (starves_number 4 3).followed (hnumber 3 (by decide)) hcut
      exact fun cut' hvalue => (starves_bool v hlost hvalue).bind _

theorem starves_metricRequest (r : MetricRequest) : metricRequest.Starves r := by
  apply Starves.iso
  apply (starves_i32 r.container).pair (readsBack_i32 r.container)
  apply (starves_containerKind r.containerKind).pair (readsBack_containerKind r.containerKind)
  apply (starves_i32 r.metric).pair (readsBack_i32 r.metric)
  exact (starves_valueKind r.valueKind).pair (readsBack_valueKind r.valueKind)
    (starves_i32 r.policy)

theorem starves_metricSelector (s : MetricSelector) : metricSelector.Starves s := by
  apply Starves.iso
  exact (starves_i32 s.metric).pair (readsBack_i32 s.metric) (starves_valueKind s.valueKind)

theorem starves_batchRequest {r : BatchRequest} (h : Countable r.metrics.length) :
    batchRequest.Starves r := by
  apply Starves.iso
  apply (starves_i32 r.container).pair (readsBack_i32 r.container)
  apply (starves_containerKind r.containerKind).pair (readsBack_containerKind r.containerKind)
  exact starves_list h (fun s _ => readsBack_metricSelector s) fun s _ => starves_metricSelector s

theorem starves_reading {r : Reading} (h : r.Fits) : reading.Starves r := by
  apply Starves.iso
  apply (starves_i32 r.container).pair (readsBack_i32 r.container)
  apply (starves_i32 r.metric).pair (readsBack_i32 r.metric)
  apply (starves_valueKind r.valueKind).pair (readsBack_valueKind r.valueKind)
  apply Starves.pair _ _ (starves_i64 r.timestamp)
  · exact Starves.option fun v hv => starves_metricValue (h v hv)
  · exact ReadsBack.option fun v hv => readsBack_metricValue (h v hv)

theorem starves_readingBatch {b : ReadingBatch} (hlength : Countable b.readings.length)
    (h : ∀ r ∈ b.readings, r.Fits) : readingBatch.Starves b := by
  apply Starves.iso
  apply (starves_i32 b.container).pair (readsBack_i32 b.container)
  exact starves_list hlength (fun r hr => readsBack_reading (h r hr))
    fun r hr => starves_reading (h r hr)

theorem starves_metricSettings (s : MetricSettings) : metricSettings.Starves s := by
  apply Starves.iso
  exact (starves_u16 s.budget).pair (readsBack_u16 s.budget) (starves_duration s.cacheFor)

theorem starves_containerSettings (s : ContainerSettings) : containerSettings.Starves s :=
  (starves_duration s.interval).iso

theorem starves_containerNotice (n : ContainerNotice) : containerNotice.Starves n :=
  (starves_i32 n.container).iso

theorem starves_metricNotice (n : MetricNotice) : metricNotice.Starves n := by
  apply Starves.iso
  exact (starves_i32 n.container).pair (readsBack_i32 n.container) (starves_i32 n.metric)

theorem starves_policyNotice (n : PolicyNotice) : policyNotice.Starves n :=
  (starves_i32 n.policy).iso

theorem starves_envelope {e : Envelope} (h : e.Fits) : envelope.Starves e := by
  apply Starves.iso
  apply (starves_text h.msgType).pair (readsBack_text h.msgType)
  apply (starves_text h.correlation).pair (readsBack_text h.correlation)
  apply (starves_text h.replyKey).pair (readsBack_text h.replyKey)
  apply (starves_text h.expiration).pair (readsBack_text h.expiration)
  exact starves_blob h.body

end Codec

/-!
## Payloads of any type
-/

namespace PayloadType

theorem starves {t : PayloadType} {v : t.Value} (h : t.Fits v) : t.codec.Starves v := by
  induction t with
  | containerKind => exact Codec.starves_containerKind v
  | valueKind => exact Codec.starves_valueKind v
  | text => exact Codec.starves_text h
  | duration => exact Codec.starves_duration v
  | metricValue => exact Codec.starves_metricValue h
  | metricRequest => exact Codec.starves_metricRequest v
  | metricSelector => exact Codec.starves_metricSelector v
  | batchRequest => exact Codec.starves_batchRequest h
  | reading => exact Codec.starves_reading h
  | readingBatch => exact Codec.starves_readingBatch h.1 h.2
  | metricSettings => exact Codec.starves_metricSettings v
  | containerSettings => exact Codec.starves_containerSettings v
  | containerNotice => exact Codec.starves_containerNotice v
  | metricNotice => exact Codec.starves_metricNotice v
  | policyNotice => exact Codec.starves_policyNotice v
  | envelope => exact Codec.starves_envelope h
  | optional t ih => exact Codec.Starves.option fun a ha => ih (h a ha)
  | list t ih =>
      exact Codec.starves_list h.1 (fun a ha => readsBack (h.2 a ha)) fun a ha => ih (h.2 a ha)

/-- Values of a type are the same if one of them is written as the beginning of the other. -/
theorem eq_of_encode_prefix {t : PayloadType} {v w : t.Value} (hv : t.Fits v) (hw : t.Fits w)
    (h : encode v <+: encode w) : v = w := by
  obtain ⟨rest, hrest⟩ := h
  have hfront : decode (encode w) = .ok (v, rest) := hrest ▸ readsBack hv rest
  have hwhole : decode (encode w ++ []) = .ok (w, []) := readsBack hw []
  rw [List.append_nil, hfront] at hwhole
  cases hwhole
  rfl

/-- A payload that is cut short does not decode.  Whatever its type and wherever the cut is, the
reader runs out of bytes, and so do those of an envelope with the cut payload and of a cut frame.
Together with reading back this means that no payload of a type is written as the beginning of
another one. -/
theorem cut_short_fails :
    (∀ (t : PayloadType) (v : t.Value), t.Fits v → ∀ cut, cut <+: encode v → cut ≠ encode v →
      ∃ fault : Fault, fault.OutOfBytes ∧
        (decode cut : Except Fault (t.Value × Bytes)) = .error fault ∧
        ∀ e : Envelope, e.body = cut →
          (e.unpack : Except Fault t.Value).mapError GatewayError.codec = .error (.codec fault)) ∧
      (∀ e : Envelope, e.Fits → ∀ frame, frame <+: e.toFrame → frame ≠ e.toFrame →
        ∃ fault : Fault, fault.OutOfBytes ∧
          (Envelope.ofFrame frame).mapError GatewayError.codec = .error (.codec fault)) ∧
      ∀ (t : PayloadType) (v w : t.Value), t.Fits v → t.Fits w → encode v <+: encode w → v = w := by
  have hcut : ∀ (t : PayloadType) (v : t.Value), t.Fits v → ∀ cut, cut <+: encode v →
      cut ≠ encode v → Starved (decode cut : Except Fault (t.Value × Bytes)) := by
    rintro t v h cut ⟨lost, hlost⟩ hne
    apply starves h _ hlost
    rintro rfl
    rw [List.append_nil] at hlost
    exact hne hlost
  refine ⟨?_, ?_, fun t v w => eq_of_encode_prefix⟩
  · intro t v h cut hprefix hne
    obtain ⟨fault, hfault, hout⟩ := hcut t v h cut hprefix hne
    refine ⟨fault, hout, hfault, ?_⟩
    rintro e rfl
    exact mapError_read hfault
  · intro e h frame hprefix hne
    obtain ⟨fault, hfault, hout⟩ := hcut envelope e h frame hprefix hne
    exact ⟨fault, hout, mapError_read hfault⟩

/-- A reading whose text has a character of two bytes, the second of which is byte 29. -/
def warmReading : Reading where
  container := 7
  metric := 42
  valueKind := .text
  value := some (.text "9 µs")
  timestamp := 1700000000

theorem cut_short_fails_character :
    let cut := (encode warmReading).take 28
    let e := Envelope.pack warmReading .ok
    Fits reading warmReading ∧ cut <+: encode warmReading ∧ cut ≠ encode warmReading ∧
      (∃ fault : Fault, fault.OutOfBytes ∧
        (decode cut : Except Fault (Reading × Bytes)) = .error fault ∧
        ∀ e : Envelope, e.body = cut →
          (e.unpack : Except Fault Reading).mapError GatewayError.codec = .error (.codec fault)) ∧
      e.Fits ∧ e.toFrame.take 12 <+: e.toFrame ∧ e.toFrame.take 12 ≠ e.toFrame ∧
      (∃ fault : Fault, fault.OutOfBytes ∧
        (Envelope.ofFrame (e.toFrame.take 12)).mapError GatewayError.codec =
          .error (.codec fault)) ∧
      encode warmReading <+: encode warmReading ∧ warmReading = warmReading := by
  intro cut e
  obtain ⟨hpayloads, hframes, hprefixes⟩ := cut_short_fails
  have hreading : Fits reading warmReading := by
    intro v hv
    cases hv
    show Countable _
    decide
  have hframe : e.Fits := by constructor <;> decide
  have hprefix : cut <+: encode warmReading := List.take_prefix 28 _
  have hne : cut ≠ encode warmReading := by decide +kernel
  have hframePrefix : e.toFrame.take 12 <+: e.toFrame := List.take_prefix 12 _
  have hframeNe : e.toFrame.take 12 ≠ e.toFrame := by decide +kernel
  exact ⟨hreading, hprefix, hne, hpayloads reading warmReading hreading cut hprefix hne, hframe,
    hframePrefix, hframeNe, hframes e hframe _ hframePrefix hframeNe, List.prefix_rfl,
    hprefixes reading warmReading warmReading hreading hreading List.prefix_rfl⟩

end PayloadType
end Wire
end MetricGateway
