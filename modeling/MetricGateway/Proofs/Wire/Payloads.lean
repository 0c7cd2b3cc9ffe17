import Mathlib.Data.List.Basic
import MetricGateway.Proofs.Wire.RoundTrip

/-!
# Everything that crosses the broker is read back

The payloads are built from numbers, texts, durations, optional values and lists.  They are gathered
in one type, so that a law can be stated for all of them at once and proved by going through its
constructors.  A payload is read back if its texts and lists are short enough to be written behind
their length.
-/

namespace MetricGateway

/-!
## Lengths
-/

/-- A length can be written in eight bytes. -/
def Wire.Countable (n : Nat) : Prop := n < UInt64.size

instance (n : Nat) : Decidable (Wire.Countable n) := inferInstanceAs (Decidable (n < UInt64.size))

def MetricValue.Fits : MetricValue → Prop
  | .text s => Wire.Countable s.utf8ByteSize
  | _ => True

/-- The value of a reading is short enough to be written. -/
def Reading.Fits (r : Reading) : Prop := ∀ v ∈ r.value, v.Fits

namespace Wire

/-!
## Words, choices and durations
-/

namespace Codec

variable {α : Type}

theorem readsBack_u16 (n : UInt16) : u16.ReadsBack n :=
  (readsBack_number n.toNat_lt).iso UInt16.ofNat_toNat

theorem readsBack_u32 (n : UInt32) : u32.ReadsBack n :=
  (readsBack_number n.toNat_lt).iso UInt32.ofNat_toNat

theorem readsBack_u64 (n : UInt64) : u64.ReadsBack n :=
  (readsBack_number n.toNat_lt).iso UInt64.ofNat_toNat

theorem readsBack_i32 (n : Int32) : i32.ReadsBack n :=
  (readsBack_u32 n.toUInt32).iso n.toInt32_toUInt32

theorem readsBack_i64 (n : Int64) : i64.ReadsBack n :=
  (readsBack_u64 n.toUInt64).iso n.toInt64_toUInt64

theorem readsBack_bool (b : Bool) : bool.ReadsBack b := by
  intro rest
  cases b with
  | false => rfl
  | true => rfl

theorem ReadsBack.option {c : Codec α} {a? : Option α} (h : ∀ a ∈ a?, c.ReadsBack a) :
    (option c).ReadsBack a? := by
  intro rest
  cases a? with
  | none => rfl
  | some a =>
      have hmark : u8.decode (1 :: (c.encode a ++ rest)) = .ok (1, c.encode a ++ rest) := rfl
      have hvalue := h a rfl rest
      simp [Codec.option, hmark, hvalue, bind, Except.bind]

/-- A variant is read back if it is one of a list that is not too long to be numbered. -/
theorem readsBack_variant [DecidableEq α] {all : List α} (hlength : all.length < UInt32.size)
    {a : α} (ha : a ∈ all) : (variant all).ReadsBack a := by
  intro rest
  have hplace : all.idxOf a < 256 ^ 4 :=
    Nat.lt_trans (List.idxOf_lt_length_of_mem ha) hlength
  have hfound : all[all.idxOf a]? = some a := List.getElem?_idxOf ha
  simp only [variant, readLittleEndian_littleEndian hplace, bind, Except.bind, hfound]

theorem carried?_self (d : Duration) : Duration.carried? d.secs d.nanos = some d := by
  have hnanos := d.nanos_lt
  have hsecs := d.secs.toNat_lt
  have hwhole : d.nanos.toNat / nanosPerSec = 0 := Nat.div_eq_of_lt hnanos
  have hrest : d.nanos.toNat % nanosPerSec = d.nanos.toNat := Nat.mod_eq_of_lt hnanos
  unfold Duration.carried?
  simp [hwhole, hrest, UInt64.size, hsecs]

theorem readsBack_duration (d : Duration) : duration.ReadsBack d := by
  intro rest
  have hsecs := readsBack_u64 d.secs (u32.encode d.nanos ++ rest)
  have hnanos := readsBack_u32 d.nanos rest
  simp only [duration, List.append_assoc, hsecs, hnanos, carried?_self, bind, Except.bind]

end Codec

/-!
## The types of payloads
-/

/-- The types that cross the broker, with durations and with optional values and lists of any of
them. -/
inductive PayloadType where
  | containerKind
  | valueKind
  | text
  | duration
  | metricValue
  | metricRequest
  | metricSelector
  | batchRequest
  | reading
  | readingBatch
  | metricSettings
  | containerSettings
  | containerNotice
  | metricNotice
  | policyNotice
  | envelope
  | optional (t : PayloadType)
  | list (t : PayloadType)

namespace PayloadType

@[reducible]
def Value : PayloadType → Type
  | containerKind => ContainerKind
  | valueKind => ValueKind
  | text => String
  | duration => Duration
  | metricValue => MetricValue
  | metricRequest => MetricRequest
  | metricSelector => MetricSelector
  | batchRequest => BatchRequest
  | reading => Reading
  | readingBatch => ReadingBatch
  | metricSettings => MetricSettings
  | containerSettings => ContainerSettings
  | containerNotice => ContainerNotice
  | metricNotice => MetricNotice
  | policyNotice => PolicyNotice
  | envelope => Envelope
  | optional t => Option t.Value
  | list t => List t.Value

def codec : (t : PayloadType) → Codec t.Value
  | containerKind => (Payload.codec : Codec ContainerKind)
  | valueKind => (Payload.codec : Codec ValueKind)
  | text => (Payload.codec : Codec String)
  | duration => Codec.duration
  | metricValue => (Payload.codec : Codec MetricValue)
  | metricRequest => (Payload.codec : Codec MetricRequest)
  | metricSelector => (Payload.codec : Codec MetricSelector)
  | batchRequest => (Payload.codec : Codec BatchRequest)
  | reading => (Payload.codec : Codec Reading)
  | readingBatch => (Payload.codec : Codec ReadingBatch)
  | metricSettings => (Payload.codec : Codec MetricSettings)
  | containerSettings => (Payload.codec : Codec ContainerSettings)
  | containerNotice => (Payload.codec : Codec ContainerNotice)
  | metricNotice => (Payload.codec : Codec MetricNotice)
  | policyNotice => (Payload.codec : Codec PolicyNotice)
  | envelope => (Payload.codec : Codec Envelope)
  | optional t => Codec.option t.codec
  | list t => Codec.list t.codec

instance (t : PayloadType) : Payload t.Value := ⟨t.codec⟩

/-- The texts and lists of a payload are short enough to be written behind their length. -/
def Fits : (t : PayloadType) → t.Value → Prop
  | text, s => Countable s.utf8ByteSize
  | metricValue, v => v.Fits
  | batchRequest, r => Countable r.metrics.length
  | reading, r => r.Fits
  | readingBatch, b => Countable b.readings.length ∧ ∀ r ∈ b.readings, r.Fits
  | envelope, e => e.Fits
  | optional t, a? => ∀ a ∈ a?, t.Fits a
  | list t, as => Countable as.length ∧ ∀ a ∈ as, t.Fits a
  | _, _ => True

end PayloadType

/-!
## Models
-/

namespace Codec

theorem readsBack_containerKind (k : ContainerKind) : containerKind.ReadsBack k :=
  readsBack_variant (by decide) k.mem_all

theorem readsBack_valueKind (k : ValueKind) : valueKind.ReadsBack k :=
  readsBack_variant (by decide) k.mem_all

theorem readsBack_metricValue {v : MetricValue} (h : v.Fits) : metricValue.ReadsBack v := by
  intro rest
  have hnumber : ∀ n < 4, ∀ bs, readLittleEndian 4 (littleEndian 4 n ++ bs) = .ok (n, bs) :=
    fun n hn => readLittleEndian_littleEndian (Nat.lt_trans hn (by decide))
  cases v with
  | int v =>
      have hvalue := readsBack_i64 v rest
      simp only [metricValue, List.append_assoc, iso, bind, Except.bind, hvalue,
        hnumber 0 (by decide)]
  | float bits =>
      have hvalue := readsBack_u64 bits rest
      simp only [metricValue, List.append_assoc, iso, bind, Except.bind, hvalue,
        hnumber 1 (by decide)]
  | text v =>
      have hvalue := readsBack_text h rest
      simp only [metricValue, List.append_assoc, iso, bind, Except.bind, hvalue,
        hnumber 2 (by decide)]
  | bool v =>
      have hvalue := readsBack_bool v rest
      simp only [metricValue, List.append_assoc, iso, bind, Except.bind, hvalue,
        hnumber 3 (by decide)]

theorem readsBack_metricRequest (r : MetricRequest) : metricRequest.ReadsBack r := by
  apply ReadsBack.iso
  · apply (readsBack_i32 r.container).pair
    apply (readsBack_containerKind r.containerKind).pair
    apply (readsBack_i32 r.metric).pair
    exact (readsBack_valueKind r.valueKind).pair (readsBack_i32 r.policy)
  · rfl

theorem readsBack_metricSelector (s : MetricSelector) : metricSelector.ReadsBack s := by
  apply ReadsBack.iso
  · exact (readsBack_i32 s.metric).pair (readsBack_valueKind s.valueKind)
  · rfl

theorem readsBack_batchRequest {r : BatchRequest} (h : Countable r.metrics.length) :
    batchRequest.ReadsBack r := by
  apply ReadsBack.iso
  · apply (readsBack_i32 r.container).pair
    apply (readsBack_containerKind r.containerKind).pair
    exact readsBack_list h fun s _ => readsBack_metricSelector s
  · rfl

theorem readsBack_reading {r : Reading} (h : r.Fits) : reading.ReadsBack r := by
  apply ReadsBack.iso
  · apply (readsBack_i32 r.container).pair
    apply (readsBack_i32 r.metric).pair
    apply (readsBack_valueKind r.valueKind).pair
    apply ReadsBack.pair _ (readsBack_i64 r.timestamp)
    exact ReadsBack.option fun v hv => readsBack_metricValue (h v hv)
  · rfl

theorem readsBack_readingBatch {b : ReadingBatch} (hlength : Countable b.readings.length)
    (h : ∀ r ∈ b.readings, r.Fits) : readingBatch.ReadsBack b := by
  apply ReadsBack.iso
  · apply (readsBack_i32 b.container).pair
    exact readsBack_list hlength fun r hr => readsBack_reading (h r hr)
  · rfl

theorem readsBack_metricSettings (s : MetricSettings) : metricSettings.ReadsBack s := by
  apply ReadsBack.iso
  · exact (readsBack_u16 s.budget).pair (readsBack_duration s.cacheFor)
  · rfl

theorem readsBack_containerSettings (s : ContainerSettings) : containerSettings.ReadsBack s :=
  (readsBack_duration s.interval).iso rfl

theorem readsBack_containerNotice (n : ContainerNotice) : containerNotice.ReadsBack n :=
  (readsBack_i32 n.container).iso rfl

theorem readsBack_metricNotice (n : MetricNotice) : metricNotice.ReadsBack n := by
  apply ReadsBack.iso
  · exact (readsBack_i32 n.container).pair (readsBack_i32 n.metric)
  · rfl

theorem readsBack_policyNotice (n : PolicyNotice) : policyNotice.ReadsBack n :=
  (readsBack_i32 n.policy).iso rfl

end Codec

/-!
## Payloads of any type
-/

namespace PayloadType

theorem readsBack {t : PayloadType} {v : t.Value} (h : t.Fits v) : t.codec.ReadsBack v := by
  induction t with
  | containerKind => exact Codec.readsBack_containerKind v
  | valueKind => exact Codec.readsBack_valueKind v
  | text => exact Codec.readsBack_text h
  | duration => exact Codec.readsBack_duration v
  | metricValue => exact Codec.readsBack_metricValue h
  | metricRequest => exact Codec.readsBack_metricRequest v
  | metricSelector => exact Codec.readsBack_metricSelector v
  | batchRequest => exact Codec.readsBack_batchRequest h
  | reading => exact Codec.readsBack_reading h
  | readingBatch => exact Codec.readsBack_readingBatch h.1 h.2
  | metricSettings => exact Codec.readsBack_metricSettings v
  | containerSettings => exact Codec.readsBack_containerSettings v
  | containerNotice => exact Codec.readsBack_containerNotice v
  | metricNotice => exact Codec.readsBack_metricNotice v
  | policyNotice => exact Codec.readsBack_policyNotice v
  | envelope => exact Envelope.Fits.readsBack h
  | optional t ih => exact Codec.ReadsBack.option fun a ha => ih (h a ha)
  | list t ih => exact Codec.readsBack_list h.1 fun a ha => ih (h.2 a ha)

/-- Every payload is found in front of whatever follows it, with the same bits in its floating point
numbers.  So a payload that is packed into an envelope is what the envelope is unpacked to, and an
envelope that is written as a frame is read from it. -/
theorem decode_encode :
    (∀ (t : PayloadType) (v : t.Value), t.Fits v →
      (∀ rest, decode (encode v ++ rest) = .ok (v, rest)) ∧
        ∀ status, (Envelope.pack v status).unpack = .ok v) ∧
      ∀ e : Envelope, e.Fits → Envelope.ofFrame e.toFrame = .ok e := by
  constructor
  · intro t v h
    exact ⟨readsBack h, fun _ => (readsBack h).read⟩
  · intro e h
    exact h.ofFrame_toFrame

/-- A batch with a number that is no number, a text of several bytes a character, and a reading
without a value. -/
def mixedBatch : ReadingBatch where
  container := -7
  readings := [
    { container := -7, metric := 1, valueKind := .float, value := some (.float 0x7FF0000000000001)
      timestamp := 1700000000 },
    { container := -7, metric := 2, valueKind := .text, value := some (.text "9 µs")
      timestamp := 0 },
    { container := -7, metric := 3, valueKind := .bool, value := none, timestamp := -1 }]

theorem decode_encode_mixedBatch :
    let e := (Envelope.pack mixedBatch .ok).withCorrelation "µ"
    Fits readingBatch mixedBatch ∧
      (∀ rest, decode (encode mixedBatch ++ rest) = .ok (mixedBatch, rest)) ∧
      e.Fits ∧ Envelope.ofFrame e.toFrame = .ok e := by
  intro e
  have hbatch : Fits readingBatch mixedBatch := by
    refine ⟨by decide, ?_⟩
    intro r hr
    simp only [mixedBatch, List.mem_cons, List.not_mem_nil, or_false] at hr
    rcases hr with rfl | rfl | rfl <;> intro v hv <;> cases hv
    · trivial
    · show Countable _
      decide
  have hframe : e.Fits := by constructor <;> decide
  exact ⟨hbatch, (decode_encode.1 readingBatch mixedBatch hbatch).1, hframe,
    decode_encode.2 e hframe⟩

end PayloadType
end Wire
end MetricGateway
