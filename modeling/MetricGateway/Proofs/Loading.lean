import Mathlib.Data.List.Nodup
import MetricGateway.Proofs.Text.Paths

/-!
# Which settings an environment gives

Each setting has a variable of its own.  The settings are what their own variables write, or what
they are without one; all of them are, or none is.  What spoils them is a variable whose text writes
no number or no truth value where one is needed, and a variable whose name leads into the value of a
setting that has no variable of its own.

Where a setting has a variable of its own and another one leads into it, either of the two may be
the one that counts.  All that is said then is that the settings are all as written or all at their
defaults.
-/

namespace MetricGateway

namespace Duration

theorem toNanos_ofMillis (ms : UInt64) : (ofMillis ms).toNanos = nanosPerMilli * ms.toNat := by
  have hsmall : ms.toNat % 1000 * nanosPerMilli < UInt32.size := by
    simp only [nanosPerMilli, UInt32.size]
    omega
  have hnanos : (ofMillis ms).nanos.toNat = ms.toNat % 1000 * nanosPerMilli :=
    UInt32.toNat_ofNat_of_lt' hsmall
  have hsecs : (ofMillis ms).secs.toNat = ms.toNat / 1000 := UInt64.toNat_div ms 1000
  unfold toNanos
  rw [hnanos, hsecs]
  simp only [nanosPerSec, nanosPerMilli]
  omega

end Duration

namespace Environment

open Text (Numeral)

/-!
## What a text writes
-/

def words : Bool → List String
  | true => ["true", "on", "yes"]
  | false => ["false", "off", "no"]

/-- A number is written in digits, or as a word without regard to case. -/
inductive WritesNumber (text : String) : Nat → Prop where
  | numeral {n : Nat} (h : Numeral text.toList n) : WritesNumber text n
  | word {b : Bool} (h : text.toLower ∈ words b) : WritesNumber text b.toNat

/-- A truth value is written as a digit, or as a word without regard to case. -/
inductive WritesFlag (text : String) : Bool → Prop where
  | one (h : text = "1") : WritesFlag text true
  | zero (h : text = "0") : WritesFlag text false
  | word {b : Bool} (h : text.toLower ∈ words b) : WritesFlag text b

/-- A number below a limit is written. -/
def WritesBelow (limit : Nat) (text : String) (n : Nat) : Prop := WritesNumber text n ∧ n < limit

def WritesWord (text : String) (n : UInt64) : Prop := WritesNumber text n.toNat

theorem word?_eq_some_iff {text : String} {b : Bool} :
    word? text = some b ↔ text.toLower ∈ words b := by
  have hyes : ∀ w : String, (w = "true" ∨ w = "on" ∨ w = "yes") ↔ w ∈ words true := by
    simp [words]
  have hno : ∀ w : String, (w = "false" ∨ w = "off" ∨ w = "no") ↔ w ∈ words false := by
    simp [words]
  have hdisjoint : ∀ w ∈ words true, w ∉ words false := by decide
  unfold word?
  simp only [hyes, hno]
  split
  next h => cases b <;> simp [h, hdisjoint _ h]
  next h =>
    split
    next h' => cases b <;> simp [h, h']
    next h' => cases b <;> simp [h, h']

theorem toLower_of_isDigit {c : Char} (h : c.isDigit = true) : c.toLower = c := by
  obtain ⟨-, hhigh⟩ := Char.isDigit_iff_toNat.mp h
  have hlower : ¬(c.val ≥ 'A'.val ∧ c.val ≤ 'Z'.val) := by
    rintro ⟨hlow, -⟩
    have hletter : 'A'.toNat ≤ c.toNat := UInt32.le_iff_toNat_le.mp hlow
    exact absurd (Nat.le_trans hletter hhigh) (by decide)
  exact dif_neg hlower

theorem exists_digit_of_numeral {cs : List Char} {n : Nat} (h : Numeral cs n) :
    ∃ c ∈ cs, c.isDigit = true := by
  have hmem : ∀ {digits : List Char} (hne : digits ≠ []), digits.head hne ∈ digits :=
    fun hne => List.head_mem hne
  cases h with
  | plain hne hdigits => exact ⟨_, hmem hne, hdigits _ (hmem hne)⟩
  | signed hne hdigits => exact ⟨_, List.mem_cons_of_mem _ (hmem hne), hdigits _ (hmem hne)⟩

theorem word?_of_numeral {text : String} {n : Nat} (h : Numeral text.toList n) :
    word? text = none := by
  obtain ⟨c, hmem, hdigit⟩ := exists_digit_of_numeral h
  have hlower : c ∈ text.toLower.toList := by
    show c ∈ (text.map Char.toLower).toList
    rw [String.toList_map]
    exact List.mem_map.mpr ⟨c, hmem, toLower_of_isDigit hdigit⟩
  have hwords : ∀ b, ∀ w ∈ words b, w.toList.any Char.isDigit = false := by decide +kernel
  cases hword : word? text with
  | none => rfl
  | some b =>
      have hletters := hwords b _ (word?_eq_some_iff.mp hword)
      exact absurd hdigit (List.any_eq_false.mp hletters c hlower)

theorem number?_eq_some_iff {limit : Nat} (hlimit : 1 < limit) {text : String} {n : Nat} :
    number? limit text = some n ↔ WritesBelow limit text n := by
  have hword : ∀ b : Bool, (if b then 1 else 0) = b.toNat := by decide
  unfold number?
  constructor
  · intro h
    split at h
    next b hb =>
      cases h
      rw [hword]
      exact ⟨.word (word?_eq_some_iff.mp hb), Nat.lt_of_le_of_lt b.toNat_le hlimit⟩
    next =>
      obtain ⟨hnumeral, hlt⟩ := Text.unsigned?_eq_some_iff.mp h
      exact ⟨.numeral hnumeral, hlt⟩
  · rintro ⟨hwrites, hlt⟩
    cases hwrites with
    | numeral hnumeral =>
        rw [word?_of_numeral hnumeral]
        exact Text.unsigned?_eq_some_iff.mpr ⟨hnumeral, hlt⟩
    | word hmem =>
        rw [word?_eq_some_iff.mpr hmem]
        exact congrArg some (hword _)

theorem word_eq_some_iff {text : String} {n : UInt64} :
    (number? UInt64.size text).map UInt64.ofNat = some n ↔ WritesWord text n := by
  have hlimit : 1 < UInt64.size := by decide
  rw [Option.map_eq_some_iff]
  constructor
  · rintro ⟨k, hk, rfl⟩
    obtain ⟨hwrites, hlt⟩ := (number?_eq_some_iff hlimit).mp hk
    unfold WritesWord
    rw [UInt64.toNat_ofNat_of_lt' hlt]
    exact hwrites
  · intro hwrites
    exact ⟨n.toNat, (number?_eq_some_iff hlimit).mpr ⟨hwrites, n.toNat_lt⟩, UInt64.ofNat_toNat⟩

theorem flag?_eq_some_iff {text : String} {b : Bool} : flag? text = some b ↔ WritesFlag text b := by
  unfold flag?
  constructor
  · intro h
    split at h
    next hone =>
      cases h
      exact .one hone
    next =>
      split at h
      next hzero =>
        cases h
        exact .zero hzero
      next => exact .word (word?_eq_some_iff.mp h)
  · intro h
    cases h with
    | one hone => exact if_pos hone
    | zero hzero =>
        subst hzero
        rfl
    | word hmem =>
        have hdigits : ∀ digit ∈ ["1", "0"], word? digit = none := by decide +kernel
        have hword := word?_eq_some_iff.mpr hmem
        rw [if_neg, if_neg, hword]
        · rintro rfl
          rw [hdigits "0" (by decide)] at hword
          cases hword
        · rintro rfl
          rw [hdigits "1" (by decide)] at hword
          cases hword

/-!
## Which variable a setting is read from
-/

/-- No two names differ only in case. -/
def Distinct (vars : Variables) : Prop := (vars.map fun v => v.1.toLower).Nodup

/-- A variable with the given name, without regard to case, has the given text. -/
def HasText (vars : Variables) (name text : String) : Prop :=
  ∃ v ∈ vars, v.1.toLower = name ∧ v.2 = text

/-- A setting is what its own variable writes, or what it is without one. -/
def Given {α : Type} (vars : Variables) (name : String) (writes : String → α → Prop)
    (fallback : α → Prop) (a : α) : Prop :=
  (∃ text, HasText vars name text ∧ writes text a) ∨
    (∀ text, ¬HasText vars name text) ∧ fallback a

/-- An instance that was given no identity has the name of its host, or else a name of its own. -/
def HostNamed (vars : Variables) (suffix service : String) : Prop :=
  ("HOSTNAME", service) ∈ vars ∨
    (∀ v ∈ vars, v.1 ≠ "HOSTNAME") ∧ service = "rts-" ++ suffix

variable {vars : Variables} {suffix : String}

theorem Distinct.eq (h : Distinct vars) {v w : String × String} (hv : v ∈ vars) (hw : w ∈ vars)
    (heq : v.1.toLower = w.1.toLower) : v = w :=
  List.inj_on_of_nodup_map h hv hw heq

theorem Distinct.hasText_unique (h : Distinct vars) {name text text' : String}
    (hfound : HasText vars name text) (hfound' : HasText vars name text') : text = text' := by
  obtain ⟨v, hmem, hname, rfl⟩ := hfound
  obtain ⟨w, hmem', hname', rfl⟩ := hfound'
  rw [h.eq hmem hmem' (hname.trans hname'.symm)]

theorem value?_eq_none_iff {name : String} :
    value? vars name = none ↔ ∀ text, ¬HasText vars name text := by
  unfold value? HasText
  rw [Option.map_eq_none_iff, List.find?_eq_none]
  simp only [List.mem_reverse, decide_eq_true_eq]
  constructor
  · rintro habsent text ⟨v, hmem, hname, -⟩
    exact habsent v hmem hname
  · intro habsent v hmem hname
    exact habsent v.2 ⟨v, hmem, hname, rfl⟩

theorem hasText_of_value? {name text : String} (h : value? vars name = some text) :
    HasText vars name text := by
  obtain ⟨v, hfind, htext⟩ := Option.map_eq_some_iff.mp h
  have hname := List.find?_some hfind
  exact ⟨v, List.mem_reverse.mp (List.mem_of_find?_eq_some hfind), of_decide_eq_true hname, htext⟩

theorem Distinct.field?_eq_some_iff {α : Type} (h : Distinct vars) {name : String}
    {parse : String → Option α} {fallback a : α} :
    field? vars name parse fallback = some a ↔
      (∀ v ∈ vars, leadsInto name v.1 = false) ∧
        Given vars name (fun text a => parse text = some a) (· = fallback) a := by
  unfold field? Given
  split
  next hinside =>
    obtain ⟨v, hmem, hleads⟩ := List.any_eq_true.mp hinside
    constructor
    · intro h
      cases h
    · rintro ⟨houtside, -⟩
      rw [houtside v hmem] at hleads
      cases hleads
  next hinside =>
    have houtside : ∀ v ∈ vars, leadsInto name v.1 = false := by
      rw [Bool.not_eq_true, List.any_eq_false] at hinside
      exact fun v hmem => Bool.eq_false_iff.mpr (hinside v hmem)
    rw [and_iff_right houtside]
    cases hvalue : value? vars name with
    | none =>
        have habsent := value?_eq_none_iff.mp hvalue
        constructor
        · intro heq
          exact Or.inr ⟨habsent, (Option.some.inj heq).symm⟩
        · rintro (⟨text, hfound, -⟩ | ⟨-, rfl⟩)
          · exact absurd hfound (habsent text)
          · rfl
    | some text =>
        have hfound := hasText_of_value? hvalue
        constructor
        · intro hparse
          exact Or.inl ⟨text, hfound, hparse⟩
        · rintro (⟨text', hfound', hparse⟩ | ⟨habsent, -⟩)
          · rw [h.hasText_unique hfound hfound']
            exact hparse
          · exact absurd hfound (habsent text)

theorem Distinct.hostNamed_iff (h : Distinct vars) {service : String} :
    HostNamed vars suffix service ↔ service = defaultService vars suffix := by
  unfold HostNamed defaultService
  cases hlookup : vars.lookup "HOSTNAME" with
  | none =>
      have habsent : ∀ v ∈ vars, v.1 ≠ "HOSTNAME" := by
        intro v hmem hname
        have hother := List.lookup_eq_none_iff.mp hlookup v hmem
        rw [hname] at hother
        cases hother
      constructor
      · rintro (hmem | ⟨-, heq⟩)
        · exact absurd rfl (habsent _ hmem)
        · exact heq
      · exact fun heq => Or.inr ⟨habsent, heq⟩
  | some host =>
      have hhost : ("HOSTNAME", host) ∈ vars := by
        obtain ⟨before, after, rfl, -⟩ := List.lookup_eq_some_iff.mp hlookup
        exact List.mem_append_right before List.mem_cons_self
      constructor
      · rintro (hmem | ⟨habsent, -⟩)
        · exact (Prod.mk.inj (h.eq hmem hhost rfl)).2
        · exact absurd rfl (habsent _ hhost)
      · rintro rfl
        exact Or.inl hhost

/-!
## All settings
-/

def settingNames : List String :=
  ["rts_service_id", "rts_api_port", "rts_fetch_timeout_ms", "rts_reconnect_delay_ms",
    "rts_sender_count", "rts_message_ttl_ms", "rts_history_enabled"]

/-- Every setting is what it is without a variable. -/
structure AllDefault (vars : Variables) (suffix : String) (e : Environment) : Prop where
  service : HostNamed vars suffix e.service
  apiPort : e.apiPort = 8080
  fetchTimeoutMs : e.fetchTimeoutMs = 25000
  reconnectDelayMs : e.reconnectDelayMs = 5000
  senderCount : e.senderCount = 2
  messageTtlMs : e.messageTtlMs = 30000
  historyEnabled : e.historyEnabled = false

/-- Every setting is what its own variable writes, or what it is without one. -/
structure AsWritten (vars : Variables) (suffix : String) (e : Environment) : Prop where
  service : Given vars "rts_service_id" (· = ·) (HostNamed vars suffix) e.service
  apiPort : Given vars "rts_api_port" (WritesBelow UInt16.size) (· = 8080) e.apiPort
  fetchTimeoutMs : Given vars "rts_fetch_timeout_ms" WritesWord (· = 25000) e.fetchTimeoutMs
  reconnectDelayMs : Given vars "rts_reconnect_delay_ms" WritesWord (· = 5000) e.reconnectDelayMs
  senderCount : Given vars "rts_sender_count" (WritesBelow UInt64.size) (· = 2) e.senderCount
  messageTtlMs : Given vars "rts_message_ttl_ms" WritesWord (· = 30000) e.messageTtlMs
  historyEnabled : Given vars "rts_history_enabled" WritesFlag (· = false) e.historyEnabled

def numberNames : List String :=
  ["rts_fetch_timeout_ms", "rts_reconnect_delay_ms", "rts_sender_count", "rts_message_ttl_ms"]

/-- The text of a variable is none of those that its setting needs. -/
inductive Malformed (v : String × String) : Prop where
  | port (hname : v.1.toLower = "rts_api_port") (htext : ∀ n, ¬WritesBelow UInt16.size v.2 n)
  | number (hname : v.1.toLower ∈ numberNames) (htext : ∀ n, ¬WritesBelow UInt64.size v.2 n)
  | flag (hname : v.1.toLower = "rts_history_enabled") (htext : ∀ b, ¬WritesFlag v.2 b)

theorem Malformed.name_mem {v : String × String} (h : Malformed v) :
    v.1.toLower ∈ "rts_api_port" :: "rts_history_enabled" :: numberNames := by
  cases h with
  | port hname => exact hname ▸ List.mem_cons_self
  | number hname => exact List.mem_cons_of_mem _ (List.mem_cons_of_mem _ hname)
  | flag hname => exact hname ▸ List.mem_cons_of_mem _ List.mem_cons_self

/-- No variable leads into the value of a setting. -/
def NoneInside (vars : Variables) : Prop :=
  ∀ name ∈ settingNames, ∀ v ∈ vars, ¬LeadsInto name v.1

theorem leadsInto_setting_iff {name key : String} (hname : name ∈ settingNames) :
    leadsInto name key = true ↔ LeadsInto name key := by
  have hplain : ∀ name ∈ settingNames, name.toList.all isNameChar = true := by decide +kernel
  exact leadsInto_iff (List.all_eq_true.mp (hplain name hname))

theorem noneInside_iff :
    NoneInside vars ↔ ∀ name ∈ settingNames, ∀ v ∈ vars, leadsInto name v.1 = false := by
  apply forall₂_congr
  intro name hname
  apply forall₂_congr
  intro v _
  rw [← leadsInto_setting_iff hname, Bool.not_eq_true]

theorem Distinct.parse?_eq_some_iff (h : Distinct vars) {e : Environment} :
    parse? vars suffix = some e ↔ NoneInside vars ∧ AsWritten vars suffix e := by
  have hlimit : 1 < UInt16.size := by decide
  have hlimit' : 1 < UInt64.size := by decide
  have hhost : HostNamed vars suffix = (· = defaultService vars suffix) :=
    funext fun service => propext h.hostNamed_iff
  rw [noneInside_iff]
  unfold parse?
  simp only [Option.bind_eq_bind, Option.bind_eq_some_iff, h.field?_eq_some_iff,
    word_eq_some_iff, number?_eq_some_iff hlimit, number?_eq_some_iff hlimit',
    flag?_eq_some_iff, Option.some.injEq]
  constructor
  · rintro ⟨service, ⟨hs, hservice⟩, port, ⟨hp, hport⟩, fetch, ⟨hf, hfetch⟩, delay, ⟨hd, hdelay⟩,
      count, ⟨hc, hcount⟩, ttl, ⟨ht, httl⟩, history, ⟨hh, hhistory⟩, heq⟩
    cases heq
    refine ⟨?_, hhost ▸ hservice, hport, hfetch, hdelay, hcount, httl, hhistory⟩
    unfold settingNames
    simp only [List.forall_mem_cons]
    exact ⟨hs, hp, hf, hd, hc, ht, hh, fun _ hmem => absurd hmem List.not_mem_nil⟩
  · rintro ⟨hnone, hall⟩
    have hservice := hall.service
    rw [hhost] at hservice
    exact ⟨e.service, ⟨hnone _ (by decide), hservice⟩,
      e.apiPort, ⟨hnone _ (by decide), hall.apiPort⟩,
      e.fetchTimeoutMs, ⟨hnone _ (by decide), hall.fetchTimeoutMs⟩,
      e.reconnectDelayMs, ⟨hnone _ (by decide), hall.reconnectDelayMs⟩,
      e.senderCount, ⟨hnone _ (by decide), hall.senderCount⟩,
      e.messageTtlMs, ⟨hnone _ (by decide), hall.messageTtlMs⟩,
      e.historyEnabled, ⟨hnone _ (by decide), hall.historyEnabled⟩, rfl⟩

theorem Distinct.allDefault (h : Distinct vars) :
    AllDefault vars suffix (default vars suffix) where
  service := h.hostNamed_iff.mpr rfl
  apiPort := rfl
  fetchTimeoutMs := rfl
  reconnectDelayMs := rfl
  senderCount := rfl
  messageTtlMs := rfl
  historyEnabled := rfl

/-!
## Spoiled settings
-/

/-- A variable spoils all settings if its text is none of those that its setting needs, or if it
leads into a setting that has no variable of its own. -/
def Spoils (vars : Variables) (v : String × String) : Prop :=
  Malformed v ∨
    ∃ name ∈ settingNames, LeadsInto name v.1 ∧ ∀ text, ¬HasText vars name text

theorem exists_given {α : Type} {name : String} {writes : String → α → Prop}
    {fallback : α → Prop} (hwrites : ∀ text, HasText vars name text → ∃ a, writes text a)
    (hfallback : ∃ a, fallback a) : ∃ a, Given vars name writes fallback a := by
  by_cases hown : ∃ text, HasText vars name text
  · obtain ⟨text, hfound⟩ := hown
    obtain ⟨a, ha⟩ := hwrites text hfound
    exact ⟨a, Or.inl ⟨text, hfound, ha⟩⟩
  · obtain ⟨a, ha⟩ := hfallback
    exact ⟨a, Or.inr ⟨not_exists.mp hown, ha⟩⟩

theorem Distinct.writes_of_given {α : Type} (h : Distinct vars) {name text : String}
    {writes : String → α → Prop} {fallback : α → Prop} {a : α}
    (hgiven : Given vars name writes fallback a) (hfound : HasText vars name text) :
    writes text a := by
  rcases hgiven with ⟨text', hfound', hwrites⟩ | ⟨habsent, -⟩
  · rw [h.hasText_unique hfound hfound']
    exact hwrites
  · exact absurd hfound (habsent text)

/-- Where every text is one of those that its setting needs, the settings can be as written. -/
theorem Distinct.exists_asWritten (h : Distinct vars) (hwell : ∀ v ∈ vars, ¬Malformed v) :
    ∃ e, AsWritten vars suffix e := by
  have hsmall : ∀ text, HasText vars "rts_api_port" text →
      ∃ n, WritesBelow UInt16.size text n := by
    rintro text ⟨v, hmem, hname, rfl⟩
    by_contra hnone
    exact hwell v hmem (.port hname (not_exists.mp hnone))
  have hnumber : ∀ name ∈ numberNames, ∀ text, HasText vars name text →
      ∃ n, WritesBelow UInt64.size text n := by
    rintro name hname text ⟨v, hmem, rfl, rfl⟩
    by_contra hnone
    exact hwell v hmem (.number hname (not_exists.mp hnone))
  have hword : ∀ name ∈ numberNames, ∀ text, HasText vars name text → ∃ n, WritesWord text n := by
    intro name hname text hfound
    obtain ⟨n, hwrites, hlt⟩ := hnumber name hname text hfound
    refine ⟨UInt64.ofNat n, ?_⟩
    unfold WritesWord
    rw [UInt64.toNat_ofNat_of_lt' hlt]
    exact hwrites
  have hflag : ∀ text, HasText vars "rts_history_enabled" text → ∃ b, WritesFlag text b := by
    rintro text ⟨v, hmem, hname, rfl⟩
    by_contra hnone
    exact hwell v hmem (.flag hname (not_exists.mp hnone))
  obtain ⟨service, hservice⟩ :
      ∃ s, Given vars "rts_service_id" (· = ·) (HostNamed vars suffix) s :=
    exists_given (fun text _ => ⟨text, rfl⟩) ⟨_, h.hostNamed_iff.mpr rfl⟩
  obtain ⟨port, hport⟩ : ∃ n, Given vars "rts_api_port" (WritesBelow UInt16.size) (· = 8080) n :=
    exists_given hsmall ⟨_, rfl⟩
  obtain ⟨fetch, hfetch⟩ : ∃ n, Given vars "rts_fetch_timeout_ms" WritesWord (· = 25000) n :=
    exists_given (hword _ (by decide)) ⟨_, rfl⟩
  obtain ⟨delay, hdelay⟩ : ∃ n, Given vars "rts_reconnect_delay_ms" WritesWord (· = 5000) n :=
    exists_given (hword _ (by decide)) ⟨_, rfl⟩
  obtain ⟨count, hcount⟩ :
      ∃ n, Given vars "rts_sender_count" (WritesBelow UInt64.size) (· = 2) n :=
    exists_given (hnumber _ (by decide)) ⟨_, rfl⟩
  obtain ⟨ttl, httl⟩ : ∃ n, Given vars "rts_message_ttl_ms" WritesWord (· = 30000) n :=
    exists_given (hword _ (by decide)) ⟨_, rfl⟩
  obtain ⟨history, hhistory⟩ :
      ∃ b, Given vars "rts_history_enabled" WritesFlag (· = false) b :=
    exists_given hflag ⟨_, rfl⟩
  exact ⟨⟨service, port, fetch, delay, count, ttl, history⟩, hservice, hport, hfetch, hdelay,
    hcount, httl, hhistory⟩

/-- Where the settings can be as written, every text is one of those that its setting needs. -/
theorem AsWritten.not_malformed {e : Environment} (hall : AsWritten vars suffix e)
    (h : Distinct vars) {v : String × String} (hmem : v ∈ vars) : ¬Malformed v := by
  intro hbad
  cases hbad with
  | port hname htext =>
      exact htext _ (h.writes_of_given hall.apiPort ⟨v, hmem, hname, rfl⟩)
  | number hname htext =>
      have hword : ∀ {name fallback} {n : UInt64}, v.1.toLower = name →
          ¬Given vars name WritesWord fallback n := by
        intro name fallback n hv hgiven
        have hwrites : WritesWord v.2 n := h.writes_of_given hgiven ⟨v, hmem, hv, rfl⟩
        exact htext _ ⟨hwrites, n.toNat_lt⟩
      unfold numberNames at hname
      simp only [List.mem_cons, List.not_mem_nil, or_false] at hname
      rcases hname with hname | hname | hname | hname
      · exact hword hname hall.fetchTimeoutMs
      · exact hword hname hall.reconnectDelayMs
      · exact htext _ (h.writes_of_given hall.senderCount ⟨v, hmem, hname, rfl⟩)
      · exact hword hname hall.messageTtlMs
  | flag hname htext =>
      exact htext _ (h.writes_of_given hall.historyEnabled ⟨v, hmem, hname, rfl⟩)

theorem Distinct.parse?_of_spoils (h : Distinct vars) {v : String × String} (hmem : v ∈ vars)
    (hspoils : Spoils vars v) : parse? vars suffix = none := by
  cases hparse : parse? vars suffix with
  | none => rfl
  | some e =>
      obtain ⟨hnone, hall⟩ := h.parse?_eq_some_iff.mp hparse
      rcases hspoils with hbad | ⟨name, hname, hleads, -⟩
      · exact absurd hbad (hall.not_malformed h hmem)
      · exact absurd hleads (hnone name hname v hmem)

/-!
## Variables that do not matter
-/

/-- A variable has to do with a setting or with the name of the host. -/
def Matters (v : String × String) : Prop :=
  v.1 = "HOSTNAME" ∨ ∃ name ∈ settingNames, v.1.toLower = name ∨ LeadsInto name v.1

section Filter

variable {p : String × String → Bool} (hp : ∀ v, Matters v → p v = true)
include hp

theorem value?_filter {name : String} (hname : name ∈ settingNames) :
    value? (vars.filter p) name = value? vars name := by
  have hown : ∀ v : String × String,
      decide (p v = true ∧ decide (v.1.toLower = name) = true) = decide (v.1.toLower = name) := by
    intro v
    by_cases hv : v.1.toLower = name
    · simp [hv, hp v (Or.inr ⟨name, hname, Or.inl hv⟩)]
    · simp [hv]
  unfold value?
  rw [← List.filter_reverse, List.find?_filter]
  simp only [hown]

theorem field?_filter {α : Type} {name : String} (hname : name ∈ settingNames)
    (parse : String → Option α) (fallback : α) :
    field? (vars.filter p) name parse fallback = field? vars name parse fallback := by
  have hinside : ((vars.filter p).any fun v => leadsInto name v.1) =
      vars.any fun v => leadsInto name v.1 := by
    rw [List.any_filter]
    apply List.any_congr rfl
    intro v
    cases hleads : leadsInto name v.1 with
    | false => exact Bool.and_false _
    | true =>
        rw [hp v (Or.inr ⟨name, hname, Or.inr ((leadsInto_setting_iff hname).mp hleads)⟩)]
        rfl
  unfold field?
  rw [hinside, value?_filter hp hname]

theorem lookup_filter_hostname : (vars.filter p).lookup "HOSTNAME" = vars.lookup "HOSTNAME" := by
  induction vars with
  | nil => rfl
  | cons v vars ih =>
      obtain ⟨key, text⟩ := v
      rw [List.filter_cons]
      by_cases hkey : key = "HOSTNAME"
      · subst hkey
        rw [hp ("HOSTNAME", text) (Or.inl rfl)]
        rfl
      · have hother : ("HOSTNAME" == key) = false := beq_eq_false_iff_ne.mpr (Ne.symm hkey)
        rw [List.lookup_cons, hother, ← ih]
        split
        · rw [List.lookup_cons, hother]
        · rfl

theorem load_filter : load (vars.filter p) suffix = load vars suffix := by
  have hdefault : default (vars.filter p) suffix = default vars suffix := by
    unfold default defaultService
    rw [lookup_filter_hostname hp]
  unfold load parse?
  rw [hdefault]
  simp (disch := decide) only [field?_filter hp]

end Filter

/-!
## All or nothing
-/

/-- What the service is set up with: the settings as they were given, but for a pause between two
declarations that is too short. -/
structure Carries (s : ServiceSettings) (e : Environment) : Prop where
  service : s.service = e.service
  replyKey : s.resolver.replyKey = e.service
  reconnectDelay :
    s.channel.reconnectDelay.toNanos = nanosPerMilli * max e.reconnectDelayMs.toNat 100
  fetchTimeout : s.resolver.fetchTimeout.toNanos = nanosPerMilli * e.fetchTimeoutMs.toNat
  messageTtl : s.resolver.messageTtl.toNanos = nanosPerMilli * e.messageTtlMs.toNat
  senderCount : s.channel.senderCount = e.senderCount
  historyEnabled : s.historyEnabled = e.historyEnabled

theorem carries_settings (e : Environment) : Carries e.settings e where
  service := rfl
  replyKey := rfl
  reconnectDelay := by
    show (Duration.ofMillis (max e.reconnectDelayMs minReconnectDelayMs)).toNanos = _
    rw [Duration.toNanos_ofMillis, UInt64.toNat_max]
    rfl
  fetchTimeout := Duration.toNanos_ofMillis e.fetchTimeoutMs
  messageTtl := Duration.toNanos_ofMillis e.messageTtlMs
  senderCount := rfl
  historyEnabled := rfl

/-- The settings are all at their defaults if some variable spoils them.  They are all as written if
every text is one of those that its setting needs and no variable leads into a setting.  In any case
it is one or the other, variables that have to do with no setting can be left out, and the service
is set up with what comes out. -/
theorem load_all_or_nothing (h : Distinct vars) (suffix : String) :
    let e := load vars suffix
    ((∃ v ∈ vars, Spoils vars v) → AllDefault vars suffix e) ∧
      ((∀ v ∈ vars, ¬Malformed v) → NoneInside vars → AsWritten vars suffix e) ∧
      (AllDefault vars suffix e ∨ AsWritten vars suffix e) ∧
      (∀ p : String × String → Bool, (∀ v, Matters v → p v = true) →
        load (vars.filter p) suffix = e) ∧ Carries e.settings e := by
  intro e
  have hnone : parse? vars suffix = none → AllDefault vars suffix e := by
    intro hparse
    have he : e = default vars suffix := congrArg (Option.getD · (default vars suffix)) hparse
    exact he ▸ h.allDefault
  have hsome : ∀ {e'}, parse? vars suffix = some e' → AsWritten vars suffix e := by
    intro e' hparse
    have he : e = e' := congrArg (Option.getD · (default vars suffix)) hparse
    exact he ▸ (h.parse?_eq_some_iff.mp hparse).2
  refine ⟨?_, ?_, ?_, fun p hp => load_filter hp, carries_settings e⟩
  · rintro ⟨v, hmem, hspoils⟩
    exact hnone (h.parse?_of_spoils hmem hspoils)
  · intro hwell hinside
    obtain ⟨e', hall⟩ := h.exists_asWritten hwell
    exact hsome (h.parse?_eq_some_iff.mpr ⟨hinside, hall⟩)
  · cases hparse : parse? vars suffix with
    | none => exact Or.inl (hnone hparse)
    | some e' => exact Or.inr (hsome hparse)

/-- Variables of which none is malformed, but one leads into a setting. -/
def leadingInside : Variables :=
  [("HOSTNAME", "host-1"), ("RTS_API_PORT.X", "5"), ("RTS_SERVICE_ID", "svc")]

theorem distinct_leadingInside : Distinct leadingInside := by
  unfold Distinct
  decide +kernel

theorem load_all_or_nothing_leading_inside :
    let own : Variables := [("RTS_API_PORT", "+080"), ("rts_reconnect_delay_ms", "No")]
    let written : Variables := ("LANG", "C") :: own
    AllDefault leadingInside "0" (load leadingInside "0") ∧
      AsWritten written "0" (load written "0") ∧ load own "0" = load written "0" := by
  intro own written
  have hspoils : Spoils leadingInside ("RTS_API_PORT.X", "5") := by
    have hname : "rts_api_port" ∈ settingNames := by decide
    refine Or.inr ⟨_, hname, (leadsInto_setting_iff hname).mp (by decide +kernel), ?_⟩
    exact value?_eq_none_iff.mp (by decide +kernel)
  have hdistinct : Distinct written := by
    unfold Distinct
    decide +kernel
  have hport : WritesBelow UInt16.size "+080" 80 :=
    (number?_eq_some_iff (by decide)).mp (by decide +kernel)
  have hdelay : WritesBelow UInt64.size "No" 0 :=
    (number?_eq_some_iff (by decide)).mp (by decide +kernel)
  have hwell : ∀ v ∈ written, ¬Malformed v := by
    intro v hmem hbad
    simp only [written, own, List.mem_cons, List.not_mem_nil, or_false] at hmem
    rcases hmem with rfl | rfl | rfl
    · exact absurd hbad.name_mem (by decide +kernel)
    · cases hbad with
      | port _ htext => exact htext 80 hport
      | number hname => exact absurd hname (by decide +kernel)
      | flag hname => exact absurd hname (by decide +kernel)
    · cases hbad with
      | port hname => exact absurd hname (by decide +kernel)
      | number _ htext => exact htext 0 hdelay
      | flag hname => exact absurd hname (by decide +kernel)
  have hnone : NoneInside written := noneInside_iff.mpr (by decide +kernel)
  have hlang : ∀ v, Matters v → (v.1 != "LANG") = true := by
    intro v hmatters
    rw [bne_iff_ne]
    intro hv
    unfold Matters at hmatters
    rw [hv] at hmatters
    rcases hmatters with hhost | ⟨name, hname, hlower | hleads⟩
    · exact absurd hhost (by decide)
    · rw [← hlower] at hname
      exact absurd hname (by decide +kernel)
    · have hother : ∀ name ∈ settingNames, leadsInto name "LANG" = false := by decide +kernel
      rw [← leadsInto_setting_iff hname, hother name hname] at hleads
      cases hleads
  obtain ⟨hdefault, -, -, -, -⟩ := load_all_or_nothing distinct_leadingInside "0"
  obtain ⟨-, hwritten, -, hfilter, -⟩ := load_all_or_nothing hdistinct "0"
  exact ⟨hdefault ⟨_, by decide, hspoils⟩, hwritten hwell hnone, hfilter _ hlang⟩

/-- A variable that leads into a setting discards the others, well formed as they are. -/
theorem well_formed_but_default :
    ¬∀ (vars : Variables) (suffix : String), Distinct vars → (∀ v ∈ vars, ¬Malformed v) →
      AsWritten vars suffix (load vars suffix) := by
  intro halways
  have hwell : ∀ v ∈ leadingInside, ¬Malformed v := by
    have hothers : ∀ v ∈ leadingInside, v.1.toLower ∉
        "rts_api_port" :: "rts_history_enabled" :: numberNames := by decide +kernel
    exact fun v hmem hbad => hothers v hmem hbad.name_mem
  have hfound : HasText leadingInside "rts_service_id" "svc" :=
    ⟨("RTS_SERVICE_ID", "svc"), by decide, by decide +kernel, rfl⟩
  have hservice : (load leadingInside "0").service = "host-1" := by decide +kernel
  have hall := halways leadingInside "0" distinct_leadingInside hwell
  have hwritten := distinct_leadingInside.writes_of_given hall.service hfound
  rw [hservice] at hwritten
  exact absurd hwritten (by decide)

end Environment
end MetricGateway
