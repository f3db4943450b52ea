import Dnst.Foundation.SerialNumber
import Dnst.Keyset.CronNext

/-! # The validity window of signatures

Every signature over the DNSKEY, CDS and CDNSKEY RRsets carries the inception and
the expiration computed from the clock and two configured durations. The fields
have 32 bits; the renewal test reads them as seconds since the epoch.
-/

namespace Dnst.Keyset

open Effect

/-! ## Signing an RRset -/

/-- The configured durations that decide when signatures are valid. -/
structure SignatureSettings where
  inceptionOffset : Duration
  lifetime : Duration
  remainTime : Duration

def KeySetConfig.dnskeySettings (config : KeySetConfig) : SignatureSettings :=
  ⟨config.dnskeyInceptionOffset, config.dnskeySignatureLifetime, config.dnskeyRemainTime⟩

def KeySetConfig.cdsSettings (config : KeySetConfig) : SignatureSettings :=
  ⟨config.cdsInceptionOffset, config.cdsSignatureLifetime, config.cdsRemainTime⟩

def SignedRrset.settings (config : KeySetConfig) : SignedRrset → SignatureSettings
  | dnskey => config.dnskeySettings
  | cds => config.cdsSettings

/-- What the clock shows when signing starts. -/
def signingTime (env : Environment) (ws : WorkSpace) : UnixTime :=
  ws.config.faketime.getD (env.clock ws.calls)

/-- The RRset that is made and signed by a run that succeeds. -/
inductive Signs (env : Environment) (ws : WorkSpace) : SignedRrset → List Record → Prop
  | dnskey {final : WorkSpace} (run : exec (updateDnskeyRrset env) ws = (.ok (), final)) :
      Signs env ws .dnskey final.state.dnskeyRrset
  | cds {final : WorkSpace} (run : exec (createCdsRrset env) ws = (.ok (), final)) :
      Signs env ws .cds final.state.cdsRrset

/-- The keys that an RRset is about. -/
def SignedRrset.holds : SignedRrset → KeyType → Bool
  | dnskey, keytype => keytype.mainState.present
  | cds, keytype => keytype.mainState.atParent

/-- There is something to sign, and a key that signs. -/
structure KeySigns (kind : SignedRrset) (ws : WorkSpace) : Prop where
  held : ∃ entry ∈ ws.state.keyset.keys, kind.holds entry.2.keytype = true
  signer : ∃ entry ∈ ws.state.keyset.keys, dnskeySigner entry.2.keytype = true

/-- The signature has these time fields. -/
def Rrsig.Spans (inception expiration : Nat) (signature : Rrsig) : Prop :=
  signature.inception = inception ∧ signature.expiration = expiration

section Spans

variable (env : Environment) (ws : WorkSpace) (inception expiration : Nat)

theorem signRrset_spans (signer : Dnskey) (typeCovered : Rtype) (signed : List Dnskey)
    (failed : String → String) :
    Yields (Rrsig.Spans inception expiration)
      (signRrset env signer typeCovered signed inception expiration failed) :=
  yields_next fun _ => yields_pure ⟨rfl, rfl⟩

theorem signDnskeyRrset_spans (dnskeys : List Dnskey) :
    Yields (fun signatures => ∀ signature ∈ signatures, signature.Spans inception expiration)
      (signDnskeyRrset env ws dnskeys inception expiration) := by
  unfold signDnskeyRrset
  split
  · apply yields_pure
    intro signature impossible
    cases impossible
  · apply yields_collect
    intro entry _
    apply yields_next
    intro _
    split
    · split
      · exact yields_throw _
      · apply yields_next
        intro signer
        apply yields_bind (signRrset_spans env inception expiration signer .dnskey dnskeys _)
        intro signature spans
        apply yields_pure
        intro value same
        cases same
        exact spans
    · apply yields_pure
      intro value impossible
      cases impossible

theorem signCdsRrsets_spans (keys : List Dnskey) :
    Yields (fun signatures => ∀ pair ∈ signatures,
        pair.1.Spans inception expiration ∧ pair.2.Spans inception expiration)
      (signCdsRrsets env ws keys inception expiration) := by
  unfold signCdsRrsets
  split
  · apply yields_pure
    intro pair impossible
    cases impossible
  · apply yields_collect
    intro entry _
    apply yields_next
    intro _
    split
    · split
      · exact yields_throw _
      · apply yields_next
        intro signer
        apply yields_bind (signRrset_spans env inception expiration signer .cds keys _)
        intro cds cdsSpans
        apply yields_bind (signRrset_spans env inception expiration signer .cdnskey keys _)
        intro cdnskey cdnskeySpans
        apply yields_pure
        intro value same
        cases same
        exact ⟨cdsSpans, cdnskeySpans⟩
    · apply yields_pure
      intro value impossible
      cases impossible

theorem signDnskeyRrset_nil (dnskeys : List Dnskey) :
    Yields (fun made => made = [] ↔
        dnskeys = [] ∨ ∀ entry ∈ ws.state.keyset.keys, dnskeySigner entry.2.keytype = false)
      (signDnskeyRrset env ws dnskeys inception expiration) := by
  unfold signDnskeyRrset
  split
  next empty => exact yields_pure (by simp [List.isEmpty_iff.mp empty])
  next nonempty =>
    have filled : dnskeys ≠ [] := by simpa using nonempty
    simp only [filled, false_or]
    refine yields_collect_nil ?_ _
    intro entry
    apply yields_next
    intro _
    split
    next signs =>
      split
      · exact yields_throw _
      · apply yields_next
        intro signer
        apply yields_next
        intro signature
        exact yields_pure signs.symm
    next idle => exact yields_pure (by simpa using idle)

theorem signCdsRrsets_nil (keys : List Dnskey) :
    Yields (fun made => made = [] ↔
        keys = [] ∨ ∀ entry ∈ ws.state.keyset.keys, dnskeySigner entry.2.keytype = false)
      (signCdsRrsets env ws keys inception expiration) := by
  unfold signCdsRrsets
  split
  next empty => exact yields_pure (by simp [List.isEmpty_iff.mp empty])
  next nonempty =>
    have filled : keys ≠ [] := by simpa using nonempty
    simp only [filled, false_or]
    refine yields_collect_nil ?_ _
    intro entry
    apply yields_next
    intro _
    split
    next signs =>
      split
      · exact yields_throw _
      · apply yields_next
        intro signer
        apply yields_next
        intro cds
        apply yields_next
        intro cdnskey
        exact yields_pure signs.symm
    next idle => exact yields_pure (by simpa using idle)

theorem presentDnskeys_nil :
    Yields (fun keys => keys = [] ↔
        ∀ entry ∈ ws.state.keyset.keys, SignedRrset.dnskey.holds entry.2.keytype = false)
      (presentDnskeys env ws) := by
  refine yields_collect_nil ?_ _
  intro entry
  dsimp only
  split
  next present =>
    apply yields_next
    intro url
    apply yields_next
    intro key
    exact yields_pure present.symm
  next absent => exact yields_pure (by simpa [SignedRrset.holds] using absent)

theorem atParentDnskeys_nil :
    Yields (fun keys => keys = [] ↔
        ∀ entry ∈ ws.state.keyset.keys, SignedRrset.cds.holds entry.2.keytype = false)
      (atParentDnskeys env ws) := by
  refine yields_collect_nil ?_ _
  intro entry
  dsimp only
  split
  next atParent =>
    apply yields_next
    intro url
    apply yields_next
    intro key
    apply yields_next
    intro _
    exact yields_pure atParent.symm
  next absent => exact yields_pure (by simpa [SignedRrset.holds] using absent)

/-- No signatures are made when there is nothing to sign or no key signs. -/
theorem not_keySigns_iff {kind : SignedRrset} :
    ¬KeySigns kind ws ↔
      (∀ entry ∈ ws.state.keyset.keys, kind.holds entry.2.keytype = false) ∨
        ∀ entry ∈ ws.state.keyset.keys, dnskeySigner entry.2.keytype = false := by
  have both : KeySigns kind ws ↔
      (∃ entry ∈ ws.state.keyset.keys, kind.holds entry.2.keytype = true) ∧
        ∃ entry ∈ ws.state.keyset.keys, dnskeySigner entry.2.keytype = true :=
    ⟨fun signs => ⟨signs.held, signs.signer⟩, fun signs => ⟨signs.1, signs.2⟩⟩
  rw [both, not_and_or]
  simp

end Spans

theorem signatures_append (first second : List Record) :
    signatures (first ++ second) = signatures first ++ signatures second :=
  List.filterMap_append

theorem signatures_map_eq_nil {Item : Type} {record : Item → Record}
    (unsigned : ∀ item, (record item).rrsig? = none) (items : List Item) :
    signatures (items.map record) = [] := by
  unfold signatures
  rw [List.filterMap_map, List.filterMap_eq_nil_iff]
  intro item _
  exact unsigned item

theorem signatures_map_rrsig {Item : Type} (ttl : Ttl) (signature : Item → Rrsig)
    (items : List Item) :
    signatures (items.map fun item => .rrsig ttl (signature item)) = items.map signature := by
  unfold signatures
  rw [List.filterMap_map]
  exact congrFun List.filterMap_eq_map' items

section Signs

variable {env : Environment} {ws : WorkSpace} {kind : SignedRrset} {records : List Record}

theorem exec_signingTime :
    exec (faketimeOrNow env ws.config) ws.calls = (.ok (signingTime env ws), ws.calls + 1) := rfl

/-- The signatures over the DNSKEY RRset, and how they have been made. -/
theorem dnskeyRrset_signatures {calls : Nat}
    (run : exec (dnskeyRrset env ws) ws.calls = (.ok records, calls)) :
    ∃ dnskeys before between,
      exec (presentDnskeys env ws) before = (.ok dnskeys, between) ∧
        exec (signDnskeyRrset env ws dnskeys
          (inceptionAt (signingTime env ws) ws.config.dnskeyInceptionOffset)
          (expirationAt (signingTime env ws) ws.config.dnskeySignatureLifetime)) between =
            (.ok (signatures records), calls) := by
  unfold dnskeyRrset at run
  rw [exec_bind_of_ok exec_signingTime] at run
  have ⟨dnskeys, between, found, signing⟩ := exec_bind_eq_ok.mp run
  have ⟨made, _, signed, returned⟩ := exec_bind_eq_ok.mp signing
  cases returned
  have noDnskeys : signatures (dnskeys.map (.dnskey ws.config.defaultTtl)) = [] :=
    signatures_map_eq_nil (fun _ => rfl) dnskeys
  have all : signatures (made.map (.rrsig ws.config.defaultTtl)) = made :=
    (signatures_map_rrsig _ id made).trans (List.map_id made)
  rw [signatures_append, noDnskeys, all]
  exact ⟨dnskeys, _, between, found, signed⟩

theorem dnskeyRrset_spans {calls : Nat}
    (run : exec (dnskeyRrset env ws) ws.calls = (.ok records, calls)) :
    ∀ signature ∈ signatures records, signature.Spans
      (inceptionAt (signingTime env ws) ws.config.dnskeyInceptionOffset)
      (expirationAt (signingTime env ws) ws.config.dnskeySignatureLifetime) := by
  have ⟨dnskeys, _, _, _, signed⟩ := dnskeyRrset_signatures run
  exact (signDnskeyRrset_spans env ws _ _ dnskeys).ok signed

theorem dnskeyRrset_unsigned {calls : Nat}
    (run : exec (dnskeyRrset env ws) ws.calls = (.ok records, calls)) :
    signatures records = [] ↔ ¬KeySigns .dnskey ws := by
  have ⟨dnskeys, _, _, found, signed⟩ := dnskeyRrset_signatures run
  rw [not_keySigns_iff, ← (presentDnskeys_nil env ws).ok found]
  exact (signDnskeyRrset_nil env ws _ _ dnskeys).ok signed

/-- The signatures over the CDS and the CDNSKEY RRset, and how they have been made. -/
theorem cdsRrset_signatures {calls : Nat}
    (run : exec (cdsRrset env ws) ws.calls = (.ok records, calls)) :
    ∃ keys before between made, exec (atParentDnskeys env ws) before = (.ok keys, between) ∧
      exec (signCdsRrsets env ws keys
        (inceptionAt (signingTime env ws) ws.config.cdsInceptionOffset)
        (expirationAt (signingTime env ws) ws.config.cdsSignatureLifetime)) between =
          (.ok made, calls) ∧
      signatures records = made.map Prod.snd ++ made.map Prod.fst := by
  unfold cdsRrset at run
  rw [exec_bind_of_ok exec_signingTime] at run
  have ⟨keys, between, found, signing⟩ := exec_bind_eq_ok.mp run
  have ⟨made, _, signed, returned⟩ := exec_bind_eq_ok.mp signing
  cases returned
  have noCdnskeys : signatures (keys.map (.cdnskey ws.config.defaultTtl)) = [] :=
    signatures_map_eq_nil (fun _ => rfl) keys
  have noCds : signatures
      (keys.map (.cds ws.config.defaultTtl · ws.config.dsAlgorithm)) = [] :=
    signatures_map_eq_nil (fun _ => rfl) keys
  refine ⟨keys, _, between, made, found, signed, ?_⟩
  simp only [signatures_append, noCdnskeys, noCds, signatures_map_rrsig, List.nil_append,
    List.append_nil]

theorem cdsRrset_spans {calls : Nat}
    (run : exec (cdsRrset env ws) ws.calls = (.ok records, calls)) :
    ∀ signature ∈ signatures records, signature.Spans
      (inceptionAt (signingTime env ws) ws.config.cdsInceptionOffset)
      (expirationAt (signingTime env ws) ws.config.cdsSignatureLifetime) := by
  have ⟨keys, _, _, made, _, signed, all⟩ := cdsRrset_signatures run
  have spans := (signCdsRrsets_spans env ws _ _ keys).ok signed
  rw [all]
  simp only [List.mem_append, List.mem_map]
  intro signature member
  cases member with
  | inl cdnskey =>
      have ⟨pair, made, same⟩ := cdnskey
      rw [← same]
      exact (spans pair made).2
  | inr cds =>
      have ⟨pair, made, same⟩ := cds
      rw [← same]
      exact (spans pair made).1

theorem cdsRrset_unsigned {calls : Nat}
    (run : exec (cdsRrset env ws) ws.calls = (.ok records, calls)) :
    signatures records = [] ↔ ¬KeySigns .cds ws := by
  have ⟨keys, _, _, made, found, signed, all⟩ := cdsRrset_signatures run
  have unsigned := (signCdsRrsets_nil env ws _ _ keys).ok signed
  rw [not_keySigns_iff, ← (atParentDnskeys_nil env ws).ok found, ← unsigned, all]
  simp

theorem Signs.built (signs : Signs env ws kind records) :
    ∃ calls, exec (kind.records env ws) ws.calls = (.ok records, calls) := by
  cases signs with
  | dnskey run =>
      unfold updateDnskeyRrset at run
      rw [exec_bind_of_ok (exec_get ws)] at run
      have ⟨made, _, making, kept⟩ := exec_bind_eq_ok.mp run
      have ⟨calls, built, _⟩ := exec_perform_eq_ok making
      cases kept
      exact ⟨calls, built⟩
  | cds run =>
      unfold createCdsRrset at run
      rw [exec_bind_of_ok (exec_get ws)] at run
      have ⟨made, _, making, kept⟩ := exec_bind_eq_ok.mp run
      have ⟨calls, built, _⟩ := exec_perform_eq_ok making
      cases kept
      exact ⟨calls, built⟩

/-- All signatures over an RRset get the window that the clock and the settings give. -/
theorem Signs.spans (signs : Signs env ws kind records) :
    ∀ signature ∈ signatures records, signature.Spans
      (inceptionAt (signingTime env ws) (kind.settings ws.config).inceptionOffset)
      (expirationAt (signingTime env ws) (kind.settings ws.config).lifetime) := by
  obtain ⟨calls, built⟩ := signs.built
  cases kind with
  | dnskey => exact dnskeyRrset_spans built
  | cds => exact cdsRrset_spans built

/-- Signatures are made exactly when a key signs. -/
theorem Signs.signatures_eq_nil_iff (signs : Signs env ws kind records) :
    signatures records = [] ↔ ¬KeySigns kind ws := by
  obtain ⟨calls, built⟩ := signs.built
  cases kind with
  | dnskey => exact dnskeyRrset_unsigned built
  | cds => exact cdsRrset_unsigned built

end Signs

/-! ## Sound windows -/

/-- Nothing of the clock and the durations is lost in the 32-bit arithmetic. -/
structure ComputedExactly (now : UnixTime) (settings : SignatureSettings) : Prop where
  offset : fromSecs (toU32 (asSecs settings.inceptionOffset)) = settings.inceptionOffset
  lifetime : fromSecs (toU32 (asSecs settings.lifetime)) = settings.lifetime
  noUnderflow : toU32 (asSecs settings.inceptionOffset) ≤ toU32 (asSecs now)
  noOverflow : toU32 (asSecs now) + toU32 (asSecs settings.lifetime) < 2 ^ 32

/-- A signature made at `now` is in force and stays so for its lifetime. -/
structure InForce (now : UnixTime) (settings : SignatureSettings) (signature : Rrsig) :
    Prop where
  inception :
    (signature.inception + asSecs settings.inceptionOffset) % 2 ^ 32 = asSecs now % 2 ^ 32
  expiration : signature.expiration = (asSecs now + asSecs settings.lifetime) % 2 ^ 32
  begun : SerialNumber.le signature.inception (asSecs now) = true
  lasts : SerialNumber.lt (asSecs now) signature.expiration = true

/-- Right after signing the RRset is not renewed, and it is renewed as soon as less
than the configured time remains. Clocks are read in whole seconds. -/
structure RenewedInTime (now : UnixTime) (settings : SignatureSettings)
    (rrset : List Record) : Prop where
  fresh : settings.remainTime < settings.lifetime →
    sigRenew rrset settings.remainTime now = false
  due : ∀ signature ∈ signatures rrset, ∀ time : UnixTime,
    fromSecs (asSecs now + asSecs settings.lifetime) <
        fromSecs (asSecs time) + settings.remainTime →
      sigRenew rrset settings.remainTime time = true

structure SoundWindow (now : UnixTime) (settings : SignatureSettings)
    (rrset : List Record) : Prop where
  computed : ComputedExactly now settings
  valid : ∀ signature ∈ signatures rrset, InForce now settings signature
  renewed : RenewedInTime now settings rrset

/-! ## Settings that fit the clock -/

/-- The durations are whole seconds between the epoch and the end of 32-bit time. -/
structure FitsClock (now : UnixTime) (settings : SignatureSettings) : Prop where
  offset : fromSecs (asSecs settings.inceptionOffset) = settings.inceptionOffset
  lifetime : fromSecs (asSecs settings.lifetime) = settings.lifetime
  afterEpoch : asSecs settings.inceptionOffset ≤ asSecs now
  beforeWrap : asSecs now + asSecs settings.lifetime < 2 ^ 32

/-- Inception and expiration are comparable with the present. -/
structure NearPresent (now : UnixTime) (settings : SignatureSettings) : Prop where
  offset : asSecs settings.inceptionOffset < 2 ^ 31
  positive : 0 < asSecs settings.lifetime
  lifetime : asSecs settings.lifetime < 2 ^ 31
  remainTime : fromSecs (asSecs settings.remainTime) = settings.remainTime ∨
    asSecs now + asSecs settings.lifetime < asSecs settings.remainTime

theorem asSecs_fromSecs (seconds : Nat) : asSecs (fromSecs seconds) = seconds :=
  Nat.mul_div_cancel seconds (by decide)

theorem fromSecs_lt_iff {left right : Nat} : fromSecs left < fromSecs right ↔ left < right :=
  Nat.mul_lt_mul_right (by decide)

theorem fromSecs_asSecs_le (duration : Duration) : fromSecs (asSecs duration) ≤ duration :=
  Nat.div_mul_le_self duration nanosPerSec

/-- The cast to 32 bits keeps durations of whole seconds that are short enough. -/
theorem fromSecs_toU32_eq_iff {duration : Duration} :
    fromSecs (toU32 (asSecs duration)) = duration ↔
      asSecs duration < 2 ^ 32 ∧ fromSecs (asSecs duration) = duration := by
  constructor
  · intro exactly
    have seconds : asSecs duration = toU32 (asSecs duration) := by
      have same := congrArg asSecs exactly
      rw [asSecs_fromSecs] at same
      exact same.symm
    constructor
    · rw [seconds]
      exact Nat.mod_lt _ (by decide)
    · rw [← seconds] at exactly
      exact exactly
  · intro ⟨short, whole⟩
    have small : toU32 (asSecs duration) = asSecs duration := Nat.mod_eq_of_lt short
    rw [small]
    exact whole

section Fits

variable {now : UnixTime} {settings : SignatureSettings}

theorem computedExactly_iff (representable : asSecs now < 2 ^ 32) :
    ComputedExactly now settings ↔ FitsClock now settings := by
  have clock : toU32 (asSecs now) = asSecs now := Nat.mod_eq_of_lt representable
  constructor
  · intro computed
    have ⟨offsetShort, offset⟩ := fromSecs_toU32_eq_iff.mp computed.offset
    have ⟨lifetimeShort, lifetime⟩ := fromSecs_toU32_eq_iff.mp computed.lifetime
    have noUnderflow := computed.noUnderflow
    have noOverflow := computed.noOverflow
    unfold toU32 at noUnderflow noOverflow
    rw [Nat.mod_eq_of_lt offsetShort, Nat.mod_eq_of_lt representable] at noUnderflow
    rw [Nat.mod_eq_of_lt lifetimeShort, Nat.mod_eq_of_lt representable] at noOverflow
    exact ⟨offset, lifetime, noUnderflow, noOverflow⟩
  · intro fits
    have afterEpoch := fits.afterEpoch
    have beforeWrap := fits.beforeWrap
    have offsetShort : asSecs settings.inceptionOffset < 2 ^ 32 := by omega
    have lifetimeShort : asSecs settings.lifetime < 2 ^ 32 := by omega
    have offset : toU32 (asSecs settings.inceptionOffset) = asSecs settings.inceptionOffset :=
      Nat.mod_eq_of_lt offsetShort
    have lifetime : toU32 (asSecs settings.lifetime) = asSecs settings.lifetime :=
      Nat.mod_eq_of_lt lifetimeShort
    constructor
    · exact fromSecs_toU32_eq_iff.mpr ⟨offsetShort, fits.offset⟩
    · exact fromSecs_toU32_eq_iff.mpr ⟨lifetimeShort, fits.lifetime⟩
    · rw [offset, clock]
      exact afterEpoch
    · rw [lifetime, clock]
      exact beforeWrap

theorem FitsClock.inceptionAt (fits : FitsClock now settings) :
    inceptionAt now settings.inceptionOffset =
      asSecs now - asSecs settings.inceptionOffset := by
  have afterEpoch := fits.afterEpoch
  have beforeWrap := fits.beforeWrap
  unfold Keyset.inceptionAt toU32
  omega

theorem FitsClock.expirationAt (fits : FitsClock now settings) :
    expirationAt now settings.lifetime = asSecs now + asSecs settings.lifetime := by
  have beforeWrap := fits.beforeWrap
  unfold Keyset.expirationAt toU32
  omega

/-- The time fields, when nothing is lost in computing them. -/
structure ExactFields (now : UnixTime) (settings : SignatureSettings) (signature : Rrsig) :
    Prop where
  inception : signature.inception = asSecs now - asSecs settings.inceptionOffset
  expiration : signature.expiration = asSecs now + asSecs settings.lifetime

theorem inForce_iff (fits : FitsClock now settings) {signature : Rrsig}
    (fields : ExactFields now settings signature) :
    InForce now settings signature ↔
      asSecs settings.inceptionOffset < 2 ^ 31 ∧ 0 < asSecs settings.lifetime ∧
        asSecs settings.lifetime < 2 ^ 31 := by
  have afterEpoch := fits.afterEpoch
  have beforeWrap := fits.beforeWrap
  have past : SerialNumber.distance signature.inception (asSecs now) =
      asSecs settings.inceptionOffset := by
    rw [fields.inception, SerialNumber.distance_of_le (by omega) (by omega)]
    omega
  have ahead : SerialNumber.distance (asSecs now) signature.expiration =
      asSecs settings.lifetime := by
    rw [fields.expiration, SerialNumber.distance_of_le (by omega) (by omega)]
    omega
  constructor
  · intro valid
    have begun := SerialNumber.le_iff_distance.mp valid.begun
    have lasts := (SerialNumber.lt_iff_distance _ _).mp valid.lasts
    rw [past] at begun
    rw [ahead] at lasts
    omega
  · intro ⟨offset, positive, lifetime⟩
    constructor
    · rw [fields.inception]
      omega
    · rw [fields.expiration]
      omega
    · rw [SerialNumber.le_iff_distance, past]
      exact offset
    · rw [SerialNumber.lt_iff_distance, ahead]
      omega

theorem sigRenew_eq_true {rrset : List Record} {remainTime : Duration} {time : UnixTime} :
    sigRenew rrset remainTime time = true ↔
      ∃ signature ∈ signatures rrset,
        signature.expiration < asSecs time + asSecs remainTime := by
  unfold sigRenew signatures
  simp only [List.any_eq_true, decide_eq_true_eq]

theorem renewedInTime_iff {rrset : List Record} (signed : signatures rrset ≠ [])
    (fields : ∀ signature ∈ signatures rrset, ExactFields now settings signature) :
    RenewedInTime now settings rrset ↔
      (fromSecs (asSecs settings.remainTime) = settings.remainTime ∨
        asSecs now + asSecs settings.lifetime < asSecs settings.remainTime) := by
  have ⟨signature, member⟩ := List.exists_mem_of_ne_nil _ signed
  have lower := fromSecs_asSecs_le settings.remainTime
  constructor
  · intro renewed
    by_contra neither
    have ⟨fractional, reaches⟩ := not_or.mp neither
    -- The last second before the expiration at which the test does not fire.
    let last := asSecs now + asSecs settings.lifetime - asSecs settings.remainTime
    have whole : asSecs now + asSecs settings.lifetime =
        last + asSecs settings.remainTime := by omega
    have late : fromSecs (asSecs now + asSecs settings.lifetime) <
        fromSecs (asSecs (fromSecs last)) + settings.remainTime := by
      have strict : fromSecs (asSecs settings.remainTime) < settings.remainTime :=
        Nat.lt_of_le_of_ne lower fractional
      have parts : fromSecs (last + asSecs settings.remainTime) =
          fromSecs last + fromSecs (asSecs settings.remainTime) := Nat.add_mul _ _ _
      rw [asSecs_fromSecs, whole, parts]
      exact Nat.add_lt_add_left strict _
    have ⟨other, inRrset, fires⟩ :=
      sigRenew_eq_true.mp (renewed.due signature member (fromSecs last) late)
    rw [(fields other inRrset).expiration, asSecs_fromSecs, whole] at fires
    exact absurd fires (Nat.lt_irrefl _)
  · intro remain
    constructor
    · intro shorter
      apply sigRenew_eq_false.mpr
      intro other inRrset
      have seconds : asSecs settings.remainTime ≤ asSecs settings.lifetime :=
        Nat.div_le_div_right (Nat.le_of_lt shorter)
      rw [(fields other inRrset).expiration]
      exact Nat.add_le_add_left seconds _
    · intro other inRrset time late
      apply sigRenew_eq_true.mpr
      apply Exists.intro other
      apply And.intro inRrset
      rw [(fields other inRrset).expiration]
      cases remain with
      | inl whole =>
          have parts : fromSecs (asSecs time + asSecs settings.remainTime) =
              fromSecs (asSecs time) + fromSecs (asSecs settings.remainTime) :=
            Nat.add_mul _ _ _
          rw [← whole, ← parts] at late
          exact fromSecs_lt_iff.mp late
      | inr beyond => omega

end Fits

/-- The window of the signatures over an RRset is sound exactly when nothing is lost
in 32 bits and, where a key signs, the durations stay below half the range of serial
arithmetic. -/
theorem signatureWindow_sound_iff {env : Environment} {ws : WorkSpace} {kind : SignedRrset}
    {rrset : List Record} (signs : Signs env ws kind rrset)
    (representable : asSecs (signingTime env ws) < 2 ^ 32) :
    SoundWindow (signingTime env ws) (kind.settings ws.config) rrset ↔
      FitsClock (signingTime env ws) (kind.settings ws.config) ∧
        (KeySigns kind ws → NearPresent (signingTime env ws) (kind.settings ws.config)) := by
  have fields (fits : FitsClock (signingTime env ws) (kind.settings ws.config)) :
      ∀ signature ∈ signatures rrset,
        ExactFields (signingTime env ws) (kind.settings ws.config) signature := by
    intro signature member
    have ⟨inception, expiration⟩ := signs.spans signature member
    exact ⟨inception.trans fits.inceptionAt, expiration.trans fits.expirationAt⟩
  have unsigned := signs.signatures_eq_nil_iff
  constructor
  · intro sound
    have fits := (computedExactly_iff representable).mp sound.computed
    apply And.intro fits
    intro keySigns
    have signed : signatures rrset ≠ [] := fun none => unsigned.mp none keySigns
    have ⟨signature, member⟩ := List.exists_mem_of_ne_nil _ signed
    have ⟨offset, positive, lifetime⟩ :=
      (inForce_iff fits (fields fits signature member)).mp (sound.valid signature member)
    have remain := (renewedInTime_iff signed (fields fits)).mp sound.renewed
    exact ⟨offset, positive, lifetime, remain⟩
  · intro ⟨fits, near⟩
    constructor
    · exact (computedExactly_iff representable).mpr fits
    · intro signature member
      have close := near (by
        by_contra idle
        rw [unsigned.mpr idle] at member
        cases member)
      exact (inForce_iff fits (fields fits signature member)).mpr
        ⟨close.offset, close.positive, close.lifetime⟩
    · by_cases signed : signatures rrset = []
      · constructor
        · intro _
          apply sigRenew_eq_false.mpr
          intro signature member
          rw [signed] at member
          cases member
        · intro signature member
          rw [signed] at member
          cases member
      · have close := near (by
          by_contra idle
          exact signed (unsigned.mpr idle))
        exact (renewedInTime_iff signed (fields fits)).mpr close.remainTime

/-! ## Worked runs -/

namespace Reference

/-- Four days after the epoch the signatures of an initialised zone are made anew. -/
def signingEnvironment : Environment := environment 4 (fromSecs 345600)

/-- An hour after `init` on the last day of 32-bit time. -/
def lateEnvironment : Environment := environment 4 (fromSecs (2 ^ 32 - 82797))

def signedAgain (env : Environment) (system : System) : List Record :=
  (exec (updateDnskeyRrset env) system.load).2.state.dnskeyRrset

theorem signs_again {env : Environment} {system : System}
    (succeeds : (exec (updateDnskeyRrset env) system.load).1.toOption = some ()) :
    Signs env system.load .dnskey (signedAgain env system) :=
  Signs.dnskey (exec_eq_of_toOption succeeds)

end Reference

theorem signatureWindow_sound_initialised :
    SoundWindow
      (signingTime Reference.signingEnvironment (Reference.initialised true).load)
      (Reference.initialised true).config.dnskeySettings
      (Reference.signedAgain Reference.signingEnvironment (Reference.initialised true)) :=
  (signatureWindow_sound_iff (Reference.signs_again (by decide +kernel))
    (by decide +kernel)).mpr
    ⟨⟨by decide +kernel, by decide +kernel, by decide +kernel, by decide +kernel⟩,
      fun _ => ⟨by decide +kernel, by decide +kernel, by decide +kernel,
        Or.inl (by decide +kernel)⟩⟩

/-- With the default durations a signature made shortly before its expiration wraps
around is to be renewed at once. -/
theorem signatureWindow_wrapped :
    Signs Reference.lateEnvironment Reference.lateInitialised.load .dnskey
        (Reference.signedAgain Reference.lateEnvironment Reference.lateInitialised) ∧
      asSecs (signingTime Reference.lateEnvironment Reference.lateInitialised.load) < 2 ^ 32 ∧
        ¬SoundWindow (signingTime Reference.lateEnvironment Reference.lateInitialised.load)
          Reference.lateInitialised.config.dnskeySettings
          (Reference.signedAgain Reference.lateEnvironment Reference.lateInitialised) := by
  constructor
  · exact Reference.signs_again (by decide +kernel)
  · constructor
    · decide +kernel
    · intro sound
      have fresh := sound.renewed.fresh (by decide +kernel)
      revert fresh
      decide +kernel

end Dnst.Keyset
