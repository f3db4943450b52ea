import Dnst.Signzone.Stages

/-! # Signatures over the ZONEMD RRset

The placeholder is signed with the zone, once with each key. When the digests take its
place, one of these signatures is replaced.
-/

namespace Dnst.Signzone

open Effect (bind_eq_ok)
open Keyset (Fault)

/-! ## What the signatures should be -/

/-- There is exactly one signature of each key, over the records that are there. -/
def FreshSignatures (domain : Domain) (options : SignZone) (keys : List SigningKey) (apex : Name)
    (records : List Record) : Prop :=
  ∃ rrset : Rrset, rrset.records.Perm (zonemds apex records) ∧
    CanSign domain options keys rrset ∧
    (zonemdSignatures apex records).Perm (signatures domain options keys.dedup rrset)

def placeholderRrset (zone : Zone) : Rrset := ⟨placeholderZonemd zone, []⟩

/-- `sign_zone` signs the placeholder once with each key, and adds no ZONEMD records. -/
structure SignsPlaceholder (domain : Domain) (options : SignZone) (prepared : Prepared)
    (added : List Record) : Prop where
  signs : CanSign domain options prepared.zoneSigningKeys (placeholderRrset prepared.zone)
  signatures : (zonemdSignatures prepared.zone.apex added).Perm
    (signatures domain options prepared.zoneSigningKeys (placeholderRrset prepared.zone))
  noZonemd : zonemds prepared.zone.apex added = []

/-- A signature over the first RRset tells which key made it, and is none over the other. -/
def SignaturesTell (domain : Domain) (options : SignZone) (keys : List SigningKey)
    (rrset other : Rrset) : Prop :=
  ∀ one ∈ keys, ∀ two ∈ keys, ∀ rrsig,
    domain.signRrset one rrset options.inception options.expiration = .ok rrsig →
    (domain.signRrset two rrset options.inception options.expiration = .ok rrsig → one = two) ∧
      domain.signRrset two other options.inception options.expiration ≠ .ok rrsig

/-! ## Before the zone is signed -/

section Prepare

variable {domain : Domain} {env : Env} {options : SignZone} {prepared : Prepared}

/-- The records that are added for the keys cover none but RRsets about keys. -/
theorem typeCovered_of_mem_newRecords (signsType : SignsType domain) {zone : Zone}
    {keys : List SigningKey} {record : Record}
    (member : record ∈ newRecords domain options zone keys) :
    record.typeCovered ≠ some Rtype.zonemd := by
  intro covers
  have isRrsig := rtype_of_typeCovered covers
  rcases List.mem_append.mp member with added | signed
  · rw [rtype_of_mem_addedDnskeys added] at isRrsig
    exact absurd isRrsig (by decide)
  · rcases List.mem_flatMap.mp signed with ⟨rrset, isKeyRrset, made⟩
    rcases mem_signatures made with ⟨key, _, rrsig, signs, same⟩
    have covered := signsType _ _ _ _ _ signs
    have isZonemd : rrset.rtype = Rtype.zonemd := by
      rw [same] at covers
      exact covered.symm.trans (Option.some.inj covers)
    have known := keyRrsets_types.subset (List.mem_map_of_mem isKeyRrset)
    rw [isZonemd] at known
    exact absurd known (by decide)

/-- Keys are only there when the zone is signed, and no signature over ZONEMD records is. -/
theorem prepare_spec (signsType : SignsType domain)
    (ready : prepare domain env options = .ok prepared) (keyed : prepared.zoneSigningKeys ≠ []) :
    prepared.mode = .hashAndSign ∧
      ∀ record ∈ prepared.records.toList, record.typeCovered ≠ some Rtype.zonemd := by
  rcases prepare_eq_ok ready with ⟨_, read, ⟨_, _, none_⟩ | ⟨signs, keys, _, _, inserted, _⟩⟩
  · exact absurd none_ keyed
  · apply And.intro signs
    intro record member covers
    rcases List.mem_append.mp ((insertNew_perm inserted).mem_iff.mp member) with new | old
    · exact typeCovered_of_mem_newRecords signsType new covers
    · exact readZone_noRrsig read old (rtype_of_typeCovered covers)

end Prepare

/-! ## The signed zone -/

section Signed

variable {domain : Domain} {options : SignZone} {prepared : Prepared} {added : List Record}

/-- What the signed zone has is there before, or is added. -/
theorem mem_of_mem_signed {record : Record} (asked : options.zonemd ≠ [])
    (member : record ∈ ((prepared.toSign options).extend added).toList) :
    record = placeholderZonemd prepared.zone ∨
      (record ∈ prepared.records.toList ∧ isZonemd prepared.zone.apex record = false) ∨
      record ∈ added := by
  rcases SortedList.mem_of_mem_extend member with impossible | found
  · cases impossible
  · rcases List.mem_append.mp found with before | new
    · rw [toSign_eq asked, (replaceApexZonemd_perm _ _).mem_iff] at before
      rcases List.mem_cons.mp before with same | kept
      · exact Or.inl same
      · have ⟨inRecords, notZonemd⟩ := List.mem_filter.mp kept
        exact Or.inr (Or.inl ⟨inRecords, by simpa using notZonemd⟩)
    · exact Or.inr (Or.inr new)

/-- The signatures over the placeholder are those of the keys. -/
theorem mem_signed_signatures (asked : options.zonemd ≠ [])
    (none_ : ∀ record ∈ prepared.records.toList, record.typeCovered ≠ some Rtype.zonemd)
    (signs : SignsPlaceholder domain options prepared added) {record : Record} :
    record ∈ zonemdSignatures prepared.zone.apex ((prepared.toSign options).extend added).toList ↔
      record ∈ signatures domain options prepared.zoneSigningKeys
        (placeholderRrset prepared.zone) := by
  have made : ∀ other ∈ ((prepared.toSign options).extend added).toList,
      signsZonemd prepared.zone.apex other = true →
        other ∈ signatures domain options prepared.zoneSigningKeys
          (placeholderRrset prepared.zone) := by
    intro other member isSignature
    rcases mem_of_mem_signed asked member with same | ⟨before, _⟩ | new
    · rw [same] at isSignature
      exact absurd (of_decide_eq_true isSignature).2 (by simp [placeholderZonemd, Record.typeCovered])
    · exact absurd (of_decide_eq_true isSignature).2 (none_ other before)
    · exact signs.signatures.mem_iff.mp (List.mem_filter.mpr ⟨new, isSignature⟩)
  constructor
  · intro member
    rcases List.mem_filter.mp member with ⟨found, isSignature⟩
    exact made record found isSignature
  · intro member
    rcases List.mem_filter.mp (signs.signatures.mem_iff.mpr member) with ⟨new, isSignature⟩
    have sorted : SortedList.Sorted Record.key ([] : List Record) := List.Pairwise.nil
    rcases SortedList.exists_key_extend sorted
      (Or.inr (List.mem_append_right (prepared.toSign options).toList new)) with
      ⟨other, found, sameKey⟩
    have equal := of_decide_eq_true (Record.key_eq_iff.mp sameKey)
    have alsoSigns : signsZonemd prepared.zone.apex other = true := by
      unfold signsZonemd Record.typeCovered at isSignature ⊢
      rw [equal.1, equal.2.2]
      exact isSignature
    have otherMade := made other found alsoSigns
    rcases mem_signatures otherMade with ⟨_, _, rrsig, _, isRecord⟩
    rcases mem_signatures member with ⟨_, _, also, _, alsoRecord⟩
    have same : other = record := by
      rw [isRecord, alsoRecord] at equal ⊢
      have data : rrsig = also := ZoneRecordData.rrsig.inj equal.2.2
      rw [data]
    rw [← same]
    exact List.mem_filter.mpr ⟨found, alsoSigns⟩

/-- No apex ZONEMD record but the placeholder is in the signed zone, where it is once. -/
theorem signed_zonemds (asked : options.zonemd ≠ [])
    (signs : SignsPlaceholder domain options prepared added) :
    ∀ record ∈ zonemds prepared.zone.apex ((prepared.toSign options).extend added).toList,
      record = placeholderZonemd prepared.zone := by
  intro record member
  have ⟨found, zonemd⟩ := List.mem_filter.mp member
  rcases mem_of_mem_signed asked found with same | ⟨_, notZonemd⟩ | new
  · exact same
  · rw [zonemd] at notZonemd
    cases notZonemd
  · have impossible : record ∈ zonemds prepared.zone.apex added :=
      List.mem_filter.mpr ⟨new, zonemd⟩
    rw [signs.noZonemd] at impossible
    cases impossible

end Signed

/-! ## The signature that is replaced -/

section Replace

variable {domain : Domain} {options : SignZone} {prepared : Prepared} {signed : SignedZone}

theorem mem_signatures_of_ok {keys : List SigningKey} {key : SigningKey} {rrset : Rrset}
    {rrsig : Rrsig} (member : key ∈ keys)
    (signs : domain.signRrset key rrset options.inception options.expiration = .ok rrsig) :
    rrsigRecord rrset rrsig ∈ signatures domain options keys rrset := by
  apply List.mem_filterMap.mpr
  refine ⟨key, member, ?_⟩
  rw [signs]
  rfl

/-- The signatures behind the run: those over the placeholder, the first of which has been
replaced by one over the digests. -/
theorem sign_signatures {env : Env} (signsType : SignsType domain)
    (ready : prepare domain env options = .ok prepared) (keyed : prepared.zoneSigningKeys ≠ [])
    (asked : options.zonemd ≠ []) (run : sign domain options prepared = .ok signed)
    (signs : ∀ added, addedRecords domain options prepared = .ok added →
      SignsPlaceholder domain options prepared added) :
    ∃ final : Rrset, final.records.Perm (zonemds prepared.zone.apex signed.records.toList) ∧
      CanSign domain options prepared.zoneSigningKeys final ∧
      (∃ tuple records, final.first = zonemdRecord domain prepared.zone records tuple) ∧
      ∃ key ∈ prepared.zoneSigningKeys, ∃ rrsig,
        domain.signRrset key final options.inception options.expiration = .ok rrsig ∧
        ∃ first others, (first :: others).Nodup ∧
          (∀ record, record ∈ first :: others ↔ record ∈ signatures domain options
            prepared.zoneSigningKeys (placeholderRrset prepared.zone)) ∧
          zonemdSignatures prepared.zone.apex signed.records.toList =
            { first with data := .rrsig rrsig } :: others := by
  rcases prepare_spec signsType ready keyed with ⟨hashAndSign, none_⟩
  rcases sign_zonemd asked run with ⟨added, adds, finishes⟩
  have placeholder := signs added adds
  generalize whole : (prepared.toSign options).extend added = records at finishes
  have onePlaceholder : (zonemds prepared.zone.apex records.toList).length ≤ 1 := by
    rw [← whole]
    have sorted : SortedList.Sorted Record.key
        (zonemds prepared.zone.apex ((prepared.toSign options).extend added).toList) :=
      SortedList.Sorted.filter SortedList.ofList_sorted _
    apply sorted.length_le_one
    intro one oneIn other otherIn
    rw [signed_zonemds asked placeholder one oneIn, signed_zonemds asked placeholder other otherIn]
  have isSignature : ∀ record, record ∈ zonemdSignatures prepared.zone.apex records.toList ↔
      record ∈ signatures domain options prepared.zoneSigningKeys
        (placeholderRrset prepared.zone) := by
    intro record
    rw [← whole]
    exact mem_signed_signatures asked none_ placeholder
  have nodup : (zonemdSignatures prepared.zone.apex records.toList).Nodup := by
    rw [← whole]
    exact SortedList.Sorted.nodup (SortedList.Sorted.filter SortedList.ofList_sorted _)
  have perm := @signatures_withDigests domain options _ _ onePlaceholder
  have digests := @zonemds_withDigests domain options _ _ onePlaceholder
  rcases bind_eq_ok finishes with ⟨zonemdRrs, created, rest⟩
  dsimp only at rest
  rw [if_pos hashAndSign] at rest
  have new := (createZonemd_eq_ok created).1
  have isWithDigests : zonemdRrs.foldl insertIfNew
      (records.removeFirstByNameClassRtype prepared.zone.apex none (some Rtype.zonemd)) =
      withDigests domain options prepared.zone records := by
    rw [new]
    rfl
  rw [isWithDigests] at rest
  rw [eraseP_isZonemd] at new
  cases tuples : options.zonemd.dedup with
  | nil => simp [asked] at tuples
  | cons tuple tuples' =>
      rw [tuples] at new digests
      let final : Rrset := ⟨zonemdRecord domain prepared.zone
        (records.toList.eraseP (isZonemd prepared.zone.apex)) tuple,
        tuples'.map (zonemdRecord domain prepared.zone
          (records.toList.eraseP (isZonemd prepared.zone.apex)))⟩
      have isFinal : zonemdRrs = final.records := new
      rw [isFinal] at rest
      rcases updateZonemdRrsig_eq_ok rest with ⟨canSign, key, isKey, rrsig, signsFinal, replaced⟩
      have goesOn : ∀ record, signsZonemd prepared.zone.apex record = true →
          signsZonemd prepared.zone.apex { record with data := .rrsig rrsig } = true := by
        intro record isOld
        have covers : rrsig.typeCovered = Rtype.zonemd := signsType _ _ _ _ _ signsFinal
        exact decide_eq_true ⟨(of_decide_eq_true isOld).1, congrArg some covers⟩
      have stays : zonemds prepared.zone.apex signed.records.toList =
          zonemds prepared.zone.apex (withDigests domain options prepared.zone records).toList := by
        rw [replaced]
        apply SortedList.filter_updateFirst
        intro record isOld
        exact ⟨not_isZonemd_of_signsZonemd isOld, not_isZonemd_of_signsZonemd (goesOn record isOld)⟩
      have changed := @SortedList.filter_updateFirst_self Record _ _
        (withDigests domain options prepared.zone records).toList goesOn
      rw [← replaced] at changed
      refine ⟨final, by rw [stays]; exact digests.symm, canSign, ⟨tuple, _, rfl⟩, key, isKey, rrsig,
        signsFinal, ?_⟩
      cases old : zonemdSignatures prepared.zone.apex
          (withDigests domain options prepared.zone records).toList with
      | nil =>
          rw [old] at perm
          rcases List.exists_mem_of_ne_nil _ keyed with ⟨one, member⟩
          rcases placeholder.signs one member with ⟨made, makes⟩
          have inSignatures := mem_signatures_of_ok member makes
          rw [← isSignature, perm.symm.eq_nil] at inSignatures
          cases inSignatures
      | cons first others =>
          rw [old] at perm
          unfold zonemdSignatures at old
          rw [old] at changed
          refine ⟨first, others, perm.nodup_iff.mpr nodup, ?_, changed⟩
          intro record
          rw [← isSignature]
          exact perm.mem_iff

end Replace

/-! ## When all of them are fresh -/

theorem signatures_dedup_singleton {domain : Domain} {options : SignZone}
    {keys : List SigningKey} {key : SigningKey} {rrset : Rrset} {rrsig : Rrsig}
    (one : keys.dedup = [key])
    (signs : domain.signRrset key rrset options.inception options.expiration = .ok rrsig) :
    signatures domain options keys.dedup rrset = [rrsigRecord rrset rrsig] := by
  unfold signatures
  rw [one, List.filterMap_cons, signs]
  rfl

theorem dedup_eq_singleton {keys : List SigningKey} {key : SigningKey} (member : key ∈ keys)
    (single : ∀ other ∈ keys, other = key) : keys.dedup = [key] := by
  apply List.perm_singleton.mp
  apply (List.perm_ext_iff_of_nodup (List.nodup_dedup keys) (List.nodup_singleton key)).mpr
  intro other
  rw [List.mem_dedup, List.mem_singleton]
  constructor
  · exact single other
  · intro same
    rw [same]
    exact member

/-- The signatures are fresh exactly when a single key signs the zone. -/
theorem zonemdSignatures_fresh_iff {domain : Domain} {env : Env} {options : SignZone}
    {prepared : Prepared} {signed : SignedZone} (signsType : SignsType domain)
    (ready : prepare domain env options = .ok prepared) (keyed : prepared.zoneSigningKeys ≠ [])
    (asked : options.zonemd ≠ []) (run : sign domain options prepared = .ok signed)
    (signs : ∀ added, addedRecords domain options prepared = .ok added →
      SignsPlaceholder domain options prepared added)
    (tell : ∀ final : Rrset,
      final.records.Perm (zonemds prepared.zone.apex signed.records.toList) →
        SignaturesTell domain options prepared.zoneSigningKeys (placeholderRrset prepared.zone)
          final) :
    FreshSignatures domain options prepared.zoneSigningKeys prepared.zone.apex
        signed.records.toList ↔
      prepared.zoneSigningKeys.dedup.length = 1 := by
  rcases sign_signatures signsType ready keyed asked run signs with
    ⟨final, isFinal, canSign, ⟨tuple, digested, isFirst⟩, key, isKey, rrsig, signsFinal, first,
      others, nodup, isSignature, result⟩
  rcases sign_zonemd asked run with ⟨added, adds, _⟩
  have firstIn := (isSignature first).mp List.mem_cons_self
  rcases mem_signatures firstIn with ⟨oldKey, isOldKey, oldRrsig, signsOld, firstMade⟩
  constructor
  · rintro ⟨rrset, isRrset, canSignRrset, fresh⟩
    -- A second key would have a signature over the placeholder left.
    have single : ∀ other ∈ prepared.zoneSigningKeys, other = oldKey := by
      intro other isOther
      by_contra different
      rcases (signs added adds).signs other isOther with ⟨otherRrsig, signsOther⟩
      have made := mem_signatures_of_ok isOther signsOther
      have tells := tell rrset isRrset oldKey isOldKey other isOther oldRrsig signsOld
      have notFirst : rrsigRecord (placeholderRrset prepared.zone) otherRrsig ≠ first := by
        intro same
        rw [firstMade] at same
        have data : otherRrsig = oldRrsig := ZoneRecordData.rrsig.inj (congrArg Record.data same)
        rw [data] at signsOther
        exact different (tells.1 signsOther).symm
      have left := (List.mem_cons.mp ((isSignature _).mpr made)).resolve_left notFirst
      have stale : rrsigRecord (placeholderRrset prepared.zone) otherRrsig ∈
          zonemdSignatures prepared.zone.apex signed.records.toList := by
        rw [result]
        exact List.mem_cons_of_mem _ left
      rcases mem_signatures (fresh.mem_iff.mp stale) with ⟨two, isTwo, also, signsAlso, same⟩
      have data : otherRrsig = also := ZoneRecordData.rrsig.inj (congrArg Record.data same)
      rw [← data] at signsAlso
      exact (tell rrset isRrset other isOther two (List.mem_dedup.mp isTwo) otherRrsig
        signsOther).2 signsAlso
    rw [dedup_eq_singleton isOldKey single]
    rfl
  · intro one
    rcases List.length_eq_one_iff.mp one with ⟨only, isOnly⟩
    have same : ∀ other ∈ prepared.zoneSigningKeys, other = only := by
      intro other member
      have inDedup := List.mem_dedup.mpr member
      rw [isOnly] at inDedup
      exact List.mem_singleton.mp inDedup
    have noOthers : others = [] := by
      apply List.eq_nil_iff_forall_not_mem.mpr
      intro record member
      rcases mem_signatures ((isSignature record).mp (List.mem_cons_of_mem _ member)) with
        ⟨also, isAlso, alsoRrsig, signsAlso, made⟩
      rw [same also isAlso, ← same oldKey isOldKey, signsOld] at signsAlso
      cases signsAlso
      rw [made, ← firstMade] at member
      exact (List.nodup_cons.mp nodup).1 member
    have replaced : { first with data := .rrsig rrsig } = rrsigRecord final rrsig := by
      rw [firstMade]
      unfold rrsigRecord Rrset.owner Rrset.class' Rrset.ttl
      rw [isFirst]
      rfl
    refine ⟨final, isFinal, canSign, ?_⟩
    rw [same key isKey] at signsFinal
    rw [signatures_dedup_singleton isOnly signsFinal, result, noOthers, replaced]

namespace Reference

/-- Ask for one digest. -/
def digestOptions (keyPaths : List String) : SignZone :=
  { options with keyPaths, zonemd := [⟨ZonemdTuple.simple, ZonemdTuple.sha384⟩] }

def unprepared : Prepared :=
  ⟨.none, ⟨.ofList [], soaRecord apex 1, 1⟩, .ofList [], []⟩

def digestPrepared (keyPaths : List String) : Prepared :=
  (prepare domain (env [soaRecord apex 1]) (digestOptions keyPaths)).toOption.getD unprepared

def digestSigned (keyPaths : List String) : SignedZone :=
  (sign domain (digestOptions keyPaths) (digestPrepared keyPaths)).toOption.getD ⟨.ofList [], none⟩

theorem eq_ok_getD {Failure Value : Type} {result : Except Failure Value} (other : Value)
    (returned : result.toOption.isSome = true) : result = .ok (result.toOption.getD other) := by
  cases result with
  | ok value => rfl
  | error failure => cases returned

theorem digestPrepared_ready {keyPaths : List String}
    (returned : (prepare domain (env [soaRecord apex 1])
      (digestOptions keyPaths)).toOption.isSome = true) :
    prepare domain (env [soaRecord apex 1]) (digestOptions keyPaths) =
      .ok (digestPrepared keyPaths) := eq_ok_getD _ returned

theorem digestSigned_run {keyPaths : List String}
    (returned : (sign domain (digestOptions keyPaths)
      (digestPrepared keyPaths)).toOption.isSome = true) :
    sign domain (digestOptions keyPaths) (digestPrepared keyPaths) =
      .ok (digestSigned keyPaths) := eq_ok_getD _ returned

theorem domain_signsType : SignsType domain := by
  intro key rrset inception expiration rrsig signed
  cases signed
  rfl

theorem canSign (options : SignZone) (keys : List SigningKey) (rrset : Rrset) :
    CanSign domain options keys rrset :=
  fun _ _ => ⟨_, rfl⟩

/-- An RRset with the one record of a list. -/
theorem rrset_of_perm_singleton {rrset : Rrset} {record : Record}
    (perm : rrset.records.Perm [record]) : rrset = ⟨record, []⟩ := by
  cases rrset with
  | mk first others =>
      cases List.perm_singleton.mp perm
      rfl

/-- No signature over the placeholder is one over the digest. -/
def tellsApart (keyPaths : List String) : Bool :=
  let prepared := digestPrepared keyPaths
  let options := digestOptions keyPaths
  (zonemds prepared.zone.apex (digestSigned keyPaths).records.toList).all fun record =>
    prepared.zoneSigningKeys.all fun one => prepared.zoneSigningKeys.all fun two =>
      (domain.signRrset one (placeholderRrset prepared.zone) options.inception
        options.expiration).toOption ≠
      (domain.signRrset two ⟨record, []⟩ options.inception options.expiration).toOption

end Reference

/-- With one key, its signature is made over the digest. -/
theorem zonemdSignatures_fresh_reference :
    prepare Reference.domain (Reference.env [Reference.soaRecord Reference.apex 1])
      (Reference.digestOptions ["one"]) = .ok (Reference.digestPrepared ["one"]) ∧
    sign Reference.domain (Reference.digestOptions ["one"]) (Reference.digestPrepared ["one"]) =
      .ok (Reference.digestSigned ["one"]) ∧
    FreshSignatures Reference.domain (Reference.digestOptions ["one"])
      (Reference.digestPrepared ["one"]).zoneSigningKeys (Reference.digestPrepared ["one"]).zone.apex
      (Reference.digestSigned ["one"]).records.toList := by
  have ready := @Reference.digestPrepared_ready ["one"] (by decide +kernel)
  have run := @Reference.digestSigned_run ["one"] (by decide +kernel)
  refine ⟨ready, run, (zonemdSignatures_fresh_iff Reference.domain_signsType ready
    (by decide +kernel) (by decide) run ?_ ?_).mpr (by decide +kernel)⟩
  · intro added found
    have signatures : (addedRecords Reference.domain (Reference.digestOptions ["one"])
        (Reference.digestPrepared ["one"])).toOption.map
          (zonemdSignatures (Reference.digestPrepared ["one"]).zone.apex) =
        some (signatures Reference.domain (Reference.digestOptions ["one"])
          (Reference.digestPrepared ["one"]).zoneSigningKeys
          (placeholderRrset (Reference.digestPrepared ["one"]).zone)) := by decide +kernel
    have noZonemd : (addedRecords Reference.domain (Reference.digestOptions ["one"])
        (Reference.digestPrepared ["one"])).toOption.map
          (zonemds (Reference.digestPrepared ["one"]).zone.apex) = some [] := by decide +kernel
    rw [found] at signatures noZonemd
    exact ⟨Reference.canSign _ _ _, List.Perm.of_eq (Option.some.inj signatures),
      Option.some.inj noZonemd⟩
  · intro final isFinal one isOne two isTwo rrsig signsOne
    rcases List.length_eq_one_iff.mp (by decide +kernel :
      (zonemds (Reference.digestPrepared ["one"]).zone.apex
        (Reference.digestSigned ["one"]).records.toList).length = 1) with ⟨record, isRecord⟩
    rcases List.length_eq_one_iff.mp (by decide +kernel :
      (Reference.digestPrepared ["one"]).zoneSigningKeys.length = 1) with ⟨key, isKey⟩
    have apart : Reference.tellsApart ["one"] = true := by decide +kernel
    dsimp only [Reference.tellsApart] at apart
    rw [isRecord] at isFinal apart
    rw [isKey] at isOne isTwo apart
    rw [List.mem_singleton.mp isOne] at signsOne ⊢
    rw [List.mem_singleton.mp isTwo, Reference.rrset_of_perm_singleton isFinal]
    refine ⟨fun _ => rfl, ?_⟩
    intro signsTwo
    have differ : (Reference.domain.signRrset key
        (placeholderRrset (Reference.digestPrepared ["one"]).zone)
        (Reference.digestOptions ["one"]).inception
        (Reference.digestOptions ["one"]).expiration).toOption ≠
        (Reference.domain.signRrset key ⟨record, []⟩ (Reference.digestOptions ["one"]).inception
          (Reference.digestOptions ["one"]).expiration).toOption := by
      simpa using apart
    rw [signsOne, signsTwo] at differ
    exact differ rfl

/-- With two keys, the signature of one of them is still the one over the placeholder. -/
theorem zonemdSignatures_stale :
    prepare Reference.domain (Reference.env [Reference.soaRecord Reference.apex 1])
      (Reference.digestOptions ["one", "two"]) =
        .ok (Reference.digestPrepared ["one", "two"]) ∧
    sign Reference.domain (Reference.digestOptions ["one", "two"])
      (Reference.digestPrepared ["one", "two"]) = .ok (Reference.digestSigned ["one", "two"]) ∧
    ¬FreshSignatures Reference.domain (Reference.digestOptions ["one", "two"])
      (Reference.digestPrepared ["one", "two"]).zoneSigningKeys
      (Reference.digestPrepared ["one", "two"]).zone.apex
      (Reference.digestSigned ["one", "two"]).records.toList := by
  refine ⟨Reference.digestPrepared_ready (by decide +kernel),
    Reference.digestSigned_run (by decide +kernel), ?_⟩
  rintro ⟨rrset, isRrset, _, fresh⟩
  have stale : ((zonemds (Reference.digestPrepared ["one", "two"]).zone.apex
      (Reference.digestSigned ["one", "two"]).records.toList).all fun record =>
        !(zonemdSignatures (Reference.digestPrepared ["one", "two"]).zone.apex
          (Reference.digestSigned ["one", "two"]).records.toList).isPerm
            (signatures Reference.domain (Reference.digestOptions ["one", "two"])
              (Reference.digestPrepared ["one", "two"]).zoneSigningKeys.dedup ⟨record, []⟩)) =
      true := by decide +kernel
  rcases List.length_eq_one_iff.mp (by decide +kernel :
    (zonemds (Reference.digestPrepared ["one", "two"]).zone.apex
      (Reference.digestSigned ["one", "two"]).records.toList).length = 1) with ⟨record, isRecord⟩
  rw [isRecord] at isRrset stale
  rw [Reference.rrset_of_perm_singleton isRrset] at fresh
  simp [List.isPerm_iff.mpr fresh] at stale

end Dnst.Signzone
