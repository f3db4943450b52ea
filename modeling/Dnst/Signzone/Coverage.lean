import Dnst.Signzone.Resigning

/-! # What signatures cover

The signatures of the signed zone cover RRsets that are there, also after the digests have
taken the place of the placeholder. With NSEC the apex has one NSEC record, which is signed once
with each key.
-/

namespace Dnst.Signzone

open Effect (bind_eq_ok)
open Keyset (Fault)

/-! ## Signatures cover something -/

/-- The signature covers an RRset of its owner. -/
def Covers (records : List Record) (record : Record) : Prop :=
  ∃ covered, record.typeCovered = some covered ∧ covered ≠ Rtype.rrsig ∧
    ∃ other ∈ records, other.ownerKey = record.ownerKey ∧ other.rtype = covered

instance (records : List Record) (record : Record) : Decidable (Covers records record) :=
  decidable_of_iff (record.typeCovered.any fun covered => covered ≠ Rtype.rrsig ∧
      records.any fun other => other.ownerKey = record.ownerKey ∧ other.rtype = covered) (by
    simp [Covers, Option.any_eq_true])

/-- All signatures do. -/
def AllCover (records : List Record) : Prop :=
  ∀ record ∈ records, record.rtype = Rtype.rrsig → Covers records record

section Covers

variable {domain : Domain} {env : Env} {options : SignZone} {prepared : Prepared}
variable {zone : Zone} {keys : List SigningKey}

theorem mem_of_findApexRtype {records : SortedRecords} {apex : Name} {rtype : Rtype}
    {rrset : Rrset} (found : records.findApexRtype apex rtype = some rrset) {record : Record}
    (member : record ∈ rrset.records) : record ∈ records.toList := by
  rcases List.mem_filterMap.mp (List.mem_of_find?_eq_some found) with ⟨run, inRuns, made⟩
  cases run with
  | nil => cases made
  | cons first others =>
      cases made
      exact SortedList.mem_run inRuns member

theorem first_of_keyRrsets {rrset : Rrset} (member : rrset ∈ keyRrsets options zone keys) :
    rrset.first ∈ addedDnskeys options zone keys ++ zone.records.toList := by
  rcases List.mem_append.mp member with completed | others
  · have isCompleted := Option.mem_toList.mp completed
    unfold completedDnskeys at isCompleted
    cases whole : dnskeysInZone zone ++ addedDnskeys options zone keys with
    | nil =>
        rw [whole] at isCompleted
        cases isCompleted
    | cons first rest =>
        rw [whole] at isCompleted
        cases isCompleted
        have inWhole : first ∈ dnskeysInZone zone ++ addedDnskeys options zone keys := by
          rw [whole]
          exact List.mem_cons_self
        rcases List.mem_append.mp inWhole with inZone | added
        · apply List.mem_append_right
          unfold dnskeysInZone at inZone
          cases found : zone.records.findApexRtype zone.apex Rtype.dnskey with
          | none =>
              rw [found] at inZone
              cases inZone
          | some one =>
              rw [found] at inZone
              exact mem_of_findApexRtype found inZone
        · exact List.mem_append_left _ added
  · apply List.mem_append_right
    rcases List.mem_append.mp others with cds | cdnskey
    · exact mem_of_findApexRtype (Option.mem_toList.mp cds) List.mem_cons_self
    · exact mem_of_findApexRtype (Option.mem_toList.mp cdnskey) List.mem_cons_self

/-- The types of the RRsets about keys. -/
def keyTypes : List Rtype := [Rtype.dnskey, Rtype.cds, Rtype.cdnskey]

/-- The signatures of the prepared zone cover RRsets about keys. -/
theorem prepared_covers (signsType : SignsType domain)
    (ready : prepare domain env options = .ok prepared) {record : Record}
    (member : record ∈ prepared.records.toList) (isRrsig : record.rtype = Rtype.rrsig) :
    ∃ covered ∈ keyTypes, record.typeCovered = some covered ∧
      ∃ other ∈ prepared.records.toList,
        other.ownerKey = record.ownerKey ∧ other.rtype = covered := by
  rcases prepare_eq_ok ready with ⟨_, read, ⟨_, same, _⟩ | ⟨_, keys, _, _, inserted, _⟩⟩
  · rw [same] at member
    exact absurd isRrsig (readZone_noRrsig read member)
  · have perm := insertNew_perm inserted
    rcases List.mem_append.mp (perm.mem_iff.mp member) with isNew | inZone
    · rcases List.mem_append.mp isNew with added | signed
      · rw [rtype_of_mem_addedDnskeys added] at isRrsig
        exact absurd isRrsig (by decide)
      · rcases List.mem_flatMap.mp signed with ⟨rrset, isKeyRrset, made⟩
        rcases mem_signatures made with ⟨key, _, rrsig, signs, isRecord⟩
        have covers : record.typeCovered = some rrset.rtype := by
          rw [isRecord]
          exact congrArg some (signsType _ _ _ _ _ signs)
        have type := keyRrsets_types.subset (List.mem_map_of_mem isKeyRrset)
        refine ⟨rrset.rtype, type, covers, rrset.first, ?_, ?_, rfl⟩
        · apply perm.mem_iff.mpr
          rcases List.mem_append.mp (first_of_keyRrsets isKeyRrset) with added | inZone
          · exact List.mem_append_left _ (List.mem_append_left _ added)
          · exact List.mem_append_right _ inZone
        · rw [isRecord]
          rfl
    · exact absurd isRrsig (readZone_noRrsig read inZone)

/-- The signatures of the signed collection cover RRsets that are there. -/
theorem extend_covers {added : List Record} (signsType : SignsType domain)
    (asked : options.zonemd ≠ []) (ready : prepare domain env options = .ok prepared)
    (covers : ∀ record ∈ added, record.rtype = Rtype.rrsig →
      Covers ((prepared.toSign options).toList ++ added) record) :
    AllCover ((prepared.toSign options).extend added).toList := by
  have stays {record : Record} (isCovered : Covers ((prepared.toSign options).toList ++ added)
      record) : Covers ((prepared.toSign options).extend added).toList record := by
    rcases isCovered with ⟨covered, isType, notRrsig, other, member, owner, type⟩
    have sorted : SortedList.Sorted Record.key ([] : List Record) := List.Pairwise.nil
    rcases SortedList.exists_key_extend sorted (Or.inr member) with ⟨same, found, sameKey⟩
    have keys := Record.rrsetKey_eq_iff.mp (congrArg (fun key => (ofLex key).1) sameKey)
    exact ⟨covered, isType, notRrsig, same, found, keys.1.trans owner, keys.2.trans type⟩
  intro record member isRrsig
  rcases SortedList.mem_of_mem_extend member with impossible | found
  · cases impossible
  · apply stays
    rcases List.mem_append.mp found with before | new
    · have perm := replaceApexZonemd_perm prepared.zone prepared.records
      rw [← toSign_eq asked] at perm
      rcases List.mem_cons.mp (perm.mem_iff.mp before) with isPlaceholder | kept
      · rw [isPlaceholder] at isRrsig
        exact absurd isRrsig (by decide : Rtype.zonemd ≠ Rtype.rrsig)
      · rcases prepared_covers signsType ready (List.mem_filter.mp kept).1 isRrsig with
          ⟨covered, isKeyType, isType, other, inPrepared, owner, type⟩
        have notRrsig : covered ≠ Rtype.rrsig :=
          ne_of_mem_of_not_mem isKeyType (by decide : Rtype.rrsig ∉ keyTypes)
        have notZonemd : covered ≠ Rtype.zonemd :=
          ne_of_mem_of_not_mem isKeyType (by decide : Rtype.zonemd ∉ keyTypes)
        refine ⟨covered, isType, notRrsig, other, List.mem_append_left _ ?_, owner, type⟩
        apply perm.mem_iff.mpr
        apply List.mem_cons_of_mem
        apply List.mem_filter.mpr
        simp [inPrepared, isZonemd, type, notZonemd]
    · exact covers record new isRrsig

end Covers

/-! ## The digests take the place of the placeholder -/

section Finish

variable {domain : Domain} {options : SignZone} {mode : SigningMode} {zone : Zone}
variable {keys : List SigningKey} {records result : SortedRecords}

/-- A change to a signature over the apex ZONEMD RRset that leaves it one. -/
def KeepsSignature (apex : Name) (change : Record → Record) : Prop :=
  ∀ record, signsZonemd apex record = true → signsZonemd apex (change record) = true ∧
    (change record).ownerKey = record.ownerKey

/-- The collection with the digests, in which one signature over them may be new. -/
theorem finishZonemd_eq_ok (signsType : SignsType domain) (asked : options.zonemd ≠ [])
    (finishes : finishZonemd domain options mode zone keys options.zonemd.dedup records =
      .ok result) :
    ∃ change, KeepsSignature zone.apex change ∧
      result.toList = SortedList.updateFirst (signsZonemd zone.apex) change
        (withDigests domain options zone records).toList := by
  rcases bind_eq_ok finishes with ⟨zonemdRrs, created, rest⟩
  have new := (createZonemd_eq_ok created).1
  have isWithDigests : zonemdRrs.foldl insertIfNew
      (records.removeFirstByNameClassRtype zone.apex none (some Rtype.zonemd)) =
      withDigests domain options zone records := by
    rw [new]
    rfl
  dsimp only at rest
  rw [isWithDigests] at rest
  split at rest
  · cases tuples : options.zonemd.dedup with
    | nil => simp [asked] at tuples
    | cons tuple others =>
        rw [tuples] at new
        let made := zonemdRecord domain zone
          (records.removeFirstByNameClassRtype zone.apex none (some Rtype.zonemd)).toList
        let final : Rrset := ⟨made tuple, others.map made⟩
        have isFinal : zonemdRrs = final.records := new
        rw [isFinal] at rest
        rcases updateZonemdRrsig_eq_ok rest with ⟨_, key, _, rrsig, signs, replaced⟩
        refine ⟨_, ?_, replaced⟩
        intro record isSignature
        have covers : rrsig.typeCovered = Rtype.zonemd := signsType _ _ _ _ _ signs
        exact ⟨decide_eq_true ⟨(of_decide_eq_true isSignature).1, congrArg some covers⟩, rfl⟩
  · cases rest
    refine ⟨id, fun _ isSignature => ⟨isSignature, rfl⟩, ?_⟩
    rcases SortedList.updateFirst_cases (signsZonemd zone.apex) id
      (withDigests domain options zone records).toList with
      ⟨same, _⟩ | ⟨before, record, after, split, _, _, changed⟩
    · exact same.symm
    · rw [changed]
      exact split

/-- Records other than ZONEMD records and signatures over them stay. -/
theorem filter_finished {change : Record → Record} {keeps : Record → Bool}
    (keepsSignature : KeepsSignature zone.apex change)
    (isResult : result.toList = SortedList.updateFirst (signsZonemd zone.apex) change
      (withDigests domain options zone records).toList)
    (notZonemd : ∀ record, isZonemd zone.apex record = true → keeps record = false)
    (notSignature : ∀ record, signsZonemd zone.apex record = true → keeps record = false) :
    result.toList.filter keeps = records.toList.filter keeps := by
  rw [isResult, SortedList.filter_updateFirst fun record isSignature =>
    ⟨notSignature _ isSignature, notSignature _ (keepsSignature record isSignature).1⟩]
  apply Eq.trans (filter_foldl_insertIfNew _)
  · rw [eraseP_isZonemd]
    exact filter_eraseP _ notZonemd
  · intro record member
    rcases List.mem_map.mp member with ⟨tuple, _, made⟩
    rw [← made]
    exact notZonemd _ (isZonemd_zonemdRecord _ tuple)

theorem zonemds_finished {change : Record → Record}
    (keepsSignature : KeepsSignature zone.apex change)
    (isResult : result.toList = SortedList.updateFirst (signsZonemd zone.apex) change
      (withDigests domain options zone records).toList)
    (onePlaceholder : (zonemds zone.apex records.toList).length ≤ 1) :
    (zonemds zone.apex result.toList).Perm (options.zonemd.dedup.map
      (zonemdRecord domain zone (records.toList.eraseP (isZonemd zone.apex)))) := by
  have stays : zonemds zone.apex result.toList =
      zonemds zone.apex (withDigests domain options zone records).toList := by
    rw [isResult]
    apply SortedList.filter_updateFirst
    intro record isSignature
    exact ⟨not_isZonemd_of_signsZonemd isSignature,
      not_isZonemd_of_signsZonemd (keepsSignature record isSignature).1⟩
  rw [stays]
  exact zonemds_withDigests onePlaceholder

/-- Signatures still cover something: the digests are of the class of the placeholder. -/
theorem finished_covers {change : Record → Record} (asked : options.zonemd ≠ [])
    (keepsSignature : KeepsSignature zone.apex change)
    (isResult : result.toList = SortedList.updateFirst (signsZonemd zone.apex) change
      (withDigests domain options zone records).toList)
    (placeholders : ∀ record ∈ zonemds zone.apex records.toList, record = placeholderZonemd zone)
    (onePlaceholder : (zonemds zone.apex records.toList).length ≤ 1)
    (covers : AllCover records.toList) : AllCover result.toList := by
  have digests := @zonemds_finished domain options zone records result change keepsSignature
    isResult onePlaceholder
  -- What was covered still is, be it by a digest instead of the placeholder.
  have stays {record : Record} (isCovered : Covers records.toList record) :
      Covers result.toList record := by
    rcases isCovered with ⟨covered, isType, notRrsig, other, member, owner, type⟩
    refine ⟨covered, isType, notRrsig, ?_⟩
    cases isPlaceholder : isZonemd zone.apex other with
    | true =>
        have same := placeholders other (List.mem_filter.mpr ⟨member, isPlaceholder⟩)
        rcases List.exists_mem_of_ne_nil _ asked with ⟨tuple, isTuple⟩
        have isDigest := digests.mem_iff.mpr (List.mem_map_of_mem (List.mem_dedup.mpr isTuple))
        rw [same] at owner type
        exact ⟨_, (List.mem_filter.mp isDigest).1, owner, type⟩
    | false =>
        have kept : other ∈ records.toList.filter fun record =>
            !isZonemd zone.apex record && !signsZonemd zone.apex record := by
          apply List.mem_filter.mpr
          refine ⟨member, ?_⟩
          cases signs : signsZonemd zone.apex other with
          | false => simp [isPlaceholder]
          | true => exact absurd (type.symm.trans (rtype_of_signsZonemd signs)) notRrsig
        rw [← filter_finished keepsSignature isResult (by simp_all) (by simp_all)] at kept
        exact ⟨other, (List.mem_filter.mp kept).1, owner, type⟩
  have before : ∀ record ∈ (withDigests domain options zone records).toList,
      record.rtype = Rtype.rrsig → Covers records.toList record := by
    intro record member isRrsig
    rcases List.mem_append.mp ((withDigests_perm onePlaceholder).mem_iff.mp member) with
      digest | old
    · rcases List.mem_map.mp digest with ⟨tuple, _, made⟩
      rw [← made] at isRrsig
      exact absurd isRrsig (by decide : Rtype.zonemd ≠ Rtype.rrsig)
    · exact covers record (List.mem_of_mem_eraseP old) isRrsig
  intro record member isRrsig
  rw [isResult] at member
  rcases SortedList.updateFirst_cases (signsZonemd zone.apex) change
    (withDigests domain options zone records).toList with
    ⟨same, _⟩ | ⟨first, old, last, split, isSignature, _, changed⟩
  · rw [same] at member
    exact stays (before record member isRrsig)
  · have inWhole : record = change old ∨ record ∈ (withDigests domain options zone records).toList := by
      rw [changed] at member
      rw [split]
      simp only [List.mem_append, List.mem_cons] at member ⊢
      tauto
    rcases inWhole with isNew | isOld
    · have oldIn : old ∈ (withDigests domain options zone records).toList := by
        rw [split]
        simp
      have kept := keepsSignature old isSignature
      rcases stays (before old oldIn (rtype_of_signsZonemd isSignature)) with
        ⟨covered, isType, notRrsig, other, member, owner, type⟩
      have isZonemdType : Rtype.zonemd = covered :=
        Option.some.inj ((of_decide_eq_true isSignature).2.symm.trans isType)
      rw [isNew]
      exact ⟨covered, isZonemdType ▸ (of_decide_eq_true kept.1).2, notRrsig, other, member,
        owner.trans kept.2.symm, type⟩
    · exact stays (before record isOld isRrsig)

end Finish

/-! ## The signed zone -/

/-- A signature at the apex over records of a type. -/
def coversAtApex (apex : Name) (covered : Rtype) (record : Record) : Bool :=
  record.owner = apex ∧ record.typeCovered = some covered

/-- What `sign_zone` adds: nothing that would be loaded, signatures over RRsets that are
there and, with NSEC, one NSEC record at the apex that is signed once with each key. -/
structure AddsDenial (domain : Domain) (options : SignZone) (prepared : Prepared)
    (added : List Record) : Prop where
  regenerated : ∀ record ∈ added, record.rtype ∈ regenerated
  covers : ∀ record ∈ added, record.rtype = Rtype.rrsig →
    Covers ((prepared.toSign options).toList ++ added) record
  apexNsec : denialConfig options prepared.mode = .nsec →
    ∃ nsec : Record, added.filter (isAtApex prepared.zone.apex Rtype.nsec) = [nsec] ∧
      CanSign domain options prepared.zoneSigningKeys ⟨nsec, []⟩ ∧
      (added.filter (coversAtApex prepared.zone.apex Rtype.nsec)).Perm
        (signatures domain options prepared.zoneSigningKeys ⟨nsec, []⟩)
  noNsec : denialConfig options prepared.mode ≠ .nsec →
    ∀ record ∈ added, record.rtype ≠ Rtype.nsec ∧ record.typeCovered ≠ some Rtype.nsec

/-- A signature tells which key made it. -/
def SignaturesDiffer (domain : Domain) (options : SignZone) (keys : List SigningKey) : Prop :=
  ∀ rrset, ∀ one ∈ keys, ∀ other ∈ keys, ∀ rrsig,
    domain.signRrset one rrset options.inception options.expiration = .ok rrsig →
      domain.signRrset other rrset options.inception options.expiration = .ok rrsig →
        one = other

section Signed

variable {domain : Domain} {env : Env} {options : SignZone} {prepared : Prepared}
variable {added : List Record}

theorem length_le_one_iff {Item : Type} {items : List Item} (nodup : items.Nodup) :
    items.length ≤ 1 ↔ ∀ one ∈ items, ∀ other ∈ items, one = other := by
  match items with
  | [] => simp
  | [_] => simp
  | one :: other :: rest =>
      have different : one ≠ other := by
        intro same
        simp [same] at nodup
      constructor
      · intro short
        simp at short
      · intro same
        exact absurd (same one (by simp) other (by simp)) different

/-- Nothing in the zone is regenerated. -/
theorem readZone_notRegenerated {zone : Zone} (read : readZone env options = .ok zone)
    {record : Record} (member : record ∈ zone.records.toList) :
    record.rtype ∉ regenerated := by
  rcases readZone_records read with ⟨found, loaded, from_⟩
  have before : ∀ record ∈ (SortedRecords.ofList found).toList, record.rtype ∉ regenerated := by
    intro record member isRegenerated
    rcases SortedList.mem_of_mem_extend member with impossible | inFound
    · cases impossible
    · have isLoaded := loaded record inFound
      rw [loads_of_regenerated isRegenerated] at isLoaded
      cases isLoaded
  rcases from_ with same | ⟨soaRr, soa, newSoa, isSoa, changed⟩
  · rw [same] at member
    exact before record member
  · rw [changed] at member
    rcases SortedList.updateFirst_cases (Record.same · soaRr)
      (fun record => { record with data := .soa newSoa }) (SortedRecords.ofList found).toList with
      ⟨same, _⟩ | ⟨first, old, last, split, _, _, updated⟩
    · rw [same] at member
      exact before record member
    · rw [updated] at member
      rw [split] at before
      rcases List.mem_append.mp member with inFirst | behind
      · exact before record (by simp [inFirst])
      · rcases List.mem_cons.mp behind with isNew | inLast
        · rw [isNew]
          exact (by decide : Rtype.soa ∉ regenerated)
        · exact before record (by simp [inLast])

/-- Neither NSEC records nor signatures over them are there before the zone is signed. -/
theorem toSign_noNsec (signsType : SignsType domain) (asked : options.zonemd ≠ [])
    (ready : prepare domain env options = .ok prepared) {record : Record}
    (member : record ∈ (prepared.toSign options).toList) :
    record.rtype ≠ Rtype.nsec ∧ record.typeCovered ≠ some Rtype.nsec := by
  have perm := replaceApexZonemd_perm prepared.zone prepared.records
  rw [← toSign_eq asked] at perm
  rcases List.mem_cons.mp (perm.mem_iff.mp member) with isPlaceholder | kept
  · rw [isPlaceholder]
    simp [placeholderZonemd, Record.typeCovered, Record.rtype, ZoneRecordData.rtype,
      (by decide : Rtype.zonemd ≠ Rtype.nsec)]
  · have inPrepared := (List.mem_filter.mp kept).1
    constructor
    · intro isNsec
      rcases prepare_eq_ok ready with ⟨_, read, ⟨_, same, _⟩ | ⟨_, keys, _, _, inserted, _⟩⟩
      · rw [same] at inPrepared
        exact readZone_notRegenerated read inPrepared (by rw [isNsec]; decide)
      · rcases List.mem_append.mp ((insertNew_perm inserted).mem_iff.mp inPrepared) with
          isNew | inZone
        · rcases List.mem_append.mp isNew with addedKey | signed
          · rw [rtype_of_mem_addedDnskeys addedKey] at isNsec
            exact absurd isNsec (by decide)
          · rcases List.mem_flatMap.mp signed with ⟨rrset, _, made⟩
            rw [rtype_of_mem_signatures made] at isNsec
            exact absurd isNsec (by decide)
        · exact readZone_notRegenerated read inZone (by rw [isNsec]; decide)
    · intro coversNsec
      rcases prepared_covers signsType ready inPrepared (rtype_of_typeCovered coversNsec) with
        ⟨covered, isKeyType, isType, _⟩
      rw [coversNsec] at isType
      cases isType
      exact absurd isKeyType (by decide)

/-- The signed collection, of a kind of records that is not there before. -/
theorem filter_extend_new {keeps : Record → Bool}
    (byKey : ∀ one other : Record, one.key = other.key → keeps one = keeps other)
    (none_ : ∀ record ∈ (prepared.toSign options).toList, keeps record = false) :
    ((prepared.toSign options).extend added).toList.filter keeps =
      SortedList.ofList Record.key (added.filter keeps) := by
  have before : (prepared.toSign options).toList.filter keeps = [] := by
    simpa [List.filter_eq_nil_iff] using none_
  apply Eq.trans (SortedList.filter_ofList byKey)
  rw [List.filter_append, before, List.nil_append]

theorem data_eq_of_key {one other : Record} (same : one.key = other.key) :
    one.owner = other.owner ∧ one.class' = other.class' ∧ one.data = other.data :=
  of_decide_eq_true (Record.key_eq_iff.mp same)

/-- The NSEC records of the apex in the signed collection. -/
theorem signed_apexNsec (signsType : SignsType domain) (asked : options.zonemd ≠ [])
    (ready : prepare domain env options = .ok prepared)
    (adds : AddsDenial domain options prepared added) :
    (((prepared.toSign options).extend added).toList.filter
      (isAtApex prepared.zone.apex Rtype.nsec)).length ≤
        if denialConfig options prepared.mode = .nsec then 1 else 0 := by
  rw [filter_extend_new]
  · split
    · next isNsec =>
        rcases adds.apexNsec isNsec with ⟨nsec, one, _⟩
        rw [one]
        exact Nat.le_refl 1
    · next notNsec =>
        have none_ : added.filter (isAtApex prepared.zone.apex Rtype.nsec) = [] := by
          apply List.filter_eq_nil_iff.mpr
          intro record member
          simp [isAtApex, (adds.noNsec notNsec record member).1]
        rw [none_]
        exact Nat.le_refl 0
  · intro one other same
    have equal := data_eq_of_key same
    rw [isAtApex, isAtApex, Record.rtype, Record.rtype, equal.1, equal.2.2]
  · intro record member
    simp [isAtApex, (toSign_noNsec signsType asked ready member).1]

theorem filter_signed_signatures (signsType : SignsType domain) (asked : options.zonemd ≠ [])
    (ready : prepare domain env options = .ok prepared) :
    ((prepared.toSign options).extend added).toList.filter
      (coversAtApex prepared.zone.apex Rtype.nsec) = SortedList.ofList Record.key
        (added.filter (coversAtApex prepared.zone.apex Rtype.nsec)) := by
  apply filter_extend_new
  · intro one other same
    have equal := data_eq_of_key same
    rw [coversAtApex, coversAtApex, Record.typeCovered, Record.typeCovered, equal.1, equal.2.2]
  · intro record member
    simp [coversAtApex, (toSign_noNsec signsType asked ready member).2]

/-- Without NSEC there are none over NSEC records. -/
theorem signed_noNsecSignatures (signsType : SignsType domain) (asked : options.zonemd ≠ [])
    (ready : prepare domain env options = .ok prepared)
    (adds : AddsDenial domain options prepared added)
    (notNsec : denialConfig options prepared.mode ≠ .nsec) :
    ((prepared.toSign options).extend added).toList.filter
      (coversAtApex prepared.zone.apex Rtype.nsec) = [] := by
  have none_ : added.filter (coversAtApex prepared.zone.apex Rtype.nsec) = [] := by
    apply List.filter_eq_nil_iff.mpr
    intro record member
    simp [coversAtApex, (adds.noNsec notNsec record member).2]
  rw [filter_signed_signatures signsType asked ready, none_]
  rfl

/-- Those over the NSEC record of the apex are of one owner. -/
theorem signed_apexNsecSignatures_owner (signsType : SignsType domain)
    (asked : options.zonemd ≠ []) (ready : prepare domain env options = .ok prepared)
    (adds : AddsDenial domain options prepared added) {one other : Record}
    (isOne : one ∈ ((prepared.toSign options).extend added).toList.filter
      (coversAtApex prepared.zone.apex Rtype.nsec))
    (isOther : other ∈ ((prepared.toSign options).extend added).toList.filter
      (coversAtApex prepared.zone.apex Rtype.nsec)) : one.ownerKey = other.ownerKey := by
  by_cases isNsec : denialConfig options prepared.mode = .nsec
  · rcases adds.apexNsec isNsec with ⟨nsec, _, _, perm⟩
    have owned {record : Record} (member : record ∈ ((prepared.toSign options).extend
        added).toList.filter (coversAtApex prepared.zone.apex Rtype.nsec)) :
        record.ownerKey = nsec.ownerKey := by
      rw [filter_signed_signatures signsType asked ready] at member
      rcases SortedList.mem_of_mem_extend member with impossible | found
      · cases impossible
      · rcases mem_signatures (perm.mem_iff.mp found) with ⟨_, _, rrsig, _, made⟩
        rw [made]
        rfl
    exact (owned isOne).trans (owned isOther).symm
  · rw [signed_noNsecSignatures signsType asked ready adds isNsec] at isOne
    cases isOne

/-- There is one for each different key. -/
theorem signed_apexNsecSignatures (signsType : SignsType domain) (asked : options.zonemd ≠ [])
    (ready : prepare domain env options = .ok prepared)
    (adds : AddsDenial domain options prepared added)
    (differ : SignaturesDiffer domain options prepared.zoneSigningKeys) :
    (((prepared.toSign options).extend added).toList.filter
      (coversAtApex prepared.zone.apex Rtype.nsec)).length ≤ 1 ↔
        (denialConfig options prepared.mode = .nsec → prepared.zoneSigningKeys.dedup.length ≤ 1) := by
  by_cases isNsec : denialConfig options prepared.mode = .nsec
  · have nodup : (((prepared.toSign options).extend added).toList.filter
        (coversAtApex prepared.zone.apex Rtype.nsec)).Nodup :=
      SortedList.Sorted.nodup (SortedList.Sorted.filter SortedList.ofList_sorted _)
    rcases adds.apexNsec isNsec with ⟨nsec, _, canSign, perm⟩
    rw [length_le_one_iff nodup, length_le_one_iff (List.nodup_dedup _),
      filter_signed_signatures signsType asked ready]
    simp only [isNsec, true_implies, List.mem_dedup]
    constructor
    · intro single one isOne other isOther
      have present {key : SigningKey} {rrsig : Rrsig} (isKey : key ∈ prepared.zoneSigningKeys)
          (signs : domain.signRrset key ⟨nsec, []⟩ options.inception options.expiration =
            .ok rrsig) : ∃ record ∈ SortedList.ofList Record.key
              (added.filter (coversAtApex prepared.zone.apex Rtype.nsec)),
                record.data = .rrsig rrsig := by
        have sorted : SortedList.Sorted Record.key ([] : List Record) := List.Pairwise.nil
        have isSignature := perm.mem_iff.mpr (mem_signatures_of_ok isKey signs)
        rcases SortedList.exists_key_extend sorted (Or.inr isSignature) with
          ⟨record, found, same⟩
        exact ⟨record, found, (data_eq_of_key same).2.2⟩
      rcases canSign one isOne with ⟨oneRrsig, oneSigns⟩
      rcases canSign other isOther with ⟨otherRrsig, otherSigns⟩
      rcases present isOne oneSigns with ⟨oneRecord, oneFound, oneData⟩
      rcases present isOther otherSigns with ⟨otherRecord, otherFound, otherData⟩
      rw [single oneRecord oneFound otherRecord otherFound, otherData] at oneData
      cases oneData
      exact differ _ one isOne other isOther _ oneSigns otherSigns
    · intro single one isOne other isOther
      have made {record : Record} (member : record ∈ SortedList.ofList Record.key
          (added.filter (coversAtApex prepared.zone.apex Rtype.nsec))) :
          record ∈ signatures domain options prepared.zoneSigningKeys ⟨nsec, []⟩ := by
        rcases SortedList.mem_of_mem_extend member with impossible | found
        · cases impossible
        · exact perm.mem_iff.mp found
      rcases mem_signatures (made isOne) with ⟨oneKey, isOneKey, oneRrsig, oneSigns, oneMade⟩
      rcases mem_signatures (made isOther) with
        ⟨otherKey, isOtherKey, otherRrsig, otherSigns, otherMade⟩
      rw [single oneKey isOneKey otherKey isOtherKey, otherSigns] at oneSigns
      cases oneSigns
      rw [oneMade, otherMade]
  · rw [signed_noNsecSignatures signsType asked ready adds isNsec]
    simp [isNsec]

end Signed

end Dnst.Signzone
