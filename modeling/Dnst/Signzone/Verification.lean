import Dnst.Signzone.Coverage

/-! # Verifying the digests

A verifier reads the zone that has been written, sorts it and compares the digests with its
own. The digests were made from the collection before it was written.
-/

namespace Dnst.Signzone

open Effect (bind_eq_ok)
open Keyset (Fault)

/-! ## What is dropped -/

section Dropped

variable {output : Output} {records : SortedRecords}

/-- The records of an owner are all that have its name and class. -/
theorem owner_eq_filter {owner : Rrset} (member : owner ∈ owners records) :
    owner.records = records.toList.filter fun record =>
      record.ownerKey = owner.first.ownerKey := by
  have ordered : SortedList.Ordered Record.ownerKey records.toList :=
    records.ordered.imp Record.ownerKey_le_of_rrsetKey
  apply (SortedList.run_eq_filter ordered (records_mem_runs member) List.mem_cons_self).trans
  apply List.filter_congr
  intro record _
  exact decide_eq_decide.mpr Iff.rfl

/-- A signature that covers an RRset has a place. -/
theorem placed_nowhere (covers : AllCover records.toList) {owner : Rrset}
    (member : owner ∈ owners records) :
    placed (withholdsNsec output owner.owner) owner.records .nowhere = [] := by
  apply placed_eq_nil.mpr
  intro record inOwner
  apply place_ne_nowhere.mpr
  intro isRrsig
  have all := owner_eq_filter member
  have inZone : record ∈ records.toList := by
    rw [all] at inOwner
    exact (List.mem_filter.mp inOwner).1
  rcases covers record inZone isRrsig with ⟨covered, isType, notRrsig, other, found, owned, type⟩
  refine ⟨covered, isType, Or.inr (Or.inr ⟨notRrsig, other, ?_, type⟩)⟩
  rw [all]
  simp [found, owned, ownerKey_of_mem_owner member inOwner]

/-- The NSEC records that are lost, and their signatures, are digested. -/
theorem isDigested_of_lostApexNsec {owner : Rrset} (member : owner ∈ owners records)
    {record : Record} (isLost : record ∈ lostApexNsec output.options.useNsec3
      (withholdsNsec output owner.owner) owner.records) :
    isDigested output.apex record = true := by
  have inPlace : place (withholdsNsec output owner.owner) owner.records record = .apexNsec ∨
      place (withholdsNsec output owner.owner) owner.records record = .apexNsecSignature := by
    unfold lostApexNsec at isLost
    dsimp only at isLost
    split at isLost
    · rcases List.mem_append.mp isLost with nsec | signature
      · exact Or.inl (by simpa using (List.mem_filter.mp nsec).2)
      · exact Or.inr (by simpa using (List.mem_filter.mp signature).2)
    · rcases List.mem_append.mp isLost with nsec | signature
      · exact Or.inl (by simpa using (List.mem_filter.mp (List.mem_of_mem_tail nsec)).2)
      · exact Or.inr (by simpa using (List.mem_filter.mp (List.mem_of_mem_tail signature)).2)
  have inOwner : record ∈ owner.records := by
    unfold lostApexNsec placed at isLost
    dsimp only at isLost
    split at isLost <;> simp only [List.mem_append] at isLost <;> rcases isLost with one | other
    · exact List.mem_of_mem_filter one
    · exact List.mem_of_mem_filter other
    · exact List.mem_of_mem_filter (List.mem_of_mem_tail one)
    · exact List.mem_of_mem_filter (List.mem_of_mem_tail other)
  rw [place_eq_apexNsec, place_eq_apexNsecSignature] at inPlace
  have withheld : withholdsNsec output owner.owner = true := by tauto
  have isApex : record.owner = output.apex :=
    (owner_of_mem_owner member inOwner).trans (of_decide_eq_true withheld).2
  have inZone : record.isInZone output.apex = true := by
    simp [Record.isInZone, Name.endsWith, isApex]
  have notNsec : Rtype.nsec ≠ Rtype.zonemd := by decide
  rcases inPlace with ⟨_, isNsec⟩ | ⟨_, coversNsec⟩
  · have covers : record.typeCovered ≠ some Rtype.zonemd := by
      intro covers
      rw [rtype_of_typeCovered covers] at isNsec
      exact absurd isNsec (by decide)
    simp [isDigested, isApexZonemd, inZone, isNsec, notNsec, covers]
  · have isRrsig := rtype_of_typeCovered coversNsec
    simp [isDigested, isApexZonemd, inZone, coversNsec, isRrsig, notNsec,
      (by decide : Rtype.rrsig ≠ Rtype.zonemd)]

/-- Of the SOA records the first one is written. -/
theorem soas_zoneLines (domain : Domain) (output : Output) (records : SortedRecords) :
    soas (recordsOf (zoneLines domain output records)) = (soas records.toList).head?.toList := by
  rcases dropped_eq output records with ⟨rest, isDropped, fromRest⟩
  have ofTail : soas (soas records.toList).tail = (soas records.toList).tail :=
    List.filter_eq_self.mpr fun _ member => (List.mem_filter.mp (List.mem_of_mem_tail member)).2
  have ofRest : soas rest = [] := by
    apply List.filter_eq_nil_iff.mpr
    intro record member isSoa
    have type := fromRest record member
    rw [of_decide_eq_true isSoa] at type
    exact absurd type (by decide)
  have perm := (@zoneLines_perm domain output records).filter (·.rtype = Rtype.soa)
  rw [isDropped, List.filter_append, List.filter_append] at perm
  change (soas _ ++ (soas _ ++ soas _)).Perm (soas _) at perm
  have all := head_append_tail (soas records.toList)
  rw [ofTail, ofRest, List.append_nil] at perm
  have first := (List.perm_append_right_iff _).mp (perm.trans (List.Perm.of_eq all.symm))
  cases isHead : (soas records.toList).head? with
  | none =>
      rw [isHead] at first
      exact first.eq_nil
  | some soa =>
      rw [isHead] at first
      exact List.perm_singleton.mp first

/-- How often there may be NSEC records of the apex and signatures over them. -/
def ApexNsecWritten (output : Output) (records : SortedRecords) : Prop :=
  output.options.orderRrsigsAfterTheRtypeTheyCover = true →
    ∀ owner ∈ owners records, withholdsNsec output owner.owner = true →
      (owner.records.filter (·.rtype = Rtype.nsec)).length ≤ withheldLimit output.options ∧
      (owner.records.filter (·.typeCovered = some Rtype.nsec)).length ≤
        withheldLimit output.options

/-- Where every signature covers something, only SOA records and NSEC records of the apex with
their signatures are dropped. -/
theorem dropped_digested_iff (covers : AllCover records.toList)
    (someSoa : soas records.toList ≠ []) :
    (dropped output records).filter (isDigested output.apex) = [] ↔
      (∀ record ∈ (soas records.toList).tail, record.isInZone output.apex = false) ∧
        ApexNsecWritten output records := by
  have ofSoas : (soas records.toList).tail.filter (isDigested output.apex) = [] ↔
      ∀ record ∈ (soas records.toList).tail, record.isInZone output.apex = false := by
    rw [List.filter_eq_nil_iff]
    apply forall₂_congr
    intro record member
    have isSoa : record.rtype = Rtype.soa :=
      of_decide_eq_true (List.mem_filter.mp (List.mem_of_mem_tail member)).2
    have notZonemd : isApexZonemd output.apex record = false := by
      apply decide_eq_false
      rintro ⟨_, isZonemd | covers⟩
      · rw [isSoa] at isZonemd
        exact absurd isZonemd (by decide)
      · rw [rtype_of_typeCovered covers] at isSoa
        exact absurd isSoa (by decide)
    simp [isDigested, notZonemd]
  have ofOwner : ∀ owner ∈ owners records,
      (lost output owner.owner owner.records).filter (isDigested output.apex) = [] ↔
        (withholdsNsec output owner.owner = true →
          (owner.records.filter (·.rtype = Rtype.nsec)).length ≤ withheldLimit output.options ∧
          (owner.records.filter (·.typeCovered = some Rtype.nsec)).length ≤
            withheldLimit output.options) := by
    intro owner member
    rw [← lostApexNsec_eq_nil]
    unfold lost
    dsimp only
    rw [placed_nowhere covers member, List.nil_append,
      List.filter_eq_self.mpr fun _ isLost => isDigested_of_lostApexNsec member isLost]
  have notEmpty : (soas records.toList).isEmpty = false := by
    simpa using someSoa
  unfold dropped ApexNsecWritten
  rw [List.filter_append, List.append_eq_nil_iff, ofSoas, notEmpty]
  apply and_congr_right
  intro _
  cases output.options.orderRrsigsAfterTheRtypeTheyCover with
  | false => simp
  | true =>
      simp only [if_true, Bool.false_eq_true, if_false, List.nil_append, true_implies,
        List.filter_flatMap, List.flatMap_eq_nil_iff]
      exact forall₂_congr ofOwner

/-- The records of the apex are those of an owner for which NSEC records are withheld. -/
theorem apex_records {owner : Rrset} (member : owner ∈ owners records)
    (withheld : withholdsNsec output owner.owner = true) (rtype : Rtype) :
    (owner.records.filter (·.rtype = rtype)).Sublist
        (records.toList.filter (isAtApex output.apex rtype)) ∧
      (owner.records.filter (·.typeCovered = some rtype)).Sublist
        (records.toList.filter (coversAtApex output.apex rtype)) := by
  have owned : ∀ record ∈ owner.records, record.owner = output.apex := fun record inOwner =>
    (owner_of_mem_owner member inOwner).trans (of_decide_eq_true withheld).2
  have sublist : owner.records.Sublist records.toList := by
    rw [owner_eq_filter member]
    exact List.filter_sublist
  constructor
  · have same : owner.records.filter (·.rtype = rtype) =
        owner.records.filter (isAtApex output.apex rtype) := by
      apply List.filter_congr
      intro record inOwner
      simp [isAtApex, owned record inOwner]
    rw [same]
    exact sublist.filter _
  · have same : owner.records.filter (·.typeCovered = some rtype) =
        owner.records.filter (coversAtApex output.apex rtype) := by
      apply List.filter_congr
      intro record inOwner
      simp [coversAtApex, owned record inOwner]
    rw [same]
    exact sublist.filter _

/-- One NSEC record at the apex is written, and so is one signature over it. -/
theorem apexNsecWritten_iff
    (nodup : (records.toList.filter (coversAtApex output.apex Rtype.nsec)).Nodup)
    (oneNsec : (records.toList.filter (isAtApex output.apex Rtype.nsec)).length ≤
      withheldLimit output.options)
    (sameOwner : ∀ one ∈ records.toList.filter (coversAtApex output.apex Rtype.nsec),
      ∀ other ∈ records.toList.filter (coversAtApex output.apex Rtype.nsec),
        one.ownerKey = other.ownerKey)
    (withNsec3 : output.options.useNsec3 = true →
      records.toList.filter (coversAtApex output.apex Rtype.nsec) = []) :
    ApexNsecWritten output records ↔
      (output.options.orderRrsigsAfterTheRtypeTheyCover = true →
        output.options.invokedAsLdns = true →
          (records.toList.filter (coversAtApex output.apex Rtype.nsec)).length ≤ 1) := by
  apply forall_congr'
  intro _
  constructor
  · intro written asLdns
    rw [length_le_one_iff nodup]
    intro one isOne other isOther
    have atApex := of_decide_eq_true (List.mem_filter.mp isOne).2
    have covers := of_decide_eq_true (List.mem_filter.mp isOther).2
    rcases exists_owner (List.mem_filter.mp isOne).1 with ⟨owner, member, inOwner⟩
    have withheld : withholdsNsec output owner.owner = true :=
      decide_eq_true ⟨asLdns, (owner_of_mem_owner member inOwner).symm.trans atApex.1⟩
    have all := owner_eq_filter member
    have otherInOwner : other ∈ owner.records := by
      rw [all]
      apply List.mem_filter.mpr
      simp [(List.mem_filter.mp isOther).1, ← sameOwner one isOne other isOther,
        ownerKey_of_mem_owner member inOwner]
    have short : (owner.records.filter (·.typeCovered = some Rtype.nsec)).length ≤ 1 := by
      have limited := (written owner member withheld).2
      unfold withheldLimit at limited
      split at limited <;> omega
    have sublist := (@apex_records output records owner member withheld Rtype.nsec).2
    apply (length_le_one_iff (nodup.sublist sublist)).mp short
    · simp [inOwner, atApex]
    · simp [otherInOwner, covers]
  · intro single owner member withheld
    rcases @apex_records output records owner member withheld Rtype.nsec with ⟨nsec, signatures⟩
    have atMost := single (of_decide_eq_true withheld).1
    apply And.intro (nsec.length_le.trans oneNsec)
    apply signatures.length_le.trans
    unfold withheldLimit
    cases useNsec3 : output.options.useNsec3 with
    | true => simp [withNsec3 useNsec3]
    | false => simpa using atMost

end Dropped

/-! ## Verification -/

/-- The digest of a zone, which is sorted for it. -/
def zoneDigest (domain : Domain) (apex : Name) (algorithm : Nat) (records : List Record) :
    Octets :=
  domain.digest algorithm (digestInput apex (SortedList.ofList Record.key records))

/-- The zone has one SOA record and one ZONEMD record for each tuple, with the serial number of
the SOA record and the digest of the zone. -/
def Verifies (domain : Domain) (tuples : List ZonemdTuple) (apex : Name)
    (records : List Record) : Prop :=
  ∃ soa : Soa, (records.filter (isAtApex apex Rtype.soa)).map Record.data = [.soa soa] ∧
    ((zonemds apex records).map Record.data).Perm (tuples.dedup.map fun tuple =>
      .zonemd ⟨soa.serial, tuple.scheme, tuple.algorithm,
        zoneDigest domain apex tuple.algorithm records⟩)

/-- No SOA record of the zone stands behind another one, and no signature over the NSEC record
of the apex is withheld. -/
structure DigestedWritten (options : SignZone) (prepared : Prepared) : Prop where
  oneSoa : ∀ record ∈ (SortedList.ofList Record.key (soas prepared.zone.records.toList)).tail,
    record.isInZone prepared.zone.apex = false
  oneSignature : options.orderRrsigsAfterTheRtypeTheyCover = true →
    options.invokedAsLdns = true → options.useNsec3 = false →
      prepared.zoneSigningKeys.dedup.length ≤ 1

section SoaRecord

variable {env : Env} {options : SignZone} {zone : Zone}

theorem findApex_eq_ok {records : SortedRecords} {origin : Option Name} {soaRr : Record}
    (found : findApex records origin = .ok soaRr) : soaRr ∈ records.toList := by
  unfold findApex at found
  split at found <;> split at found <;> cases found
  all_goals
    rename_i first
    exact List.mem_of_find?_eq_some first

/-- The SOA record of the zone has the serial number of the digests. -/
theorem readZone_soa (read : readZone env options = .ok zone) :
    ∃ record ∈ zone.records.toList, record.owner = zone.apex ∧
      ∃ soa, record.data = .soa soa ∧ soa.serial = zone.soaSerial := by
  rcases bind_eq_ok read with ⟨records, _, rest⟩
  rcases bind_eq_ok rest with ⟨soaRr, isSoaRr, processed⟩
  have member := findApex_eq_ok isSoaRr
  split at processed
  · next soa isSoa =>
      split at processed
      · cases processed
        rcases SortedList.updateFirst_cases (Record.same · soaRr)
          (fun record => { record with data := .soa (mkBumpedSoaRdata env soa) }) records.toList with
          ⟨_, none_⟩ | ⟨first, old, last, _, same, _, updated⟩
        · have itself : soaRr.same soaRr = true := by simp [Record.same]
          rw [none_ soaRr member] at itself
          cases itself
        · refine ⟨{ old with data := .soa (mkBumpedSoaRdata env soa) }, ?_,
            (of_decide_eq_true same).1, _, rfl, rfl⟩
          change _ ∈ SortedList.updateFirst _ _ _
          rw [updated]
          simp
      · cases processed
        exact ⟨soaRr, member, rfl, soa, isSoa, rfl⟩
  · cases processed

end SoaRecord

section Verify

variable {domain : Domain} {env : Env} {options : SignZone} {prepared : Prepared}
variable {signed : SignedZone} {lines : List Line} {added : List Record}

/-- The SOA records of the zone are those of the signed collection. -/
theorem signed_soas (asked : options.zonemd ≠ [])
    (ready : prepare domain env options = .ok prepared)
    (adds : AddsDenial domain options prepared added) :
    soas ((prepared.toSign options).extend added).toList =
      SortedList.ofList Record.key (soas prepared.zone.records.toList) := by
  have byKey : ∀ one other : Record, one.key = other.key →
      decide (one.rtype = Rtype.soa) = decide (other.rtype = Rtype.soa) := by
    intro one other same
    rw [rtype_of_same (Record.key_eq_iff.mp same)]
  have none_ : soas added = [] := by
    apply List.filter_eq_nil_iff.mpr
    intro record member isSoa
    have type := adds.regenerated record member
    rw [of_decide_eq_true isSoa] at type
    exact absurd type (by decide)
  have before : soas (prepared.toSign options).toList = soas prepared.records.toList := by
    rw [toSign_eq asked]
    apply Eq.trans (@filter_foldl_insertIfNew [placeholderZonemd prepared.zone] _ _ _)
    · unfold SortedRecords.removeAllByNameClassRtype soas
      rw [List.filter_filter]
      apply List.filter_congr
      intro record _
      rw [named_eq_isZonemd]
      by_cases isSoa : record.rtype = Rtype.soa
      · simp [isZonemd, isSoa, (by decide : Rtype.soa ≠ Rtype.zonemd)]
      · simp [isSoa]
    · intro record isPlaceholder
      rw [List.mem_singleton.mp isPlaceholder]
      rfl
  rw [← prepared_soas ready, ← before]
  apply Eq.trans (SortedList.filter_ofList byKey)
  rw [List.filter_append]
  change SortedList.ofList Record.key (soas _ ++ soas added) = _
  rw [none_, List.append_nil]

/-- What there is to know of the signed zone. -/
structure IsSigned (domain : Domain) (options : SignZone) (prepared : Prepared)
    (added : List Record) (records : SortedRecords) : Prop where
  stays : ∀ keeps : Record → Bool,
    (∀ record, isZonemd prepared.zone.apex record = true → keeps record = false) →
    (∀ record, signsZonemd prepared.zone.apex record = true → keeps record = false) →
      records.toList.filter keeps =
        ((prepared.toSign options).extend added).toList.filter keeps
  covers : AllCover records.toList
  digests : (zonemds prepared.zone.apex records.toList).Perm
    (options.zonemd.dedup.map (zonemdRecord domain prepared.zone records.toList))

theorem sign_isSigned (signsType : SignsType domain) (asked : options.zonemd ≠ [])
    (ready : prepare domain env options = .ok prepared)
    (run : sign domain options prepared = .ok signed)
    (laws : ∀ added, addedRecords domain options prepared = .ok added →
      AddsDenial domain options prepared added) :
    ∃ added, AddsDenial domain options prepared added ∧
      IsSigned domain options prepared added signed.records := by
  rcases sign_zonemd asked run with ⟨added, addsThem, finishes⟩
  have adds := laws added addsThem
  rcases finishZonemd_eq_ok signsType asked finishes with ⟨change, keepsSignature, isResult⟩
  have stays := fun keeps => @filter_finished domain options prepared.zone _ signed.records change
    keeps keepsSignature isResult
  have noZonemd : zonemds prepared.zone.apex added = [] := by
    apply List.filter_eq_nil_iff.mpr
    intro record member zonemd
    have type := adds.regenerated record member
    rw [(of_decide_eq_true zonemd).2] at type
    exact absurd type (by decide)
  have placeholders : ∀ record ∈ zonemds prepared.zone.apex
      ((prepared.toSign options).extend added).toList, record = placeholderZonemd prepared.zone := by
    intro record member
    rcases List.mem_filter.mp member with ⟨found, zonemd⟩
    rcases mem_of_mem_signed asked found with same | ⟨_, notZonemd⟩ | new
    · exact same
    · rw [zonemd] at notZonemd
      cases notZonemd
    · have impossible : record ∈ zonemds prepared.zone.apex added :=
        List.mem_filter.mpr ⟨new, zonemd⟩
      rw [noZonemd] at impossible
      cases impossible
  have onePlaceholder : (zonemds prepared.zone.apex
      ((prepared.toSign options).extend added).toList).length ≤ 1 := by
    have sorted : SortedList.Sorted Record.key
        (zonemds prepared.zone.apex ((prepared.toSign options).extend added).toList) :=
      SortedList.Sorted.filter SortedList.ofList_sorted _
    apply sorted.length_le_one
    intro one oneIn other otherIn
    rw [placeholders one oneIn, placeholders other otherIn]
  have digests := @zonemds_finished domain options prepared.zone _ signed.records change
    keepsSignature isResult onePlaceholder
  have notDigested : ∀ record, isZonemd prepared.zone.apex record = true →
      isDigested prepared.zone.apex record = false := by
    intro record zonemd
    have named := of_decide_eq_true zonemd
    simp [isDigested, isApexZonemd, named.1, named.2]
  have sameInput : digestInput prepared.zone.apex (((prepared.toSign options).extend
      added).toList.eraseP (isZonemd prepared.zone.apex)) =
        digestInput prepared.zone.apex signed.records.toList := by
    unfold digestInput
    rw [filter_eraseP _ notDigested, stays _ notDigested]
    intro record signs
    have named := of_decide_eq_true signs
    simp [isDigested, isApexZonemd, named.1, named.2]
  refine ⟨added, adds, stays, ?_, ?_⟩
  · exact finished_covers asked keepsSignature isResult placeholders onePlaceholder
      (extend_covers signsType asked ready adds.covers)
  · unfold zonemdRecord at digests ⊢
    rw [sameInput] at digests
    exact digests

theorem IsSigned.soas {records : SortedRecords} (asked : options.zonemd ≠ [])
    (ready : prepare domain env options = .ok prepared)
    (adds : AddsDenial domain options prepared added)
    (isSigned : IsSigned domain options prepared added records) :
    soas records.toList = SortedList.ofList Record.key (soas prepared.zone.records.toList) := by
  rw [← signed_soas asked ready adds]
  apply isSigned.stays
  · intro record zonemd
    rw [(of_decide_eq_true zonemd).2]
    rfl
  · intro record signs
    rw [rtype_of_signsZonemd signs]
    rfl

/-- What is digested of the signed collection is written under a condition on the zone. -/
theorem dropped_digested_iff_digestedWritten {records : SortedRecords}
    {hashes : Option Nsec3HashMap} (signsType : SignsType domain) (asked : options.zonemd ≠ [])
    (ready : prepare domain env options = .ok prepared)
    (adds : AddsDenial domain options prepared added)
    (differ : SignaturesDiffer domain options prepared.zoneSigningKeys)
    (isSigned : IsSigned domain options prepared added records) :
    (dropped ⟨options, prepared.zone.apex, hashes⟩ records).filter
        (isDigested prepared.zone.apex) = [] ↔ DigestedWritten options prepared := by
  have sameSoas := isSigned.soas asked ready adds
  have someSoa : soas records.toList ≠ [] := by
    rcases readZone_soa (prepare_eq_ok ready).2.1 with ⟨record, member, _, soa, isSoa, _⟩
    have inSoas : record ∈ soas prepared.zone.records.toList := by
      apply List.mem_filter.mpr
      simp [member, Record.rtype, isSoa, ZoneRecordData.rtype]
    have sorted : SortedList.Sorted Record.key ([] : List Record) := List.Pairwise.nil
    rcases SortedList.exists_key_extend sorted (Or.inr inSoas) with ⟨other, found, _⟩
    rw [sameSoas]
    exact List.ne_nil_of_mem found
  have sameNsec : records.toList.filter (isAtApex prepared.zone.apex Rtype.nsec) =
      ((prepared.toSign options).extend added).toList.filter
        (isAtApex prepared.zone.apex Rtype.nsec) := by
    apply isSigned.stays
    · intro record zonemd
      rw [isAtApex, (of_decide_eq_true zonemd).2]
      rfl
    · intro record signs
      rw [isAtApex, rtype_of_signsZonemd signs]
      rfl
  have sameSignatures : records.toList.filter (coversAtApex prepared.zone.apex Rtype.nsec) =
      ((prepared.toSign options).extend added).toList.filter
        (coversAtApex prepared.zone.apex Rtype.nsec) := by
    apply isSigned.stays
    · intro record zonemd
      apply decide_eq_false
      rintro ⟨_, covers⟩
      have impossible := (rtype_of_typeCovered covers).symm.trans (of_decide_eq_true zonemd).2
      exact absurd impossible (by decide)
    · intro record signs
      simp [coversAtApex, (of_decide_eq_true signs).2, (by decide : Rtype.zonemd ≠ Rtype.nsec)]
  have oneNsec := signed_apexNsec signsType asked ready adds
  have oneSignature := signed_apexNsecSignatures signsType asked ready adds differ
  have noNsec := signed_noNsecSignatures signsType asked ready adds
  have sameOwner := fun one isOne other => @signed_apexNsecSignatures_owner domain env options
    prepared added signsType asked ready adds one other isOne
  have nodup : (((prepared.toSign options).extend added).toList.filter
      (coversAtApex prepared.zone.apex Rtype.nsec)).Nodup :=
    SortedList.Sorted.nodup (SortedList.Sorted.filter SortedList.ofList_sorted _)
  rw [← sameNsec] at oneNsec
  rw [← sameSignatures] at oneSignature noNsec sameOwner nodup
  have withNsec3 : options.useNsec3 = true → denialConfig options prepared.mode ≠ .nsec := by
    intro useNsec3 isNsec
    unfold denialConfig at isNsec
    rw [if_pos useNsec3] at isNsec
    split at isNsec <;> cases isNsec
  have limit : (records.toList.filter (isAtApex prepared.zone.apex Rtype.nsec)).length ≤
      withheldLimit options := by
    unfold withheldLimit
    split
    · next useNsec3 => simpa [withNsec3 useNsec3] using oneNsec
    · split at oneNsec <;> omega
  have written := @apexNsecWritten_iff ⟨options, prepared.zone.apex, hashes⟩ records nodup limit
    sameOwner fun useNsec3 => noNsec (withNsec3 useNsec3)
  have isDropped := @dropped_digested_iff ⟨options, prepared.zone.apex, hashes⟩ records
    isSigned.covers someSoa
  rw [isDropped, written, oneSignature, sameSoas]
  constructor
  · intro both
    rcases both with ⟨oneSoa, single⟩
    refine ⟨oneSoa, ?_⟩
    intro layout asLdns noNsec3
    by_cases isNone : prepared.mode = .none
    · rcases prepare_eq_ok ready with ⟨_, _, ⟨_, _, noKeys⟩ | ⟨signs, _⟩⟩
      · simp [noKeys]
      · rw [isNone] at signs
        cases signs
    · apply single layout asLdns
      simp [denialConfig, isNone, noNsec3]
  · intro digested
    refine ⟨digested.oneSoa, ?_⟩
    intro layout asLdns isNsec
    apply digested.oneSignature layout asLdns
    cases useNsec3 : options.useNsec3 with
    | false => rfl
    | true => exact absurd isNsec (withNsec3 useNsec3)

/-- The octets of a record are not empty. -/
theorem canonical_length_pos (record : Record) : 0 < record.canonical.length := by
  simp only [Record.canonical, octets16, List.length_append, List.length_cons]
  omega

/-- With records left out there are fewer octets to hash. -/
theorem flatMap_canonical_length {some_ left all : List Record}
    (perm : (some_ ++ left).Perm all)
    (same : some_.flatMap Record.canonical = all.flatMap Record.canonical) : left = [] := by
  have lengths := (perm.flatMap_right Record.canonical).length_eq
  rw [List.flatMap_append, List.length_append, same] at lengths
  cases left with
  | nil => rfl
  | cons record left =>
      have some_octets := canonical_length_pos record
      simp only [List.flatMap_cons, List.length_append] at lengths
      omega

theorem isDigested_of_key (apex : Name) (one other : Record) (same : one.key = other.key) :
    isDigested apex one = isDigested apex other := by
  have equal := data_eq_of_key same
  unfold isDigested isApexZonemd Record.isInZone Record.rtype Record.typeCovered
  rw [equal.1, equal.2.2]

/-- No two collections of this run that are hashed differ and have the same digest. -/
def NoCollision (domain : Domain) (tuples : List ZonemdTuple) (apex : Name)
    (written signed : List Record) : Prop :=
  ∀ tuple ∈ tuples, zoneDigest domain apex tuple.algorithm written =
      domain.digest tuple.algorithm (digestInput apex signed) →
    digestInput apex (SortedList.ofList Record.key written) = digestInput apex signed

/-- The SOA record that is written is the one of the apex, with the serial number of the
digests, when those behind it are outside the zone. -/
theorem written_apexSoa {records written : List Record}
    (ready : prepare domain env options = .ok prepared)
    (isFirst : soas written = (SortedList.ofList Record.key records).head?.toList)
    (isSoas : records = soas prepared.zone.records.toList)
    (oneSoa : ∀ record ∈ (SortedList.ofList Record.key records).tail,
      record.isInZone prepared.zone.apex = false) :
    ∃ soa, (written.filter (isAtApex prepared.zone.apex Rtype.soa)).map Record.data =
      [.soa soa] ∧ soa.serial = prepared.zone.soaSerial := by
  rcases readZone_soa (prepare_eq_ok ready).2.1 with ⟨apexSoa, member, atApex, soa, isSoa, serial⟩
  have inSoas : apexSoa ∈ records := by
    rw [isSoas]
    apply List.mem_filter.mpr
    simp [member, Record.rtype, isSoa, ZoneRecordData.rtype]
  have sorted : SortedList.Sorted Record.key ([] : List Record) := List.Pairwise.nil
  rcases SortedList.exists_key_extend sorted (Or.inr inSoas) with ⟨found, isFound, sameKey⟩
  have equal := data_eq_of_key sameKey
  have owner : found.owner = prepared.zone.apex := equal.1.trans atApex
  have ofSoas : written.filter (isAtApex prepared.zone.apex Rtype.soa) =
      (soas written).filter fun record => record.owner = prepared.zone.apex := by
    unfold soas
    rw [List.filter_filter]
    apply List.filter_congr
    intro record _
    rw [isAtApex, Bool.and_comm]
    exact Bool.decide_and _ _
  cases all : SortedList.ofList Record.key records with
  | nil =>
      have impossible : found ∈ SortedList.ofList Record.key records := isFound
      rw [all] at impossible
      cases impossible
  | cons first others =>
      have inAll : found ∈ SortedList.ofList Record.key records := isFound
      rw [all] at isFirst oneSoa inAll
      have same : found = first := by
        rcases List.mem_cons.mp inAll with same | behind
        · exact same
        · have inZone : found.isInZone prepared.zone.apex = true := by
            simp [Record.isInZone, Name.endsWith, owner]
          rw [oneSoa found behind] at inZone
          cases inZone
      rw [same] at equal owner
      refine ⟨soa, ?_, serial⟩
      rw [ofSoas, isFirst]
      simp [owner, equal, isSoa]

/-- The written zone verifies if and only if everything that was digested is written. -/
theorem written_verifies_iff (signsType : SignsType domain)
    (ready : prepare domain env options = .ok prepared) (asked : options.zonemd ≠ [])
    (run : sign domain options prepared = .ok signed)
    (writes : writeZone domain ⟨options, prepared.zone.apex, signed.hashes⟩ signed.records =
      .ok lines)
    (laws : ∀ added, addedRecords domain options prepared = .ok added →
      AddsDenial domain options prepared added)
    (differ : SignaturesDiffer domain options prepared.zoneSigningKeys)
    (noCollision : NoCollision domain options.zonemd prepared.zone.apex (recordsOf lines)
      signed.records.toList) :
    Verifies domain options.zonemd prepared.zone.apex (recordsOf lines) ↔
      DigestedWritten options prepared := by
  rcases sign_isSigned signsType asked ready run laws with ⟨added, adds, isSigned⟩
  have condition := @dropped_digested_iff_digestedWritten domain env options prepared added
    signed.records signed.hashes signsType asked ready adds differ isSigned
  have partition := @zoneLines_perm domain ⟨options, prepared.zone.apex, signed.hashes⟩
    signed.records
  have isFirst := soas_zoneLines domain ⟨options, prepared.zone.apex, signed.hashes⟩
    signed.records
  rw [(writeZone_eq_ok.mp writes).2] at partition isFirst
  rcases dropped_eq ⟨options, prepared.zone.apex, signed.hashes⟩ signed.records with
    ⟨rest, isDropped, fromRest⟩
  have typeOfDropped : ∀ record ∈ dropped ⟨options, prepared.zone.apex, signed.hashes⟩
      signed.records, record.rtype ∈ Rtype.soa :: regenerated := by
    intro record member
    rw [isDropped] at member
    rcases List.mem_append.mp member with behind | inRest
    · simp [of_decide_eq_true (List.mem_filter.mp (List.mem_of_mem_tail behind)).2]
    · exact List.mem_cons_of_mem _ (fromRest record inRest)
  have digests : (zonemds prepared.zone.apex (recordsOf lines)).Perm
      (options.zonemd.dedup.map (zonemdRecord domain prepared.zone signed.records.toList)) := by
    have none_ : zonemds prepared.zone.apex
        (dropped ⟨options, prepared.zone.apex, signed.hashes⟩ signed.records) = [] := by
      apply List.filter_eq_nil_iff.mpr
      intro record member zonemd
      have type := typeOfDropped record member
      rw [(of_decide_eq_true zonemd).2] at type
      exact absurd type (by decide)
    have perm := partition.filter (isZonemd prepared.zone.apex)
    rw [List.filter_append] at perm
    change (zonemds _ _ ++ zonemds _ _).Perm _ at perm
    rw [none_, List.append_nil] at perm
    exact perm.trans isSigned.digests
  have sorted : SortedList.Sorted Record.key
      (signed.records.toList.filter (isDigested prepared.zone.apex)) := by
    rw [isSigned.stays]
    · exact SortedList.Sorted.filter SortedList.ofList_sorted _
    · intro record zonemd
      have named := of_decide_eq_true zonemd
      simp [isDigested, isApexZonemd, named.1, named.2]
    · intro record signs
      have named := of_decide_eq_true signs
      simp [isDigested, isApexZonemd, named.1, named.2]
  have digested := partition.filter (isDigested prepared.zone.apex)
  rw [List.filter_append] at digested
  have input : digestInput prepared.zone.apex (SortedList.ofList Record.key (recordsOf lines)) =
      (SortedList.ofList Record.key
        ((recordsOf lines).filter (isDigested prepared.zone.apex))).flatMap Record.canonical :=
    congrArg (List.flatMap Record.canonical)
      (SortedList.filter_ofList (isDigested_of_key prepared.zone.apex))
  rw [← condition]
  constructor
  · intro ⟨soa, _, verified⟩
    rcases List.exists_mem_of_ne_nil _ asked with ⟨tuple, isTuple⟩
    have expected := verified.mem_iff.mpr (List.mem_map_of_mem (List.mem_dedup.mpr isTuple))
    have made := (digests.map Record.data).mem_iff.mp expected
    rcases List.mem_map.mp made with ⟨record, isRecord, sameData⟩
    rcases List.mem_map.mp isRecord with ⟨other, _, isMade⟩
    rw [← isMade] at sameData
    simp only [zonemdRecord, ZoneRecordData.zonemd.injEq, Zonemd.mk.injEq] at sameData
    have same := noCollision tuple isTuple (by rw [← sameData.2.2.2, sameData.2.2.1])
    rw [input] at same
    have symmetric : ∀ {one other : Record}, one.key ≠ other.key → other.key ≠ one.key :=
      fun different equal => different equal.symm
    have distinct := (List.pairwise_append.mp
      ((digested.pairwise_iff symmetric).mpr sorted.keys_ne)).1
    have all : (SortedList.ofList Record.key ((recordsOf lines).filter
        (isDigested prepared.zone.apex))).Perm ([] ++ _) :=
      SortedList.extend_perm List.Pairwise.nil distinct
        fun _ _ _ member => absurd member List.not_mem_nil
    exact flatMap_canonical_length ((all.append_right _).trans digested) same
  · intro nothing
    have oneSoa := (condition.mp nothing).oneSoa
    rw [nothing, List.append_nil] at digested
    have sameInput : digestInput prepared.zone.apex
        (SortedList.ofList Record.key (recordsOf lines)) =
          digestInput prepared.zone.apex signed.records.toList := by
      rw [input, SortedList.ofList_of_perm sorted digested]
      rfl
    rw [isSigned.soas asked ready adds] at isFirst
    rcases written_apexSoa ready isFirst rfl oneSoa with ⟨soa, isSoa, serial⟩
    refine ⟨soa, isSoa, ?_⟩
    apply (digests.map Record.data).trans
    rw [List.map_map, serial]
    unfold zoneDigest
    rw [sameInput]
    exact List.Perm.refl _

end Verify

namespace Reference

/-! A zone whose SOA record has a new serial number, two keys and a digest. -/

def bumpedOptions : SignZone :=
  { digestOptions ["one", "two"] with setSoaSerialToEpochTime := true }

def bumpedPrepared : Prepared :=
  (prepare domain (env [soaRecord apex 1]) bumpedOptions).toOption.getD unprepared

def bumpedAdded : List Record :=
  (addedRecords domain bumpedOptions bumpedPrepared).toOption.getD []

def bumpedSigned : SignedZone :=
  (sign domain bumpedOptions bumpedPrepared).toOption.getD ⟨.ofList [], none⟩

def bumpedLines : List Line :=
  (writeZone domain ⟨bumpedOptions, bumpedPrepared.zone.apex, bumpedSigned.hashes⟩
    bumpedSigned.records).toOption.getD []

/-- The NSEC record of the apex. -/
def bumpedNsec : Record :=
  (bumpedAdded.filter (isAtApex bumpedPrepared.zone.apex Rtype.nsec)).headD (soaRecord apex 1)

theorem bumped_addsDenial : AddsDenial domain bumpedOptions bumpedPrepared bumpedAdded where
  regenerated := by decide +kernel
  covers := by decide +kernel
  apexNsec := by
    intro _
    refine ⟨bumpedNsec, by decide +kernel, canSign _ _ _, ?_⟩
    apply List.isPerm_iff.mp
    decide +kernel
  noNsec := by
    intro notNsec
    exact absurd (by decide +kernel) notNsec

theorem bumped_signaturesDiffer :
    SignaturesDiffer domain bumpedOptions bumpedPrepared.zoneSigningKeys := by
  have apart : ∀ one ∈ bumpedPrepared.zoneSigningKeys, ∀ other ∈ bumpedPrepared.zoneSigningKeys,
      one.publicKey.length = other.publicKey.length ∧
        (one.publicKey = other.publicKey → one = other) := by decide +kernel
  intro rrset one isOne other isOther rrsig signsOne signsOther
  rcases apart one isOne other isOther with ⟨sameLength, same⟩
  cases signsOne
  have equal := congrArg Rrsig.signature (Except.ok.inj signsOther)
  exact same (List.append_inj equal sameLength.symm).1.symm

end Reference

theorem written_verifies_reference :
    Verifies Reference.domain Reference.bumpedOptions.zonemd Reference.bumpedPrepared.zone.apex
      (recordsOf Reference.bumpedLines) := by
  have ready : prepare Reference.domain (Reference.env [Reference.soaRecord Reference.apex 1])
      Reference.bumpedOptions = .ok Reference.bumpedPrepared :=
    Reference.eq_ok_getD _ (by decide +kernel)
  have adds : addedRecords Reference.domain Reference.bumpedOptions Reference.bumpedPrepared =
      .ok Reference.bumpedAdded := Reference.eq_ok_getD _ (by decide +kernel)
  have run : sign Reference.domain Reference.bumpedOptions Reference.bumpedPrepared =
      .ok Reference.bumpedSigned := Reference.eq_ok_getD _ (by decide +kernel)
  have writes : writeZone Reference.domain ⟨Reference.bumpedOptions,
      Reference.bumpedPrepared.zone.apex, Reference.bumpedSigned.hashes⟩
      Reference.bumpedSigned.records = .ok Reference.bumpedLines :=
    Reference.eq_ok_getD _ (by decide +kernel)
  apply (written_verifies_iff Reference.domain_signsType ready (by decide) run writes _
    Reference.bumped_signaturesDiffer _).mpr
  · constructor
    · decide +kernel
    · intro layout
      cases layout
  · intro added found
    rw [adds] at found
    cases found
    exact Reference.bumped_addsDenial
  · intro tuple _ same
    exact (List.cons.inj same).2

end Dnst.Signzone
