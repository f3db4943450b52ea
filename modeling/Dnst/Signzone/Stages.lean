import Dnst.Signzone.PanicFree

/-! # The records, stage by stage

From the zone that is loaded to the collection that is written: the records about keys,
the placeholder, what `sign_zone` adds, and the digests.
-/

namespace Dnst.Signzone

open Effect (bind_eq_ok)
open Keyset (Fault)

/-! ## Collections -/

section Collections

/-- Records with different keys that are new are all inserted. -/
theorem foldl_insertIfNew_perm {new : List Record} {records : SortedRecords}
    (different : new.Pairwise fun one other => one.key ≠ other.key)
    (absent : ∀ record ∈ new, ∀ other ∈ records.toList, other.key ≠ record.key) :
    (new.foldl insertIfNew records).toList.Perm (new ++ records.toList) := by
  induction new generalizing records with
  | nil => exact List.Perm.refl _
  | cons record new induction =>
      rcases List.pairwise_cons.mp different with ⟨apart, rest⟩
      rcases SortedList.insert?_of_new (absent record List.mem_cons_self) with ⟨result, inserted⟩
      have grown : (insertIfNew records record).toList = result := by
        unfold insertIfNew SortedRecords.insert
        split
        · next refused =>
            rw [inserted] at refused
            cases refused
        · next other found =>
            rw [inserted] at found
            cases found
            rfl
      have perm := SortedList.insert?_perm inserted
      rw [List.foldl_cons]
      apply (induction rest _).trans
      · rw [grown]
        exact (perm.append_left new).trans List.perm_middle
      · intro one later other member
        rw [grown] at member
        rcases List.mem_cons.mp (perm.mem_iff.mp member) with same | before
        · rw [same]
          exact apart one later
        · exact absent one (List.mem_cons_of_mem _ later) other before

theorem filter_foldl_insertIfNew {new : List Record} {records : SortedRecords}
    {keeps : Record → Bool} (dropped : ∀ record ∈ new, keeps record = false) :
    (new.foldl insertIfNew records).toList.filter keeps = records.toList.filter keeps := by
  induction new generalizing records with
  | nil => rfl
  | cons record new induction =>
      rw [List.foldl_cons, induction fun other member => dropped other (List.mem_cons_of_mem _ member)]
      unfold insertIfNew
      cases inserted : records.insert record with
      | none => rfl
      | some result =>
          exact SortedList.filter_insert?_of_not (insert_eq_some inserted)
            (dropped record List.mem_cons_self)

theorem filter_eraseP_self {matcher : Record → Bool} (list : List Record) :
    (list.eraseP matcher).filter matcher = (list.filter matcher).tail := by
  induction list with
  | nil => rfl
  | cons head rest induction =>
      cases matched : matcher head with
      | true => simp [matched]
      | false => simpa [matched] using induction

theorem filter_eraseP {matcher keeps : Record → Bool} (list : List Record)
    (dropped : ∀ record, matcher record = true → keeps record = false) :
    (list.eraseP matcher).filter keeps = list.filter keeps := by
  induction list with
  | nil => rfl
  | cons head rest induction =>
      cases matched : matcher head with
      | true => simp [matched, dropped head matched]
      | false =>
          rw [List.eraseP_cons_of_neg (by simp [matched]), List.filter_cons, List.filter_cons,
            induction]

theorem insertNew_perm {records result : SortedRecords} {new : List Record}
    (inserted : insertNew records new = .ok result) :
    result.toList.Perm (new ++ records.toList) := by
  induction new generalizing records with
  | nil =>
      cases inserted
      exact List.Perm.refl _
  | cons record new induction =>
      unfold insertNew at inserted
      split at inserted
      · next grown added =>
          have perm := SortedList.insert?_perm (insert_eq_some added)
          exact (induction inserted).trans ((perm.append_left new).trans List.perm_middle)
      · cases inserted

theorem filter_insertNew {records result : SortedRecords} {new : List Record}
    {keeps : Record → Bool} (inserted : insertNew records new = .ok result)
    (dropped : ∀ record ∈ new, keeps record = false) :
    result.toList.filter keeps = records.toList.filter keeps := by
  induction new generalizing records with
  | nil =>
      cases inserted
      rfl
  | cons record new induction =>
      unfold insertNew at inserted
      split at inserted
      · next grown added =>
          rw [induction inserted fun other member => dropped other (List.mem_cons_of_mem _ member)]
          exact SortedList.filter_insert?_of_not (insert_eq_some added)
            (dropped record List.mem_cons_self)
      · cases inserted

end Collections

/-! ## The records about keys -/

section Prepare

variable {domain : Domain} {env : Env} {options : SignZone} {prepared : Prepared}

/-- The zone as it is loaded, or with new records for the keys. -/
theorem prepare_eq_ok (ready : prepare domain env options = .ok prepared) :
    signingMode options = .ok prepared.mode ∧ readZone env options = .ok prepared.zone ∧
      ((prepared.mode ≠ .hashAndSign ∧ prepared.records = prepared.zone.records ∧
          prepared.zoneSigningKeys = []) ∨
        (prepared.mode = .hashAndSign ∧ ∃ keys,
          loadKeys domain env options prepared.zone = .ok keys ∧
          (∀ rrset ∈ keyRrsets options prepared.zone keys,
            CanSign domain options (splitKeys options keys).1 rrset) ∧
          insertNew prepared.zone.records (newRecords domain options prepared.zone keys) =
            .ok prepared.records ∧
          prepared.zoneSigningKeys = (splitKeys options keys).2)) := by
  rcases bind_eq_ok ready with ⟨mode, isMode, rest⟩
  rcases bind_eq_ok rest with ⟨zone, read, later⟩
  split at later
  · next signs =>
      rcases bind_eq_ok later with ⟨keyedZone, added, made⟩
      cases made
      rw [addKeys_eq] at added
      rcases bind_eq_ok added with ⟨keys, loaded, completes⟩
      have never : NeverPanics (addLoadedKeys domain options zone keys) := by
        rw [completes]
        exact neverPanics_ok _
      have canSign := signs_of_addLoadedKeys never
      rw [addLoadedKeys_of_signs canSign] at completes
      rcases bind_eq_ok completes with ⟨records, inserted, same⟩
      cases same
      exact ⟨isMode, read, Or.inr ⟨signs, keys, loaded, canSign, inserted, rfl⟩⟩
  · next notSigned =>
      cases later
      exact ⟨isMode, read, Or.inl ⟨notSigned, rfl, rfl⟩⟩

end Prepare

/-! ## The placeholder -/

def isZonemd (apex : Name) (record : Record) : Bool :=
  record.owner = apex ∧ record.rtype = Rtype.zonemd

/-- The records of the apex ZONEMD RRset. -/
def zonemds (apex : Name) (records : List Record) : List Record := records.filter (isZonemd apex)

/-- The signatures over the apex ZONEMD RRset. -/
def zonemdSignatures (apex : Name) (records : List Record) : List Record :=
  records.filter (signsZonemd apex)

section Placeholder

variable {options : SignZone} {prepared : Prepared}

theorem isZonemd_placeholder (zone : Zone) : isZonemd zone.apex (placeholderZonemd zone) = true :=
  decide_eq_true ⟨rfl, rfl⟩

theorem not_isZonemd_of_signsZonemd {apex : Name} {record : Record}
    (signs : signsZonemd apex record = true) : isZonemd apex record = false := by
  apply decide_eq_false
  intro zonemd
  rw [rtype_of_signsZonemd signs] at zonemd
  exact absurd zonemd.2 (by decide)

/-- The placeholder is the only apex ZONEMD record. -/
theorem replaceApexZonemd_perm (zone : Zone) (records : SortedRecords) :
    (replaceApexZonemdWithPlaceholder zone records).toList.Perm
      (placeholderZonemd zone ::
        records.toList.filter fun record => !isZonemd zone.apex record) := by
  have others : (records.removeAllByNameClassRtype zone.apex none (some Rtype.zonemd)).toList =
      records.toList.filter fun record => !isZonemd zone.apex record := by
    unfold SortedRecords.removeAllByNameClassRtype
    apply List.filter_congr
    intro record _
    simp [SortedRecords.named, isZonemd]
  have absent : ∀ record ∈ [placeholderZonemd zone],
      ∀ other ∈ (records.removeAllByNameClassRtype zone.apex none (some Rtype.zonemd)).toList,
        other.key ≠ record.key := by
    intro record isPlaceholder other member same
    rw [List.mem_singleton.mp isPlaceholder] at same
    rw [others] at member
    have equal := of_decide_eq_true (Record.key_eq_iff.mp same)
    have isOther : isZonemd zone.apex other = true := by
      apply decide_eq_true
      refine ⟨equal.1, ?_⟩
      unfold Record.rtype
      rw [equal.2.2]
      rfl
    simp [isOther] at member
  have perm := foldl_insertIfNew_perm (List.pairwise_singleton _ (placeholderZonemd zone)) absent
  rw [others] at perm
  exact perm

theorem toSign_eq (asked : options.zonemd ≠ []) : prepared.toSign options =
    replaceApexZonemdWithPlaceholder prepared.zone prepared.records := by
  unfold Prepared.toSign
  rw [if_neg]
  simpa using asked

end Placeholder

/-! ## The digests -/

section Digests

variable {domain : Domain} {options : SignZone} {zone : Zone} {records : SortedRecords}

/-- The record with the digest of a collection. -/
def zonemdRecord (domain : Domain) (zone : Zone) (records : List Record) (tuple : ZonemdTuple) :
    Record := {
  owner := zone.apex
  class' := zone.class'
  ttl := zone.newRrDefaultTtl
  data := .zonemd ⟨zone.soaSerial, tuple.scheme, tuple.algorithm,
    domain.digest tuple.algorithm (digestInput zone.apex records)⟩ }

/-- The tuples for which there are digests. -/
def ZonemdTuple.IsSupported (tuple : ZonemdTuple) : Prop :=
  tuple.scheme = simple ∧ (tuple.algorithm = sha384 ∨ tuple.algorithm = sha512)

theorem createZonemd_eq_ok {zonemd : List ZonemdTuple} {zonemdRrs : List Record}
    (created : createZonemdDigestAndRecords domain zone records zonemd = .ok zonemdRrs) :
    zonemdRrs = zonemd.map (zonemdRecord domain zone records.toList) ∧
      ∀ tuple ∈ zonemd, tuple.IsSupported := by
  unfold createZonemdDigestAndRecords at created
  induction zonemd generalizing zonemdRrs with
  | nil =>
      cases created
      exact ⟨rfl, by simp⟩
  | cons tuple zonemd induction =>
      rw [List.mapM_cons] at created
      rcases bind_eq_ok created with ⟨record, first, rest⟩
      rcases bind_eq_ok rest with ⟨others, later, same⟩
      cases same
      rcases induction later with ⟨made, supported⟩
      split at first
      · cases first
      · next isSimple =>
          rcases bind_eq_ok first with ⟨digest, digested, isRecord⟩
          unfold createZonemdDigestSimple at digested
          split at digested
          · next known =>
              cases digested
              cases isRecord
              refine ⟨by rw [made]; rfl, ?_⟩
              intro other member
              rcases List.mem_cons.mp member with isFirst | isLater
              · rw [isFirst]
                exact ⟨not_not.mp isSimple, known⟩
              · exact supported other isLater
          · cases digested

theorem isZonemd_zonemdRecord (records : List Record) (tuple : ZonemdTuple) :
    isZonemd zone.apex (zonemdRecord domain zone records tuple) = true :=
  decide_eq_true ⟨rfl, rfl⟩

theorem signsZonemd_zonemdRecord (records : List Record) (tuple : ZonemdTuple) :
    signsZonemd zone.apex (zonemdRecord domain zone records tuple) = false := by
  simp [signsZonemd, zonemdRecord, Record.typeCovered]

/-- Different tuples have different records. -/
theorem zonemdRecord_key {records : List Record} {tuple other : ZonemdTuple}
    (same : (zonemdRecord domain zone records tuple).key =
      (zonemdRecord domain zone records other).key) : tuple = other := by
  have equal := (of_decide_eq_true (Record.key_eq_iff.mp same)).2.2
  simp only [zonemdRecord, ZoneRecordData.zonemd.injEq, Zonemd.mk.injEq] at equal
  cases tuple
  cases other
  simp_all

/-- The collection with the digests in place of the placeholder. -/
def withDigests (domain : Domain) (options : SignZone) (zone : Zone) (records : SortedRecords) :
    SortedRecords :=
  let others := records.removeFirstByNameClassRtype zone.apex none (some Rtype.zonemd)
  (options.zonemd.dedup.map (zonemdRecord domain zone others.toList)).foldl insertIfNew others

theorem named_eq_isZonemd (apex : Name) :
    SortedRecords.named apex none (some Rtype.zonemd) = isZonemd apex := by
  funext record
  simp [SortedRecords.named, isZonemd]

theorem eraseP_isZonemd (apex : Name) (records : SortedRecords) :
    (records.removeFirstByNameClassRtype apex none (some Rtype.zonemd)).toList =
      records.toList.eraseP (isZonemd apex) := by
  change records.toList.eraseP (SortedRecords.named apex none (some Rtype.zonemd)) = _
  rw [named_eq_isZonemd]

theorem withDigests_perm (onePlaceholder : (zonemds zone.apex records.toList).length ≤ 1) :
    (withDigests domain options zone records).toList.Perm
      (options.zonemd.dedup.map (zonemdRecord domain zone
        (records.toList.eraseP (isZonemd zone.apex))) ++
          records.toList.eraseP (isZonemd zone.apex)) := by
  have others : (records.removeFirstByNameClassRtype zone.apex none (some Rtype.zonemd)).toList =
      records.toList.eraseP (isZonemd zone.apex) := eraseP_isZonemd _ _
  unfold withDigests
  rw [← others]
  apply foldl_insertIfNew_perm
  · apply List.pairwise_map.mpr
    apply (List.nodup_dedup options.zonemd).imp
    intro one other different same
    exact different (zonemdRecord_key same)
  · intro record isNew other member same
    rcases List.mem_map.mp isNew with ⟨tuple, _, made⟩
    rw [← made] at same
    have equal := of_decide_eq_true (Record.key_eq_iff.mp same)
    have isOther : isZonemd zone.apex other = true := by
      apply decide_eq_true
      refine ⟨equal.1, ?_⟩
      unfold Record.rtype
      rw [equal.2.2]
      rfl
    have among : other ∈ (records.toList.eraseP (isZonemd zone.apex)).filter
        (isZonemd zone.apex) := by
      rw [← others]
      exact List.mem_filter.mpr ⟨member, isOther⟩
    rw [filter_eraseP_self] at among
    have short : ((records.toList.filter (isZonemd zone.apex)).tail).length = 0 := by
      rw [List.length_tail]
      unfold zonemds at onePlaceholder
      omega
    rw [List.length_eq_zero_iff.mp short] at among
    cases among

theorem zonemds_withDigests (onePlaceholder : (zonemds zone.apex records.toList).length ≤ 1) :
    (zonemds zone.apex (withDigests domain options zone records).toList).Perm
      (options.zonemd.dedup.map (zonemdRecord domain zone
        (records.toList.eraseP (isZonemd zone.apex)))) := by
  have none_ : (records.toList.eraseP (isZonemd zone.apex)).filter (isZonemd zone.apex) = [] := by
    rw [filter_eraseP_self]
    apply List.length_eq_zero_iff.mp
    rw [List.length_tail]
    unfold zonemds at onePlaceholder
    omega
  have all : (options.zonemd.dedup.map (zonemdRecord domain zone
      (records.toList.eraseP (isZonemd zone.apex)))).filter (isZonemd zone.apex) =
      options.zonemd.dedup.map (zonemdRecord domain zone
        (records.toList.eraseP (isZonemd zone.apex))) := by
    apply List.filter_eq_self.mpr
    intro record member
    rcases List.mem_map.mp member with ⟨tuple, _, made⟩
    rw [← made]
    exact isZonemd_zonemdRecord _ tuple
  have perm : (withDigests domain options zone records).toList.Perm _ :=
    withDigests_perm onePlaceholder
  have filtered := perm.filter (isZonemd zone.apex)
  rw [List.filter_append, none_, List.append_nil, all] at filtered
  exact filtered

theorem signatures_withDigests (onePlaceholder : (zonemds zone.apex records.toList).length ≤ 1) :
    (zonemdSignatures zone.apex (withDigests domain options zone records).toList).Perm
      (zonemdSignatures zone.apex records.toList) := by
  have none_ : (options.zonemd.dedup.map (zonemdRecord domain zone
      (records.toList.eraseP (isZonemd zone.apex)))).filter (signsZonemd zone.apex) = [] := by
    apply List.filter_eq_nil_iff.mpr
    intro record member
    rcases List.mem_map.mp member with ⟨tuple, _, made⟩
    rw [← made, signsZonemd_zonemdRecord]
    exact Bool.false_ne_true
  have kept : (records.toList.eraseP (isZonemd zone.apex)).filter (signsZonemd zone.apex) =
      records.toList.filter (signsZonemd zone.apex) := by
    apply filter_eraseP
    intro record zonemd
    cases signs : signsZonemd zone.apex record with
    | false => rfl
    | true =>
        rw [not_isZonemd_of_signsZonemd signs] at zonemd
        cases zonemd
  have perm : (withDigests domain options zone records).toList.Perm _ :=
    withDigests_perm onePlaceholder
  have filtered := perm.filter (signsZonemd zone.apex)
  rw [List.filter_append, none_, List.nil_append, kept] at filtered
  exact filtered

end Digests

/-! ## The signed zone -/

section Signed

variable {domain : Domain} {options : SignZone} {prepared : Prepared} {signed : SignedZone}

theorem mapM_eq_ok {Item Value Failure : Type} {visit : Item → Except Failure Value}
    {items : List Item} {values : List Value} (visited : items.mapM visit = .ok values) :
    (∀ item ∈ items, ∃ value, visit item = .ok value) ∧
      ∀ value ∈ values, ∃ item ∈ items, visit item = .ok value := by
  induction items generalizing values with
  | nil =>
      cases visited
      exact ⟨fun _ member => absurd member List.not_mem_nil,
        fun _ member => absurd member List.not_mem_nil⟩
  | cons item items induction =>
      rw [List.mapM_cons] at visited
      rcases bind_eq_ok visited with ⟨value, first, rest⟩
      rcases bind_eq_ok rest with ⟨others, later, same⟩
      cases same
      rcases induction later with ⟨ofItems, ofValues⟩
      constructor
      · intro other member
        rcases List.mem_cons.mp member with isFirst | inItems
        · rw [isFirst]
          exact ⟨value, first⟩
        · exact ofItems other inItems
      · intro other member
        rcases List.mem_cons.mp member with isFirst | inOthers
        · rw [isFirst]
          exact ⟨item, List.mem_cons_self, first⟩
        · rcases ofValues other inOthers with ⟨from_, inItems, made⟩
          exact ⟨from_, List.mem_cons_of_mem _ inItems, made⟩

theorem sign_zonemd (asked : options.zonemd ≠ [])
    (run : sign domain options prepared = .ok signed) :
    ∃ added, addedRecords domain options prepared = .ok added ∧
      finishZonemd domain options prepared.mode prepared.zone prepared.zoneSigningKeys
        options.zonemd.dedup ((prepared.toSign options).extend added) = .ok signed.records := by
  rcases bind_eq_ok run with ⟨hashes, _, rest⟩
  rcases bind_eq_ok rest with ⟨records, made, later⟩
  have notEmpty : options.zonemd.dedup.isEmpty ≠ true := by simpa using asked
  rw [if_neg notEmpty] at later
  rcases bind_eq_ok later with ⟨finished, finishes, same⟩
  cases same
  rcases bind_eq_ok made with ⟨added, adds, extended⟩
  cases extended
  cases found : addedRecords domain options prepared with
  | error reason =>
      rw [found] at adds
      cases adds
  | ok records =>
      rw [found] at adds
      cases adds
      exact ⟨_, rfl, finishes⟩

/-- What signing with all keys and replacing one signature makes. -/
theorem updateZonemdRrsig_eq_ok {zone : Zone} {records result : SortedRecords}
    {keys : List SigningKey} {final : Rrset}
    (updated : updateZonemdRrsig domain options zone records keys final.records = .ok result) :
    CanSign domain options keys final ∧ ∃ key ∈ keys, ∃ rrsig,
      domain.signRrset key final options.inception options.expiration = .ok rrsig ∧
      result.toList = SortedList.updateFirst (signsZonemd zone.apex)
        (fun record => { record with data := .rrsig rrsig }) records.toList := by
  have isFinal : Rrset.ofList final.records = some final := rfl
  unfold updateZonemdRrsig at updated
  rw [isFinal] at updated
  rcases bind_eq_ok updated with ⟨rrsigs, signs, rest⟩
  have each : (keys.mapM fun key =>
      domain.signRrset key final options.inception options.expiration) = .ok rrsigs := by
    cases signing : keys.mapM fun key =>
        domain.signRrset key final options.inception options.expiration with
    | error reason =>
        rw [signing] at signs
        cases signs
    | ok made =>
        rw [signing] at signs
        cases signs
        rfl
  rcases mapM_eq_ok each with ⟨canSign, made⟩
  refine ⟨canSign, ?_⟩
  split at rest
  · next rrsig last =>
      cases rest
      rcases made rrsig (List.mem_of_getLast? last) with ⟨key, isKey, signed⟩
      exact ⟨key, isKey, rrsig, signed, rfl⟩
  · cases rest

end Signed

end Dnst.Signzone
