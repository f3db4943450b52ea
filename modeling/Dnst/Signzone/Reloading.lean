import Dnst.Signzone.Stages
import Dnst.Signzone.Written

/-! # Loading what has been written

What is regenerated is not loaded again: of the written zone there remain the records that
were loaded before and the DNSKEY records that were added.
-/

namespace Dnst.Signzone

open Effect (bind_eq_ok)
open Keyset (Fault)

/-! ## The entries of a file -/

theorem loadEntries_records (origin : Option Name) (records : List Record) :
    loadEntries origin (records.map fun record => .ok (.record record)) =
      .ok (records.filter (loads origin)) := by
  induction records with
  | nil => rfl
  | cons record records induction =>
      rw [List.map_cons, loadEntries, induction, List.filter_cons]
      rfl

section Loads

variable {origin : Option Name} {record other : Record}

theorem loads_of_key (same : record.key = other.key) :
    loads origin record = loads origin other := by
  have equal := of_decide_eq_true (Record.key_eq_iff.mp same)
  unfold loads Record.rtype
  rw [equal.1, equal.2.2]

/-- Types that nothing is loaded of. -/
def regenerated : List Rtype := [Rtype.rrsig, Rtype.nsec, Rtype.nsec3, Rtype.nsec3param]

theorem loads_of_regenerated (type : record.rtype ∈ regenerated) :
    loads origin record = false := by
  have notZonemd : record.rtype ≠ Rtype.zonemd := by
    intro zonemd
    rw [zonemd] at type
    exact absurd type (by decide)
  unfold loads
  rw [if_neg (by simp [notZonemd])]
  exact decide_eq_false fun absent => absent type

theorem loads_of_type (notZonemd : record.rtype ≠ Rtype.zonemd)
    (type : record.rtype ∉ regenerated) : loads origin record = true := by
  unfold loads
  rw [if_neg (by simp [notZonemd])]
  exact decide_eq_true type

theorem loads_of_isZonemd {apex : Name} (isApex : origin.all (apex = ·) = true)
    (zonemd : isZonemd apex record = true) : loads origin record = false := by
  have named := of_decide_eq_true zonemd
  unfold loads
  rw [if_pos ⟨named.2, by rw [named.1]; exact isApex⟩]

end Loads

/-! ## The zone without changes to its SOA record -/

section Read

variable {env : Env} {options : SignZone} {zone : Zone}

/-- The apex is the name of a SOA record of the zone. -/
structure IsApex (options : SignZone) (zone : Zone) : Prop where
  found : findApex zone.records options.origin = .ok zone.soaRr
  soa : ∃ soa, zone.soaRr.data = .soa soa ∧ zone.soaSerial = soa.serial

theorem findApex_mem_soas {records : SortedRecords} {origin : Option Name} {record : Record}
    (found : findApex records origin = .ok record) : record ∈ soas records.toList := by
  unfold findApex at found
  apply List.mem_filter.mpr
  split at found <;> split at found
  · next first =>
      cases found
      have named := List.find?_some first
      simp only [decide_eq_true_eq] at named
      exact ⟨List.mem_of_find?_eq_some first, decide_eq_true named.1⟩
  · cases found
  · next first =>
      cases found
      have isSoa := List.find?_some first
      exact ⟨List.mem_of_find?_eq_some first, isSoa⟩
  · cases found

theorem IsApex.all (isApex : IsApex options zone) :
    options.origin.all (zone.apex = ·) = true := by
  have found := isApex.found
  unfold findApex at found
  cases isOrigin : options.origin with
  | none => rfl
  | some origin =>
      rw [isOrigin] at found
      split at found
      · next same =>
          cases same
          split at found
          · next record first =>
              cases found
              have named := List.find?_some first
              simp only [decide_eq_true_eq] at named
              exact decide_eq_true named.2
          · cases found
      · next impossible => cases impossible

end Read

/-! ## The records that stay, stage by stage -/

section Stays

variable {domain : Domain} {env : Env} {options : SignZone} {prepared : Prepared}

theorem insertNew_sorted {records result : SortedRecords} {new : List Record}
    (inserted : insertNew records new = .ok result)
    (sorted : SortedList.Sorted Record.key records.toList) :
    SortedList.Sorted Record.key result.toList := by
  induction new generalizing records with
  | nil =>
      cases inserted
      exact sorted
  | cons record new induction =>
      unfold insertNew at inserted
      split at inserted
      · next grown added =>
          exact induction inserted (SortedList.insert?_sorted sorted (insert_eq_some added))
      · cases inserted

/-- The placeholder is not loaded, and neither are the records whose place it takes. -/
theorem filter_toSign (apex : options.origin.all (prepared.zone.apex = ·) = true) :
    (prepared.toSign options).toList.filter (loads options.origin) =
      prepared.records.toList.filter (loads options.origin) := by
  by_cases asked : options.zonemd = []
  · unfold Prepared.toSign
    rw [asked]
    rfl
  · rw [toSign_eq asked]
    have inserted := @filter_foldl_insertIfNew [placeholderZonemd prepared.zone]
      (prepared.records.removeAllByNameClassRtype prepared.zone.apex none (some Rtype.zonemd))
      (loads options.origin) fun record isPlaceholder => by
        rw [List.mem_singleton.mp isPlaceholder]
        exact loads_of_isZonemd apex (isZonemd_placeholder _)
    apply Eq.trans inserted
    unfold SortedRecords.removeAllByNameClassRtype
    rw [List.filter_filter]
    apply List.filter_congr
    intro record _
    rw [named_eq_isZonemd]
    cases zonemd : isZonemd prepared.zone.apex record with
    | false => simp
    | true => simp [loads_of_isZonemd apex zonemd]

/-- Nothing of what is added is loaded. -/
theorem filter_extend_added {records : SortedRecords} {added : List Record}
    (sorted : SortedList.Sorted Record.key (records.toList.filter (loads options.origin)))
    (denial : ∀ record ∈ added, record.rtype ∈ regenerated) :
    (records.extend added).toList.filter (loads options.origin) =
      records.toList.filter (loads options.origin) := by
  have none_ : added.filter (loads options.origin) = [] := by
    apply List.filter_eq_nil_iff.mpr
    intro record member
    simp [loads_of_regenerated (denial record member)]
  have filtered : (SortedList.ofList Record.key (records.toList ++ added)).filter
      (loads options.origin) = _ := SortedList.filter_ofList fun _ _ same => loads_of_key same
  apply Eq.trans filtered
  rw [List.filter_append, none_, List.append_nil]
  exact SortedList.ofList_of_perm sorted (List.Perm.refl _)

/-- Only the records of the apex ZONEMD RRset and one signature are not the same. -/
theorem filter_finishZonemd {mode : SigningMode} {zone : Zone} {keys : List SigningKey}
    {zonemd : List ZonemdTuple} {records result : SortedRecords} {keeps : Record → Bool}
    (zonemdDropped : ∀ record, isZonemd zone.apex record = true → keeps record = false)
    (rrsigDropped : ∀ record, record.rtype = Rtype.rrsig → keeps record = false)
    (finishes : finishZonemd domain options mode zone keys zonemd records = .ok result) :
    result.toList.filter keeps = records.toList.filter keeps := by
  rcases bind_eq_ok finishes with ⟨zonemdRrs, created, rest⟩
  have digests : ∀ record ∈ zonemdRrs, keeps record = false := by
    intro record member
    rw [(createZonemd_eq_ok created).1] at member
    rcases List.mem_map.mp member with ⟨tuple, _, made⟩
    rw [← made]
    exact zonemdDropped _ (isZonemd_zonemdRecord _ tuple)
  have others : (zonemdRrs.foldl insertIfNew (records.removeFirstByNameClassRtype zone.apex none
      (some Rtype.zonemd))).toList.filter keeps = records.toList.filter keeps := by
    rw [filter_foldl_insertIfNew digests, eraseP_isZonemd]
    exact filter_eraseP _ zonemdDropped
  rw [← others]
  dsimp only at rest
  split at rest
  · unfold updateZonemdRrsig at rest
    split at rest
    · cases rest
      rfl
    · rcases bind_eq_ok rest with ⟨rrsigs, _, replaced⟩
      split at replaced
      · cases replaced
        apply SortedList.filter_updateFirst
        intro record signs
        exact ⟨rrsigDropped _ (rtype_of_signsZonemd signs), rrsigDropped _ rfl⟩
      · cases replaced
  · cases rest
    rfl

/-- What `sign_zone` adds is not loaded. -/
def AddsRegenerated (domain : Domain) : Prop :=
  ∀ apex config keys records added, domain.signZone apex config keys records = .ok added →
    ∀ record ∈ added, record.rtype ∈ regenerated

theorem filter_sign {signed : SignedZone} (adds : AddsRegenerated domain)
    (apex : options.origin.all (prepared.zone.apex = ·) = true)
    (sorted : SortedList.Sorted Record.key prepared.records.toList)
    (run : sign domain options prepared = .ok signed) :
    signed.records.toList.filter (loads options.origin) =
      prepared.records.toList.filter (loads options.origin) := by
  have toSign := filter_toSign apex
  have sortedToSign : SortedList.Sorted Record.key
      ((prepared.toSign options).toList.filter (loads options.origin)) := by
    rw [toSign]
    exact sorted.filter _
  rcases bind_eq_ok run with ⟨hashes, _, rest⟩
  rcases bind_eq_ok rest with ⟨records, made, later⟩
  rcases bind_eq_ok made with ⟨added, addedOk, extended⟩
  cases extended
  have denial : ∀ record ∈ added, record.rtype ∈ regenerated := by
    cases found : addedRecords domain options prepared with
    | error reason =>
        rw [found] at addedOk
        cases addedOk
    | ok records =>
        rw [found] at addedOk
        cases addedOk
        exact adds _ _ _ _ _ found
  rw [← toSign, ← filter_extend_added sortedToSign denial]
  split at later
  · cases later
    rfl
  · rcases bind_eq_ok later with ⟨finished, finishes, same⟩
    cases same
    apply filter_finishZonemd (fun _ => loads_of_isZonemd apex) _ finishes
    intro record isRrsig
    apply loads_of_regenerated
    rw [isRrsig]
    decide

/-- All SOA records are loaded. -/
theorem soas_filter_loads (origin : Option Name) (records : List Record) :
    soas (records.filter (loads origin)) = soas records := by
  unfold soas
  rw [List.filter_filter]
  apply List.filter_congr
  intro record _
  by_cases isSoa : record.rtype = Rtype.soa
  · have isLoaded : loads origin record = true := by
      apply loads_of_type <;> (rw [isSoa]; decide)
    simp [isLoaded]
  · simp [isSoa]

/-- Besides SOA records behind the first, all that is dropped is regenerated. -/
theorem dropped_eq (output : Output) (records : SortedRecords) :
    ∃ rest, dropped output records = (soas records.toList).tail ++ rest ∧
      ∀ record ∈ rest, record.rtype ∈ regenerated := by
  have ofSignature {record : Record} {covered : Rtype}
      (covers : record.typeCovered = some covered) : record.rtype ∈ regenerated := by
    rw [rtype_of_typeCovered covers]
    decide
  have ofNsec {record : Record} {withheld : Bool} {ownerRrs : List Record}
      (inPlace : record ∈ placed withheld ownerRrs .apexNsec) : record.rtype ∈ regenerated := by
    have isNsec := place_eq_apexNsec.mp (of_decide_eq_true (List.mem_filter.mp inPlace).2)
    rw [isNsec.2]
    decide
  have ofNsecSignature {record : Record} {withheld : Bool} {ownerRrs : List Record}
      (inPlace : record ∈ placed withheld ownerRrs .apexNsecSignature) :
      record.rtype ∈ regenerated :=
    ofSignature (place_eq_apexNsecSignature.mp
      (of_decide_eq_true (List.mem_filter.mp inPlace).2)).2
  refine ⟨_, rfl, ?_⟩
  intro record member
  split at member
  · rcases List.mem_append.mp member with soaSignature | inLost
    · split at soaSignature
      · exact ofSignature (of_decide_eq_true (List.mem_filter.mp soaSignature).2)
      · cases soaSignature
    · rcases List.mem_flatMap.mp inLost with ⟨owner, _, isLost⟩
      rcases List.mem_append.mp isLost with nowhere | lostNsec
      · have isNowhere := (List.mem_filter.mp nowhere).2
        have isRrsig : record.rtype = Rtype.rrsig := by
          by_contra notRrsig
          exact place_ne_nowhere.mpr (fun isRrsig => absurd isRrsig notRrsig)
            (of_decide_eq_true isNowhere)
        rw [isRrsig]
        decide
      · unfold lostApexNsec at lostNsec
        dsimp only at lostNsec
        split at lostNsec
        · rcases List.mem_append.mp lostNsec with nsec | signature
          · exact ofNsec nsec
          · exact ofNsecSignature signature
        · rcases List.mem_append.mp lostNsec with nsec | signature
          · exact ofNsec (List.mem_of_mem_tail nsec)
          · exact ofNsecSignature (List.mem_of_mem_tail signature)
  · cases member

theorem regenerated_of_mem_dropped {output : Output} {records : SortedRecords} {record : Record}
    (oneSoa : (soas records.toList).length ≤ 1) (member : record ∈ dropped output records) :
    record.rtype ∈ regenerated := by
  rcases dropped_eq output records with ⟨rest, isDropped, fromRest⟩
  rw [isDropped, tail_eq_nil.mpr oneSoa, List.nil_append] at member
  exact fromRest record member

/-- What is loaded of the written zone. -/
theorem loaded_perm {signed : SignedZone} {output : Output} {lines : List Line}
    (adds : AddsRegenerated domain)
    (apex : options.origin.all (prepared.zone.apex = ·) = true)
    (sorted : SortedList.Sorted Record.key prepared.records.toList)
    (oneSoa : (soas prepared.records.toList).length ≤ 1)
    (run : sign domain options prepared = .ok signed)
    (written : writeZone domain output signed.records = .ok lines) :
    ((recordsOf lines).filter (loads options.origin)).Perm
      (prepared.records.toList.filter (loads options.origin)) := by
  have loaded := filter_sign adds apex sorted run
  have sameSoas : soas signed.records.toList = soas prepared.records.toList := by
    rw [← soas_filter_loads options.origin, loaded, soas_filter_loads]
  have none_ : (dropped output signed.records).filter (loads options.origin) = [] := by
    apply List.filter_eq_nil_iff.mpr
    intro record member
    rw [← sameSoas] at oneSoa
    simp [loads_of_regenerated (regenerated_of_mem_dropped oneSoa member)]
  have perm := (@zoneLines_perm domain output signed.records).filter (loads options.origin)
  rw [List.filter_append, none_, List.append_nil, (writeZone_eq_ok.mp written).2, loaded] at perm
  exact perm

end Stays

/-! ## The zone that is loaded again -/

section Reloaded

variable {domain : Domain} {env : Env} {options : SignZone} {prepared : Prepared}

/-- Preparing changes no SOA records. -/
theorem prepared_soas (ready : prepare domain env options = .ok prepared) :
    soas prepared.records.toList = soas prepared.zone.records.toList := by
  rcases prepare_eq_ok ready with ⟨_, _, ⟨_, same, _⟩ | ⟨_, keys, _, _, inserted, _⟩⟩
  · rw [same]
  · apply filter_insertNew inserted
    intro record member
    exact decide_eq_false (rtype_of_mem_newRecords member)

end Reloaded

end Dnst.Signzone
