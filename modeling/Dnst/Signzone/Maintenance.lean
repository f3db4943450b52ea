import Mathlib.Logic.Relation
import Dnst.Signzone.Verification

/-! # Signing over and over

A zone file is signed, and what has been written is signed again, with other options, other
keys and at other times. What was in the first file is in the last one.
-/

namespace Dnst.Signzone

open Effect (bind_eq_ok)
open Keyset (Fault)

/-! ## The zone of a file -/

/-- The zone file has these records. -/
def Env.Holds (env : Env) (options : SignZone) (records : List Record) : Prop :=
  env.readZonefile options.origin options.zonefilePath =
    .ok (records.map fun record => .ok (.record record))

section File

variable {env : Env} {options : SignZone} {zone : Zone} {file : List Record}

theorem loadZone_of_holds (holds : env.Holds options file) :
    loadZone env options = .ok (.ofList (file.filter (loads options.origin))) := by
  have loaded := loadEntries_records options.origin file
  unfold Env.Holds at holds
  unfold loadZone
  rw [holds]
  change (loadEntries options.origin _ >>= fun records =>
    (.ok (SortedRecords.ofList records) : Except Fault SortedRecords)) = _
  rw [loaded]
  rfl

theorem findApex_owner {records : SortedRecords} {origin : Option Name} {soaRr : Record}
    (found : findApex records origin = .ok soaRr) :
    soaRr ∈ soas records.toList ∧ origin.all (soaRr.owner = ·) = true := by
  unfold findApex at found
  cases origin with
  | none =>
      dsimp only at found
      split at found
      · next record first =>
          cases found
          have isSoa := List.find?_some first
          exact ⟨List.mem_filter.mpr ⟨List.mem_of_find?_eq_some first, isSoa⟩, rfl⟩
      · cases found
  | some name =>
      dsimp only at found
      split at found
      · next record first =>
          cases found
          have isSoa := List.find?_some first
          rw [decide_eq_true_eq] at isSoa
          have member := List.mem_of_find?_eq_some first
          exact ⟨List.mem_filter.mpr ⟨member, decide_eq_true isSoa.1⟩, decide_eq_true isSoa.2⟩
      · cases found

theorem updateFirst_self {matcher : Record → Bool} {change : Record → Record}
    (same : ∀ record, matcher record = true → change record = record) (records : List Record) :
    SortedList.updateFirst matcher change records = records := by
  rcases SortedList.updateFirst_cases matcher change records with
    ⟨unchanged, _⟩ | ⟨before, record, after, split, matched, _, changed⟩
  · exact unchanged
  · rw [changed, split, same record matched]

/-- The zone is what the file gives, with a new serial number in the SOA record of the apex
if this is asked for. -/
theorem readZone_of_holds (holds : env.Holds options file)
    (read : readZone env options = .ok zone) :
    zone.soaRr ∈ soas (SortedList.ofList Record.key (file.filter (loads options.origin))) ∧
      options.origin.all (zone.apex = ·) = true ∧
      ∃ soa, zone.soaRr.data = .soa soa ∧
        zone.soaSerial = (if options.setSoaSerialToEpochTime then bumpedSerial env soa.serial
          else soa.serial) ∧
        zone.records.toList = SortedList.updateFirst (Record.same · zone.soaRr)
          (fun record => { record with data := .soa { soa with serial := zone.soaSerial } })
          (SortedList.ofList Record.key (file.filter (loads options.origin))) := by
  rcases bind_eq_ok read with ⟨records, loaded, rest⟩
  rw [loadZone_of_holds holds] at loaded
  cases loaded
  rcases bind_eq_ok rest with ⟨soaRr, isSoaRr, processed⟩
  rcases findApex_owner isSoaRr with ⟨member, isApex⟩
  split at processed
  · next soa isSoa =>
      split at processed
      · next bumps =>
          cases processed
          exact ⟨member, isApex, soa, isSoa, (if_pos bumps).symm, rfl⟩
      · next noBump =>
          cases processed
          refine ⟨member, isApex, soa, isSoa, (if_neg noBump).symm, (updateFirst_self ?_ _).symm⟩
          intro record same
          rw [← isSoa, ← (of_decide_eq_true same).2.2]
  · cases processed

theorem mem_soas {records : List Record} {record : Record} :
    record ∈ soas records ↔ record ∈ records ∧ record.rtype = Rtype.soa := by
  simp [soas]

theorem soas_append (records others : List Record) :
    soas (records ++ others) = soas records ++ soas others := List.filter_append _ _

theorem soas_cons {record : Record} (isSoa : record.rtype = Rtype.soa) (records : List Record) :
    soas (record :: records) = record :: soas records :=
  List.filter_cons_of_pos (by simpa using isSoa)

/-- The SOA record with another serial number. -/
def withSerial (record : Record) (serial : Serial) : Record :=
  match record.data with
  | .soa soa => { record with data := .soa { soa with serial } }
  | _ => record

/-- With one SOA record, it is the one with the new serial number, and all other records are
as they are in the file. -/
theorem readZone_oneSoa {soaRr : Record} (holds : env.Holds options file)
    (read : readZone env options = .ok zone)
    (one : SortedList.ofList Record.key (soas file) = [soaRr]) :
    zone.soaRr = soaRr ∧ soas zone.records.toList = [withSerial soaRr zone.soaSerial] ∧
      SortedList.Sorted Record.key zone.records.toList ∧
      ∀ keeps : Record → Bool, (∀ record, record.rtype = Rtype.soa → keeps record = false) →
        zone.records.toList.filter keeps =
          (SortedList.ofList Record.key (file.filter (loads options.origin))).filter keeps := by
  rcases readZone_of_holds holds read with ⟨member, _, soa, isSoa, _, records⟩
  have byType : ∀ one other : Record, one.key = other.key →
      decide (one.rtype = Rtype.soa) = decide (other.rtype = Rtype.soa) := by
    intro one other same
    rw [rtype_of_same (Record.key_eq_iff.mp same)]
  have loaded : soas (SortedList.ofList Record.key (file.filter (loads options.origin))) =
      [soaRr] := by
    apply (SortedList.filter_ofList byType).trans
    change SortedList.ofList Record.key (soas (file.filter (loads options.origin))) = _
    rw [soas_filter_loads, one]
  rw [loaded, List.mem_singleton] at member
  rw [member] at isSoa records
  have isType : soaRr.rtype = Rtype.soa := by
    rw [Record.rtype, isSoa]
    rfl
  have goesOn : ∀ record : Record, record.same soaRr = true → record.rtype = Rtype.soa :=
    fun _ same => (rtype_of_same same).trans isType
  have itself : soaRr.same soaRr = true := by simp [Record.same]
  apply And.intro member
  rw [records]
  refine ⟨?_, ?_, ?_⟩
  · have inFile : soaRr ∈ soas (SortedList.ofList Record.key (file.filter
        (loads options.origin))) := by simp [loaded]
    rcases SortedList.updateFirst_cases (Record.same · soaRr)
      (fun record => { record with data := .soa { soa with serial := zone.soaSerial } })
      (SortedList.ofList Record.key (file.filter (loads options.origin))) with
      ⟨_, none_⟩ | ⟨before, record, after, split, same, _, changed⟩
    · rw [none_ soaRr (mem_soas.mp inFile).1] at itself
      cases itself
    · rw [split, soas_append, soas_cons (goesOn record same)] at loaded
      rw [changed, soas_append, soas_cons rfl]
      cases isBefore : soas before with
      | nil =>
          rw [isBefore, List.nil_append, List.cons.injEq] at loaded
          rw [loaded.2, List.nil_append, loaded.1]
          simp [withSerial, isSoa]
      | cons => simp [isBefore] at loaded
  · apply SortedList.updateFirst_sorted rrsetKey_monotone
    · intro one other less
      exact Prod.Lex.lt_iff.mpr (Or.inl less)
    · intro record same
      exact Record.rrsetKey_eq_iff.mpr ⟨rfl, (goesOn record same).symm⟩
    · intro record found same other otherFound sameKey
      have otherType := (Record.rrsetKey_eq_iff.mp sameKey).2.trans (goesOn record same)
      have inSoas := mem_soas.mpr ⟨found, goesOn record same⟩
      have otherInSoas := mem_soas.mpr ⟨otherFound, otherType⟩
      rw [loaded] at inSoas otherInSoas
      rw [List.mem_singleton.mp inSoas, List.mem_singleton.mp otherInSoas]
    · exact SortedList.ofList_sorted
  · intro keeps dropped
    apply SortedList.filter_updateFirst
    intro record same
    exact ⟨dropped _ (goesOn record same), dropped _ rfl⟩

end File

/-! ## One run -/

/-- Records that every run leaves as they are. -/
def isOther (origin : Option Name) (record : Record) : Bool :=
  loads origin record ∧ record.rtype ≠ Rtype.soa ∧ record.rtype ≠ Rtype.dnskey

/-- A run that reads a zone file and writes what is then the zone file. -/
def SignsFile (domain : Domain) (origin : Option Name) (bumps : Bool)
    (before after : List Record) : Prop :=
  ∃ (env : Env) (options : SignZone) (lines : List Line), options.origin = origin ∧
    options.setSoaSerialToEpochTime = bumps ∧ env.Holds options before ∧
      options.execute domain env = .ok lines ∧ recordsOf lines = after

/-- The file has one SOA record, perhaps more than once. -/
def OneSoa (file : List Record) (soaRr : Record) : Prop :=
  SortedList.ofList Record.key (soas file) = [soaRr]

/-- The zone is kept: all DNSKEY records, the SOA record up to its serial number, and the
records of other types, to which none are added. -/
structure KeepsZone (origin : Option Name) (before after : List Record) : Prop where
  others : SortedList.ofList Record.key (after.filter (isOther origin)) =
    SortedList.ofList Record.key (before.filter (isOther origin))
  dnskeys : ∀ record ∈ before, record.rtype = Rtype.dnskey →
    ∃ other ∈ after, other.key = record.key
  soa : ∀ soaRr, OneSoa before soaRr → ∃ serial, OneSoa after (withSerial soaRr serial)

theorem KeepsZone.refl (origin : Option Name) (file : List Record) :
    KeepsZone origin file file where
  others := rfl
  dnskeys := fun record member _ => ⟨record, member, rfl⟩
  soa := by
    intro soaRr one
    cases isData : soaRr.data with
    | soa soa =>
        refine ⟨soa.serial, ?_⟩
        have same : withSerial soaRr soa.serial = soaRr := by
          unfold withSerial
          rw [isData]
          cases soaRr
          cases isData
          rfl
        rw [same]
        exact one
    | _ =>
        refine ⟨0, ?_⟩
        have same : withSerial soaRr 0 = soaRr := by simp [withSerial, isData]
        rw [same]
        exact one

theorem withSerial_withSerial (record : Record) (serial other : Serial) :
    withSerial (withSerial record serial) other = withSerial record other := by
  unfold withSerial
  cases isData : record.data <;> simp [isData]

theorem KeepsZone.trans {origin : Option Name} {first before after : List Record}
    (earlier : KeepsZone origin first before) (later : KeepsZone origin before after) :
    KeepsZone origin first after where
  others := later.others.trans earlier.others
  dnskeys := by
    intro record member isDnskey
    rcases earlier.dnskeys record member isDnskey with ⟨other, found, same⟩
    have sameType := rtype_of_same (Record.key_eq_iff.mp same)
    rcases later.dnskeys other found (sameType.trans isDnskey) with ⟨last, isLast, alsoSame⟩
    exact ⟨last, isLast, alsoSame.trans same⟩
  soa := by
    intro soaRr one
    rcases earlier.soa soaRr one with ⟨serial, stillOne⟩
    rcases later.soa _ stillOne with ⟨newSerial, atLast⟩
    rw [withSerial_withSerial] at atLast
    exact ⟨newSerial, atLast⟩

section Run

variable {domain : Domain} {env : Env} {options : SignZone} {prepared : Prepared}
variable {signed : SignedZone} {lines : List Line} {file : List Record} {soaRr : Record}

/-- Besides the records for the keys, what is prepared is the zone. -/
theorem prepared_filter (ready : prepare domain env options = .ok prepared)
    {keeps : Record → Bool} (notDnskey : ∀ record, record.rtype = Rtype.dnskey → keeps record = false)
    (notRrsig : ∀ record, record.rtype = Rtype.rrsig → keeps record = false) :
    prepared.records.toList.filter keeps = prepared.zone.records.toList.filter keeps := by
  rcases prepare_eq_ok ready with ⟨_, _, ⟨_, same, _⟩ | ⟨_, keys, _, _, inserted, _⟩⟩
  · rw [same]
  · apply filter_insertNew inserted
    intro record member
    rcases List.mem_append.mp member with added | made
    · exact notDnskey record (rtype_of_mem_addedDnskeys added)
    · rcases List.mem_flatMap.mp made with ⟨rrset, _, signature⟩
      exact notRrsig record (rtype_of_mem_signatures signature)

theorem mem_prepared (ready : prepare domain env options = .ok prepared) {record : Record}
    (member : record ∈ prepared.zone.records.toList) : record ∈ prepared.records.toList := by
  rcases prepare_eq_ok ready with ⟨_, _, ⟨_, same, _⟩ | ⟨_, keys, _, _, inserted, _⟩⟩
  · rw [same]
    exact member
  · exact (insertNew_perm inserted).mem_iff.mpr (List.mem_append_right _ member)

theorem prepared_sorted_of_zone (ready : prepare domain env options = .ok prepared)
    (sorted : SortedList.Sorted Record.key prepared.zone.records.toList) :
    SortedList.Sorted Record.key prepared.records.toList := by
  rcases prepare_eq_ok ready with ⟨_, _, ⟨_, same, _⟩ | ⟨_, keys, _, _, inserted, _⟩⟩
  · rw [same]
    exact sorted
  · exact insertNew_sorted inserted sorted

/-- What is loaded of the output are the records of the prepared zone that are loaded. -/
theorem execute_loaded_perm (adds : AddsRegenerated domain) (holds : env.Holds options file)
    (one : OneSoa file soaRr) (run : options.execute domain env = .ok lines) :
    ∃ prepared, prepare domain env options = .ok prepared ∧
      ((recordsOf lines).filter (loads options.origin)).Perm
        (prepared.records.toList.filter (loads options.origin)) := by
  rcases bind_eq_ok run with ⟨prepared, ready, rest⟩
  rcases bind_eq_ok rest with ⟨_, _, later⟩
  rcases bind_eq_ok later with ⟨signed, signs, written⟩
  have read := (prepare_eq_ok ready).2.1
  rcases readZone_oneSoa holds read one with ⟨_, soaOfZone, sorted, _⟩
  have sameSoas := prepared_soas ready
  have oneSoa : (soas prepared.records.toList).length ≤ 1 := by simp [sameSoas, soaOfZone]
  exact ⟨prepared, ready, loaded_perm adds (readZone_of_holds holds read).2.1
    (prepared_sorted_of_zone ready sorted) oneSoa signs written⟩

theorem isOther_of_key (origin : Option Name) (one other : Record) (same : one.key = other.key) :
    isOther origin one = isOther origin other := by
  unfold isOther
  rw [loads_of_key same, rtype_of_same (Record.key_eq_iff.mp same)]

theorem filter_loads_isOther (origin : Option Name) (records : List Record) :
    (records.filter (loads origin)).filter (isOther origin) = records.filter (isOther origin) := by
  rw [List.filter_filter]
  apply List.filter_congr
  intro record _
  cases isLoaded : loads origin record <;> simp [isOther, isLoaded]

/-- Records of other types are neither changed nor dropped, and none are added. -/
theorem execute_others (adds : AddsRegenerated domain) (holds : env.Holds options file)
    (one : OneSoa file soaRr) (run : options.execute domain env = .ok lines) :
    SortedList.ofList Record.key ((recordsOf lines).filter (isOther options.origin)) =
      SortedList.ofList Record.key (file.filter (isOther options.origin)) := by
  rcases execute_loaded_perm adds holds one run with ⟨prepared, ready, perm⟩
  rcases readZone_oneSoa holds (prepare_eq_ok ready).2.1 one with ⟨_, _, sorted, ofFile⟩
  have filtered := perm.filter (isOther options.origin)
  have ofZone : prepared.records.toList.filter (isOther options.origin) =
      prepared.zone.records.toList.filter (isOther options.origin) := by
    apply prepared_filter ready
    · intro record isDnskey
      exact decide_eq_false fun other => other.2.2 isDnskey
    · intro record isRrsig
      apply decide_eq_false
      rw [loads_of_regenerated (by simp [isRrsig, regenerated])]
      simp
  have notSoa : ∀ record : Record, record.rtype = Rtype.soa →
      isOther options.origin record = false :=
    fun record isSoa => decide_eq_false fun other => other.2.1 isSoa
  rw [filter_loads_isOther, filter_loads_isOther, ofZone] at filtered
  rw [SortedList.ofList_of_perm (sorted.filter _) filtered, ofFile _ notSoa]
  apply (SortedList.filter_ofList (isOther_of_key options.origin)).trans
  rw [filter_loads_isOther]

/-- All DNSKEY records of the file are written again. -/
theorem execute_dnskeys (adds : AddsRegenerated domain) (holds : env.Holds options file)
    (one : OneSoa file soaRr) (run : options.execute domain env = .ok lines) {record : Record}
    (member : record ∈ file) (isDnskey : record.rtype = Rtype.dnskey) :
    ∃ other ∈ recordsOf lines, other.key = record.key := by
  rcases execute_loaded_perm adds holds one run with ⟨prepared, ready, perm⟩
  rcases readZone_oneSoa holds (prepare_eq_ok ready).2.1 one with ⟨_, _, _, ofFile⟩
  have isLoaded : loads options.origin record = true := by
    apply loads_of_type <;> simp [isDnskey, regenerated] <;> decide
  have sorted : SortedList.Sorted Record.key ([] : List Record) := List.Pairwise.nil
  rcases SortedList.exists_key_extend sorted
    (Or.inr (List.mem_filter.mpr ⟨member, isLoaded⟩)) with ⟨other, found, same⟩
  have otherType : other.rtype = Rtype.dnskey :=
    (rtype_of_same (Record.key_eq_iff.mp same)).trans isDnskey
  have inZone : other ∈ prepared.zone.records.toList.filter (·.rtype = Rtype.dnskey) := by
    rw [ofFile]
    · exact List.mem_filter.mpr ⟨found, decide_eq_true otherType⟩
    · intro record isSoa
      rw [isSoa]
      rfl
  have inPrepared := mem_prepared ready (List.mem_filter.mp inZone).1
  have otherLoaded := (loads_of_key same).trans isLoaded
  have isWritten := perm.mem_iff.mpr (List.mem_filter.mpr ⟨inPrepared, otherLoaded⟩)
  exact ⟨other, (List.mem_filter.mp isWritten).1, same⟩

/-- The SOA record is written with the serial number of the zone. -/
theorem execute_soa (adds : AddsRegenerated domain) (holds : env.Holds options file)
    (one : OneSoa file soaRr) (run : options.execute domain env = .ok lines) :
    ∃ soa, soaRr.data = .soa soa ∧
      OneSoa (recordsOf lines) (withSerial soaRr
        (if options.setSoaSerialToEpochTime then bumpedSerial env soa.serial
          else soa.serial)) := by
  rcases execute_loaded_perm adds holds one run with ⟨prepared, ready, perm⟩
  have read := (prepare_eq_ok ready).2.1
  rcases readZone_of_holds holds read with ⟨_, _, soa, isSoa, serial, _⟩
  rcases readZone_oneSoa holds read one with ⟨same, ofZone, _⟩
  have filtered := perm.filter (·.rtype = Rtype.soa)
  change (soas _).Perm (soas _) at filtered
  rw [soas_filter_loads, soas_filter_loads, prepared_soas ready, ofZone] at filtered
  rw [same] at isSoa
  refine ⟨soa, isSoa, ?_⟩
  unfold OneSoa
  rw [← serial, List.perm_singleton.mp filtered]
  rfl

theorem SignsFile.keepsZone {origin : Option Name} {bumps : Bool} {before after : List Record}
    (adds : AddsRegenerated domain) (step : SignsFile domain origin bumps before after)
    (one : OneSoa before soaRr) : KeepsZone origin before after := by
  rcases step with ⟨env, options, lines, isOrigin, _, holds, run, isAfter⟩
  rw [← isOrigin, ← isAfter]
  constructor
  · exact execute_others adds holds one run
  · exact fun _ => execute_dnskeys adds holds one run
  · intro other alsoOne
    rcases execute_soa adds holds alsoOne run with ⟨_, _, written⟩
    exact ⟨_, written⟩

end Run

/-! ## Any number of runs -/

section Runs

variable {domain : Domain} {origin : Option Name} {first before after last : List Record}
variable {soaRr : Record}

/-- Runs one after the other, each on the file that the one before it has written. -/
def SignsOver (domain : Domain) (origin : Option Name) : List Record → List Record → Prop :=
  Relation.ReflTransGen fun before after => ∃ bumps, SignsFile domain origin bumps before after

/-- What was in the first file is in the last one. -/
theorem signsOver_keepsZone (adds : AddsRegenerated domain) (one : OneSoa first soaRr)
    (runs : SignsOver domain origin first last) : KeepsZone origin first last := by
  induction runs with
  | refl => exact KeepsZone.refl origin first
  | tail _ step induction =>
      rcases step with ⟨bumps, step⟩
      rcases induction.soa soaRr one with ⟨serial, stillOne⟩
      exact induction.trans (step.keepsZone adds stillOne)

theorem lt_bumpedSerial (env : Env) (old : Serial) :
    SerialNumber.lt old (bumpedSerial env old) = true := by
  unfold bumpedSerial
  split
  · next newer => exact newer
  · rw [SerialNumber.lt_iff_distance]
    unfold SerialNumber.distance
    omega

/-- After any runs, one with `-u` writes a serial number that is newer than the one it reads. -/
theorem signsOver_serial_newer (adds : AddsRegenerated domain) (one : OneSoa first soaRr)
    (runs : SignsOver domain origin first before)
    (step : SignsFile domain origin true before after) :
    ∃ old new, OneSoa before (withSerial soaRr old) ∧ OneSoa after (withSerial soaRr new) ∧
      SerialNumber.lt old new = true := by
  rcases (signsOver_keepsZone adds one runs).soa soaRr one with ⟨old, stillOne⟩
  rcases step with ⟨env, options, lines, _, bumps, holds, run, isAfter⟩
  rcases execute_soa adds holds stillOne run with ⟨soa, isSoa, written⟩
  rw [if_pos bumps, withSerial_withSerial, isAfter] at written
  refine ⟨old, _, stillOne, written, ?_⟩
  have isOld : soa.serial = old := by
    unfold withSerial at isSoa
    split at isSoa
    · cases isSoa
      rfl
    · next notSoa => exact absurd isSoa (notSoa soa)
  rw [isOld]
  exact lt_bumpedSerial env old

end Runs

namespace Reference

/-! A zone is signed, and signed again with a new serial number. -/

def firstFile : List Record := [soaRecord apex 1]

def secondFile : List Record := recordsOf digestLines

def thirdLines : List Line :=
  ((bumpedOptions.execute domain (env secondFile)).toOption).getD []

theorem first_oneSoa : OneSoa firstFile (soaRecord apex 1) := by
  unfold OneSoa
  decide +kernel

theorem first_signsFile : SignsFile domain (some apex) false firstFile secondFile :=
  ⟨env firstFile, digestOptions ["one", "two"], digestLines, rfl, rfl, rfl,
    eq_ok_getD _ (by decide +kernel), rfl⟩

theorem second_signsFile :
    SignsFile domain (some apex) true secondFile (recordsOf thirdLines) :=
  ⟨env secondFile, bumpedOptions, thirdLines, rfl, rfl, rfl,
    eq_ok_getD _ (by decide +kernel), rfl⟩

theorem first_signsOver : SignsOver domain (some apex) firstFile secondFile :=
  Relation.ReflTransGen.single ⟨false, first_signsFile⟩

theorem second_signsOver : SignsOver domain (some apex) firstFile (recordsOf thirdLines) :=
  first_signsOver.tail ⟨true, second_signsFile⟩

end Reference

theorem signsOver_keepsZone_reference :
    KeepsZone (some Reference.apex) Reference.firstFile (recordsOf Reference.thirdLines) :=
  signsOver_keepsZone Reference.domain_addsRegenerated Reference.first_oneSoa
    Reference.second_signsOver

theorem signsOver_serial_newer_reference :
    ∃ old new, OneSoa Reference.secondFile
        (withSerial (Reference.soaRecord Reference.apex 1) old) ∧
      OneSoa (recordsOf Reference.thirdLines)
        (withSerial (Reference.soaRecord Reference.apex 1) new) ∧
      SerialNumber.lt old new = true :=
  signsOver_serial_newer Reference.domain_addsRegenerated Reference.first_oneSoa
    Reference.first_signsOver Reference.second_signsFile

end Dnst.Signzone
