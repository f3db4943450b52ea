import Dnst.Signzone.KeyRoles

/-! # Keys that fit

Signing the RRsets about keys and inserting what comes of it stand under `expect`. They
panic unless the keys fit the zone and each other.
-/

namespace Dnst.Signzone

open Effect (bind_eq_ok)
open Keyset (Fault)

/-! ## Results that are no panic -/

/-- The computation returns `Ok` or `Err`. -/
def NeverPanics {Value : Type} (result : Except Fault Value) : Prop :=
  ∀ message, result ≠ .error (.panic message)

section NeverPanics

variable {Item Value Result : Type}

theorem neverPanics_ok (value : Value) : NeverPanics (.ok value) := by
  intro message impossible
  cases impossible

theorem neverPanics_error (reason : String) :
    NeverPanics (.error (.error reason) : Except Fault Value) := by
  intro message impossible
  cases impossible

theorem not_neverPanics (message : String) :
    ¬NeverPanics (.error (.panic message) : Except Fault Value) :=
  fun never => never message rfl

theorem neverPanics_mapError (message : String → String) (result : Except String Value) :
    NeverPanics (result.mapError fun reason => .error (message reason)) := by
  cases result with
  | ok value => exact neverPanics_ok value
  | error reason => exact neverPanics_error _

theorem neverPanics_bind_iff {first : Except Fault Value} {next : Value → Except Fault Result} :
    NeverPanics (first >>= next) ↔
      NeverPanics first ∧ ∀ value, first = .ok value → NeverPanics (next value) := by
  cases first with
  | ok value =>
      constructor
      · intro never
        apply And.intro (neverPanics_ok value)
        intro other same
        cases same
        exact never
      · intro never
        exact never.2 value rfl
  | error fault =>
      constructor
      · intro never
        constructor
        · intro message same
          cases same
          exact never message rfl
        · intro value impossible
          cases impossible
      · intro never message same
        cases same
        exact never.1 message rfl

theorem neverPanics_bind {first : Except Fault Value} {next : Value → Except Fault Result}
    (firstNever : NeverPanics first)
    (nextNever : ∀ value, first = .ok value → NeverPanics (next value)) :
    NeverPanics (first >>= next) :=
  neverPanics_bind_iff.mpr ⟨firstNever, nextNever⟩

theorem neverPanics_mapM {visit : Item → Except Fault Value} {items : List Item}
    (each : ∀ item ∈ items, NeverPanics (visit item)) : NeverPanics (items.mapM visit) := by
  induction items with
  | nil => exact neverPanics_ok []
  | cons item items induction =>
      rw [List.mapM_cons]
      apply neverPanics_bind (each item List.mem_cons_self)
      intro value _
      apply neverPanics_bind (induction fun other member =>
        each other (List.mem_cons_of_mem _ member))
      intro values _
      exact neverPanics_ok _

theorem neverPanics_foldlM {visit : Value → Item → Except Fault Value} {items : List Item}
    (each : ∀ value item, NeverPanics (visit value item)) (start : Value) :
    NeverPanics (items.foldlM visit start) := by
  induction items generalizing start with
  | nil => exact neverPanics_ok start
  | cons item items induction =>
      rw [List.foldlM_cons]
      apply neverPanics_bind (each start item)
      intro value _
      exact induction value

/-- Something comes of every item. -/
theorem mapM_ne_nil {Failure : Type} {visit : Item → Except Failure Value} {items : List Item}
    {values : List Value} (visited : items.mapM visit = .ok values) (some_ : items ≠ []) :
    values ≠ [] := by
  cases items with
  | nil => exact absurd rfl some_
  | cons item items =>
      rw [List.mapM_cons] at visited
      cases first : visit item with
      | error reason =>
          rw [first] at visited
          cases visited
      | ok value =>
          cases rest : items.mapM visit with
          | error reason =>
              rw [first, rest] at visited
              cases visited
          | ok others =>
              rw [first, rest] at visited
              cases visited
              exact List.cons_ne_nil value others

end NeverPanics

/-! ## The zone and the keys -/

section Loading

variable {domain : Domain} {env : Env} {options : SignZone}

theorem signingMode_neverPanics : NeverPanics (signingMode options) := by
  unfold signingMode
  split
  · split
    · exact neverPanics_ok _
    · exact neverPanics_error _
  · split
    · exact neverPanics_ok _
    · exact neverPanics_ok _

theorem loadEntries_neverPanics (origin : Option Name) (entries : List (Except String Entry)) :
    NeverPanics (loadEntries origin entries) := by
  induction entries with
  | nil => exact neverPanics_ok []
  | cons entry entries induction =>
      rcases entry with reason | record | include_
      · exact neverPanics_error _
      · apply neverPanics_bind induction
        intro records _
        exact neverPanics_ok _
      · exact neverPanics_error _

theorem loadZone_neverPanics : NeverPanics (loadZone env options) := by
  unfold loadZone
  apply neverPanics_bind (neverPanics_mapError _ _)
  intro entries _
  apply neverPanics_bind (loadEntries_neverPanics _ entries)
  intro records _
  exact neverPanics_ok _

theorem findApex_neverPanics (records : SortedRecords) (origin : Option Name) :
    NeverPanics (findApex records origin) := by
  unfold findApex
  split
  · split
    · exact neverPanics_ok _
    · exact neverPanics_error _
  · split
    · exact neverPanics_ok _
    · exact neverPanics_error _

/-- The SOA record of the apex has been parsed as one: it is not given in the format for
unknown types. -/
def SoaParsed (env : Env) (options : SignZone) : Prop :=
  ∀ records soaRr, loadZone env options = .ok records →
    findApex records options.origin = .ok soaRr → ∃ soa, soaRr.data = .soa soa

theorem readZone_neverPanics_iff : NeverPanics (readZone env options) ↔ SoaParsed env options := by
  unfold readZone SoaParsed
  rw [neverPanics_bind_iff]
  constructor
  · intro never records soaRr loaded found
    have ⟨_, rest⟩ := neverPanics_bind_iff.mp (never.2 records loaded)
    have processed := rest soaRr found
    split at processed
    · next soa isSoa => exact ⟨soa, isSoa⟩
    · exact absurd processed (not_neverPanics _)
  · intro parsed
    apply And.intro loadZone_neverPanics
    intro records loaded
    apply neverPanics_bind (findApex_neverPanics records _)
    intro soaRr found
    have ⟨soa, isSoa⟩ := parsed records soaRr loaded found
    split
    · split
      · exact neverPanics_ok _
      · exact neverPanics_ok _
    · next other => exact absurd isSoa (other soa)

theorem loadSigningKey_neverPanics (apex : Name) (found : List (Name × Dnskey))
    (keyPath : String) : NeverPanics (loadSigningKey domain env apex found keyPath) := by
  unfold loadSigningKey
  apply neverPanics_bind
  · unfold loadPrivateKey
    apply neverPanics_bind (neverPanics_mapError _ _)
    intro privateData _
    exact neverPanics_mapError _ _
  · intro privateKey _
    split
    · exact neverPanics_ok _
    · apply neverPanics_bind
      · unfold loadPublicKey
        apply neverPanics_bind (neverPanics_mapError _ _)
        intro publicData _
        exact neverPanics_mapError _ _
      · intro publicKey _
        split
        · exact neverPanics_error _
        · exact neverPanics_mapError _ _

/-- The signing keys for the key paths. -/
def loadKeys (domain : Domain) (env : Env) (options : SignZone) (zone : Zone) :
    Except Fault (List SigningKey) :=
  options.keyPaths.mapM (loadSigningKey domain env zone.apex (foundPublicKeys
    ((zone.records.findApexRtype zone.apex Rtype.dnskey).elim [] (·.records))))

theorem loadKeys_neverPanics (zone : Zone) : NeverPanics (loadKeys domain env options zone) :=
  neverPanics_mapM fun keyPath _ => loadSigningKey_neverPanics _ _ keyPath

end Loading

/-! ## Signatures under `expect` -/

section Signing

variable {domain : Domain} {options : SignZone} {keys : List SigningKey}

/-- Every key signs the RRset. -/
def CanSign (domain : Domain) (options : SignZone) (keys : List SigningKey) (rrset : Rrset) :
    Prop :=
  ∀ key ∈ keys, ∃ rrsig,
    domain.signRrset key rrset options.inception options.expiration = .ok rrsig

/-- The signatures that the keys make. -/
def signatures (domain : Domain) (options : SignZone) (keys : List SigningKey) (rrset : Rrset) :
    List Record :=
  keys.filterMap fun key =>
    (domain.signRrset key rrset options.inception options.expiration).toOption.map
      (rrsigRecord rrset)

theorem signWithKeys_of_canSign {rrset : Rrset} (signs : CanSign domain options keys rrset) :
    signWithKeys domain options keys rrset = .ok (signatures domain options keys rrset) := by
  induction keys with
  | nil => rfl
  | cons key keys induction =>
      have ⟨rrsig, signed⟩ := signs key List.mem_cons_self
      have rest := induction fun other member => signs other (List.mem_cons_of_mem _ member)
      unfold signWithKeys at rest ⊢
      unfold signatures at rest ⊢
      rw [List.mapM_cons, rest, List.filterMap_cons, signed]
      rfl

theorem canSign_of_signWithKeys {rrset : Rrset} {records : List Record}
    (signed : signWithKeys domain options keys rrset = .ok records) :
    CanSign domain options keys rrset := by
  induction keys generalizing records with
  | nil =>
      intro key impossible
      cases impossible
  | cons key keys induction =>
      unfold signWithKeys at signed
      rw [List.mapM_cons] at signed
      cases first : domain.signRrset key rrset options.inception options.expiration with
      | error reason =>
          rw [first] at signed
          cases signed
      | ok rrsig =>
          cases rest : signWithKeys domain options keys rrset with
          | error reason =>
              unfold signWithKeys at rest
              rw [first, rest] at signed
              cases signed
          | ok others =>
              intro other member
              cases List.mem_cons.mp member with
              | inl same =>
                  rw [same]
                  exact ⟨rrsig, first⟩
              | inr later => exact induction rest other later

theorem expectSigned_of_canSign {rrset : Option Rrset}
    (signs : ∀ one, rrset = some one → CanSign domain options keys one) :
    expectSigned domain options keys rrset =
      .ok (rrset.toList.flatMap (signatures domain options keys)) := by
  cases rrset with
  | none => rfl
  | some one =>
      unfold expectSigned
      dsimp only
      rw [signWithKeys_of_canSign (signs one rfl)]
      simp [Except.mapError]

theorem expectSigned_neverPanics_iff {rrset : Option Rrset} :
    NeverPanics (expectSigned domain options keys rrset) ↔
      ∀ one, rrset = some one → CanSign domain options keys one := by
  constructor
  · intro never one same
    rw [same] at never
    unfold expectSigned at never
    dsimp only at never
    cases signed : signWithKeys domain options keys one with
    | ok records => exact canSign_of_signWithKeys signed
    | error reason =>
        rw [signed] at never
        exact absurd never (not_neverPanics _)
  · intro signs
    rw [expectSigned_of_canSign signs]
    exact neverPanics_ok _

end Signing

/-! ## Insertion under `expect` -/

section Insertion

/-- Up to the TTL, none of the new records is there already or occurs twice. -/
structure AllNew (records new : List Record) : Prop where
  absent : ∀ record ∈ new, ∀ other ∈ records, other.same record = false
  distinct : new.Pairwise fun one other => one.same other = false

/-- Records of the same name, class and type as this one are sorted. -/
def SortedAround (records : List Record) (record : Record) : Prop :=
  SortedList.SortedWithin Record.key Record.rrsetKey record.rrsetKey records

theorem rrsetKey_monotone (one other : Record) (below : one.key ≤ other.key) :
    one.rrsetKey ≤ other.rrsetKey := Record.rrsetKey_le_of_key below

theorem insert_eq_some {records result : SortedRecords} {record : Record}
    (inserted : records.insert record = some result) :
    SortedList.insert? Record.key record records.toList = some result.toList := by
  unfold SortedRecords.insert at inserted
  split at inserted
  · cases inserted
  · next found =>
      cases inserted
      exact found

theorem insert_eq_none {records : SortedRecords} {record : Record}
    (sorted : SortedAround records.toList record) :
    records.insert record = none ↔ ∃ other ∈ records.toList, other.same record = true := by
  have refused := SortedList.insert?_eq_none_of_kind rrsetKey_monotone records.ordered sorted
  simp only [Record.key_eq_iff] at refused
  rw [← refused]
  unfold SortedRecords.insert
  split
  · next found => simp [found]
  · next found => simp [found]

theorem insert_sortedAround {records result : SortedRecords} {record other : Record}
    (inserted : records.insert record = some result)
    (sorted : SortedAround records.toList other) : SortedAround result.toList other :=
  SortedList.filter_insert?_sorted rrsetKey_monotone records.ordered (insert_eq_some inserted)
    sorted

theorem mem_insert {records result : SortedRecords} {record other : Record}
    (inserted : records.insert record = some result) :
    other ∈ result.toList ↔ other = record ∨ other ∈ records.toList := by
  rw [(SortedList.insert?_perm (insert_eq_some inserted)).mem_iff, List.mem_cons]

theorem insertNew_neverPanics_iff {records : SortedRecords} {new : List Record}
    (sorted : ∀ record ∈ new, SortedAround records.toList record) :
    NeverPanics (insertNew records new) ↔ AllNew records.toList new := by
  induction new generalizing records with
  | nil => exact ⟨fun _ => ⟨by simp, List.Pairwise.nil⟩, fun _ => neverPanics_ok records⟩
  | cons record new induction =>
      unfold insertNew
      have refused := insert_eq_none (sorted record List.mem_cons_self)
      cases inserted : records.insert record with
      | none =>
          have ⟨other, member, same⟩ := refused.mp inserted
          constructor
          · intro never
            exact absurd never (not_neverPanics _)
          · intro allNew
            have different := allNew.absent record List.mem_cons_self other member
            rw [same] at different
            cases different
      | some result =>
          have isNew : ∀ other ∈ records.toList, other.same record = false := by
            intro other member
            rw [← Bool.not_eq_true]
            intro same
            rw [refused.mpr ⟨other, member, same⟩] at inserted
            cases inserted
          dsimp only
          rw [induction fun other member =>
            insert_sortedAround inserted (sorted other (List.mem_cons_of_mem _ member))]
          constructor
          · intro allNew
            constructor
            · intro one member other inRecords
              cases List.mem_cons.mp member with
              | inl equal =>
                  rw [equal]
                  exact isNew other inRecords
              | inr later =>
                  exact allNew.absent one later other ((mem_insert inserted).mpr (Or.inr inRecords))
            · apply List.pairwise_cons.mpr
              apply And.intro _ allNew.distinct
              intro other member
              exact allNew.absent other member record ((mem_insert inserted).mpr (Or.inl rfl))
          · intro allNew
            have parts := List.pairwise_cons.mp allNew.distinct
            constructor
            · intro one member other inResult
              cases (mem_insert inserted).mp inResult with
              | inl equal =>
                  rw [equal]
                  exact parts.1 one member
              | inr before => exact allNew.absent one (List.mem_cons_of_mem _ member) other before
            · exact parts.2

theorem allNew_append_iff {records new more : List Record} :
    AllNew records (new ++ more) ↔
      AllNew records new ∧ AllNew records more ∧
        ∀ one ∈ new, ∀ other ∈ more, one.same other = false := by
  constructor
  · intro allNew
    have ⟨left, right, across⟩ := List.pairwise_append.mp allNew.distinct
    exact ⟨⟨fun record member => allNew.absent record (List.mem_append_left _ member), left⟩,
      ⟨fun record member => allNew.absent record (List.mem_append_right _ member), right⟩, across⟩
  · intro ⟨left, right, across⟩
    constructor
    · intro record member
      cases List.mem_append.mp member with
      | inl inNew => exact left.absent record inNew
      | inr inMore => exact right.absent record inMore
    · exact List.pairwise_append.mpr ⟨left.distinct, right.distinct, across⟩

theorem insertNew_append (records : SortedRecords) (new more : List Record) :
    insertNew records (new ++ more) = insertNew records new >>= fun all => insertNew all more := by
  induction new generalizing records with
  | nil => rfl
  | cons record new induction =>
      rw [List.cons_append, insertNew, insertNew]
      cases records.insert record with
      | none => rfl
      | some result => exact induction result

end Insertion

/-! ## The RRsets about keys -/

section AddKeys

variable {domain : Domain} {env : Env} {options : SignZone} {zone : Zone}
variable {keys : List SigningKey}

theorem loadEntries_loads {origin : Option Name} {entries : List (Except String Entry)}
    {records : List Record} (loaded : loadEntries origin entries = .ok records) {record : Record}
    (member : record ∈ records) : loads origin record = true := by
  induction entries generalizing records with
  | nil =>
      cases loaded
      cases member
  | cons entry entries induction =>
      rcases entry with reason | head | include_
      · cases loaded
      · have ⟨others, rest, made⟩ := bind_eq_ok loaded
        split at made
        · next kept =>
            cases made
            cases List.mem_cons.mp member with
            | inl same =>
                rw [same]
                exact kept
            | inr later => exact induction rest later
        · cases made
          exact induction rest member
      · cases loaded

/-- The zone is what has been loaded, perhaps with a new SOA record. -/
theorem readZone_records (read : readZone env options = .ok zone) :
    ∃ found : List Record, (∀ record ∈ found, loads options.origin record = true) ∧
      (zone.records.toList = (SortedRecords.ofList found).toList ∨
        ∃ soaRr soa newSoa, soaRr.data = .soa soa ∧ zone.records.toList =
          SortedList.updateFirst (Record.same · soaRr)
            (fun record => { record with data := .soa newSoa })
            (SortedRecords.ofList found).toList) := by
  have ⟨records, loaded, rest⟩ := bind_eq_ok read
  have ⟨entries, _, kept⟩ := bind_eq_ok loaded
  have ⟨found, entriesLoaded, made⟩ := bind_eq_ok kept
  cases made
  apply Exists.intro found
  apply And.intro fun record member => loadEntries_loads entriesLoaded member
  have ⟨soaRr, _, processed⟩ := bind_eq_ok rest
  split at processed
  · next soa isSoa =>
      split at processed
      · cases processed
        exact Or.inr ⟨soaRr, soa, _, isSoa, rfl⟩
      · cases processed
        exact Or.inl rfl
  · cases processed

/-- A new SOA record leaves the other RRsets sorted. -/
theorem readZone_sorted (read : readZone env options = .ok zone) {record : Record}
    (notSoa : record.rtype ≠ Rtype.soa) : SortedAround zone.records.toList record := by
  have ⟨found, _, from_⟩ := readZone_records read
  have sorted : SortedAround (SortedRecords.ofList found).toList record :=
    SortedList.Sorted.filter SortedList.ofList_sorted _
  cases from_ with
  | inl same =>
      rw [same]
      exact sorted
  | inr updated =>
      have ⟨soaRr, soa, newSoa, isSoa, changed⟩ := updated
      rw [changed]
      apply SortedList.updateFirst_sortedWithin _ sorted
      intro other same
      have isSoaType := rtype_of_soa isSoa same
      constructor
      · intro equal
        exact notSoa ((Record.rrsetKey_eq_iff.mp equal).2.symm.trans isSoaType)
      · intro equal
        exact notSoa (Record.rrsetKey_eq_iff.mp equal).2.symm

/-- Signatures in the zone file are not loaded. -/
theorem readZone_noRrsig (read : readZone env options = .ok zone) {record : Record}
    (member : record ∈ zone.records.toList) : record.rtype ≠ Rtype.rrsig := by
  have ⟨found, loaded, from_⟩ := readZone_records read
  have notLoaded : ∀ other ∈ (SortedRecords.ofList found).toList, other.rtype ≠ Rtype.rrsig := by
    intro other inRecords isRrsig
    cases SortedList.mem_of_mem_extend inRecords with
    | inl impossible => cases impossible
    | inr inFound =>
        have loads_ := loaded other inFound
        unfold loads at loads_
        simp [isRrsig, Rtype.rrsig, Rtype.zonemd] at loads_
  cases from_ with
  | inl same =>
      rw [same] at member
      exact notLoaded record member
  | inr updated =>
      have ⟨soaRr, soa, newSoa, _, changed⟩ := updated
      rw [changed] at member
      cases SortedList.updateFirst_cases (Record.same · soaRr)
          (fun other => { other with data := .soa newSoa })
          (SortedRecords.ofList found).toList with
      | inl unchanged =>
          rw [unchanged.1] at member
          exact notLoaded record member
      | inr split =>
          have ⟨before, item, after, parts, _, _, result⟩ := split
          rw [result] at member
          cases List.mem_append.mp member with
          | inl isBefore =>
              apply notLoaded record
              rw [parts]
              exact List.mem_append_left _ isBefore
          | inr rest =>
              cases List.mem_cons.mp rest with
              | inl isNew =>
                  rw [isNew]
                  exact (by decide : Rtype.soa ≠ Rtype.rrsig)
              | inr isAfter =>
                  apply notLoaded record
                  rw [parts]
                  exact List.mem_append_right _ (List.mem_cons_of_mem _ isAfter)

/-- The records of the apex DNSKEY RRset. -/
def dnskeysInZone (zone : Zone) : List Record :=
  (zone.records.findApexRtype zone.apex Rtype.dnskey).elim [] (·.records)

/-- The DNSKEY records that are added. -/
def addedDnskeys (options : SignZone) (zone : Zone) (keys : List SigningKey) : List Record :=
  if options.doNotAddKeysToZone then []
  else dnskeyExtra zone (zone.records.findApexRtype zone.apex Rtype.dnskey) keys

/-- The DNSKEY RRset, when it is complete. -/
def completedDnskeys (options : SignZone) (zone : Zone) (keys : List SigningKey) :
    Option Rrset :=
  Rrset.ofList (dnskeysInZone zone ++ addedDnskeys options zone keys)

/-- The apex RRsets that the key signing keys sign. -/
def keyRrsets (options : SignZone) (zone : Zone) (keys : List SigningKey) : List Rrset :=
  (completedDnskeys options zone keys).toList ++
    ((zone.records.findApexRtype zone.apex Rtype.cds).toList ++
      (zone.records.findApexRtype zone.apex Rtype.cdnskey).toList)

/-- The records that are added for the keys. -/
def newRecords (domain : Domain) (options : SignZone) (zone : Zone) (keys : List SigningKey) :
    List Record :=
  addedDnskeys options zone keys ++
    (keyRrsets options zone keys).flatMap
      (signatures domain options (splitKeys options keys).1)

theorem rtype_of_mem_newRecords {record : Record}
    (member : record ∈ newRecords domain options zone keys) : record.rtype ≠ Rtype.soa := by
  cases List.mem_append.mp member with
  | inl added =>
      unfold addedDnskeys at added
      split at added
      · cases added
      · have ⟨key, _, made⟩ := List.mem_map.mp added
        rw [← made]
        exact (by decide : Rtype.dnskey ≠ Rtype.soa)
  | inr signed =>
      have ⟨rrset, _, inSignatures⟩ := List.mem_flatMap.mp signed
      have ⟨key, _, made⟩ := List.mem_filterMap.mp inSignatures
      have ⟨rrsig, _, same⟩ := Option.map_eq_some_iff.mp made
      rw [← same]
      exact (by decide : Rtype.rrsig ≠ Rtype.soa)

/-- What is done with the keys once they are loaded. -/
def addLoadedKeys (domain : Domain) (options : SignZone) (zone : Zone)
    (keys : List SigningKey) : Except Fault KeyedZone := do
  let signers := (splitKeys options keys).1
  let dnskeyRrsigs ← expectSigned domain options signers (completedDnskeys options zone keys)
  let cdsRrsigs ← expectSigned domain options signers
    (zone.records.findApexRtype zone.apex Rtype.cds)
  let cdnskeyRrsigs ← expectSigned domain options signers
    (zone.records.findApexRtype zone.apex Rtype.cdnskey)
  let records ← insertNew zone.records (addedDnskeys options zone keys)
  let records ← insertNew records dnskeyRrsigs
  let records ← insertNew records (cdsRrsigs ++ cdnskeyRrsigs)
  return ⟨records, (splitKeys options keys).2⟩

theorem addKeys_eq : addKeys domain env options zone =
    loadKeys domain env options zone >>= addLoadedKeys domain options zone := rfl

theorem addLoadedKeys_of_signs
    (signs : ∀ rrset ∈ keyRrsets options zone keys,
      CanSign domain options (splitKeys options keys).1 rrset) :
    addLoadedKeys domain options zone keys =
      insertNew zone.records (newRecords domain options zone keys) >>= fun records =>
        .ok ⟨records, (splitKeys options keys).2⟩ := by
  have dnskeys := expectSigned_of_canSign fun one same =>
    signs one (List.mem_append.mpr (Or.inl (Option.mem_toList.mpr same)))
  have cds := expectSigned_of_canSign fun one same =>
    signs one (List.mem_append.mpr (Or.inr (List.mem_append.mpr (Or.inl
      (Option.mem_toList.mpr same)))))
  have cdnskey := expectSigned_of_canSign fun one same =>
    signs one (List.mem_append.mpr (Or.inr (List.mem_append.mpr (Or.inr
      (Option.mem_toList.mpr same)))))
  unfold addLoadedKeys newRecords keyRrsets
  dsimp only
  rw [dnskeys, cds, cdnskey, List.flatMap_append, List.flatMap_append, insertNew_append,
    bind_assoc]
  change (insertNew zone.records _ >>= _) = _
  apply bind_congr
  intro withDnskeys
  rw [insertNew_append, bind_assoc]
  rfl

theorem signs_of_addLoadedKeys (never : NeverPanics (addLoadedKeys domain options zone keys)) :
    ∀ rrset ∈ keyRrsets options zone keys,
      CanSign domain options (splitKeys options keys).1 rrset := by
  unfold addLoadedKeys at never
  have ⟨dnskeys, next⟩ := neverPanics_bind_iff.mp never
  have signsDnskeys := expectSigned_neverPanics_iff.mp dnskeys
  have ⟨cds, next⟩ := neverPanics_bind_iff.mp (next _ (expectSigned_of_canSign signsDnskeys))
  have signsCds := expectSigned_neverPanics_iff.mp cds
  have ⟨cdnskey, _⟩ := neverPanics_bind_iff.mp (next _ (expectSigned_of_canSign signsCds))
  have signsCdnskey := expectSigned_neverPanics_iff.mp cdnskey
  intro rrset member
  cases List.mem_append.mp member with
  | inl isDnskeys => exact signsDnskeys rrset (Option.mem_toList.mp isDnskeys)
  | inr others =>
      cases List.mem_append.mp others with
      | inl isCds => exact signsCds rrset (Option.mem_toList.mp isCds)
      | inr isCdnskey => exact signsCdnskey rrset (Option.mem_toList.mp isCdnskey)

/-- A signature names the type of the RRset that it covers. -/
def SignsType (domain : Domain) : Prop :=
  ∀ key rrset inception expiration rrsig,
    domain.signRrset key rrset inception expiration = .ok rrsig → rrsig.typeCovered = rrset.rtype

/-- No two of the keys make the same signature of an RRset. -/
def SignApart (domain : Domain) (options : SignZone) (keys : List SigningKey) (rrset : Rrset) :
    Prop :=
  keys.Pairwise fun one other =>
    domain.signRrset one rrset options.inception options.expiration ≠
      domain.signRrset other rrset options.inception options.expiration

/-- The keys that the zone lacks are different, and the key signing keys sign the RRsets
about keys with different signatures. -/
structure KeysFit (domain : Domain) (options : SignZone) (zone : Zone)
    (keys : List SigningKey) : Prop where
  lacking : AllNew zone.records.toList (addedDnskeys options zone keys)
  signs : ∀ rrset ∈ keyRrsets options zone keys,
    CanSign domain options (splitKeys options keys).1 rrset
  apart : ∀ rrset ∈ keyRrsets options zone keys,
    SignApart domain options (splitKeys options keys).1 rrset

/-! ### Signatures -/

theorem mem_signatures {signers : List SigningKey} {rrset : Rrset} {record : Record}
    (member : record ∈ signatures domain options signers rrset) :
    ∃ key ∈ signers, ∃ rrsig, domain.signRrset key rrset options.inception options.expiration =
      .ok rrsig ∧ record = rrsigRecord rrset rrsig := by
  have ⟨key, isSigner, made⟩ := List.mem_filterMap.mp member
  have ⟨rrsig, signed, same⟩ := Option.map_eq_some_iff.mp made
  cases result : domain.signRrset key rrset options.inception options.expiration with
  | error reason =>
      rw [result] at signed
      cases signed
  | ok other =>
      rw [result] at signed
      cases signed
      exact ⟨key, isSigner, rrsig, result, same.symm⟩

theorem rrsigRecord_same (rrset : Rrset) (one other : Rrsig) :
    (rrsigRecord rrset one).same (rrsigRecord rrset other) = false ↔ one ≠ other := by
  simp [Record.same, rrsigRecord]

theorem signatures_distinct_iff {signers : List SigningKey} {rrset : Rrset}
    (signs : CanSign domain options signers rrset) :
    ((signatures domain options signers rrset).Pairwise fun one other => one.same other = false) ↔
      SignApart domain options signers rrset := by
  unfold signatures SignApart
  rw [List.pairwise_filterMap]
  apply List.Pairwise.iff_of_mem
  intro one other oneSigns otherSigns
  have ⟨rrsig, signed⟩ := signs one oneSigns
  have ⟨otherRrsig, otherSigned⟩ := signs other otherSigns
  rw [signed, otherSigned]
  simp [Except.toOption, rrsigRecord_same]

/-- Signatures of RRsets of different types differ. -/
theorem signatures_same (signsType : SignsType domain) {signers : List SigningKey}
    {rrset other : Rrset} (types : rrset.rtype ≠ other.rtype) {one two : Record}
    (inOne : one ∈ signatures domain options signers rrset)
    (inTwo : two ∈ signatures domain options signers other) : one.same two = false := by
  have ⟨_, _, rrsig, signed, made⟩ := mem_signatures inOne
  have ⟨_, _, otherRrsig, otherSigned, otherMade⟩ := mem_signatures inTwo
  have covered := signsType _ _ _ _ _ signed
  have otherCovered := signsType _ _ _ _ _ otherSigned
  apply decide_eq_false
  intro ⟨_, _, sameData⟩
  rw [made, otherMade] at sameData
  cases sameData
  exact types (covered.symm.trans otherCovered)

theorem rtype_of_mem_signatures {signers : List SigningKey} {rrset : Rrset} {record : Record}
    (member : record ∈ signatures domain options signers rrset) : record.rtype = Rtype.rrsig := by
  have ⟨_, _, _, _, made⟩ := mem_signatures member
  rw [made]
  rfl

/-! ### Types of the RRsets -/

theorem rtype_of_findApexRtype {rtype : Rtype} {rrset : Rrset}
    (found : zone.records.findApexRtype zone.apex rtype = some rrset) : rrset.rtype = rtype := by
  unfold SortedRecords.findApexRtype at found
  have isFound := List.find?_some found
  exact (of_decide_eq_true isFound).1

theorem rtype_of_mem_dnskeysInZone {record : Record} (member : record ∈ dnskeysInZone zone) :
    record.rtype = Rtype.dnskey := by
  unfold dnskeysInZone at member
  cases found : zone.records.findApexRtype zone.apex Rtype.dnskey with
  | none =>
      rw [found] at member
      cases member
  | some rrset =>
      rw [found] at member
      have isType := rtype_of_findApexRtype found
      have inRrsets := List.mem_of_find?_eq_some found
      have ⟨run, inRuns, made⟩ := List.mem_filterMap.mp inRrsets
      cases run with
      | nil => cases made
      | cons first others =>
          cases made
          have sameKey := SortedList.kind_of_mem_run inRuns member List.mem_cons_self
          exact (Record.rrsetKey_eq_iff.mp sameKey).2.trans isType

theorem rtype_of_mem_addedDnskeys {record : Record}
    (member : record ∈ addedDnskeys options zone keys) : record.rtype = Rtype.dnskey := by
  unfold addedDnskeys at member
  split at member
  · cases member
  · have ⟨key, _, made⟩ := List.mem_map.mp member
    rw [← made]
    rfl

theorem rtype_of_completedDnskeys {rrset : Rrset}
    (completed : completedDnskeys options zone keys = some rrset) :
    rrset.rtype = Rtype.dnskey := by
  unfold completedDnskeys at completed
  cases all : dnskeysInZone zone ++ addedDnskeys options zone keys with
  | nil =>
      rw [all] at completed
      cases completed
  | cons first others =>
      rw [all] at completed
      cases completed
      have member : first ∈ dnskeysInZone zone ++ addedDnskeys options zone keys := by
        rw [all]
        exact List.mem_cons_self
      cases List.mem_append.mp member with
      | inl inZone => exact rtype_of_mem_dnskeysInZone inZone
      | inr added => exact rtype_of_mem_addedDnskeys added

theorem keyRrsets_types : ((keyRrsets options zone keys).map Rrset.rtype).Sublist
    [Rtype.dnskey, Rtype.cds, Rtype.cdnskey] := by
  unfold keyRrsets
  rw [List.map_append, List.map_append]
  have single : ∀ (rrset : Option Rrset) (rtype : Rtype),
      (∀ one, rrset = some one → one.rtype = rtype) →
        (rrset.toList.map Rrset.rtype).Sublist [rtype] := by
    intro rrset rtype isType
    cases rrset with
    | none => exact List.nil_sublist _
    | some one =>
        have same := isType one rfl
        simp [same]
  apply List.Sublist.append (single _ _ fun one => rtype_of_completedDnskeys)
  apply List.Sublist.append (single _ _ fun one => rtype_of_findApexRtype)
  exact single _ _ fun one => rtype_of_findApexRtype

/-- The RRsets about keys have different types. -/
theorem keyRrsets_apart : (keyRrsets options zone keys).Pairwise fun one other =>
    one.rtype ≠ other.rtype := by
  have distinct : [Rtype.dnskey, Rtype.cds, Rtype.cdnskey].Pairwise (· ≠ ·) := by decide
  exact List.pairwise_map.mp (distinct.sublist keyRrsets_types)

/-! ### Insertion -/

theorem allNew_newRecords_iff (read : readZone env options = .ok zone)
    (signsType : SignsType domain)
    (signs : ∀ rrset ∈ keyRrsets options zone keys,
      CanSign domain options (splitKeys options keys).1 rrset) :
    AllNew zone.records.toList (newRecords domain options zone keys) ↔
      AllNew zone.records.toList (addedDnskeys options zone keys) ∧
        ∀ rrset ∈ keyRrsets options zone keys,
          SignApart domain options (splitKeys options keys).1 rrset := by
  have signedApart : ((keyRrsets options zone keys).flatMap
      (signatures domain options (splitKeys options keys).1)).Pairwise
        (fun one other => one.same other = false) ↔
      ∀ rrset ∈ keyRrsets options zone keys,
        SignApart domain options (splitKeys options keys).1 rrset := by
    rw [List.pairwise_flatMap]
    constructor
    · intro ⟨each, _⟩ rrset member
      exact (signatures_distinct_iff (signs rrset member)).mp (each rrset member)
    · intro each
      constructor
      · intro rrset member
        exact (signatures_distinct_iff (signs rrset member)).mpr (each rrset member)
      · apply keyRrsets_apart.imp
        intro rrset other types one inOne two inTwo
        exact signatures_same signsType types inOne inTwo
  have isRrsig : ∀ record ∈ (keyRrsets options zone keys).flatMap
      (signatures domain options (splitKeys options keys).1), record.rtype = Rtype.rrsig := by
    intro record member
    have ⟨rrset, _, inSignatures⟩ := List.mem_flatMap.mp member
    exact rtype_of_mem_signatures inSignatures
  unfold newRecords
  rw [allNew_append_iff, ← signedApart]
  constructor
  · intro ⟨dnskeys, signed, _⟩
    exact ⟨dnskeys, signed.distinct⟩
  · intro ⟨dnskeys, distinct⟩
    apply And.intro dnskeys
    constructor
    · constructor
      · intro record member other inZone
        rw [← Bool.not_eq_true]
        intro same
        exact readZone_noRrsig read inZone ((rtype_of_same same).trans (isRrsig record member))
      · exact distinct
    · intro one added other signed
      rw [← Bool.not_eq_true]
      intro same
      have types := (rtype_of_mem_addedDnskeys added).symm.trans
        ((rtype_of_same same).trans (isRrsig other signed))
      exact absurd types (by decide)

theorem addLoadedKeys_neverPanics_iff (read : readZone env options = .ok zone)
    (signsType : SignsType domain) :
    NeverPanics (addLoadedKeys domain options zone keys) ↔ KeysFit domain options zone keys := by
  have inserts := @insertNew_neverPanics_iff zone.records (newRecords domain options zone keys)
    fun record member => readZone_sorted read (rtype_of_mem_newRecords member)
  constructor
  · intro never
    have signs := signs_of_addLoadedKeys never
    rw [addLoadedKeys_of_signs signs, neverPanics_bind_iff] at never
    have ⟨lacking, apart⟩ :=
      (allNew_newRecords_iff read signsType signs).mp (inserts.mp never.1)
    exact ⟨lacking, signs, apart⟩
  · intro fit
    rw [addLoadedKeys_of_signs fit.signs]
    apply neverPanics_bind (inserts.mpr
      ((allNew_newRecords_iff read signsType fit.signs).mpr ⟨fit.lacking, fit.apart⟩))
    intro records _
    exact neverPanics_ok _

theorem addKeys_neverPanics_iff (read : readZone env options = .ok zone)
    (signsType : SignsType domain) :
    NeverPanics (addKeys domain env options zone) ↔
      ∀ keys, loadKeys domain env options zone = .ok keys →
        KeysFit domain options zone keys := by
  rw [addKeys_eq, neverPanics_bind_iff]
  constructor
  · intro never keys loaded
    exact (addLoadedKeys_neverPanics_iff read signsType).mp (never.2 keys loaded)
  · intro fit
    apply And.intro (loadKeys_neverPanics zone)
    intro keys loaded
    exact (addLoadedKeys_neverPanics_iff read signsType).mpr (fit keys loaded)

end AddKeys

end Dnst.Signzone
