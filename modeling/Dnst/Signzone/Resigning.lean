import Dnst.Signzone.Reloading
import Dnst.Signzone.ZonemdSignatures

/-! # Signing again

The zone is loaded again with the DNSKEY records that were added for the keys. The keys
and the RRsets about keys are then the same, and so is everything that is signed.
-/

namespace Dnst.Signzone

open Effect (bind_eq_ok)
open Keyset (Fault)

/-! ## The RRsets of the apex -/

section ApexRrsets

/-- The first record that is chosen, found in its RRset. -/
theorem find_first_of_rrsets {rrsets : List Rrset} {chosen : Rrset → Bool}
    {chooses : Record → Bool}
    (agree : ∀ rrset ∈ rrsets, ∀ record ∈ rrset.records, chooses record = chosen rrset) :
    (rrsets.find? chosen).map Rrset.first = (rrsets.flatMap Rrset.records).find? chooses := by
  induction rrsets with
  | nil => rfl
  | cons rrset rrsets induction =>
      have rest := induction fun other member => agree other (List.mem_cons_of_mem _ member)
      have here := agree rrset List.mem_cons_self
      rw [List.flatMap_cons, List.find?_append, ← rest]
      cases isChosen : chosen rrset with
      | true =>
          have first : rrset.records.find? chooses = some rrset.first :=
            List.find?_cons_of_pos ((here _ List.mem_cons_self).trans isChosen)
          rw [List.find?_cons_of_pos isChosen, first]
          rfl
      | false =>
          have none_ : rrset.records.find? chooses = none := by
            apply List.find?_eq_none.mpr
            intro record member
            simp [here record member, isChosen]
          rw [List.find?_cons_of_neg (by simp [isChosen]), none_]
          rfl

/-- A record of an RRset that is looked for at the apex. -/
def isAtApex (apex : Name) (rtype : Rtype) (record : Record) : Bool :=
  record.rtype = rtype ∧ record.owner = apex

theorem isAtApex_of_rrsetKey {apex : Name} {rtype : Rtype} {record other : Record}
    (same : record.rrsetKey = other.rrsetKey) :
    isAtApex apex rtype record = isAtApex apex rtype other := by
  rcases Record.rrsetKey_eq_iff.mp same with ⟨ownerKeys, sameType⟩
  unfold isAtApex
  rw [sameType, (Record.ownerKey_eq_iff.mp ownerKeys).2]

/-- The RRset of the first record that is looked for has all records of its key. -/
theorem findApexRtype_eq (records : SortedRecords) (apex : Name) (rtype : Rtype) :
    records.findApexRtype apex rtype =
      (records.toList.find? (isAtApex apex rtype)).bind fun first =>
        Rrset.ofList (records.toList.filter fun record => record.rrsetKey = first.rrsetKey) := by
  have isRrsets : (records.rrsets.filterMap Rrset.ofList).map Rrset.records =
      records.rrsets := records_filterMap fun _ member => SortedList.run_ne_nil member
  have isRun : ∀ rrset ∈ records.rrsets.filterMap Rrset.ofList,
      rrset.records ∈ SortedList.runs Record.rrsetKey records.toList := by
    intro rrset member
    rw [← SortedRecords.rrsets, ← isRrsets]
    exact List.mem_map_of_mem member
  have flat : (records.rrsets.filterMap Rrset.ofList).flatMap Rrset.records =
      records.toList := by
    rw [List.flatMap_def, isRrsets]
    exact SortedList.flatten_runs
  have first := @find_first_of_rrsets (records.rrsets.filterMap Rrset.ofList)
    (fun rrset => rrset.rtype = rtype ∧ rrset.owner = apex) (isAtApex apex rtype)
    fun rrset member record inRrset => isAtApex_of_rrsetKey
      (SortedList.kind_of_mem_run (isRun rrset member) inRrset List.mem_cons_self)
  rw [flat] at first
  unfold SortedRecords.findApexRtype
  rw [← first]
  cases found : (records.rrsets.filterMap Rrset.ofList).find? fun rrset =>
      rrset.rtype = rtype ∧ rrset.owner = apex with
  | none => rfl
  | some rrset =>
      have whole := SortedList.run_eq_filter records.ordered
        (isRun rrset (List.mem_of_find?_eq_some found)) (List.mem_cons_self)
      have all : records.toList.filter (fun record => record.rrsetKey = rrset.first.rrsetKey) =
          rrset.records := by
        rw [whole]
        apply List.filter_congr
        intro record _
        exact decide_eq_decide.mpr Iff.rfl
      rw [Option.map_some, Option.bind_some, all]
      rfl

/-- The RRset has the key of the first record. -/
theorem findApexRtype_of_first {records : SortedRecords} {apex : Name} {rtype : Rtype}
    {first : Record} (found : records.toList.find? (isAtApex apex rtype) = some first) :
    ∃ rrset, records.findApexRtype apex rtype = some rrset ∧
      rrset.records = records.toList.filter (fun record => record.rrsetKey = first.rrsetKey) ∧
      rrset.class' = first.class' := by
  have isRrset := findApexRtype_eq records apex rtype
  rw [found, Option.bind_some] at isRrset
  cases all : records.toList.filter fun record => record.rrsetKey = first.rrsetKey with
  | nil =>
      have none_ := List.filter_eq_nil_iff.mp all first (List.mem_of_find?_eq_some found)
      simp at none_
  | cons head rest =>
      rw [all] at isRrset
      have member : head ∈ records.toList.filter
          fun record => record.rrsetKey = first.rrsetKey := by
        rw [all]
        exact List.mem_cons_self
      have sameKey : head.rrsetKey = first.rrsetKey :=
        of_decide_eq_true (List.mem_filter.mp member).2
      have ownerKeys := (Record.rrsetKey_eq_iff.mp sameKey).1
      exact ⟨⟨head, rest⟩, isRrset, rfl, (Record.ownerKey_eq_iff.mp ownerKeys).1⟩

theorem findApexRtype_sorted {records : SortedRecords} {apex : Name} {rtype : Rtype}
    {rrset : Rrset} (sorted : SortedList.Sorted Record.key records.toList)
    (isRrset : records.findApexRtype apex rtype = some rrset) :
    SortedList.Sorted Record.key rrset.records := by
  cases found : records.toList.find? (isAtApex apex rtype) with
  | none =>
      rw [findApexRtype_eq, found] at isRrset
      cases isRrset
  | some first =>
      rcases findApexRtype_of_first found with ⟨one, isOne, whole, _⟩
      rw [isRrset] at isOne
      cases isOne
      rw [whole]
      exact sorted.filter _

/-- RRsets of a type are the same where the records of this type are. -/
theorem findApexRtype_congr {records others : SortedRecords} (apex : Name) {rtype : Rtype}
    (sameType : records.toList.filter (·.rtype = rtype) = others.toList.filter (·.rtype = rtype)) :
    records.findApexRtype apex rtype = others.findApexRtype apex rtype := by
  have find (list : List Record) : list.find? (isAtApex apex rtype) =
      (list.filter (·.rtype = rtype)).find? (·.owner = apex) := by
    rw [List.find?_filter]
    apply congrArg (List.find? · list)
    funext record
    simp [isAtApex]
  have filter (list : List Record) {first : Record} (isType : first.rtype = rtype) :
      list.filter (fun record => record.rrsetKey = first.rrsetKey) =
        (list.filter (·.rtype = rtype)).filter fun record => record.rrsetKey = first.rrsetKey := by
    rw [List.filter_filter]
    apply List.filter_congr
    intro record _
    by_cases same : record.rrsetKey = first.rrsetKey
    · simp [same, (Record.rrsetKey_eq_iff.mp same).2.trans isType]
    · simp [same]
  rw [findApexRtype_eq, findApexRtype_eq, find, find, sameType]
  cases found : (others.toList.filter (·.rtype = rtype)).find? (·.owner = apex) with
  | none => rfl
  | some first =>
      have inFilter := List.mem_filter.mp (List.mem_of_find?_eq_some found)
      have isType : first.rtype = rtype := by simpa using inFilter.2
      rw [Option.bind_some, Option.bind_some, filter records.toList isType, sameType,
        ← filter others.toList isType]

end ApexRrsets

/-! ## The DNSKEY RRset of the apex -/

/-- The zone and the zone that is loaded again, with the DNSKEY records that were added. -/
structure Joined (options : SignZone) (keys : List SigningKey) (zone again : Zone) : Prop where
  sameSoa : again.soaRr = zone.soaRr
  sorted : SortedList.Sorted Record.key zone.records.toList
  sortedAgain : SortedList.Sorted Record.key again.records.toList
  perm : again.records.toList.Perm (addedDnskeys options zone keys ++ zone.records.toList)

/-- The DNSKEY RRset that is found at the apex is of the class of the SOA record. -/
def DnskeyClass (zone : Zone) : Prop :=
  ∀ rrset, zone.records.findApexRtype zone.apex Rtype.dnskey = some rrset →
    rrset.class' = zone.class'

/-- Is the record in the DNSKEY RRset of the apex, in the class of the zone? -/
def isApexDnskey (zone : Zone) (record : Record) : Bool :=
  record.class' = zone.class' ∧ isAtApex zone.apex Rtype.dnskey record

section Dnskeys

variable {options : SignZone} {keys : List SigningKey} {zone again : Zone}

theorem isApexDnskey_iff {first record : Record} (isFirst : isApexDnskey zone first = true) :
    record.rrsetKey = first.rrsetKey ↔ isApexDnskey zone record = true := by
  simp only [isApexDnskey, isAtApex, decide_eq_true_eq] at isFirst ⊢
  rw [Record.rrsetKey_eq_iff, Record.ownerKey_eq_iff, isFirst.1, isFirst.2.1, isFirst.2.2]
  tauto

theorem filter_isApexDnskey {first : Record} (isFirst : isApexDnskey zone first = true)
    (records : List Record) :
    records.filter (fun record => record.rrsetKey = first.rrsetKey) =
      records.filter (isApexDnskey zone) := by
  apply List.filter_congr
  intro record _
  rw [Bool.eq_iff_iff, decide_eq_true_eq]
  exact isApexDnskey_iff isFirst

theorem findApexRtype_dnskey (sameClass : DnskeyClass zone) :
    zone.records.findApexRtype zone.apex Rtype.dnskey =
      Rrset.ofList (zone.records.toList.filter (isApexDnskey zone)) := by
  have rrset := findApexRtype_eq zone.records zone.apex Rtype.dnskey
  cases found : zone.records.toList.find? (isAtApex zone.apex Rtype.dnskey) with
  | none =>
      have none_ : zone.records.toList.filter (isApexDnskey zone) = [] := by
        apply List.filter_eq_nil_iff.mpr
        intro record member isApex
        exact List.find?_eq_none.mp found record member (of_decide_eq_true isApex).2
      rw [rrset, found, none_]
      rfl
  | some first =>
      rcases findApexRtype_of_first found with ⟨one, isRrset, _, isClass⟩
      have ofZone : first.class' = zone.class' := isClass.symm.trans (sameClass one isRrset)
      rw [rrset, found, Option.bind_some,
        filter_isApexDnskey (decide_eq_true ⟨ofZone, List.find?_some found⟩)]

/-- The first record that is found is the least. -/
theorem find_least {records : SortedRecords} {chooses : Record → Bool} {first other : Record}
    (found : records.toList.find? chooses = some first) (member : other ∈ records.toList)
    (chosen : chooses other = true) : first.rrsetKey ≤ other.rrsetKey := by
  rcases List.find?_eq_some_iff_append.mp found with ⟨_, before, after, split, others⟩
  have ordered := records.ordered
  rw [split] at member ordered
  rcases List.mem_append.mp member with inBefore | behind
  · have notChosen := others other inBefore
    simp [chosen] at notChosen
  · rcases List.mem_cons.mp behind with same | inAfter
    · rw [same]
    · exact (List.pairwise_cons.mp (List.pairwise_append.mp ordered).2.1).1 other inAfter

/-- The TTL of the DNSKEY RRset, or what it is to be. -/
def dnskeyTtl (zone : Zone) : Ttl :=
  (zone.records.findApexRtype zone.apex Rtype.dnskey).elim zone.newRrDefaultTtl (·.ttl)

/-- The DNSKEY record of a key. -/
def dnskeyRecord (zone : Zone) (key : SigningKey) : Record := {
  owner := zone.apex
  class' := zone.class'
  ttl := dnskeyTtl zone
  data := .dnskey key.dnskey }

theorem mem_addedDnskeys {record : Record} : record ∈ addedDnskeys options zone keys ↔
    options.doNotAddKeysToZone = false ∧ ∃ key ∈ keys,
      (∀ other ∈ dnskeysInZone zone, other.data ≠ .dnskey key.dnskey) ∧
        record = dnskeyRecord zone key := by
  unfold addedDnskeys dnskeyExtra
  change record ∈ (if options.doNotAddKeysToZone then [] else
    (keys.filter fun key => !(dnskeysInZone zone).any (·.data = .dnskey key.dnskey)).map
      (dnskeyRecord zone)) ↔ _
  cases options.doNotAddKeysToZone with
  | true => simp
  | false =>
      simp only [Bool.false_eq_true, if_false, List.mem_map, List.mem_filter, true_and,
        Bool.not_eq_true', List.any_eq_false, decide_eq_true_eq]
      constructor
      · intro ⟨key, ⟨isKey, absent⟩, made⟩
        exact ⟨key, isKey, absent, made.symm⟩
      · intro ⟨key, isKey, absent, made⟩
        exact ⟨key, ⟨isKey, absent⟩, made.symm⟩

theorem isApexDnskey_of_added {record : Record}
    (member : record ∈ addedDnskeys options zone keys) : isApexDnskey zone record = true := by
  rcases mem_addedDnskeys.mp member with ⟨_, key, _, _, made⟩
  rw [made]
  exact decide_eq_true ⟨rfl, decide_eq_true ⟨rfl, rfl⟩⟩

theorem Joined.apex (joined : Joined options keys zone again) : again.apex = zone.apex :=
  congrArg Record.owner joined.sameSoa

theorem Joined.class' (joined : Joined options keys zone again) : again.class' = zone.class' :=
  congrArg Record.class' joined.sameSoa

theorem Joined.isApexDnskey (joined : Joined options keys zone again) :
    isApexDnskey again = isApexDnskey zone := by
  funext record
  unfold Signzone.isApexDnskey
  rw [joined.apex, joined.class']

/-- The RRset that is found with the added records is still the one of the zone's class. -/
theorem Joined.dnskeyClass (joined : Joined options keys zone again)
    (sameClass : DnskeyClass zone) : DnskeyClass again := by
  intro rrset isRrset
  cases found : again.records.toList.find? (isAtApex again.apex Rtype.dnskey) with
  | none =>
      rw [findApexRtype_eq, found] at isRrset
      cases isRrset
  | some first =>
      rcases findApexRtype_of_first found with ⟨other, isOther, _, isClass⟩
      rw [isRrset] at isOther
      cases isOther
      rw [isClass, joined.class']
      have isAt := List.find?_some found
      rw [joined.apex] at found isAt
      rcases List.mem_append.mp (joined.perm.mem_iff.mp (List.mem_of_find?_eq_some found)) with
        added | inZone
      · exact (of_decide_eq_true (isApexDnskey_of_added added)).1
      · cases before : zone.records.toList.find? (isAtApex zone.apex Rtype.dnskey) with
        | none => exact absurd isAt (List.find?_eq_none.mp before first inZone)
        | some old =>
            rcases findApexRtype_of_first before with ⟨one, isOne, _, oldClass⟩
            have stays : old ∈ again.records.toList := joined.perm.mem_iff.mpr
              (List.mem_append_right _ (List.mem_of_find?_eq_some before))
            have sameKey := le_antisymm (find_least found stays (List.find?_some before))
              (find_least before inZone isAt)
            have ownerKeys := (Record.rrsetKey_eq_iff.mp sameKey).1
            rw [(Record.ownerKey_eq_iff.mp ownerKeys).1, ← oldClass]
            exact sameClass one isOne

theorem elim_ofList (records : List Record) :
    (Rrset.ofList records).elim [] Rrset.records = records := by
  cases records <;> rfl

theorem dnskeysInZone_eq (sameClass : DnskeyClass zone) :
    dnskeysInZone zone = zone.records.toList.filter (isApexDnskey zone) := by
  unfold dnskeysInZone
  rw [findApexRtype_dnskey sameClass]
  exact elim_ofList _

theorem Joined.dnskeysInZone_perm (joined : Joined options keys zone again)
    (sameClass : DnskeyClass zone) :
    (dnskeysInZone again).Perm (addedDnskeys options zone keys ++ dnskeysInZone zone) := by
  have all : (addedDnskeys options zone keys).filter (Signzone.isApexDnskey zone) =
      addedDnskeys options zone keys :=
    List.filter_eq_self.mpr fun _ member => isApexDnskey_of_added member
  have perm := joined.perm.filter (Signzone.isApexDnskey zone)
  rw [List.filter_append, all] at perm
  rw [dnskeysInZone_eq (joined.dnskeyClass sameClass), joined.isApexDnskey,
    dnskeysInZone_eq sameClass]
  exact perm

theorem dnskeyTtl_of_cons (sameClass : DnskeyClass zone) {first : Record} {others : List Record}
    (inZone : dnskeysInZone zone = first :: others) : dnskeyTtl zone = first.ttl := by
  rw [dnskeysInZone_eq sameClass] at inZone
  unfold dnskeyTtl
  rw [findApexRtype_dnskey sameClass, inZone]
  rfl

/-- RRsets with the same different records, the same names and the same TTL. -/
structure SameRrset (one other : Rrset) : Prop where
  records : one.records.Perm other.records
  distinct : one.records.Pairwise fun record another => record.key ≠ another.key
  names : one.first.rrsetKey = other.first.rrsetKey
  ttl : one.ttl = other.ttl

theorem SameRrset.refl {rrset : Rrset}
    (sorted : SortedList.Sorted Record.key rrset.records) : SameRrset rrset rrset :=
  ⟨List.Perm.refl _, sorted.keys_ne, rfl, rfl⟩

theorem SameRrset.owner {one other : Rrset} (same : SameRrset one other) :
    one.owner = other.owner :=
  (Record.ownerKey_eq_iff.mp (Record.rrsetKey_eq_iff.mp same.names).1).2

theorem SameRrset.class' {one other : Rrset} (same : SameRrset one other) :
    one.class' = other.class' :=
  (Record.ownerKey_eq_iff.mp (Record.rrsetKey_eq_iff.mp same.names).1).1

/-- The RRset that is found again is the RRset that was completed. -/
theorem Joined.completed (joined : Joined options keys zone again)
    (sameClass : DnskeyClass zone) :
    Option.Rel SameRrset (Rrset.ofList (dnskeysInZone again))
      (completedDnskeys options zone keys) := by
  have perm := (joined.dnskeysInZone_perm sameClass).trans List.perm_append_comm
  have ofAdded : ∀ record ∈ addedDnskeys options zone keys, record.ttl = dnskeyTtl zone := by
    intro record member
    rcases mem_addedDnskeys.mp member with ⟨_, _, _, _, made⟩
    rw [made]
    rfl
  have sortedAgain : SortedList.Sorted Record.key (dnskeysInZone again) := by
    rw [dnskeysInZone_eq (joined.dnskeyClass sameClass)]
    exact joined.sortedAgain.filter _
  have sorted : SortedList.Sorted Record.key (dnskeysInZone zone) := by
    rw [dnskeysInZone_eq sameClass]
    exact joined.sorted.filter _
  have atApex : ∀ record ∈ dnskeysInZone zone ++ addedDnskeys options zone keys,
      Signzone.isApexDnskey zone record = true := by
    intro record member
    rcases List.mem_append.mp member with inZone | added
    · rw [dnskeysInZone_eq sameClass] at inZone
      exact (List.mem_filter.mp inZone).2
    · exact isApexDnskey_of_added added
  -- The least record was added, or it was the first of the zone already.
  have firstTtl : ∀ first others, dnskeysInZone again = first :: others →
      first.ttl = dnskeyTtl zone := by
    intro first others whole
    have member : first ∈ dnskeysInZone zone ++ addedDnskeys options zone keys := by
      apply perm.mem_iff.mp
      rw [whole]
      exact List.mem_cons_self
    rcases List.mem_append.mp member with inZone | added
    · cases before : dnskeysInZone zone with
      | nil =>
          rw [before] at inZone
          cases inZone
      | cons head rest =>
          rw [before] at inZone sorted
          rw [dnskeyTtl_of_cons sameClass before]
          rcases List.mem_cons.mp inZone with same | later
          · rw [same]
          · have above := (List.pairwise_cons.mp sorted).1 first later
            have headAgain : head ∈ dnskeysInZone again := by
              apply perm.mem_iff.mpr
              rw [before]
              exact List.mem_cons_self
            rw [whole] at headAgain sortedAgain
            rcases List.mem_cons.mp headAgain with same | behind
            · rw [same]
            · have below := (List.pairwise_cons.mp sortedAgain).1 head behind
              exact absurd above (lt_asymm below)
    · exact ofAdded first added
  unfold completedDnskeys
  cases whole : dnskeysInZone again with
  | nil =>
      rw [whole] at perm
      rw [perm.symm.eq_nil]
      exact Option.Rel.none
  | cons first others =>
      rw [whole] at perm
      cases completed : dnskeysInZone zone ++ addedDnskeys options zone keys with
      | nil =>
          rw [completed] at perm
          cases perm.eq_nil
      | cons head rest =>
          rw [completed] at perm atApex
          have firstAt := atApex first (perm.mem_iff.mp List.mem_cons_self)
          have headAt := atApex head List.mem_cons_self
          rw [whole] at sortedAgain
          have headTtl : head.ttl = dnskeyTtl zone := by
            cases before : dnskeysInZone zone with
            | nil =>
                rw [before, List.nil_append] at completed
                apply ofAdded
                rw [completed]
                exact List.mem_cons_self
            | cons one more =>
                rw [before] at completed
                rw [dnskeyTtl_of_cons sameClass before]
                cases completed
                rfl
          apply Option.Rel.some
          exact {
            records := perm
            distinct := sortedAgain.keys_ne
            names := (isApexDnskey_iff headAt).mpr firstAt
            ttl := (firstTtl first others whole).trans headTtl.symm }

end Dnskeys

/-! ## Signatures of the same RRsets -/

/-- Keys sign the records of an RRset in their order, whatever the order they are given in. -/
def SignsInOrder (domain : Domain) : Prop :=
  ∀ key one other inception expiration, SameRrset one other →
    domain.signRrset key one inception expiration = domain.signRrset key other inception expiration

section Signatures

variable {domain : Domain} {options : SignZone} {signers : List SigningKey}

theorem canSign_of_same (inOrder : SignsInOrder domain) {one other : Rrset}
    (same : SameRrset one other) (signs : CanSign domain options signers other) :
    CanSign domain options signers one := by
  intro key member
  rw [inOrder key one other _ _ same]
  exact signs key member

theorem signatures_of_same (inOrder : SignsInOrder domain) {one other : Rrset}
    (same : SameRrset one other) :
    signatures domain options signers one = signatures domain options signers other := by
  have sameRecord : rrsigRecord one = rrsigRecord other := by
    funext rrsig
    unfold rrsigRecord
    rw [same.owner, same.class', same.ttl]
  unfold signatures
  apply List.filterMap_congr
  intro key _
  rw [inOrder key one other _ _ same, sameRecord]

end Signatures

/-! ## The keys -/

/-- Whether a private key fits a DNSKEY record depends on the public key. -/
def FitsPublicKey (domain : Domain) : Prop :=
  ∀ privateKey one other, domain.fromBytes privateKey one = .ok () →
    other.algorithm = one.algorithm → other.publicKey = one.publicKey →
      domain.fromBytes privateKey other = .ok ()

/-- No private key fits the public key of another key. -/
def DistinctKeys (domain : Domain) (keys : List SigningKey) : Prop :=
  ∀ one ∈ keys, ∀ other ∈ keys,
    domain.fromBytes one.privateKey other.dnskey = .ok () → one = other

section Keys

variable {domain : Domain} {env : Env} {options : SignZone} {keys : List SigningKey}
variable {zone again : Zone}

theorem mkSigningKey_eq_ok {owner : Name} {privateKey : SecretKeyBytes} {dnskey : Dnskey}
    {key : SigningKey} : mkSigningKey domain owner privateKey dnskey = .ok key ↔
      domain.fromBytes privateKey dnskey = .ok () ∧
        key = ⟨owner, dnskey.flags, privateKey, dnskey.algorithm, dnskey.publicKey⟩ := by
  unfold mkSigningKey
  cases domain.fromBytes privateKey dnskey with
  | error reason =>
      constructor
      · intro impossible
        cases impossible
      · intro impossible
        cases impossible.1
  | ok fits =>
      constructor
      · intro made
        cases made
        exact ⟨rfl, rfl⟩
      · intro made
        rw [made.2]
        rfl

/-- The key pair of a private key and a DNSKEY record, if they fit. -/
def keyPair (domain : Domain) (privateKey : SecretKeyBytes) (record : Record) :
    Option SigningKey :=
  match record.data with
  | .dnskey dnskey => (mkSigningKey domain record.owner privateKey dnskey).toOption
  | _ => none

theorem matchPublicKey_eq (privateKey : SecretKeyBytes) (dnskeys : List Record) :
    matchPublicKey domain privateKey (foundPublicKeys dnskeys) =
      dnskeys.findSome? (keyPair domain privateKey) := by
  unfold matchPublicKey foundPublicKeys
  induction dnskeys with
  | nil => rfl
  | cons record dnskeys induction =>
      unfold keyPair at induction ⊢
      cases isDnskey : record.data with
      | dnskey dnskey =>
          simp only [List.filterMap_cons, List.findSome?_cons, isDnskey, induction]
      | _ => simp only [List.filterMap_cons, List.findSome?_cons, isDnskey, induction]

theorem keyPair_eq_some {privateKey : SecretKeyBytes} {record : Record} {key : SigningKey} :
    keyPair domain privateKey record = some key ↔ ∃ dnskey, record.data = .dnskey dnskey ∧
      domain.fromBytes privateKey dnskey = .ok () ∧
        key = ⟨record.owner, dnskey.flags, privateKey, dnskey.algorithm, dnskey.publicKey⟩ := by
  unfold keyPair
  cases isDnskey : record.data with
  | dnskey dnskey =>
      have made := @mkSigningKey_eq_ok domain record.owner privateKey dnskey key
      constructor
      · intro found
        refine ⟨dnskey, rfl, made.mp ?_⟩
        cases result : mkSigningKey domain record.owner privateKey dnskey with
        | error reason =>
            simp only [result] at found
            cases found
        | ok value =>
            simp only [result] at found
            cases found
            rfl
      · intro ⟨other, same, fits⟩
        cases same
        simp only [made.mpr fits]
        rfl
  | _ => simp

/-- Among more items the first that counts is the same, when the others give nothing else. -/
theorem findSome_of_filter {Item Value : Type} {find : Item → Option Value}
    {keeps : Item → Bool} {items : List Item} {value : Value}
    (others : ∀ item ∈ items, keeps item = false → find item = none ∨ find item = some value)
    (found : (items.filter keeps).findSome? find = some value ∨
      (items.filter keeps).findSome? find = none ∧ ∃ item ∈ items, find item = some value) :
    items.findSome? find = some value := by
  induction items with
  | nil =>
      rcases found with impossible | ⟨_, item, member, _⟩
      · cases impossible
      · cases member
  | cons item items induction =>
      have rest := induction fun other member => others other (List.mem_cons_of_mem _ member)
      rw [List.findSome?_cons]
      cases kept : keeps item with
      | false =>
          rw [List.filter_cons_of_neg (by simp [kept])] at found
          rcases others item List.mem_cons_self kept with nothing | isValue
          · rw [nothing]
            apply rest
            rcases found with first | ⟨none_, other, member, isValue⟩
            · exact Or.inl first
            · rcases List.mem_cons.mp member with same | later
              · rw [same, nothing] at isValue
                cases isValue
              · exact Or.inr ⟨none_, other, later, isValue⟩
          · rw [isValue]
      | true =>
          rw [List.filter_cons_of_pos kept, List.findSome?_cons] at found
          cases here : find item with
          | some other =>
              rw [here] at found
              rcases found with first | ⟨impossible, _⟩
              · exact first
              · cases impossible
          | none =>
              rw [here] at found
              apply rest
              rcases found with first | ⟨none_, other, member, isValue⟩
              · exact Or.inl first
              · rcases List.mem_cons.mp member with same | later
                · rw [same, here] at isValue
                  cases isValue
                · exact Or.inr ⟨none_, other, later, isValue⟩

/-- A key pair is made of the private key and a DNSKEY of the apex, which is in the zone or
in the public key file. -/
theorem loadSigningKey_eq_ok {found : List (Name × Dnskey)} {apex : Name} {keyPath : String}
    {key : SigningKey} (loaded : loadSigningKey domain env apex found keyPath = .ok key) :
    ∃ privateKey, loadPrivateKey domain env (mkPrivateKeyPath keyPath) = .ok privateKey ∧
      (matchPublicKey domain privateKey found = some key ∨
        matchPublicKey domain privateKey found = none ∧
          ∃ dnskey, mkSigningKey domain apex privateKey dnskey = .ok key) := by
  rcases bind_eq_ok loaded with ⟨privateKey, isPrivate, rest⟩
  refine ⟨privateKey, isPrivate, ?_⟩
  dsimp only at rest
  split at rest
  · next signingKey matched =>
      cases rest
      exact Or.inl matched
  · next notMatched =>
      rcases bind_eq_ok rest with ⟨publicKey, _, made⟩
      split at made
      · cases made
      · next isApex =>
          refine Or.inr ⟨notMatched, publicKey.2, ?_⟩
          rw [not_not.mp isApex] at made
          cases result : mkSigningKey domain apex privateKey publicKey.2 with
          | error reason =>
              rw [result] at made
              cases made
          | ok value =>
              rw [result] at made
              cases made
              rfl

theorem loadSigningKey_of_match {found : List (Name × Dnskey)} {apex : Name}
    {keyPath : String} {privateKey : SecretKeyBytes} {key : SigningKey}
    (isPrivate : loadPrivateKey domain env (mkPrivateKeyPath keyPath) = .ok privateKey)
    (matched : matchPublicKey domain privateKey found = some key) :
    loadSigningKey domain env apex found keyPath = .ok key := by
  unfold loadSigningKey
  dsimp only
  rw [isPrivate]
  dsimp only [bind, Except.bind]
  rw [matched]
  rfl

/-- Each key is found again, now among the DNSKEY records of the zone. -/
theorem Joined.loadSigningKey (joined : Joined options keys zone again)
    (sameClass : DnskeyClass zone) (fits : FitsPublicKey domain)
    (distinct : DistinctKeys domain keys) (adds : options.doNotAddKeysToZone = false)
    {keyPath : String} {key : SigningKey} (isKey : key ∈ keys)
    (loaded : loadSigningKey domain env zone.apex (foundPublicKeys (dnskeysInZone zone)) keyPath =
      .ok key) :
    Signzone.loadSigningKey domain env again.apex (foundPublicKeys (dnskeysInZone again))
      keyPath = .ok key := by
  have perm := joined.dnskeysInZone_perm sameClass
  have ownedByApex : ∀ record ∈ dnskeysInZone zone, record.owner = zone.apex := by
    intro record member
    rw [dnskeysInZone_eq sameClass] at member
    exact (of_decide_eq_true (of_decide_eq_true (List.mem_filter.mp member).2).2).2
  have inZone : (dnskeysInZone again).filter (fun record => record ∈ dnskeysInZone zone) =
      dnskeysInZone zone := by
    have sortedAgain : SortedList.Sorted Record.key (dnskeysInZone again) := by
      rw [dnskeysInZone_eq (joined.dnskeyClass sameClass)]
      exact joined.sortedAgain.filter _
    have sorted : SortedList.Sorted Record.key (dnskeysInZone zone) := by
      rw [dnskeysInZone_eq sameClass]
      exact joined.sorted.filter _
    have none_ : (addedDnskeys options zone keys).filter (fun record =>
        record ∈ dnskeysInZone zone) = [] := by
      apply List.filter_eq_nil_iff.mpr
      intro record added isInZone
      rcases mem_addedDnskeys.mp added with ⟨_, one, _, absent, made⟩
      apply absent record (of_decide_eq_true isInZone)
      rw [made]
      rfl
    have all : (dnskeysInZone zone).filter (fun record => record ∈ dnskeysInZone zone) =
        dnskeysInZone zone :=
      List.filter_eq_self.mpr fun _ member => decide_eq_true member
    have filtered := perm.filter fun record => record ∈ dnskeysInZone zone
    rw [List.filter_append, none_, all, List.nil_append] at filtered
    exact (sortedAgain.filter _).eq_of_perm sorted filtered
  rcases loadSigningKey_eq_ok loaded with ⟨privateKey, isPrivate, found⟩
  rw [matchPublicKey_eq] at found
  apply loadSigningKey_of_match isPrivate
  rw [matchPublicKey_eq]
  -- The key that has been loaded fits its own public key.
  have own : domain.fromBytes privateKey key.dnskey = .ok () ∧ key.owner = zone.apex ∧
      key.privateKey = privateKey := by
    rcases found with matched | ⟨_, dnskey, made⟩
    · rcases List.exists_of_findSome?_eq_some matched with ⟨record, member, pair⟩
      rcases keyPair_eq_some.mp pair with ⟨dnskey, _, belongs, same⟩
      rw [same]
      exact ⟨fits _ _ _ belongs rfl rfl, ownedByApex record member, rfl⟩
    · rcases mkSigningKey_eq_ok.mp made with ⟨belongs, same⟩
      rw [same]
      exact ⟨fits _ _ _ belongs rfl rfl, rfl, rfl⟩
  have whole : ⟨zone.apex, key.flags, privateKey, key.algorithm, key.publicKey⟩ = key := by
    rw [← own.2.1, ← own.2.2]
  have ofAdded : ∀ record ∈ addedDnskeys options zone keys, ∀ other,
      keyPair domain privateKey record = some other → other = key := by
    intro record added other pair
    rcases mem_addedDnskeys.mp added with ⟨_, one, isOne, _, made⟩
    rcases keyPair_eq_some.mp pair with ⟨dnskey, isDnskey, belongs, same⟩
    rw [made] at isDnskey same
    cases isDnskey
    rw [← own.2.2] at belongs
    have isSame := distinct key isKey one isOne belongs
    rw [same, ← isSame]
    exact whole
  apply @findSome_of_filter _ _ _ fun record => record ∈ dnskeysInZone zone
  · intro record member notInZone
    have added := (List.mem_append.mp (perm.mem_iff.mp member)).resolve_right
      (of_decide_eq_false notInZone)
    cases pair : keyPair domain privateKey record with
    | none => exact Or.inl rfl
    | some other =>
        rw [ofAdded record added other pair]
        exact Or.inr rfl
  · rw [inZone]
    rcases found with matched | ⟨notMatched, _⟩
    · exact Or.inl matched
    · refine Or.inr ⟨notMatched, dnskeyRecord zone key, ?_, ?_⟩
      · apply perm.mem_iff.mpr
        apply List.mem_append_left
        refine mem_addedDnskeys.mpr ⟨adds, key, isKey, ?_, rfl⟩
        intro other isInZone same
        have pair := keyPair_eq_some.mpr ⟨key.dnskey, same, own.1, rfl⟩
        rw [List.findSome?_eq_none_iff.mp notMatched other isInZone] at pair
        cases pair
      · apply keyPair_eq_some.mpr
        exact ⟨key.dnskey, rfl, own.1, whole.symm⟩

end Keys

/-! ## The records about keys -/

section NewRecords

variable {domain : Domain} {env : Env} {options : SignZone} {keys : List SigningKey}
variable {zone again : Zone}

/-- All keys have their DNSKEY records by now. -/
theorem Joined.added_again (joined : Joined options keys zone again)
    (sameClass : DnskeyClass zone) : addedDnskeys options again keys = [] := by
  apply List.eq_nil_iff_forall_not_mem.mpr
  intro record member
  rcases mem_addedDnskeys.mp member with ⟨adds, key, isKey, absent, _⟩
  have perm := joined.dnskeysInZone_perm sameClass
  have missing : dnskeyRecord zone key ∈ addedDnskeys options zone keys := by
    refine mem_addedDnskeys.mpr ⟨adds, key, isKey, ?_, rfl⟩
    intro other isInZone
    exact absent other (perm.mem_iff.mpr (List.mem_append_right _ isInZone))
  exact absent _ (perm.mem_iff.mpr (List.mem_append_left _ missing)) rfl

/-- The other RRsets about keys stay. -/
theorem Joined.findApexRtype (joined : Joined options keys zone again) {rtype : Rtype}
    (notDnskey : rtype ≠ Rtype.dnskey) :
    again.records.findApexRtype again.apex rtype =
      zone.records.findApexRtype zone.apex rtype := by
  rw [joined.apex]
  apply findApexRtype_congr
  have none_ : (addedDnskeys options zone keys).filter (·.rtype = rtype) = [] := by
    apply List.filter_eq_nil_iff.mpr
    intro record member isType
    rw [rtype_of_mem_addedDnskeys member] at isType
    exact notDnskey (of_decide_eq_true isType).symm
  have perm := joined.perm.filter fun record => record.rtype = rtype
  rw [List.filter_append, none_, List.nil_append] at perm
  exact (joined.sortedAgain.filter _).eq_of_perm (joined.sorted.filter _) perm

/-- The RRsets about keys are the same as before. -/
theorem Joined.keyRrsets (joined : Joined options keys zone again)
    (sameClass : DnskeyClass zone) :
    List.Forall₂ SameRrset (Signzone.keyRrsets options again keys)
      (Signzone.keyRrsets options zone keys) := by
  have refl {rtype : Rtype} {rrset : Rrset}
      (member : rrset ∈ (zone.records.findApexRtype zone.apex rtype).toList) :
      SameRrset rrset rrset :=
    SameRrset.refl (findApexRtype_sorted joined.sorted (Option.mem_toList.mp member))
  have completed := joined.completed sameClass
  unfold Signzone.keyRrsets
  rw [joined.findApexRtype (by decide : Rtype.cds ≠ Rtype.dnskey),
    joined.findApexRtype (by decide : Rtype.cdnskey ≠ Rtype.dnskey)]
  apply List.rel_append
  · unfold completedDnskeys at completed ⊢
    rw [joined.added_again sameClass, List.append_nil]
    generalize Rrset.ofList (dnskeysInZone again) = found at completed ⊢
    generalize Rrset.ofList (dnskeysInZone zone ++ addedDnskeys options zone keys) = whole
      at completed ⊢
    cases completed with
    | none => exact List.Forall₂.nil
    | some same => exact List.Forall₂.cons same List.Forall₂.nil
  · apply List.forall₂_same.mpr
    intro rrset member
    rcases List.mem_append.mp member with cds | cdnskey
    · exact refl cds
    · exact refl cdnskey

theorem Joined.canSign (joined : Joined options keys zone again) (sameClass : DnskeyClass zone)
    (inOrder : SignsInOrder domain) {signers : List SigningKey}
    (signs : ∀ rrset ∈ Signzone.keyRrsets options zone keys,
      CanSign domain options signers rrset) :
    ∀ rrset ∈ Signzone.keyRrsets options again keys, CanSign domain options signers rrset := by
  have same := joined.keyRrsets sameClass
  generalize Signzone.keyRrsets options again keys = found at same ⊢
  generalize Signzone.keyRrsets options zone keys = completed at same signs
  induction same with
  | nil =>
      intro rrset member
      cases member
  | cons first rest induction =>
      intro rrset member
      rcases List.mem_cons.mp member with isFirst | later
      · rw [isFirst]
        exact canSign_of_same inOrder first (signs _ List.mem_cons_self)
      · exact induction (fun other isOther => signs other (List.mem_cons_of_mem _ isOther)) rrset
          later

/-- The signatures are the same, and no DNSKEY records are added. -/
theorem Joined.newRecords (joined : Joined options keys zone again)
    (sameClass : DnskeyClass zone) (inOrder : SignsInOrder domain) :
    Signzone.newRecords domain options zone keys =
      addedDnskeys options zone keys ++ Signzone.newRecords domain options again keys := by
  have same := joined.keyRrsets sameClass
  unfold Signzone.newRecords
  rw [joined.added_again sameClass, List.nil_append]
  apply congrArg (addedDnskeys options zone keys ++ ·)
  generalize Signzone.keyRrsets options again keys = found at same ⊢
  generalize Signzone.keyRrsets options zone keys = completed at same ⊢
  induction same with
  | nil => rfl
  | cons first rest induction =>
      rw [List.flatMap_cons, List.flatMap_cons, induction, signatures_of_same inOrder first]

end NewRecords

/-! ## Preparing again -/

section Prepare

variable {domain : Domain} {env : Env} {options : SignZone} {prepared : Prepared}
variable {keys : List SigningKey}

end Prepare

/-! ## Zone files of one class -/

section OneClass

variable {env : Env} {options : SignZone} {zone : Zone}

end OneClass

/-! ## The whole run -/

section Resign

variable {domain : Domain} {env : Env} {options : SignZone} {lines : List Line}

end Resign

namespace Reference

theorem domain_addsRegenerated : AddsRegenerated domain := by
  intro apex config keys records added adds record member
  change signZone apex config keys records = .ok added at adds
  unfold signZone at adds
  dsimp only at adds
  split at adds
  · cases adds
  rcases bind_eq_ok adds with ⟨rrsigs, signs, made⟩
  cases made
  rcases List.mem_append.mp member with isNsec | isRrsig
  · split at isNsec
    · rcases List.mem_map.mp isNsec with ⟨pair, _, same⟩
      rw [← same]
      exact (by decide : Rtype.nsec ∈ regenerated)
    · cases isNsec
  · rcases List.mem_flatten.mp isRrsig with ⟨made, isMade, inMade⟩
    rcases (mapM_eq_ok signs).2 made isMade with ⟨rrset, _, signsRrset⟩
    rcases (mapM_eq_ok signsRrset).2 record inMade with ⟨key, _, signed⟩
    rcases bind_eq_ok signed with ⟨rrsig, _, same⟩
    cases same
    exact (by decide : Rtype.rrsig ∈ regenerated)

def digestLines : List Line :=
  ((digestOptions ["one", "two"]).execute domain (env [soaRecord apex 1])).toOption.getD []

end Reference

end Dnst.Signzone
