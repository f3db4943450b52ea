import Dnst.Foundation.SortedList
import Mathlib.Data.List.Lex
import Mathlib.Data.Prod.Lex

/-! # Zone records

Records with the data that `signzone` looks into, and the collection that keeps them
in DNSSEC order.
-/

namespace Dnst.Signzone

/-! ## Names and types -/

abbrev Octets := List Nat
abbrev Ttl := Nat
abbrev Serial := Nat
abbrev Timestamp := Nat

/-- Labels from the root down, in lower case: the order of names is the order of lists. -/
abbrev Name := List Octets

def Name.endsWith (name base : Name) : Bool := base.isPrefixOf name

abbrev Rtype := Nat

namespace Rtype

def ns : Rtype := 2
def soa : Rtype := 6
def ds : Rtype := 43
def rrsig : Rtype := 46
def nsec : Rtype := 47
def dnskey : Rtype := 48
def nsec3 : Rtype := 50
def nsec3param : Rtype := 51
def cds : Rtype := 59
def cdnskey : Rtype := 60
def zonemd : Rtype := 63

end Rtype

/-! ## Record data -/

structure Soa where
  mname : Name
  rname : Name
  serial : Serial
  refresh : Nat
  retry : Nat
  expire : Nat
  minimum : Nat
  deriving DecidableEq

structure Dnskey where
  flags : Nat
  protocol : Nat
  algorithm : Nat
  publicKey : Octets
  deriving DecidableEq

structure Rrsig where
  typeCovered : Rtype
  algorithm : Nat
  labels : Nat
  originalTtl : Ttl
  expiration : Timestamp
  inception : Timestamp
  keyTag : Nat
  signerName : Name
  signature : Octets
  deriving DecidableEq

structure Nsec3 where
  hashAlgorithm : Nat
  flags : Nat
  iterations : Nat
  salt : Octets
  nextOwner : Octets
  types : Octets
  deriving DecidableEq

structure Zonemd where
  serial : Serial
  scheme : Nat
  algorithm : Nat
  digest : Octets
  deriving DecidableEq

/-- Data of any other type, and data that the zone file gives as octets, are kept as
octets. -/
inductive ZoneRecordData where
  | soa (data : Soa)
  | dnskey (data : Dnskey)
  | rrsig (data : Rrsig)
  | nsec3 (data : Nsec3)
  | zonemd (data : Zonemd)
  | unknown (rtype : Rtype) (octets : Octets)
  deriving DecidableEq

def ZoneRecordData.rtype : ZoneRecordData → Rtype
  | .soa _ => Rtype.soa
  | .dnskey _ => Rtype.dnskey
  | .rrsig _ => Rtype.rrsig
  | .nsec3 _ => Rtype.nsec3
  | .zonemd _ => Rtype.zonemd
  | .unknown rtype _ => rtype

def Dnskey.isSecureEntryPoint (dnskey : Dnskey) : Bool := dnskey.flags % 2 = 1

def Dnskey.isZoneKey (dnskey : Dnskey) : Bool := dnskey.flags / 256 % 2 = 1

def Nsec3.optOut (nsec3 : Nsec3) : Bool := nsec3.flags % 2 = 1

structure Record where
  owner : Name
  class' : Nat
  ttl : Ttl
  data : ZoneRecordData
  deriving DecidableEq

namespace Record

def rtype (record : Record) : Rtype := record.data.rtype

/-- `Record` equality does not look at the TTL. -/
def same (record other : Record) : Bool :=
  record.owner = other.owner ∧ record.class' = other.class' ∧ record.data = other.data

/-- The type that a signature covers. -/
def typeCovered (record : Record) : Option Rtype :=
  match record.data with
  | .rrsig rrsig => some rrsig.typeCovered
  | _ => none

end Record

/-! ## Canonical form -/

def octet (number : Nat) : Octets := [number % 256]

def octets16 (number : Nat) : Octets := [number / 256 % 256, number % 256]

def octets32 (number : Nat) : Octets := octets16 (number / 65536) ++ octets16 number

/-- The wire format starts with the label that is farthest from the root. -/
def Name.canonical (name : Name) : Octets :=
  (name.reverse.flatMap fun label => label.length :: label) ++ [0]

def Soa.canonical (soa : Soa) : Octets :=
  soa.mname.canonical ++ soa.rname.canonical ++ octets32 soa.serial ++ octets32 soa.refresh ++
    octets32 soa.retry ++ octets32 soa.expire ++ octets32 soa.minimum

def Dnskey.canonical (dnskey : Dnskey) : Octets :=
  octets16 dnskey.flags ++ octet dnskey.protocol ++ octet dnskey.algorithm ++ dnskey.publicKey

def Rrsig.canonical (rrsig : Rrsig) : Octets :=
  octets16 rrsig.typeCovered ++ octet rrsig.algorithm ++ octet rrsig.labels ++
    octets32 rrsig.originalTtl ++ octets32 rrsig.expiration ++ octets32 rrsig.inception ++
    octets16 rrsig.keyTag ++ (rrsig.signerName.canonical ++ rrsig.signature)

def Nsec3.canonical (nsec3 : Nsec3) : Octets :=
  octet nsec3.hashAlgorithm ++ octet nsec3.flags ++ octets16 nsec3.iterations ++
    octet nsec3.salt.length ++ nsec3.salt ++ octet nsec3.nextOwner.length ++ nsec3.nextOwner ++
    nsec3.types

def Zonemd.canonical (zonemd : Zonemd) : Octets :=
  octets32 zonemd.serial ++ octet zonemd.scheme ++ octet zonemd.algorithm ++ zonemd.digest

def ZoneRecordData.canonical : ZoneRecordData → Octets
  | .soa data => data.canonical
  | .dnskey data => data.canonical
  | .rrsig data => data.canonical
  | .nsec3 data => data.canonical
  | .zonemd data => data.canonical
  | .unknown _ octets => octets

/-! ## Order -/

/-- Labels compare by their lengths first. Zero is left for the end of the name. -/
def Name.fields (name : Name) : List Nat :=
  (name.reverse.flatMap fun label => (label.length + 1) :: label) ++ [0]

/-- The fields of the data in the order in which `canonical_cmp` compares them. Numbers
compare like their octets; data given as octets comes last. -/
def ZoneRecordData.fields : ZoneRecordData → List Nat
  | .soa data =>
      0 :: (data.mname.fields ++ (data.rname.fields ++
        [data.serial, data.refresh, data.retry, data.expire, data.minimum]))
  | .dnskey data => 0 :: data.flags :: data.protocol :: data.algorithm :: data.publicKey
  | .rrsig data =>
      0 :: data.typeCovered :: data.algorithm :: data.labels :: data.originalTtl ::
        data.expiration :: data.inception :: data.keyTag ::
        (data.signerName.fields ++ data.signature)
  | .nsec3 data =>
      0 :: data.hashAlgorithm :: data.flags :: data.iterations :: data.salt.length ::
        (data.salt ++ data.nextOwner.length :: (data.nextOwner ++ data.types))
  | .zonemd data => 0 :: data.serial :: data.scheme :: data.algorithm :: data.digest
  | .unknown _ octets => 1 :: octets

theorem labels_append_inj {labels others : List Octets} {rest more : List Nat}
    (equal : (labels.flatMap fun label => (label.length + 1) :: label) ++ 0 :: rest =
      (others.flatMap fun label => (label.length + 1) :: label) ++ 0 :: more) :
    labels = others ∧ rest = more := by
  induction labels generalizing others with
  | nil =>
      cases others with
      | nil => exact ⟨rfl, by simpa using equal⟩
      | cons other others => simp at equal
  | cons label labels induction =>
      cases others with
      | nil => simp at equal
      | cons other others =>
          simp only [List.flatMap_cons, List.cons_append, List.append_assoc, List.cons.injEq,
            Nat.add_right_cancel_iff] at equal
          rcases List.append_inj equal.2 equal.1 with ⟨same, tails⟩
          rcases induction tails with ⟨sameLabels, sameRest⟩
          rw [same, sameLabels]
          exact ⟨rfl, sameRest⟩

/-- What follows a name can be told from the name. -/
theorem Name.fields_append_inj {name other : Name} {rest more : List Nat}
    (equal : name.fields ++ rest = other.fields ++ more) : name = other ∧ rest = more := by
  unfold Name.fields at equal
  rw [List.append_assoc, List.append_assoc] at equal
  rcases labels_append_inj equal with ⟨labels, same⟩
  exact ⟨List.reverse_injective labels, same⟩

/-- Data of one type with the same fields is the same. -/
theorem ZoneRecordData.eq_of_fields {data other : ZoneRecordData}
    (sameType : data.rtype = other.rtype) (sameFields : data.fields = other.fields) :
    data = other := by
  cases data with
  | soa data =>
      cases other with
      | soa other =>
          have equal := (List.cons.inj sameFields).2
          rcases Name.fields_append_inj equal with ⟨mname, equal⟩
          rcases Name.fields_append_inj equal with ⟨rname, equal⟩
          rcases data with ⟨_, _, _, _, _, _, _⟩
          rcases other with ⟨_, _, _, _, _, _, _⟩
          simp only [List.cons.injEq, and_true] at equal
          simp_all
      | unknown _ _ => cases (List.cons.inj sameFields).1
      | _ => cases sameType
  | dnskey data =>
      cases other with
      | dnskey other =>
          rcases data with ⟨_, _, _, _⟩
          rcases other with ⟨_, _, _, _⟩
          simpa [ZoneRecordData.fields] using sameFields
      | unknown _ _ => cases (List.cons.inj sameFields).1
      | _ => cases sameType
  | rrsig data =>
      cases other with
      | rrsig other =>
          rcases data with ⟨_, _, _, _, _, _, _, _, _⟩
          rcases other with ⟨_, _, _, _, _, _, _, _, _⟩
          simp only [ZoneRecordData.fields, List.cons.injEq, true_and] at sameFields
          rcases sameFields with ⟨rfl, rfl, rfl, rfl, rfl, rfl, rfl, equal⟩
          rcases Name.fields_append_inj equal with ⟨rfl, rfl⟩
          rfl
      | unknown _ _ => cases (List.cons.inj sameFields).1
      | _ => cases sameType
  | nsec3 data =>
      cases other with
      | nsec3 other =>
          rcases data with ⟨_, _, _, _, _, _⟩
          rcases other with ⟨_, _, _, _, _, _⟩
          simp only [ZoneRecordData.fields, List.cons.injEq, true_and] at sameFields
          rcases sameFields with ⟨rfl, rfl, rfl, length, equal⟩
          rcases List.append_inj equal length with ⟨rfl, afterSalt⟩
          rcases List.cons.inj afterSalt with ⟨nextLength, afterLength⟩
          rcases List.append_inj afterLength nextLength with ⟨rfl, rfl⟩
          rfl
      | unknown _ _ => cases (List.cons.inj sameFields).1
      | _ => cases sameType
  | zonemd data =>
      cases other with
      | zonemd other =>
          rcases data with ⟨_, _, _, _⟩
          rcases other with ⟨_, _, _, _⟩
          simpa [ZoneRecordData.fields] using sameFields
      | unknown _ _ => cases (List.cons.inj sameFields).1
      | _ => cases sameType
  | unknown rtype octets =>
      cases other with
      | unknown other more =>
          have equal := (List.cons.inj sameFields).2
          rw [equal]
          exact congrArg (fun one => ZoneRecordData.unknown one more) sameType
      | _ => cases (List.cons.inj sameFields).1

namespace Record

/-- `compose_canonical`. -/
def canonical (record : Record) : Octets :=
  record.owner.canonical ++ octets16 record.rtype ++ octets16 record.class' ++
    octets32 record.ttl ++ octets16 record.data.canonical.length ++ record.data.canonical

/-- What the records of an owner have in common. -/
def ownerKey (record : Record) : Nat ×ₗ Name := toLex (record.class', record.owner)

/-- What the records of an RRset have in common. -/
def rrsetKey (record : Record) : (Nat ×ₗ Name) ×ₗ Rtype := toLex (record.ownerKey, record.rtype)

/-- `canonical_cmp` compares these. -/
def key (record : Record) : ((Nat ×ₗ Name) ×ₗ Rtype) ×ₗ List Nat :=
  toLex (record.rrsetKey, record.data.fields)

theorem rrsetKey_le_of_key {record other : Record} (below : record.key ≤ other.key) :
    record.rrsetKey ≤ other.rrsetKey := by
  rcases (Prod.Lex.le_iff).mp below with less | ⟨same, _⟩
  · exact le_of_lt less
  · exact le_of_eq same

theorem ownerKey_le_of_rrsetKey {record other : Record}
    (below : record.rrsetKey ≤ other.rrsetKey) : record.ownerKey ≤ other.ownerKey := by
  rcases (Prod.Lex.le_iff).mp below with less | ⟨same, _⟩
  · exact le_of_lt less
  · exact le_of_eq same

theorem rtype_le_of_rrsetKey {record other : Record}
    (below : record.rrsetKey ≤ other.rrsetKey) (sameOwner : record.ownerKey = other.ownerKey) :
    record.rtype ≤ other.rtype := by
  rcases (Prod.Lex.le_iff).mp below with less | ⟨_, atMost⟩
  · exact absurd sameOwner (ne_of_lt less)
  · exact atMost

theorem rrsetKey_eq_iff {record other : Record} :
    record.rrsetKey = other.rrsetKey ↔
      record.ownerKey = other.ownerKey ∧ record.rtype = other.rtype := by
  constructor
  · intro equal
    exact ⟨congrArg (fun pair => (ofLex pair).1) equal, congrArg (fun pair => (ofLex pair).2) equal⟩
  · rintro ⟨owner, rtype⟩
    unfold rrsetKey
    rw [owner, rtype]

theorem ownerKey_eq_iff {record other : Record} :
    record.ownerKey = other.ownerKey ↔
      record.class' = other.class' ∧ record.owner = other.owner := by
  constructor
  · intro equal
    exact ⟨congrArg (fun pair => (ofLex pair).1) equal, congrArg (fun pair => (ofLex pair).2) equal⟩
  · rintro ⟨same, owner⟩
    unfold ownerKey
    rw [same, owner]

/-- Records that are in the same place of the order are equal up to the TTL. -/
theorem key_eq_iff {record other : Record} :
    record.key = other.key ↔ record.same other = true := by
  unfold same
  rw [decide_eq_true_eq]
  constructor
  · intro equal
    have rrset : record.rrsetKey = other.rrsetKey :=
      congrArg (fun pair => (ofLex pair).1) equal
    have fields : record.data.fields = other.data.fields :=
      congrArg (fun pair => (ofLex pair).2) equal
    rcases rrsetKey_eq_iff.mp rrset with ⟨ownerKeys, rtype⟩
    rcases ownerKey_eq_iff.mp ownerKeys with ⟨sameClass, owner⟩
    exact ⟨owner, sameClass, ZoneRecordData.eq_of_fields rtype fields⟩
  · rintro ⟨owner, sameClass, data⟩
    unfold key rrsetKey ownerKey rtype
    rw [owner, sameClass, data]

end Record

/-! ## RRsets -/

/-- The records of an RRset: there is at least one. -/
structure Rrset where
  first : Record
  others : List Record

namespace Rrset

def records (rrset : Rrset) : List Record := rrset.first :: rrset.others
def owner (rrset : Rrset) : Name := rrset.first.owner
def class' (rrset : Rrset) : Nat := rrset.first.class'
def ttl (rrset : Rrset) : Ttl := rrset.first.ttl
def rtype (rrset : Rrset) : Rtype := rrset.first.rtype

/-- `Rrset::new_from_owned` refuses an empty list. -/
def ofList : List Record → Option Rrset
  | [] => none
  | first :: others => some ⟨first, others⟩

end Rrset

/-! ## The collection -/

/-- The collection keeps the records of an RRset together. -/
structure SortedRecords where
  toList : List Record
  ordered : SortedList.Ordered Record.rrsetKey toList

namespace SortedRecords

theorem ordered_of_sorted {records : List Record} (sorted : SortedList.Sorted Record.key records) :
    SortedList.Ordered Record.rrsetKey records :=
  sorted.imp fun below => Record.rrsetKey_le_of_key (le_of_lt below)

/-- Sort and remove duplicates. -/
def ofList (records : List Record) : SortedRecords :=
  ⟨SortedList.ofList Record.key records, ordered_of_sorted SortedList.ofList_sorted⟩

/-- `extend` sorts the whole collection. -/
def extend (records : SortedRecords) (others : List Record) : SortedRecords :=
  ofList (records.toList ++ others)

theorem insert_ordered {record : Record} {records result : List Record}
    (ordered : SortedList.Ordered Record.rrsetKey records)
    (inserted : SortedList.insert? Record.key record records = some result) :
    SortedList.Ordered Record.rrsetKey result := by
  induction records generalizing result with
  | nil =>
      cases inserted
      exact List.pairwise_singleton _ _
  | cons head rest induction =>
      rcases List.pairwise_cons.mp ordered with ⟨least, later⟩
      unfold SortedList.insert? at inserted
      split at inserted
      · next below =>
          cases inserted
          have atMost := Record.rrsetKey_le_of_key (le_of_lt below)
          apply List.pairwise_cons.mpr
          refine ⟨?_, ordered⟩
          intro other member
          rcases List.mem_cons.mp member with rfl | inRest
          · exact atMost
          · exact le_trans atMost (least other inRest)
      · next notBelow =>
          split at inserted
          · cases inserted
          · rcases Option.map_eq_some_iff.mp inserted with ⟨tail, found, rfl⟩
            apply List.pairwise_cons.mpr
            refine ⟨?_, induction later found⟩
            intro other member
            rcases List.mem_cons.mp ((SortedList.insert?_perm found).mem_iff.mp member) with
              rfl | inRest
            · exact Record.rrsetKey_le_of_key (not_lt.mp notBelow)
            · exact least other inRest

def insert (records : SortedRecords) (record : Record) : Option SortedRecords :=
  match inserted : SortedList.insert? Record.key record records.toList with
  | none => none
  | some result => some ⟨result, insert_ordered records.ordered inserted⟩

/-- Does a record have this name and, where they are given, this class and this type? -/
def named (name : Name) (class' : Option Nat) (rtype : Option Rtype) (record : Record) : Bool :=
  record.owner = name ∧ class'.all (record.class' = ·) ∧ rtype.all (record.rtype = ·)

def removeFirstByNameClassRtype (records : SortedRecords) (name : Name) (class' : Option Nat)
    (rtype : Option Rtype) : SortedRecords :=
  ⟨records.toList.eraseP (named name class' rtype),
    records.ordered.sublist List.eraseP_sublist⟩

def removeAllByNameClassRtype (records : SortedRecords) (name : Name) (class' : Option Nat)
    (rtype : Option Rtype) : SortedRecords :=
  ⟨records.toList.filter fun record => !named name class' rtype record,
    List.Pairwise.filter _ records.ordered⟩

theorem update_ordered {matcher : Record → Bool} {data : ZoneRecordData} {records : List Record}
    (ordered : SortedList.Ordered Record.rrsetKey records)
    (sameType : ∀ record, matcher record = true → record.rtype = data.rtype) :
    SortedList.Ordered Record.rrsetKey
      (SortedList.updateFirst matcher (fun record => { record with data }) records) := by
  have keys : (SortedList.updateFirst matcher (fun record => { record with data }) records).map
      Record.rrsetKey = records.map Record.rrsetKey := by
    rcases SortedList.updateFirst_cases matcher (fun record => { record with data }) records with
      ⟨same, _⟩ | ⟨before, record, after, split, matched, _, changed⟩
    · rw [same]
    · rw [changed, split]
      have sameKey : Record.rrsetKey { record with data } = record.rrsetKey :=
        Record.rrsetKey_eq_iff.mpr ⟨rfl, (sameType record matched).symm⟩
      simp [sameKey]
  have pairs := List.pairwise_map.mpr ordered
  rw [← keys] at pairs
  exact List.pairwise_map.mp pairs

/-- Replace the data of the first record that matches by data of the same type. -/
def updateData (records : SortedRecords) (matcher : Record → Bool) (data : ZoneRecordData)
    (sameType : ∀ record, matcher record = true → record.rtype = data.rtype) : SortedRecords :=
  ⟨SortedList.updateFirst matcher (fun record => { record with data }) records.toList,
    update_ordered records.ordered sameType⟩

/-- The records of each owner. -/
def ownerRrs (records : SortedRecords) : List (List Record) :=
  SortedList.runs Record.ownerKey records.toList

def rrsets (records : SortedRecords) : List (List Record) :=
  SortedList.runs Record.rrsetKey records.toList

def findApexRtype (records : SortedRecords) (apex : Name) (rtype : Rtype) : Option Rrset :=
  (records.rrsets.filterMap Rrset.ofList).find? fun rrset =>
    rrset.rtype = rtype ∧ rrset.owner = apex

end SortedRecords

end Dnst.Signzone
