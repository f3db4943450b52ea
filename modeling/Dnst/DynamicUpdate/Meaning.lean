import Mathlib.Data.List.Forall2
import Dnst.DynamicUpdate.Message

/-! # The meaning of an UPDATE message

A server reads the prerequisite and the update section by the rules of RFC 2136,
sections 2.4 and 2.5. What it reads is compared with what was asked for.
-/

namespace Dnst.DynamicUpdate

open Effect
open Keyset (Fault bail mapErr panic)

/-! ## Reading a message -/

inductive Prerequisite where
  | rrsetExists (owner : Name) (rtype : Rtype)
  | rrsetExistsExact (owner : Name) (data : ZoneRecordData)
  | rrsetNonExistent (owner : Name) (rtype : Rtype)
  | nameInUse (owner : Name)
  | nameNotInUse (owner : Name)
  deriving DecidableEq, Repr

inductive Change where
  | addRr (owner : Name) (ttl : Ttl) (data : ZoneRecordData)
  | deleteRr (owner : Name) (data : ZoneRecordData)
  | deleteRrset (owner : Name) (rtype : Rtype)
  | deleteAllRrsets (owner : Name)
  deriving DecidableEq, Repr

/-- RFC 2136, section 2.4, for a zone of the given class. -/
def decodePrerequisite (zoneClass : Class) (record : Record) : Option Prerequisite :=
  if record.ttl ≠ 0 then none
  else if record.class' = .any then
    if record.data.rdlen ≠ 0 then none
    else if record.rtype = .any then some (.nameInUse record.owner)
    else some (.rrsetExists record.owner record.rtype)
  else if record.class' = .none then
    if record.data.rdlen ≠ 0 then none
    else if record.rtype = .any then some (.nameNotInUse record.owner)
    else some (.rrsetNonExistent record.owner record.rtype)
  else if record.class' = zoneClass then some (.rrsetExistsExact record.owner record.data)
  else none

/-- RFC 2136, section 2.5. -/
def decodeChange (zoneClass : Class) (record : Record) : Option Change :=
  if record.class' = zoneClass then some (.addRr record.owner record.ttl record.data)
  else if record.ttl ≠ 0 then none
  else if record.class' = .any then
    if record.data.rdlen ≠ 0 then none
    else if record.rtype = .any then some (.deleteAllRrsets record.owner)
    else some (.deleteRrset record.owner record.rtype)
  else if record.class' = .none then some (.deleteRr record.owner record.data)
  else none

/-- What `update_to_dig_fmt` prints for a record of the prerequisite section; it
takes all other records to have a TTL of 0. -/
def writeRecordItemPrerequisite (record : Record) : Option Prerequisite :=
  match record.class', record.ttl, record.rtype, record.data.rdlen with
  | .any, 0, .any, 0 => some (.nameInUse record.owner)
  | .none, 0, .any, 0 => some (.nameNotInUse record.owner)
  | .any, 0, _, 0 => some (.rrsetExists record.owner record.rtype)
  | .none, 0, _, 0 => some (.rrsetNonExistent record.owner record.rtype)
  | _, 0, _, _ => some (.rrsetExistsExact record.owner record.data)
  | _, _, _, _ => none

/-- What `update_to_dig_fmt` prints for a record of the update section. -/
def writeRecordItemUpdate (record : Record) : Change :=
  match record.class', record.ttl, record.rtype, record.data.rdlen with
  | .any, 0, .any, 0 => .deleteAllRrsets record.owner
  | .any, 0, _, 0 => .deleteRrset record.owner record.rtype
  | .none, 0, _, _ => .deleteRr record.owner record.data
  | _, _, _, _ => .addRr record.owner record.ttl record.data

/-! ## What was asked for -/

/-- Relative names are relative to the apex. -/
def UncertainName.resolve (apex : Name) : UncertainName → Name
  | .absolute name => name
  | .relative labels => labels ++ apex

def NameDenotes (domain : Domain) (apex : Name) (text : String) (name : Name) : Prop :=
  ∃ uncertain, domain.uncertainName text = .ok uncertain ∧ name = uncertain.resolve apex

/-- A name and a type with the first blank between them. -/
def NameTypeDenotes (domain : Domain) (apex : Name) (arg : String) (asked : Name × Rtype) :
    Prop :=
  ∃ name typ, arg.toList = name.toList ++ ' ' :: typ.toList ∧ ' ' ∉ name.toList ∧
    NameDenotes domain apex name asked.1 ∧ domain.rtypeFromStr typ = .ok asked.2

def Entry.record? : Except String Entry → Option Record
  | .ok (.record found) => some found
  | _ => none

/-- The records of a text in zone file format. -/
def recordsIn (entries : List (Except String Entry)) : List Record :=
  entries.filterMap Entry.record?

def exactRecords (domain : Domain) (update : Update) (apex : Name) (arg : String) :
    List Record :=
  recordsIn (domain.zonefile (some update.class') (some apex) (arg ++ "\n"))

def rdataRecords (domain : Domain) (rtype : Rtype) (text : String) : List Record :=
  recordsIn (domain.zonefile none none (rdataText domain rtype text))

def Record.exact (record : Record) : Name × ZoneRecordData := (record.owner, record.data)

/-- The prerequisites of each kind in their order. -/
structure Kinds where
  rrsetExists : List (Name × Rtype)
  rrsetExistsExact : List (Name × ZoneRecordData)
  rrsetNonExistent : List (Name × Rtype)
  nameInUse : List Name
  nameNotInUse : List Name
  deriving DecidableEq, Repr

def Prerequisite.exists? : Prerequisite → Option (Name × Rtype)
  | .rrsetExists owner rtype => some (owner, rtype)
  | _ => none

def Prerequisite.exact? : Prerequisite → Option (Name × ZoneRecordData)
  | .rrsetExistsExact owner data => some (owner, data)
  | _ => none

def Prerequisite.nonExistent? : Prerequisite → Option (Name × Rtype)
  | .rrsetNonExistent owner rtype => some (owner, rtype)
  | _ => none

def Prerequisite.inUse? : Prerequisite → Option Name
  | .nameInUse owner => some owner
  | _ => none

def Prerequisite.notInUse? : Prerequisite → Option Name
  | .nameNotInUse owner => some owner
  | _ => none

def kindsOf (prerequisites : List Prerequisite) : Kinds where
  rrsetExists := prerequisites.filterMap Prerequisite.exists?
  rrsetExistsExact := prerequisites.filterMap Prerequisite.exact?
  rrsetNonExistent := prerequisites.filterMap Prerequisite.nonExistent?
  nameInUse := prerequisites.filterMap Prerequisite.inUse?
  nameNotInUse := prerequisites.filterMap Prerequisite.notInUse?

/-- The arguments denote these prerequisites, one for each record or name. -/
structure Asked (domain : Domain) (update : Update) (apex : Name) (kinds : Kinds) : Prop where
  rrsetExists :
    List.Forall₂ (NameTypeDenotes domain apex) (update.rrsetExists.getD []) kinds.rrsetExists
  rrsetExistsExact : kinds.rrsetExistsExact =
    ((update.rrsetExistsExact.getD []).flatMap (exactRecords domain update apex)).map Record.exact
  rrsetNonExistent :
    List.Forall₂ (NameTypeDenotes domain apex) (update.rrsetNonExistent.getD [])
      kinds.rrsetNonExistent
  nameInUse :
    List.Forall₂ (NameDenotes domain apex) (update.nameInUse.getD []) kinds.nameInUse
  nameNotInUse :
    List.Forall₂ (NameDenotes domain apex) (update.nameNotInUse.getD []) kinds.nameNotInUse

def askedChanges (domain : Domain) (update : Update) : List Change :=
  match update.action with
  | .add rtype rdata =>
      (rdata.flatMap (rdataRecords domain rtype)).map fun record =>
        .addRr update.domain update.ttl record.data
  | .delete rtype [] => [.deleteRrset update.domain rtype]
  | .delete rtype rdata =>
      (rdata.flatMap (rdataRecords domain rtype)).map fun record =>
        .deleteRr update.domain record.data
  | .clear => [.deleteAllRrsets update.domain]

/-! ## Form of the records -/

def ExistenceForm (record : Record) : Prop :=
  record.class' = .any ∧ record.ttl = 0 ∧ record.data.rdlen = 0

def AbsenceForm (record : Record) : Prop := record.class' = .none ∧ record.ttl = 0

/-- The prerequisite section lists one kind after the other. -/
structure PrerequisiteForms (update : Update) (zoneClass : Class) (listed : List Record) :
    Prop where
  parts : ∃ rrsetExists exact nonExistent inUse notInUse,
    listed = rrsetExists ++ exact ++ nonExistent ++ inUse ++ notInUse ∧
    rrsetExists.length = (update.rrsetExists.getD []).length ∧
    exact.length = (update.rrsetExistsExact.getD []).length ∧
    nonExistent.length = (update.rrsetNonExistent.getD []).length ∧
    inUse.length = (update.nameInUse.getD []).length ∧
    notInUse.length = (update.nameNotInUse.getD []).length ∧
    (∀ record, record ∈ rrsetExists ++ inUse → ExistenceForm record) ∧
    (∀ record, record ∈ nonExistent ++ notInUse → AbsenceForm record) ∧
    (∀ record, record ∈ exact → record.class' = zoneClass)

def ChangeForms (update : Update) (zoneClass : Class) (listed : List Record) : Prop :=
  match update.action with
  | .add _ _ => ∀ record, record ∈ listed → record.class' = zoneClass
  | .delete _ [] => ∀ record, record ∈ listed → ExistenceForm record
  | .delete _ _ => ∀ record, record ∈ listed → AbsenceForm record
  | .clear => ∀ record, record ∈ listed → ExistenceForm record

/-- The message asks a server for exactly what the arguments ask for. -/
structure MeansWhatWasAsked (domain : Domain) (update : Update) (apex : Name)
    (message : Message) : Prop where
  reading : ∃ zoneClass prerequisites,
    message.zone = [⟨apex, .soa, zoneClass⟩] ∧
    PrerequisiteForms update zoneClass message.prerequisite ∧
    ChangeForms update zoneClass message.update ∧
    message.prerequisite.map (decodePrerequisite zoneClass) = prerequisites.map some ∧
    message.prerequisite.map writeRecordItemPrerequisite = prerequisites.map some ∧
    Asked domain update apex (kindsOf prerequisites) ∧
    message.update.map (decodeChange zoneClass) = (askedChanges domain update).map some ∧
    message.update.map writeRecordItemUpdate = askedChanges domain update

/-- Arguments that have only one reading: class IN, no RRset of type ANY, and one
record in each text. -/
structure Unambiguous (domain : Domain) (update : Update) (apex : Name) : Prop where
  additionClass : ∀ rtype rdata, update.action = .add rtype rdata → update.class' = .inClass
  deletedRrset : ∀ rtype, update.action = .delete rtype [] → rtype ≠ .any
  rdata : ∀ rtype rdata, update.action = .add rtype rdata ∨ update.action = .delete rtype rdata →
    ∀ text, text ∈ rdata → (rdataRecords domain rtype text).length = 1
  existing : ∀ arg asked, arg ∈ update.rrsetExists.getD [] →
    NameTypeDenotes domain apex arg asked → asked.2 ≠ .any
  nonExistent : ∀ arg asked, arg ∈ update.rrsetNonExistent.getD [] →
    NameTypeDenotes domain apex arg asked → asked.2 ≠ .any
  exact : ∀ arg, arg ∈ update.rrsetExistsExact.getD [] →
    ∃ record, exactRecords domain update apex arg = [record] ∧ record.class' = .inClass

end Dnst.DynamicUpdate
