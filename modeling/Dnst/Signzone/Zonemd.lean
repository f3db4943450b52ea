import Dnst.Signzone.SigningKeys
import Mathlib.Data.List.Dedup

/-! # ZONEMD records

A placeholder stands at the apex while the zone is signed. It is then replaced by the
records with the digests of the signed zone.
-/

namespace Dnst.Signzone

open Keyset (Fault)

/-! ## The placeholder -/

def placeholderZonemd (zone : Zone) : Record := {
  owner := zone.apex
  class' := zone.class'
  ttl := zone.newRrDefaultTtl
  data := .zonemd ⟨zone.soaSerial, 0, 0, []⟩ }

/-- Insert a record unless there is one with its key. -/
def insertIfNew (records : SortedRecords) (record : Record) : SortedRecords :=
  (records.insert record).getD records

def replaceApexZonemdWithPlaceholder (zone : Zone) (records : SortedRecords) :
    SortedRecords :=
  let others := records.removeAllByNameClassRtype zone.apex none (some Rtype.zonemd)
  insertIfNew others (placeholderZonemd zone)

/-! ## Digests -/

/-- `is_in_zone`. -/
def Record.isInZone (apex : Name) (record : Record) : Bool := record.owner.endsWith apex

/-- Is the record an apex ZONEMD record or a signature over one? -/
def isApexZonemd (apex : Name) (record : Record) : Bool :=
  record.owner = apex ∧ (record.rtype = Rtype.zonemd ∨ record.typeCovered = some Rtype.zonemd)

/-- The records that a digest covers. -/
def isDigested (apex : Name) (record : Record) : Bool :=
  record.isInZone apex ∧ !isApexZonemd apex record

/-- The octets that are hashed. -/
def digestInput (apex : Name) (records : List Record) : Octets :=
  (records.filter (isDigested apex)).flatMap Record.canonical

def createZonemdDigestSimple (domain : Domain) (apex : Name) (records : SortedRecords)
    (algorithm : Nat) : Except Fault Octets :=
  if algorithm = ZonemdTuple.sha384 ∨ algorithm = ZonemdTuple.sha512 then
    return domain.digest algorithm (digestInput apex records.toList)
  else throw (.error "unsupported zonemd hash algorithm")

def createZonemdDigestAndRecords (domain : Domain) (zone : Zone) (records : SortedRecords)
    (zonemd : List ZonemdTuple) : Except Fault (List Record) :=
  zonemd.mapM fun tuple =>
    if tuple.scheme ≠ ZonemdTuple.simple then
      throw (.error "unsupported zonemd scheme (only SIMPLE is supported)")
    else do
      let digest ← createZonemdDigestSimple domain zone.apex records tuple.algorithm
      return {
        owner := zone.apex
        class' := zone.class'
        ttl := zone.newRrDefaultTtl
        data := .zonemd ⟨zone.soaSerial, tuple.scheme, tuple.algorithm, digest⟩ }

/-! ## The signatures over them -/

/-- Is the record a signature over the ZONEMD RRset of the apex? -/
def signsZonemd (apex : Name) (record : Record) : Bool :=
  record.owner = apex ∧ record.typeCovered = some Rtype.zonemd

theorem rtype_of_typeCovered {record : Record} {covered : Rtype}
    (covers : record.typeCovered = some covered) : record.rtype = Rtype.rrsig := by
  unfold Record.typeCovered at covers
  unfold Record.rtype
  cases isData : record.data <;> rw [isData] at covers <;> first | rfl | cases covers

theorem rtype_of_signsZonemd {apex : Name} {record : Record}
    (signs : signsZonemd apex record = true) : record.rtype = Rtype.rrsig :=
  rtype_of_typeCovered (of_decide_eq_true signs).2

/-- The last of the new signatures replaces the first of the old ones. -/
def updateZonemdRrsig (domain : Domain) (options : SignZone) (zone : Zone)
    (records : SortedRecords) (keys : List SigningKey) (zonemdRrs : List Record) :
    Except Fault SortedRecords :=
  match Rrset.ofList zonemdRrs with
  | none => return records
  | some zonemdRrset => do
      let newRrsigRecs ← (keys.mapM fun key =>
        domain.signRrset key zonemdRrset options.inception options.expiration).mapError fun reason =>
          .error s!"ZONEMD re-signing error: {reason}"
      match newRrsigRecs.getLast? with
      | some rrsig =>
          return records.updateData (signsZonemd zone.apex) (.rrsig rrsig)
            fun _ signs => rtype_of_signsZonemd signs
      | none => throw (.panic "called `Option::unwrap()` on a `None` value")

/-- Replace the placeholder in the signed zone. -/
def finishZonemd (domain : Domain) (options : SignZone) (mode : SigningMode) (zone : Zone)
    (keys : List SigningKey) (zonemd : List ZonemdTuple) (records : SortedRecords) :
    Except Fault SortedRecords := do
  let records := records.removeFirstByNameClassRtype zone.apex none (some Rtype.zonemd)
  let zonemdRrs ← createZonemdDigestAndRecords domain zone records zonemd
  let records := zonemdRrs.foldl insertIfNew records
  if mode = .hashAndSign then
    updateZonemdRrsig domain options zone records keys zonemdRrs
  else return records

end Dnst.Signzone
