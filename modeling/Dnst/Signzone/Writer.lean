import Dnst.Signzone.Nsec3Hashes
import Mathlib.Data.List.Sort

/-! # The zone file writer

The lines of the signed zone, in the order in which they are written. A record line keeps
its record, how it is presented and the comment behind it.
-/

namespace Dnst.Signzone

open Keyset (Fault)

/-! ## Lines -/

/-- `write_rr` chooses one of these formats. -/
inductive Presentation where
  | standard
  | yyyymmddhhmmssRrsig
  | ldnsNsec3
  deriving DecidableEq

/-- Comments behind records. The size is unknown for a key of an unknown algorithm. -/
inductive Comment where
  | dnskey (keyTag : Nat) (role : Option String) (keySize : Option Nat)
  | nsec3 (optOut : Bool) (fromTo : Option (Option Name × Option Name))
  deriving DecidableEq

inductive Line where
  | zone (apex : Name)
  | hash (name hashedName : Name)
  | emptyNonTerminal (name : Name)
  | blank
  | record (presentation : Presentation) (rr : Record) (comment : Option Comment)
  deriving DecidableEq

/-- Formatting the comment of a key fails when its size is unknown. -/
def Line.formats : Line → Bool
  | .record _ _ (some (.dnskey _ _ keySize)) => keySize.isSome
  | _ => true

/-- The record on a line. -/
def Line.record? : Line → Option Record
  | .record _ rr _ => some rr
  | _ => none

def recordsOf (lines : List Line) : List Record := lines.filterMap Line.record?

/-! ## Records -/

/-- What the output depends on besides the records. -/
structure Output where
  options : SignZone
  apex : Name
  hashes : Option Nsec3HashMap

def presentation (options : SignZone) (record : Record) : Presentation :=
  match record.data with
  | .rrsig _ => if options.useYyyymmddhhmmssRrsigFormat then .yyyymmddhhmmssRrsig else .standard
  | .nsec3 _ => if options.invokedAsLdns then .ldnsNsec3 else .standard
  | _ => .standard

/-- `writeln_rr`. -/
def writelnRr (output : Output) (record : Record) : Line :=
  .record (presentation output.options record) record none

def dnskeyComment (domain : Domain) (dnskey : Dnskey) : Comment :=
  .dnskey (domain.keyTag dnskey)
    (if dnskey.isSecureEntryPoint then some "ksk"
     else if dnskey.isZoneKey then some "zsk" else none)
    (domain.keySize dnskey)

/-- Which names an NSEC3 record leads from and to. -/
def nsec3Comment (domain : Domain) (output : Output) (record : Record) (nsec3 : Nsec3) : Comment :=
  .nsec3 nsec3.optOut (output.hashes.map fun hashes =>
    let unhashed (name : Name) : Option Name := (hashes.get name).map (·.unhashedOwnerName)
    (unhashed record.owner, unhashed (output.apex ++ [domain.nextOwnerLabel nsec3.nextOwner])))

/-- A record with the comments of the layout with RRSIGs after the records they cover. -/
def writeCommented (domain : Domain) (output : Output) (record : Record) : Line :=
  .record (presentation output.options record) record
    (match record.data with
    | .nsec3 nsec3 =>
        if output.options.extraComments then some (nsec3Comment domain output record nsec3)
        else none
    | .dnskey dnskey => some (dnskeyComment domain dnskey)
    | _ => none)

/-- A record of the plain layout. -/
def writePlain (domain : Domain) (output : Output) (record : Record) : Line :=
  .record (presentation output.options record) record
    (match record.data with
    | .dnskey dnskey =>
        if output.options.invokedAsLdns then some (dnskeyComment domain dnskey) else none
    | _ => none)

def blankIf (condition : Bool) : List Line := if condition then [.blank] else []

/-! ## The records of one owner -/

def rrsetsOf (ownerRrs : List Record) : List Rrset :=
  (SortedList.runs Record.rtype ownerRrs).filterMap Rrset.ofList

/-- Run as `ldns-signzone`, the NSEC record of the apex is withheld. -/
def withholdsNsec (output : Output) (owner : Name) : Bool :=
  output.options.invokedAsLdns ∧ owner = output.apex

/-- RRsets that are listed in their place. -/
def isListed (output : Output) (rrset : Rrset) : Bool :=
  rrset.rtype ≠ Rtype.soa ∧ rrset.rtype ≠ Rtype.rrsig ∧
    !(withholdsNsec output rrset.owner ∧ rrset.rtype = Rtype.nsec)

/-- RRSIG records that are written behind the RRset that they cover. -/
def coversRrset (output : Output) (rrset : Rrset) (record : Record) : Bool :=
  record.typeCovered = some rrset.rtype ∧
    !(withholdsNsec output record.owner ∧ rrset.rtype = Rtype.nsec)

def writeRrset (domain : Domain) (output : Output) (rrsets : List Rrset) (rrset : Rrset) :
    List Line :=
  let rrsigRrsets := rrsets.filter (·.rtype = Rtype.rrsig)
  rrset.records.map (writeCommented domain output) ++
    rrsigRrsets.flatMap fun rrsigs =>
      (rrsigs.records.filter (coversRrset output rrset)).map (writelnRr output)

/-- The NSEC record of the apex that has been withheld, and its signature. -/
def writeApexNsec (output : Output) (rrsets : List Rrset) : List Line :=
  let nsec := (rrsets.find? (·.rtype = Rtype.nsec)).map (·.first)
  let rrsig := (rrsets.find? (·.rtype = Rtype.rrsig)).bind fun rrsigs =>
    rrsigs.records.find? (·.typeCovered = some Rtype.nsec)
  (nsec.toList ++ rrsig.toList).map (writelnRr output)

/-- RRSIGs come after the records they cover. -/
def writeOwnerLayout (domain : Domain) (output : Output) (owner : Name) (rrsets : List Rrset) :
    List Line :=
  let options := output.options
  (rrsets.filter (isListed output)).flatMap (writeRrset domain output rrsets) ++
    (if withholdsNsec output owner ∧ !options.useNsec3 then writeApexNsec output rrsets else []) ++
    blankIf options.extraComments

def writeOwnerPlain (domain : Domain) (output : Output) (rrsets : List Rrset) : List Line :=
  (rrsets.filter (·.rtype ≠ Rtype.soa)).flatMap fun rrset =>
    rrset.records.map (writePlain domain output)

def writeOwnerRrs (domain : Domain) (output : Output) (ownerRrs : Rrset) : List Line :=
  let options := output.options
  let rrsets := rrsetsOf ownerRrs.records
  let ent := output.hashes.bind (·.getIfEnt ownerRrs.owner)
  (if options.extraComments then (ent.map Line.emptyNonTerminal).toList else []) ++
    if options.orderRrsigsAfterTheRtypeTheyCover then
      writeOwnerLayout domain output ownerRrs.owner rrsets
    else writeOwnerPlain domain output rrsets

/-! ## The zone -/

/-- The order in which owners are written. -/
def orderOwners (output : Output) (ownerRrs : List Rrset) : List Rrset :=
  match output.hashes with
  | some hashes =>
      if output.options.orderNsec3RrsByUnhashedOwnerName then
        ownerRrs.insertionSort fun one other =>
          compareOwners hashes one.owner other.owner ≠ .gt
      else ownerRrs
  | none => ownerRrs

def writeHashList (output : Output) : List Line :=
  if output.options.preceedZoneWithHashList then
    let hashes := output.hashes.getD []
    let sorted := hashes.insertionSort fun one other =>
      one.2.unhashedOwnerName ≤ other.2.unhashedOwnerName
    sorted.map fun entry => .hash entry.2.unhashedOwnerName entry.1
  else []

/-- The first SOA record and, with the layout, all signatures over SOA records. -/
def writeSoa (output : Output) (records : List Record) : List Line :=
  match records.find? (·.rtype = Rtype.soa) with
  | none => []
  | some soa =>
      writelnRr output soa ::
        if output.options.orderRrsigsAfterTheRtypeTheyCover then
          (records.filter (·.typeCovered = some Rtype.soa)).map (writelnRr output) ++
            blankIf output.options.extraComments
        else []

def zoneLines (domain : Domain) (output : Output) (records : SortedRecords) : List Line :=
  let ownerRrs := records.ownerRrs.filterMap Rrset.ofList
  (if output.options.extraComments then [.zone output.apex, .blank] else []) ++
    writeHashList output ++
    writeSoa output records.toList ++
    (orderOwners output ownerRrs).flatMap (writeOwnerRrs domain output)

/-- Write the lines. A comment that cannot be formatted ends the output. -/
def writeZone (domain : Domain) (output : Output) (records : SortedRecords) :
    Except Fault (List Line) :=
  let lines := zoneLines domain output records
  if lines.all Line.formats then return lines
  else throw (.error "an error occurred when formatting an argument")

end Dnst.Signzone
