import Dnst.Foundation.SerialNumber
import Dnst.Keyset.Environment
import Dnst.Signzone.Records

/-! # Arguments and the zone to sign

The arguments of `signzone`, what it uses of the `domain` crate and of the file system,
and the steps up to the SOA record of the loaded zone.
-/

namespace Dnst.Signzone

open Keyset (Fault)

/-! ## Arguments -/

structure ZonemdTuple where
  scheme : Nat
  algorithm : Nat
  deriving DecidableEq

namespace ZonemdTuple

def simple : Nat := 1
def sha384 : Nat := 1
def sha512 : Nat := 2

end ZonemdTuple

structure SignZone where
  extraComments : Bool
  doNotAddKeysToZone : Bool
  expiration : Timestamp
  outFile : Option String
  inception : Timestamp
  origin : Option Name
  setSoaSerialToEpochTime : Bool
  useNsec3 : Bool
  signDnskeysWithAllKeys : Bool
  signWithEveryUniqueAlgorithm : Bool
  zonemd : List ZonemdTuple
  allowZonemdWithoutSigning : Bool
  algorithm : Nat
  iterations : Nat
  salt : Octets
  nsec3OptOutFlagsOnly : Bool
  nsec3OptOut : Bool
  hashOnly : Bool
  preceedZoneWithHashList : Bool
  orderNsec3RrsByUnhashedOwnerName : Bool
  orderRrsigsAfterTheRtypeTheyCover : Bool
  useYyyymmddhhmmssRrsigFormat : Bool
  zonefilePath : String
  keyPaths : List String
  invokedAsLdns : Bool

inductive SigningMode where
  | hashAndSign
  | hashOnly
  | none
  deriving DecidableEq

/-! ## Outside the program -/

structure SecretKeyBytes where
  algorithm : Nat
  bytes : Octets
  deriving DecidableEq

/-- A private key with its public key and what its DNSKEY record says of it. -/
structure SigningKey where
  owner : Name
  flags : Nat
  privateKey : SecretKeyBytes
  algorithm : Nat
  publicKey : Octets
  deriving DecidableEq

namespace SigningKey

def dnskey (key : SigningKey) : Dnskey := ⟨key.flags, 3, key.algorithm, key.publicKey⟩

def isSecureEntryPoint (key : SigningKey) : Bool := key.flags % 2 = 1

end SigningKey

structure GenerateNsec3Config where
  algorithm : Nat
  iterations : Nat
  salt : Octets
  optOut : Bool
  excludeUnsignedDelegations : Bool
  fixedParamTtl : Option Ttl
  deriving DecidableEq

inductive DenialConfig where
  | alreadyPresent
  | nsec
  | nsec3 (config : GenerateNsec3Config)
  deriving DecidableEq

structure SigningConfig where
  denial : DenialConfig
  inception : Timestamp
  expiration : Timestamp

/-- What `signzone` uses of the `domain` crate. -/
structure Domain where
  secretKeyFromBind : String → Except String SecretKeyBytes
  dnskeyFromBind : String → Except String (Name × Dnskey)
  /-- `KeyPair::from_bytes` checks that the two belong together. -/
  fromBytes : SecretKeyBytes → Dnskey → Except String Unit
  /-- The RRSIG data for an RRset. -/
  signRrset : SigningKey → Rrset → Timestamp → Timestamp → Except String Rrsig
  /-- The records that `sign_zone` adds. -/
  signZone : Name → SigningConfig → List SigningKey → List Record →
    Except String (List Record)
  /-- A ZONEMD digest by the number of the algorithm. -/
  digest : Nat → Octets → Octets
  nsec3Hash : Name → Nat → Nat → Octets → Name → Except String Name
  /-- The hash of the next owner as a label. -/
  nextOwnerLabel : Octets → Octets
  keyTag : Dnskey → Nat
  keySize : Dnskey → Option Nat

/-- An entry of a zone file. -/
inductive Entry where
  | record (record : Record)
  | include

/-- Files and the clock. -/
structure Env where
  readFile : String → Except String String
  /-- The entries that the zone file reader returns one after the other. -/
  readZonefile : Option Name → String → Except String (List (Except String Entry))
  createFile : String → Except String Unit
  secondsSinceEpoch : Nat

def Name.display (name : Name) : String :=
  String.ofList (name.reverse.flatMap fun label => label.map Char.ofNat ++ ['.'])

/-! ## Loading -/

/-- Is a record of the zone file loaded? -/
def loads (origin : Option Name) (record : Record) : Bool :=
  if record.rtype = Rtype.zonemd ∧ origin.all (record.owner = ·) then false
  else record.rtype ∉ [Rtype.rrsig, Rtype.nsec, Rtype.nsec3, Rtype.nsec3param]

def loadEntries (origin : Option Name) :
    List (Except String Entry) → Except Fault (List Record)
  | [] => return []
  | .error reason :: _ => throw (.error s!"Invalid zone file: {reason}")
  | .ok .include :: _ =>
      throw (.error "Invalid zone file: $INCLUDE directive is not supported")
  | .ok (.record record) :: entries => do
      let records ← loadEntries origin entries
      return if loads origin record then record :: records else records

def loadZone (env : Env) (options : SignZone) : Except Fault SortedRecords := do
  let entries ← (env.readZonefile options.origin options.zonefilePath).mapError fun reason =>
    .error s!"error opening file: {reason}"
  let records ← loadEntries options.origin entries
  return .ofList records

/-! ## The SOA record -/

def findApex (records : SortedRecords) (origin : Option Name) : Except Fault Record :=
  match origin with
  | some expectedOrigin =>
      match records.toList.find? fun record =>
          record.rtype = Rtype.soa ∧ record.owner = expectedOrigin with
      | some record => return record
      | none =>
          throw (.error s!"SOA record not found for origin '{Name.display expectedOrigin}'.")
  | none =>
      match records.toList.find? fun record => record.rtype = Rtype.soa with
      | some record => return record
      | none => throw (.error "Invalid zone file: Cannot find SOA record")

/-- The clock when it is newer than the old serial, else the next serial. -/
def bumpedSerial (env : Env) (old : Serial) : Serial :=
  if SerialNumber.lt old env.secondsSinceEpoch then env.secondsSinceEpoch
  else (old + 1) % 2 ^ 32

def mkBumpedSoaRdata (env : Env) (soa : Soa) : Soa :=
  { soa with serial := bumpedSerial env soa.serial }

/-- The loaded zone. `soaRr` is the SOA record as it was loaded. -/
structure Zone where
  records : SortedRecords
  soaRr : Record
  soaSerial : Serial

namespace Zone

def apex (zone : Zone) : Name := zone.soaRr.owner

def class' (zone : Zone) : Nat := zone.soaRr.class'

/-- The TTL of new records that have no rule for theirs. -/
def newRrDefaultTtl (zone : Zone) : Ttl := zone.soaRr.ttl

end Zone

theorem rtype_of_same {record other : Record} (same : record.same other = true) :
    record.rtype = other.rtype := by
  unfold Record.same at same
  unfold Record.rtype
  rw [(of_decide_eq_true same).2.2]

theorem rtype_of_soa {record other : Record} {soa : Soa} (isSoa : other.data = .soa soa)
    (same : record.same other = true) : record.rtype = Rtype.soa := by
  rw [rtype_of_same same, Record.rtype, isSoa]
  rfl

/-- Load the zone, find its apex and process its SOA record. -/
def readZone (env : Env) (options : SignZone) : Except Fault Zone := do
  let records ← loadZone env options
  let soaRr ← findApex records options.origin
  match isSoa : soaRr.data with
  | .soa soa =>
      if options.setSoaSerialToEpochTime then
        let newSoa := mkBumpedSoaRdata env soa
        return {
          records := records.updateData (Record.same · soaRr) (.soa newSoa)
            fun _ same => rtype_of_soa isSoa same
          soaRr
          soaSerial := newSoa.serial }
      else
        return { records, soaRr, soaSerial := soa.serial }
  | _ => throw (.panic "internal error: entered unreachable code")

def signingMode (options : SignZone) : Except Fault SigningMode :=
  if options.hashOnly then
    if options.keyPaths.isEmpty then return .hashOnly
    else throw (.error "Key paths are not expected when using '-H'")
  else if options.allowZonemdWithoutSigning then return .none
  else return .hashAndSign

end Dnst.Signzone
