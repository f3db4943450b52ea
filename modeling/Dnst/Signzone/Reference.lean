import Dnst.Signzone.Execute

/-! # A small zone

A signer of zones without delegations, with signatures that spell out what they sign, and
a zone with two keys.
-/

namespace Dnst.Signzone.Reference

def apex : Name := [[101]]

/-- A name below the apex. -/
def child : Name := [[101], [119]]

def soaRecord (owner : Name) (serial : Serial) : Record := {
  owner
  class' := 1
  ttl := 3600
  data := .soa {
    mname := owner
    rname := owner
    serial
    refresh := 7200
    retry := 3600
    expire := 604800
    minimum := 300 } }

/-! ## Keys -/

def secretKeyFromBind (text : String) : Except String SecretKeyBytes :=
  if text = "one.private" then .ok ⟨13, [1]⟩
  else if text = "two.private" then .ok ⟨13, [2]⟩
  else .error "invalid"

def dnskeyFromBind (text : String) : Except String (Name × Dnskey) :=
  if text = "one.key" then .ok (apex, ⟨256, 3, 13, [1]⟩)
  else if text = "two.key" then .ok (apex, ⟨256, 3, 13, [2]⟩)
  else .error "invalid"

def fromBytes (privateKey : SecretKeyBytes) (dnskey : Dnskey) : Except String Unit :=
  if privateKey.bytes = dnskey.publicKey then .ok () else .error "the key pair does not match"

/-! ## Signing -/

def signRrset (key : SigningKey) (rrset : Rrset) (inception expiration : Timestamp) :
    Except String Rrsig :=
  .ok {
    typeCovered := rrset.rtype
    algorithm := key.algorithm
    labels := rrset.owner.length
    originalTtl := rrset.ttl
    expiration
    inception
    keyTag := key.publicKey.sum
    signerName := key.owner
    signature := key.publicKey ++
      (SortedList.ofList Record.key rrset.records).flatMap Record.canonical }

/-- A chain of NSEC records over the names of the zone. -/
def nsecRecords (zone : List Record) : List Record :=
  let names := (zone.map Record.owner).dedup
  (names.zip (names.tail ++ names.take 1)).map fun pair => {
    owner := pair.1
    class' := 1
    ttl := 300
    data := .unknown Rtype.nsec (pair.2.canonical ++
      ((zone.filter (·.owner = pair.1)).map Record.rtype).dedup) }

def isSigned (apex : Name) (rrset : Rrset) : Bool :=
  rrset.rtype ≠ Rtype.rrsig ∧
    !(rrset.owner = apex ∧ rrset.rtype ∈ [Rtype.dnskey, Rtype.cds, Rtype.cdnskey])

/-- Is there an SOA RRset with more than one record? -/
def hasAmbiguousSoa (zone : List Record) : Bool :=
  ((SortedRecords.ofList zone).rrsets.filterMap Rrset.ofList).any fun rrset =>
    rrset.rtype = Rtype.soa ∧ !rrset.others.isEmpty

def signZone (apex : Name) (config : SigningConfig) (keys : List SigningKey)
    (records : List Record) : Except String (List Record) := do
  let zone := records.filter (Record.isInZone apex)
  if config.denial ≠ .alreadyPresent ∧ hasAmbiguousSoa zone then
    throw "SOA record could not be determined"
  let nsecs := if config.denial = .nsec then nsecRecords zone else []
  let rrsets := (SortedRecords.ofList (zone ++ nsecs)).rrsets.filterMap Rrset.ofList
  let rrsigs ← (rrsets.filter (isSigned apex)).mapM fun rrset =>
    keys.mapM fun key => do
      let rrsig ← signRrset key rrset config.inception config.expiration
      return rrsigRecord rrset rrsig
  return nsecs ++ rrsigs.flatten

def domain : Domain where
  secretKeyFromBind
  dnskeyFromBind
  fromBytes
  signRrset
  signZone
  digest := fun algorithm octets => algorithm :: octets
  nsec3Hash := fun _ _ _ _ _ => .error "not in this zone"
  nextOwnerLabel := id
  keyTag := fun dnskey => dnskey.publicKey.sum
  keySize := fun _ => some 256

/-- Like the signer of the reference zone, but no signature expires before its inception. -/
def timedDomain : Domain :=
  { domain with
    signRrset := fun key rrset inception expiration =>
      if expiration < inception then .error "invalid validity period"
      else signRrset key rrset inception expiration
    signZone := fun apex config keys records =>
      if config.expiration < config.inception then .error "invalid validity period"
      else signZone apex config keys records }

def env (records : List Record) : Env where
  readFile := .ok
  readZonefile := fun _ _ => .ok (records.map fun record => .ok (.record record))
  createFile := fun _ => .ok ()
  secondsSinceEpoch := 1700000000

/-- Sign with two zone-signing keys. -/
def options : SignZone where
  extraComments := false
  doNotAddKeysToZone := false
  expiration := 1702000000
  outFile := none
  inception := 1700000000
  origin := some apex
  setSoaSerialToEpochTime := false
  useNsec3 := false
  signDnskeysWithAllKeys := false
  signWithEveryUniqueAlgorithm := false
  zonemd := []
  allowZonemdWithoutSigning := false
  algorithm := 1
  iterations := 0
  salt := []
  nsec3OptOutFlagsOnly := false
  nsec3OptOut := false
  hashOnly := false
  preceedZoneWithHashList := false
  orderNsec3RrsByUnhashedOwnerName := false
  orderRrsigsAfterTheRtypeTheyCover := false
  useYyyymmddhhmmssRrsigFormat := false
  zonefilePath := "zone"
  keyPaths := ["one", "two"]
  invokedAsLdns := false

/-- Signatures that would expire before their inception. -/
def expired : SignZone := { options with expiration := 1600000000 }

/-- What `ldns-signzone` always sets. -/
def ldnsOptions : SignZone :=
  { options with
    orderNsec3RrsByUnhashedOwnerName := true
    orderRrsigsAfterTheRtypeTheyCover := true
    useYyyymmddhhmmssRrsigFormat := true
    invokedAsLdns := true }

/-- The collection that is written. -/
def signedRecords (options : SignZone) (records : List Record) : SortedRecords :=
  match prepare domain (env records) options with
  | .ok prepared =>
      match sign domain options prepared with
      | .ok signed => signed.records
      | .error _ => .ofList []
  | .error _ => .ofList []

end Dnst.Signzone.Reference
