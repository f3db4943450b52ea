import Dnst.Signzone.Zone

/-! # Signing keys and the DNSKEY RRset

Private keys are matched with the DNSKEY records of the zone or with a public key file.
The keys are split by role, and the apex RRsets about keys are completed and signed.
-/

namespace Dnst.Signzone

open Keyset (Fault)

/-! ## Loading keys -/

/-- Does the file name have this extension, after something else? -/
def hasExtension (path extension : String) : Bool :=
  let file := (path.toList.reverse.dropWhile (· = '/')).takeWhile (· ≠ '/')
  let ending := extension.toList.reverse ++ ['.']
  ending.isPrefixOf file ∧ ending.length < file.length

def mkPublicKeyPath (keyPath : String) : String :=
  if hasExtension keyPath "key" then keyPath else s!"{keyPath}.key"

def mkPrivateKeyPath (keyPath : String) : String :=
  if hasExtension keyPath "private" then keyPath else s!"{keyPath}.private"

def loadPrivateKey (domain : Domain) (env : Env) (keyPath : String) :
    Except Fault SecretKeyBytes := do
  let privateData ← (env.readFile keyPath).mapError fun reason =>
    .error s!"error reading from file: {reason}"
  (domain.secretKeyFromBind privateData).mapError fun reason =>
    .error s!"Unable to parse BIND formatted private key file '{keyPath}': {reason}"

def loadPublicKey (domain : Domain) (env : Env) (keyPath : String) :
    Except Fault (Name × Dnskey) := do
  let publicData ← (env.readFile keyPath).mapError fun reason =>
    .error s!"error reading from file: {reason}"
  (domain.dnskeyFromBind publicData).mapError fun reason =>
    .error s!"Unable to parse BIND formatted public key file '{keyPath}': {reason}"

def mkSigningKey (domain : Domain) (owner : Name) (privateKey : SecretKeyBytes)
    (publicKey : Dnskey) : Except String SigningKey := do
  domain.fromBytes privateKey publicKey
  return ⟨owner, publicKey.flags, privateKey, publicKey.algorithm, publicKey.publicKey⟩

/-- The first public key of the zone that belongs to the private key. -/
def matchPublicKey (domain : Domain) (privateKey : SecretKeyBytes)
    (foundPublicKeys : List (Name × Dnskey)) : Option SigningKey :=
  foundPublicKeys.findSome? fun publicKey =>
    (mkSigningKey domain publicKey.1 privateKey publicKey.2).toOption

def loadSigningKey (domain : Domain) (env : Env) (apex : Name)
    (foundPublicKeys : List (Name × Dnskey)) (keyPath : String) : Except Fault SigningKey := do
  let privateKeyPath := mkPrivateKeyPath keyPath
  let privateKey ← loadPrivateKey domain env privateKeyPath
  match matchPublicKey domain privateKey foundPublicKeys with
  | some signingKey => return signingKey
  | none =>
      let publicKeyPath := mkPublicKeyPath keyPath
      let publicKey ← loadPublicKey domain env publicKeyPath
      if publicKey.1 ≠ apex then
        throw (.error (s!"Public key owner {Name.display publicKey.1} does not match zone apex "
          ++ Name.display apex))
      else
        (mkSigningKey domain publicKey.1 privateKey publicKey.2).mapError fun reason =>
          .error (s!"Unable to create key pair from '{publicKeyPath}' and '{privateKeyPath}': "
            ++ reason)

/-- The public keys among the records of the zone's DNSKEY RRset. -/
def foundPublicKeys (dnskeys : List Record) : List (Name × Dnskey) :=
  dnskeys.filterMap fun record =>
    match record.data with
    | .dnskey dnskey => some (record.owner, dnskey)
    | _ => none

/-! ## Roles -/

/-- Add one key for each algorithm that has none. -/
def addAlgorithms (keys : List SigningKey) : List SigningKey → List SigningKey
  | [] => keys
  | key :: others =>
      if keys.any (·.algorithm = key.algorithm) then addAlgorithms keys others
      else addAlgorithms (keys ++ [key]) others

/-- The keys that sign the RRsets about keys and those that sign the rest of the zone. -/
def splitKeys (options : SignZone) (signingKeys : List SigningKey) :
    List SigningKey × List SigningKey :=
  let keySigningKeys := signingKeys.filter (·.isSecureEntryPoint)
  let zoneSigningKeys := signingKeys.filter (!·.isSecureEntryPoint)
  if keySigningKeys.isEmpty then (zoneSigningKeys, zoneSigningKeys)
  else if zoneSigningKeys.isEmpty then (keySigningKeys, keySigningKeys)
  else
    let keySigningKeys :=
      if options.signDnskeysWithAllKeys then keySigningKeys ++ zoneSigningKeys
      else keySigningKeys
    if options.signWithEveryUniqueAlgorithm then
      let keySigningKeys := addAlgorithms keySigningKeys zoneSigningKeys
      (keySigningKeys, addAlgorithms zoneSigningKeys keySigningKeys)
    else (keySigningKeys, zoneSigningKeys)

/-! ## Signatures -/

/-- The RRSIG record of an RRset. -/
def rrsigRecord (rrset : Rrset) (rrsig : Rrsig) : Record :=
  { owner := rrset.owner, class' := rrset.class', ttl := rrset.ttl, data := .rrsig rrsig }

/-- Sign an RRset with each of the keys. -/
def signWithKeys (domain : Domain) (options : SignZone) (keys : List SigningKey)
    (rrset : Rrset) : Except String (List Record) :=
  keys.mapM fun key => do
    let rrsig ← domain.signRrset key rrset options.inception options.expiration
    return rrsigRecord rrset rrsig

def expectSigned (domain : Domain) (options : SignZone) (keys : List SigningKey) :
    Option Rrset → Except Fault (List Record)
  | none => return []
  | some rrset =>
      (signWithKeys domain options keys rrset).mapError fun reason =>
        .panic (Keyset.expectMessage "should not fail" reason)

/-- Insert records that are new. -/
def insertNew (records : SortedRecords) : List Record → Except Fault SortedRecords
  | [] => return records
  | record :: others =>
      match records.insert record with
      | some records => insertNew records others
      | none => throw (.panic "should not fail")

/-! ## The DNSKEY RRset -/

/-- DNSKEY records for the keys that have none in the zone. -/
def dnskeyExtra (zone : Zone) (dnskeyRrset : Option Rrset) (signingKeys : List SigningKey) :
    List Record :=
  let inZone := dnskeyRrset.elim [] (·.records)
  let missing := signingKeys.filter fun key => !inZone.any (·.data = .dnskey key.dnskey)
  missing.map fun key => {
    owner := zone.apex
    class' := zone.class'
    ttl := dnskeyRrset.elim zone.newRrDefaultTtl (·.ttl)
    data := .dnskey key.dnskey }

/-- The zone with the RRsets about keys completed and signed, and the keys that sign
the rest. -/
structure KeyedZone where
  records : SortedRecords
  zoneSigningKeys : List SigningKey

def addKeys (domain : Domain) (env : Env) (options : SignZone) (zone : Zone) :
    Except Fault KeyedZone := do
  let dnskeyRrset := zone.records.findApexRtype zone.apex Rtype.dnskey
  let cdsRrset := zone.records.findApexRtype zone.apex Rtype.cds
  let cdnskeyRrset := zone.records.findApexRtype zone.apex Rtype.cdnskey
  let inZone := dnskeyRrset.elim [] (·.records)
  let signingKeys ← options.keyPaths.mapM
    (loadSigningKey domain env zone.apex (foundPublicKeys inZone))
  let keys := splitKeys options signingKeys
  let extra :=
    if options.doNotAddKeysToZone then [] else dnskeyExtra zone dnskeyRrset signingKeys
  let dnskeyRrsigs ← expectSigned domain options keys.1 (Rrset.ofList (inZone ++ extra))
  let cdsRrsigs ← expectSigned domain options keys.1 cdsRrset
  let cdnskeyRrsigs ← expectSigned domain options keys.1 cdnskeyRrset
  let records ← insertNew zone.records extra
  let records ← insertNew records dnskeyRrsigs
  let records ← insertNew records (cdsRrsigs ++ cdnskeyRrsigs)
  return ⟨records, keys.2⟩

end Dnst.Signzone
