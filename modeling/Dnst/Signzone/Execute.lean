import Dnst.Signzone.Writer

/-! # The signzone command -/

namespace Dnst.Signzone

open Keyset (Fault)

/-- Hashing for denial of existence as the options ask for it. -/
def denialConfig (options : SignZone) (mode : SigningMode) : DenialConfig :=
  if mode = .none then .alreadyPresent
  else if options.useNsec3 then
    .nsec3 {
      algorithm := options.algorithm
      iterations := options.iterations
      salt := options.salt
      optOut := options.nsec3OptOut || options.nsec3OptOutFlagsOnly
      excludeUnsignedDelegations := options.nsec3OptOut
      fixedParamTtl := if options.invokedAsLdns then some 3600 else none }
  else .nsec

/-- What is to be signed: the zone with the RRsets about keys, and the keys for the rest. -/
structure Prepared where
  mode : SigningMode
  zone : Zone
  records : SortedRecords
  zoneSigningKeys : List SigningKey

/-- The steps up to the creation of the output file. -/
def prepare (domain : Domain) (env : Env) (options : SignZone) : Except Fault Prepared := do
  let mode ← signingMode options
  let zone ← readZone env options
  if mode = .hashAndSign then
    let keyed ← addKeys domain env options zone
    return ⟨mode, zone, keyed.records, keyed.zoneSigningKeys⟩
  else return ⟨mode, zone, zone.records, []⟩

def outFile (options : SignZone) : String :=
  options.outFile.getD s!"{options.zonefilePath}.signed"

def createOutput (env : Env) (options : SignZone) : Except Fault Unit :=
  if outFile options = "-" then return ()
  else
    (env.createFile (outFile options)).mapError fun reason =>
      .error s!"unable to create file {outFile options}: {reason}"

/-- The signed records and what their output depends on. -/
structure SignedZone where
  records : SortedRecords
  hashes : Option Nsec3HashMap

/-- The records that are hashed and signed. -/
def Prepared.toSign (prepared : Prepared) (options : SignZone) : SortedRecords :=
  if options.zonemd.dedup.isEmpty then prepared.records
  else replaceApexZonemdWithPlaceholder prepared.zone prepared.records

def signingConfig (options : SignZone) (mode : SigningMode) : SigningConfig :=
  ⟨denialConfig options mode, options.inception, options.expiration⟩

/-- The records that `sign_zone` adds. -/
def addedRecords (domain : Domain) (options : SignZone) (prepared : Prepared) :
    Except String (List Record) :=
  domain.signZone prepared.zone.apex (signingConfig options prepared.mode)
    prepared.zoneSigningKeys (prepared.toSign options).toList

/-- Hash and sign the zone. -/
def signRecords (domain : Domain) (options : SignZone) (prepared : Prepared) :
    Except Fault SortedRecords := do
  let added ← (addedRecords domain options prepared).mapError fun reason =>
    .error s!"Signing failed: {reason}"
  return (prepared.toSign options).extend added

/-- The steps from the creation of the output file to the signed zone. -/
def sign (domain : Domain) (options : SignZone) (prepared : Prepared) :
    Except Fault SignedZone := do
  let hashes ← nsec3Hashes domain options prepared.zone.apex (prepared.toSign options)
  let records ← signRecords domain options prepared
  if options.zonemd.dedup.isEmpty then return ⟨records, hashes⟩
  else
    let records ← finishZonemd domain options prepared.mode prepared.zone
      prepared.zoneSigningKeys options.zonemd.dedup records
    return ⟨records, hashes⟩

def SignZone.execute (domain : Domain) (env : Env) (options : SignZone) :
    Except Fault (List Line) := do
  let prepared ← prepare domain env options
  createOutput env options
  let signed ← sign domain options prepared
  writeZone domain ⟨options, prepared.zone.apex, signed.hashes⟩ signed.records

end Dnst.Signzone
