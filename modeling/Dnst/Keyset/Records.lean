import Dnst.Keyset.WorkSpace

/-! # The published RRsets

Reading keys back through their URLs and building the DNSKEY, CDS/CDNSKEY and
DS RRsets of the state from the flags of the key set.
-/

namespace Dnst.Keyset

/-! ## Reading keys -/

/-- Get the pool of connections to a KMIP server. -/
def getPool (env : Environment) (kmip : KmipState) (id : String) : Step Unit :=
  match kmip.servers.lookup id with
  | none => bail s!"No KMIP server config exists for server '{id}'"
  | some _ => attempt env fun reason =>
      s!"Unable to prepare KMIP connection settings for server '{id}': {reason}"

def readPublicKey (env : Environment) (store : KeyStore) (ref : KeyRef)
    (missing malformed : String → String) : Step Dnskey := do
  attempt env missing
  match store ref with
  | some (.publicKey _ key) => return key
  | some _ => bail (malformed "not a public key")
  | none => bail (missing "no such key")

def readPrivateKey (env : Environment) (store : KeyStore) (ref : KeyRef)
    (missing malformed : String → String) : Step Dnskey := do
  attempt env missing
  match store ref with
  | some (.privateKey key) => return key
  | some _ => bail (malformed "not a private key")
  | none => bail (missing "no such key")

/-- Take a URL and get the public key. -/
def publicKeyFromUrl (env : Environment) (ws : WorkSpace) : Url → Step Dnskey
  | .file path _ =>
      readPublicKey env ws.keyStore (.file path)
        (fun reason => s!"unable read from file {path}: {reason}")
        (fun reason => s!"unable to parse public key file {path}: {reason}")
  | .kmip serverId keyId => do
      getPool env ws.state.kmip serverId
      readPublicKey env ws.keyStore (.hsm serverId keyId)
        (fun reason => s!"Failed to fetch public key for KMIP key URL: {reason}")
        (fun reason => s!"Failed to fetch public key for KMIP key URL: {reason}")
  | .other scheme => panic s!"unsupported scheme in {scheme}"

/-- `Url::parse` of a stored key reference, under `expect`. -/
def expectUrl (env : Environment) (reference : String) : Step Url :=
  expect "valid URL expected" (env.parseUrl reference)

/-- Load the key pair that signs: a pair of files or a pair in an HSM. The
callers differ in the messages for an unreadable or malformed private file. -/
def loadSigningKey (env : Environment) (ws : WorkSpace) (privref pubref : String)
    (unreadable malformed : String → String → String) : Step Dnskey := do
  let privUrl ← expectUrl env privref
  let pubUrl ← expectUrl env pubref
  match privUrl, pubUrl with
  | .file privPath _, .file pubPath _ => do
      let secretKey ← readPrivateKey env ws.keyStore (.file privPath)
        (unreadable privPath) (malformed privPath)
      let publicKey ← publicKeyFromUrl env ws (.file pubPath)
      if secretKey.publicKey = publicKey.publicKey then
        return publicKey
      else
        bail s!"private key {privref} and public key {pubref} do not match"
  | .kmip privServer privId, .kmip _ pubId => do
      getPool env ws.state.kmip privServer
      let failed := fun reason => s!"Failed to retrieve KMIP key by URL: {reason}"
      let _ ← readPrivateKey env ws.keyStore (.hsm privServer privId) failed failed
      readPublicKey env ws.keyStore (.hsm privServer pubId) failed failed
  | _, _ => panic "unsupported URL scheme combination"

/-! ## Signatures -/

/-- KSKs, and CSKs in their KSK role, sign the DNSKEY and CDS RRsets. -/
def dnskeySigner : KeyType → Bool
  | .ksk state => state.signer
  | .zsk _ => false
  | .csk kskState _ => kskState.signer
  | .include _ => false

/-- `u32` arithmetic as a release build computes it: modulo `2 ^ 32`. -/
def inceptionAt (now : UnixTime) (offset : Duration) : Nat :=
  (toU32 (asSecs now) + (2 ^ 32 - toU32 (asSecs offset))) % 2 ^ 32

def expirationAt (now : UnixTime) (lifetime : Duration) : Nat :=
  (toU32 (asSecs now) + toU32 (asSecs lifetime)) % 2 ^ 32

def signRrset (env : Environment) (signer : Dnskey) (typeCovered : Rtype)
    (signed : List Dnskey) (inception expiration : Nat)
    (failed : String → String) : Step Rrsig := do
  attempt env failed
  return { typeCovered, signer, signed, inception, expiration }

/-! ## DNSKEY RRset -/

/-- Public keys of the keys with `present`. -/
def presentDnskeys (env : Environment) (ws : WorkSpace) : Step (List Dnskey) :=
  Effect.collect
    (fun (pubref, key) =>
      if key.keytype.mainState.present then do
        let pubUrl ← expectUrl env pubref
        let publicKey ← publicKeyFromUrl env ws pubUrl
        return some publicKey
      else
        return none)
    ws.state.keyset.keys

def signDnskeyRrset (env : Environment) (ws : WorkSpace) (dnskeys : List Dnskey)
    (inception expiration : Nat) : Step (List Rrsig) :=
  -- Don't try to sign an empty set.
  if dnskeys.isEmpty then
    return []
  else
    Effect.collect
      (fun (pubref, key) => do
        attempt env fun reason => s!"unable to create Rrset: {reason}\n"
        if dnskeySigner key.keytype then
          match key.privref with
          | none => bail "missing private key"
          | some privref => do
              let signer ← loadSigningKey env ws privref pubref
                (fun path reason => s!"unable read from file {path}: {reason}")
                (fun _ reason =>
                  s!"unable to parse private key file {privref}: {reason}")
              let signature ← signRrset env signer .dnskey dnskeys inception expiration
                fun reason =>
                  s!"error signing DNSKEY RRset with private key {privref}: {reason}"
              return some signature
        else
          return none)
      ws.state.keyset.keys

/-- The DNSKEY RRset and its signatures for the current key set. -/
def dnskeyRrset (env : Environment) (ws : WorkSpace) : Step (List Record) := do
  let now ← faketimeOrNow env ws.config
  let dnskeys ← presentDnskeys env ws
  let signatures ← signDnskeyRrset env ws dnskeys
    (inceptionAt now ws.config.dnskeyInceptionOffset)
    (expirationAt now ws.config.dnskeySignatureLifetime)
  return dnskeys.map (.dnskey ws.config.defaultTtl) ++
    signatures.map (.rrsig ws.config.defaultTtl)

/-- Collect all keys where `present` is true and sign the DNSKEY RRset with all
KSKs and CSKs (KSK state) where `signer` is true. -/
def updateDnskeyRrset (env : Environment) : Run Unit := do
  let ws ← get
  let records ← perform (dnskeyRrset env ws)
  modify fun ws => { ws with state.dnskeyRrset := records }

/-! ## CDS and CDNSKEY RRsets -/

/-- Public keys of the keys with `at_parent`, digested as the callers need. -/
def atParentDnskeys (env : Environment) (ws : WorkSpace) : Step (List Dnskey) :=
  Effect.collect
    (fun (pubref, key) =>
      if key.keytype.mainState.atParent then do
        let pubUrl ← expectUrl env pubref
        let publicKey ← publicKeyFromUrl env ws pubUrl
        attempt env fun reason =>
          s!"error creating digest for DNSKEY record: {reason}"
        return some publicKey
      else
        return none)
    ws.state.keyset.keys

/-- Signatures over the CDS and the CDNSKEY RRset, one pair for each signer. -/
def signCdsRrsets (env : Environment) (ws : WorkSpace) (keys : List Dnskey)
    (inception expiration : Nat) : Step (List (Rrsig × Rrsig)) :=
  -- Don't try to sign an empty set.
  if keys.isEmpty then
    return []
  else
    Effect.collect
      (fun (pubref, key) => do
        attempt env fun reason => s!"unable to create Rrset: {reason}\n"
        if dnskeySigner key.keytype then
          match key.privref with
          | none => bail "missing private key"
          | some privref => do
              let signer ← loadSigningKey env ws privref pubref
                (fun path reason =>
                  s!"unable to read from private key file {path}: {reason}")
                (fun path reason => s!"unable to parse private key file {path}: {reason}")
              let cdsSignature ← signRrset env signer .cds keys inception expiration
                fun reason =>
                  s!"error signing CDS RRset with private key {privref}: {reason}"
              let cdnskeySignature ← signRrset env signer .cdnskey keys inception expiration
                fun reason =>
                  s!"error signing CDNSKEY RRset with private key {privref}: {reason}"
              return some (cdsSignature, cdnskeySignature)
        else
          return none)
      ws.state.keyset.keys

def cdsRrset (env : Environment) (ws : WorkSpace) : Step (List Record) := do
  let now ← faketimeOrNow env ws.config
  let keys ← atParentDnskeys env ws
  let signatures ← signCdsRrsets env ws keys
    (inceptionAt now ws.config.cdsInceptionOffset)
    (expirationAt now ws.config.cdsSignatureLifetime)
  let ttl := ws.config.defaultTtl
  return keys.map (.cdnskey ttl) ++
    signatures.map (fun pair => .rrsig ttl pair.2) ++
    keys.map (.cds ttl · ws.config.dsAlgorithm) ++
    signatures.map (fun pair => .rrsig ttl pair.1)

/-- Create the CDS and CDNSKEY RRsets plus signatures. They contain the keys
where `at_parent` is true and are signed by the keys that sign the DNSKEY
RRset. -/
def createCdsRrset (env : Environment) : Run Unit := do
  let ws ← get
  let records ← perform (cdsRrset env ws)
  modify fun ws => { ws with state.cdsRrset := records }

/-- Remove the CDS and CDNSKEY RRsets and signatures. -/
def removeCdsRrset : Run Unit :=
  modify fun ws => { ws with state.cdsRrset := [] }

/-! ## DS RRset -/

def dsRrset (env : Environment) (ws : WorkSpace) : Step (List Record) := do
  let keys ← atParentDnskeys env ws
  return keys.map (.ds ws.config.defaultTtl · ws.config.dsAlgorithm)

/-- The DS records are generated from all keys where `at_parent` is true. This
RRset is not signed. -/
def updateDsRrset (env : Environment) : Run Unit := do
  let ws ← get
  let records ← perform (dsRrset env ws)
  modify fun ws => { ws with state.dsRrset := records }

/-! ## Actions of a roll -/

def handleAction (env : Environment) : Action → Run Unit
  | .updateDnskeyRrset => updateDnskeyRrset env
  | .createCdsRrset => createCdsRrset env
  | .removeCdsRrset => removeCdsRrset
  | .updateDsRrset => do
      modify fun ws => { ws with runUpdateDsCommand := true }
      updateDsRrset env
  | .updateRrsig => return ()
  | .reportDnskeyPropagated => return ()
  | .reportDsPropagated => return ()
  | .reportRrsigPropagated => return ()
  | .waitDnskeyPropagated => return ()
  | .waitDsPropagated => return ()
  | .waitRrsigPropagated => return ()

/-- Handle the actions that always need to be handled independent of
automation. -/
def handleActions (env : Environment) : List Action → Run Unit
  | [] => return ()
  | action :: actions => do
      handleAction env action
      handleActions env actions

end Dnst.Keyset
