import Mathlib.Logic.Function.Basic
import Dnst.Keyset.Records

/-! # Creating, importing and removing keys

Key material appears in and disappears from the key store at once; the key set
in the state only becomes permanent when the state is written.
-/

namespace Dnst.Keyset

/-! ## Parameters for creating a new key -/

/-- Generate a new `KeyParameters` from the algorithm name and the key length
(when required). -/
def KeyParameters.new (algorithm : String) (bits : Option Nat) :
    Except String KeyParameters :=
  if algorithm = "RSASHA256" then
    match bits with
    | some bits => .ok (.rsaSha256 bits)
    | none => .error "bits option expected\n"
  else if algorithm = "RSASHA512" then
    match bits with
    | some bits => .ok (.rsaSha512 bits)
    | none => .error "bits option expected\n"
  else if algorithm = "ECDSAP256SHA256" then .ok .ecdsaP256Sha256
  else if algorithm = "ECDSAP384SHA384" then .ok .ecdsaP384Sha384
  else if algorithm = "ED25519" then .ok .ed25519
  else if algorithm = "ED448" then .ok .ed448
  else .error s!"unknown algorithm {algorithm}\n"

/-- The key length of an RSA key has to fit a `u32`. -/
def KeyParameters.bitsFit : KeyParameters → Bool
  | .rsaSha256 bits => bits < 2 ^ 32
  | .rsaSha512 bits => bits < 2 ^ 32
  | _ => true

/-- The panic for a key length that does not fit. -/
def bitsDoNotFit : String := expectMessage "should not fail" "TryFromIntError(())"

/-- Return the `GenerateParams` equivalent of a `KeyParameters` object. -/
def KeyParameters.toGenerateParams {State : Type} (parameters : KeyParameters) :
    Effect State Fault GenerateParams :=
  match parameters with
  | .rsaSha256 bits =>
      if bits < 2 ^ 32 then return .rsaSha256 bits else panic bitsDoNotFit
  | .rsaSha512 bits =>
      if bits < 2 ^ 32 then return .rsaSha512 bits else panic bitsDoNotFit
  | .ecdsaP256Sha256 => return .ecdsaP256Sha256
  | .ecdsaP384Sha384 => return .ecdsaP384Sha384
  | .ed25519 => return .ed25519
  | .ed448 => return .ed448

/-! ## Changes of the key store -/

def storeKey (ref : KeyRef) (material : KeyMaterial) : Run Unit :=
  modify fun ws =>
    { ws with keyStore := Function.update ws.keyStore ref (some material) }

def dropKey (ref : KeyRef) : Run Unit :=
  modify fun ws => { ws with keyStore := Function.update ws.keyStore ref none }

/-- `create_new`: the file must not exist yet. -/
def createNewFile (env : Environment) (path : String) : Run Unit := do
  let failed := fun reason => s!"cannot create '{path}': {reason}"
  perform (attempt env failed)
  let ws ← get
  refuseIf (ws.keyStore (.file path)).isSome (failed "file exists")
  storeKey (.file path) .created

def writeKeyFile (env : Environment) (path : String) (material : KeyMaterial)
    (failed : String → String) : Run Unit := do
  perform (attempt env failed)
  storeKey (.file path) material

/-- Remove a key from the filesystem or the HSM. -/
def removeKey (env : Environment) (url : Url) : Run Unit := do
  let ws ← get
  match url with
  | .file path _ => do
      let failed := fun reason => s!"unable to remove key file {path}: {reason}\n"
      perform (attempt env failed)
      refuseIf (ws.keyStore (.file path)).isNone (failed "no such file")
      dropKey (.file path)
  | .kmip serverId keyId => do
      perform (getPool env ws.state.kmip serverId)
      perform (attempt env id)
      let failed := fun reason => s!"unable to remove key {env.showUrl url}: {reason}"
      perform (attempt env failed)
      refuseIf (ws.keyStore (.hsm serverId keyId)).isNone (failed "no such key")
      dropKey (.hsm serverId keyId)
  | .other scheme =>
      panic s!"Unsupported URL scheme while removing key {scheme}"

/-! ## New keys -/

def tagInUse (keyset : KeySet) (keyTag : Nat) : Bool :=
  keyset.keys.any fun (_, key) => key.keyTag == keyTag

def noUniqueKeyTag : String := "unable to generate key with unique key tag"

/-- Generate in software until the key tag is new. -/
def generateUnique (env : Environment) (keyset : KeySet) (params : GenerateParams)
    (flags : Nat) : Nat → Step Dnskey
  | 0 => bail noUniqueKeyTag
  | retries + 1 => do
      let call ← nextCall
      let key ← mapErr (fun reason => s!"key generation failed: {reason}\n")
        (env.generate call params flags)
      if tagInUse keyset key.keyTag then
        generateUnique env keyset params flags retries
      else
        return key

def storePair (pair : KmipKeyPair) : Run Unit := do
  match pair.publicKeyUrl.keyRef, pair.privateKeyUrl.keyRef with
  | some publicRef, some privateRef => do
      let ws ← get
      storeKey publicRef (.publicKey ws.state.keyset.name pair.dnskey)
      storeKey privateRef (.privateKey pair.dnskey)
  | _, _ => return ()

def disableRelabeling (serverId : String) (kmip : KmipState) : KmipState :=
  { kmip with
    servers := kmip.servers.map fun (id, server) =>
      if id = serverId then
        (id, { server with keyLabelConfig.supportsRelabeling := false })
      else
        (id, server) }

/-- Re-label the key now that we know the key tag. -/
def relabelPair (env : Environment) (serverId : String)
    (server : KmipServerConnectionConfig) : Run Unit := do
  if server.keyLabelConfig.supportsRelabeling then do
    let call ← perform nextCall
    match env.relabel call with
    | .noLabel => return ()
    | .renamed => perform (attempt env id)
    | .unsupported => do
        perform (attempt env id)
        modify fun ws => { ws with state.kmip := disableRelabeling serverId ws.state.kmip }
    | .halfRenamed message => do
        perform (attempt env id)
        bail s!"KMIP key generation failed: failed to re-label private key: {message}"
  else
    return ()

/-- Generate in an HSM until the key tag is new. A pair with a known key tag
stays in the HSM. -/
def generateUniquePair (env : Environment) (serverId : String)
    (params : GenerateParams) (flags : Nat) : Nat → Run KmipKeyPair
  | 0 => bail noUniqueKeyTag
  | retries + 1 => do
      let ws ← get
      match ws.state.kmip.servers.lookup serverId with
      | none => panic "called `Option::unwrap()` on a `None` value"
      | some server => do
          let call ← perform nextCall
          let pair ← mapErr (fun reason => s!"KMIP key generation failed: {reason}\n")
            (env.kmipGenerate call params flags)
          storePair pair
          if tagInUse ws.state.keyset pair.dnskey.keyTag then
            generateUniquePair env serverId params flags retries
          else do
            relabelPair env serverId server
            return pair

def padZero (width value : Nat) : String :=
  let digits := toString value
  "".pushn '0' (width - digits.length) ++ digits

/-- `PathBuf::push` of a relative path. -/
def joinPath (directory file : String) : String :=
  if directory.toList.getLast?.all (· == '/') then directory ++ file
  else directory ++ "/" ++ file

/-- Base name of the files of a key: owner name, algorithm and key tag. -/
def keyFileBase (name : Name) (key : Dnskey) : String :=
  s!"K{name.fmtWithDot}+{padZero 3 key.algorithm}+{padZero 5 key.keyTag}"

structure NewKeys where
  publicUrl : Url
  privateUrl : Url
  algorithm : SecurityAlgorithm
  keyTag : Nat
  deriving DecidableEq, Repr

/-- Write a generated key pair to new files. -/
def newKeyFiles (env : Environment) (key : Dnskey) : Run NewKeys := do
  let ws ← get
  let base := keyFileBase ws.state.keyset.name key
  let secretKeyPath := joinPath ws.config.keysDir (base ++ ".private")
  let publicKeyPath := joinPath ws.config.keysDir (base ++ ".key")
  createNewFile env secretKeyPath
  createNewFile env publicKeyPath
  writeKeyFile env secretKeyPath (.privateKey key) fun reason =>
    s!"error while writing private key file '{base}.private': {reason}"
  writeKeyFile env publicKeyPath (.publicKey ws.state.keyset.name key) fun reason =>
    s!"error while writing public key file '{base}.key': {reason}"
  let parse := fun (url : String) =>
    mapErr (fun reason => s!"unable to parse {url} as URL: {reason}") (env.parseUrl url)
  let privateUrl ← parse ("file://" ++ secretKeyPath)
  let publicUrl ← parse ("file://" ++ publicKeyPath)
  return { publicUrl, privateUrl, algorithm := key.algorithm, keyTag := key.keyTag }

/-- Create a new public/private key pair and return the URLs of the keys. -/
def newKeys (env : Environment) (makeKsk : Bool) : Run NewKeys := do
  let ws ← get
  let params ← ws.config.algorithm.toGenerateParams
  let flags := if makeKsk then 257 else 256
  match ws.state.kmip.defaultServerId with
  | some serverId => do
      perform (getPool env ws.state.kmip serverId)
      let pair ← generateUniquePair env serverId params flags maxKeyTagTries
      return {
        publicUrl := pair.publicKeyUrl
        privateUrl := pair.privateKeyUrl
        algorithm := pair.dnskey.algorithm
        keyTag := pair.dnskey.keyTag }
  | none => do
      let key ← perform
        (generateUnique env ws.state.keyset params flags maxKeyTagTries)
      newKeyFiles env key

def KeyVariant.display : KeyVariant → String
  | .ksk => "KSK"
  | .zsk => "ZSK"
  | .csk => "CSK"

/-- Create a new key pair and add it to the key set. -/
def addNewKey (env : Environment) (variant : KeyVariant) (makeKsk : Bool)
    (now : UnixTime) : Run NewKeys := do
  let keys ← newKeys env makeKsk
  let publicUrl := env.showUrl keys.publicUrl
  onKeySet (fun reason => s!"unable to add {variant.display} {publicUrl}: {reason}\n")
    (env.keySet.addKey variant publicUrl (some (env.showUrl keys.privateUrl))
      keys.algorithm keys.keyTag now)
  return keys

/-- Create a new CSK key or KSK and ZSK keys if use_csk is false. Returns the
URLs of the new keys and those of all their key material. -/
def newCskOrKskZsk (env : Environment) : Run (List Url × List Url) := do
  let ws ← get
  let now ← perform (faketimeOrNow env ws.config)
  if ws.config.useCsk then do
    let csk ← addNewKey env .csk true now
    return ([csk.publicUrl], [csk.privateUrl, csk.publicUrl])
  else do
    let ksk ← addNewKey env .ksk true now
    let zsk ← addNewKey env .zsk false now
    return ([ksk.publicUrl, zsk.publicUrl],
      [ksk.privateUrl, ksk.publicUrl, zsk.privateUrl, zsk.publicUrl])

/-! ## Import -/

inductive ImportKeyCommands where
  | file (path : String) (coupled : Bool) (privateKey : Option String)
  | kmip (server publicId privateId : String) (algorithm : SecurityAlgorithm)
      (flags : Nat) (coupled : Bool)
  deriving DecidableEq, Repr

inductive ImportCommands where
  | publicKey (path : String)
  | ksk (subcommand : ImportKeyCommands)
  | zsk (subcommand : ImportKeyCommands)
  | csk (subcommand : ImportKeyCommands)
  deriving DecidableEq, Repr

/-- `with_extension("private")` for a path that ends in `.key`. -/
def privatePathOf (path : String) : Option String :=
  match path.toList.reverse with
  | 'y' :: 'e' :: 'k' :: '.' :: stem =>
      match stem with
      | [] => none
      | '/' :: _ => none
      | stem => some (String.ofList stem.reverse ++ ".private")
  | _ => none

/-- What an import command names: the URLs of the two halves and the key. -/
structure ImportedKey where
  publicKeyUrl : String
  privateKeyUrl : String
  algorithm : SecurityAlgorithm
  keyTag : Nat
  coupled : Bool
  deriving DecidableEq, Repr

def makeAbsolute (env : Environment) (path : String) : Step String := do
  attempt env fun reason => s!"unable to make {path} absolute: {reason}"
  return env.absolute path

def unableToRead (path reason : String) : String :=
  s!"unable read from file {path}: {reason}"

/-- The owner name and the key in a public key file. -/
def readPublicKeyFile (env : Environment) (store : KeyStore) (path : String) :
    Step (Name × Dnskey) := do
  attempt env (unableToRead path)
  match store (.file (env.absolute path)) with
  | some (.publicKey owner key) => return (owner, key)
  | some _ => bail s!"unable to parse public key file {path}: not a public key"
  | none => bail (unableToRead path "no such file")

def importedKeyFiles (env : Environment) (ws : WorkSpace) (path : String)
    (coupled : Bool) (privateKey : Option String) : Step ImportedKey := do
  match privateKey <|> privatePathOf path with
  | none =>
      bail s!"public key {path} should end in .key, use --private-key to specify a private key separately"
  | some privatePath => do
      let secretKey ← readPrivateKey env ws.keyStore (.file (env.absolute privatePath))
        (unableToRead privatePath)
        (fun reason => s!"unable to parse private key file {privatePath}: {reason}")
      let (owner, publicKey) ← readPublicKeyFile env ws.keyStore path
      -- Check the consistency of the public and private key pair.
      refuseIf (secretKey.publicKey != publicKey.publicKey)
        s!"private key {privatePath} and public key {path} do not match"
      refuseIf (owner != ws.state.keyset.name)
        s!"public key {path} has wrong owner name {owner.display}, expected {ws.state.keyset.name.display}"
      let publicPath ← makeAbsolute env path
      let privatePath ← makeAbsolute env privatePath
      return {
        publicKeyUrl := "file://" ++ publicPath
        privateKeyUrl := "file://" ++ privatePath
        algorithm := publicKey.algorithm
        keyTag := publicKey.keyTag
        coupled }

def importedHsmKey (env : Environment) (ws : WorkSpace)
    (server publicId privateId : String) (algorithm : SecurityAlgorithm)
    (flags : Nat) (coupled : Bool) : Step ImportedKey := do
  getPool env ws.state.kmip server
  let failed := fun reason =>
    s!"error constructing key pair on KMIP server '{server}': {reason}"
  let publicKey ← readPublicKey env ws.keyStore (.hsm server publicId) failed failed
  refuseIf (publicKey.algorithm != algorithm || publicKey.flags != flags)
    (failed "wrong key")
  return {
    publicKeyUrl := env.showUrl (.kmip server publicId)
    privateKeyUrl := env.showUrl (.kmip server privateId)
    algorithm := publicKey.algorithm
    keyTag := publicKey.keyTag
    coupled }

def ImportKeyCommands.resolve (env : Environment) (ws : WorkSpace) :
    ImportKeyCommands → Step ImportedKey
  | .file path coupled privateKey => importedKeyFiles env ws path coupled privateKey
  | .kmip server publicId privateId algorithm flags coupled =>
      importedHsmKey env ws server publicId privateId algorithm flags coupled

def unableToAdd (keyVariant : KeyVariant) (key : ImportedKey) (reason : String) : String :=
  match keyVariant with
  | .ksk => s!"unable to add KSK {key.publicKeyUrl}/{key.privateKeyUrl}: {reason}\n"
  | .zsk => s!"unable to add ZSK {key.publicKeyUrl}: {reason}\n"
  | .csk => s!"unable to add CSK {key.publicKeyUrl}: {reason}\n"

def KeyVariant.setAtParent : KeyVariant → Bool
  | .ksk => true
  | .zsk => false
  | .csk => true

def KeyVariant.setRrsigVisible : KeyVariant → Bool
  | .ksk => false
  | .zsk => true
  | .csk => true

/-- Implement import subcommand for a specific key type. -/
def importKeyCommand (env : Environment) (subcommand : ImportKeyCommands)
    (keyVariant : KeyVariant) : Run Unit := do
  let ws ← get
  let now ← perform (faketimeOrNow env ws.config)
  let key ← perform (subcommand.resolve env ws)
  onKeySet (unableToAdd keyVariant key)
    (env.keySet.addKey keyVariant key.publicKeyUrl (some key.privateKeyUrl)
      key.algorithm key.keyTag now)
  expectKeySet "should not happen" (env.keySet.setPresent key.publicKeyUrl true)
  expectKeySet "should not happen" (env.keySet.setVisible key.publicKeyUrl now)
  expectKeySet "should not happen" (env.keySet.setSigner key.publicKeyUrl true)
  expectKeySet "should not happen" (env.keySet.setDecoupled key.publicKeyUrl !key.coupled)
  onlyIf keyVariant.setAtParent do
    expectKeySet "should not happen" (env.keySet.setAtParent key.publicKeyUrl true)
    expectKeySet "should not happen" (env.keySet.setDsVisible key.publicKeyUrl now)
  onlyIf keyVariant.setRrsigVisible
    (expectKeySet "should not happen" (env.keySet.setRrsigVisible key.publicKeyUrl now))

/-- Import a public key that is only published. -/
def importPublicKey (env : Environment) (path : String) (now : UnixTime) : Run Unit := do
  let ws ← get
  let (_, publicKey) ← perform (readPublicKeyFile env ws.keyStore path)
  let publicPath ← perform (makeAbsolute env path)
  let publicKeyUrl := "file://" ++ publicPath
  onKeySet (fun reason => s!"unable to add public key {publicKeyUrl}: {reason}\n")
    (env.keySet.addPublicKey publicKeyUrl publicKey.algorithm publicKey.keyTag now)
  expectKeySet "should not happen" (env.keySet.setPresent publicKeyUrl true)
  expectKeySet "should not happen" (env.keySet.setVisible publicKeyUrl now)

/-- Bring the RRsets that are not empty up to date. We don't want to create an
incomplete RRset. -/
def refreshRrsets (env : Environment) : Run Unit := do
  let ws ← get
  onlyIf (!ws.state.dnskeyRrset.isEmpty) (updateDnskeyRrset env)
  let ws ← get
  onlyIf (!ws.state.dsRrset.isEmpty) (updateDsRrset env)
  let ws ← get
  onlyIf (!ws.state.cdsRrset.isEmpty) (createCdsRrset env)

/-- Implementation of the Import subcommands. -/
def importCommand (env : Environment) (subcommand : ImportCommands) : Run Unit := do
  let ws ← get
  let now ← perform (faketimeOrNow env ws.config)
  match subcommand with
  | .publicKey path => importPublicKey env path now
  | .ksk subcommand => importKeyCommand env subcommand .ksk
  | .zsk subcommand => importKeyCommand env subcommand .zsk
  | .csk subcommand => importKeyCommand env subcommand .csk
  markStateChanged
  refreshRrsets env

/-! ## The remove-key subcommand -/

/-- Both roles of a CSK have to be stale. -/
def KeyType.isStale : KeyType → Bool
  | .ksk state => state.stale
  | .zsk state => state.stale
  | .include state => state.stale
  | .csk kskState zskState => kskState.stale && zskState.stale

/-- A coupled key has to be stale, unless its removal is forced. -/
def refusesRemoval (found : Key) (force : Bool) : Bool := !found.keytype.isStale && !force

def parseReference (env : Environment) (ending reference : String) {State : Type} :
    Effect State Fault Url :=
  mapErr (fun reason => s!"unable to parse {reference} as {ending}: {reason}")
    (env.parseUrl reference)

/-- Take a key out of the key set. -/
def forgetKey (env : Environment) (key : String) (force : Bool) : Run Unit := do
  onlyIf force (expectKeySet "should not fail" (env.keySet.setStale key))
  onKeySet (fun reason => s!"unable to remove key {key}: {reason}")
    (env.keySet.deleteKey key)

/-- Remove the private key first: we don't want lingering private key when
something else fails. -/
def removePrivateKey (env : Environment) (privref : Option String)
    (continueFlag : Bool) : Run Unit :=
  match privref with
  | none => return ()
  | some privref => do
      let url ← parseReference env "Url" privref
      let result ← capture (removeKey env url)
      match result with
      | .ok _ => return ()
      | .error reason => refuseIf (!continueFlag) reason

/-- Errors removing a public key are ignored if we previously removed (or tried
to remove) a private key, or if we are told to continue. -/
def removePublicKey (env : Environment) (key : String) (hasPrivate continueFlag : Bool) :
    Run Unit := do
  let url ← parseReference env "Url" key
  let result ← capture (removeKey env url)
  match result with
  | .ok _ => return ()
  | .error reason => refuseIf (!(hasPrivate || continueFlag)) reason

/-- Implement the remove-key subcommand. -/
def removeKeyCommand (env : Environment) (key : String) (force continueFlag : Bool) :
    Run Unit := do
  let ws ← get
  match ws.state.keyset.keys.lookup key with
  | none => bail s!"key {key} not found"
  | some found =>
      -- A decoupled key leaves the key set, its key material stays.
      if found.decoupled then
        forgetKey env key force
      else do
        refuseIf (refusesRemoval found force)
          s!"unable to remove key {key}. Key is not stale. Use --force to override"
        removePrivateKey env found.privref continueFlag
        removePublicKey env key found.privref.isSome continueFlag
        forgetKey env key force

end Dnst.Keyset
