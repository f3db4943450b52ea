import Dnst.Foundation.HashMap
import Dnst.Keyset.Runs

/-! # The KMIP subcommands

They configure the KMIP servers in the state file and keep the credentials for
them in JSON files next to it. A credentials file can hold the credentials of
several servers.
-/

namespace Dnst.Keyset.Kmip

open Effect

/-! ## Subcommands -/

structure AddServer where
  serverId : String
  ipHostOrFqdn : String
  port : Nat
  pending : Bool
  credentialsStorePath : Option String
  username : Option String
  password : Option String
  clientCertPath : Option String
  clientKeyPath : Option String
  insecure : Bool
  serverCertPath : Option String
  caCertPath : Option String
  connectTimeout : Duration
  readTimeout : Duration
  writeTimeout : Duration
  maxResponseBytes : Nat
  keyLabelPrefix : Option String
  keyLabelMaxBytes : Nat
  deriving DecidableEq, Repr

structure ModifyServer where
  serverId : String
  ipHostOrFqdn : Option String
  port : Option Nat
  noCredentials : Bool
  credentialsStorePath : Option String
  username : Option String
  password : Option String
  noClientAuth : Bool
  clientCertPath : Option String
  clientKeyPath : Option String
  insecure : Option Bool
  serverCertPath : Option String
  caCertPath : Option String
  connectTimeout : Option Duration
  readTimeout : Option Duration
  writeTimeout : Option Duration
  maxResponseBytes : Option Nat
  keyLabelPrefix : Option String
  keyLabelMaxBytes : Option Nat
  deriving DecidableEq, Repr

inductive KmipCommands where
  | disable
  | addServer (options : AddServer)
  | modifyServer (options : ModifyServer)
  | removeServer (serverId : String)
  | setDefaultServer (serverId : String)
  | getServer (serverId : String)
  | listServers
  deriving DecidableEq, Repr

/-! ## Credentials files -/

abbrev Bytes := List UInt8

/-- Credentials for connecting to a KMIP server. -/
structure KmipClientCredentials where
  username : String
  password : Option String
  deriving DecidableEq, Repr

/-- A set of KMIP server credentials, by server. -/
abbrev KmipClientCredentialsSet := List (String × KmipClientCredentials)

/-- The content of the credentials files that exist. -/
abbrev CredentialFiles := String → Option Bytes

/-- What one invocation with a KMIP subcommand meets. -/
structure KmipEnvironment extends Environment where
  /-- Failure of the n-th call on a credentials file. -/
  fileFailure : Nat → Option String
  /-- How much of its text a failing write has put into the file. -/
  written : Nat → Nat
  /-- `serde_json::from_reader`. -/
  parseCredentials : Bytes → Except String KmipClientCredentialsSet
  /-- `serde_json::to_writer_pretty`. The order of the entries can differ from
  call to call. -/
  showCredentials : Nat → KmipClientCredentialsSet → Bytes

/-- What a KMIP subcommand works on. -/
structure KmipSpace where
  kss : KeySetState
  files : CredentialFiles
  calls : Nat

abbrev KmipRun (Value : Type) := Effect KmipSpace Fault Value

/-- An `if let` without `else`. -/
def ifSome {Value : Type} (option : Option Value) (action : Value → KmipRun Unit) :
    KmipRun Unit :=
  match option with
  | none => return ()
  | some value => action value

/-- The number of the next call on a credentials file. -/
def nextFileCall : KmipRun Nat := do
  let space ← get
  modify fun space => { space with calls := space.calls + 1 }
  return space.calls

/-- A call on a credentials file that may fail. -/
def attemptFile (env : KmipEnvironment) (message : String → String) : KmipRun Unit := do
  let call ← nextFileCall
  match env.fileFailure call with
  | none => return ()
  | some reason => bail (message reason)

def setFile (path : String) (content : Option Bytes) : KmipRun Unit :=
  modify fun space => { space with files := Function.update space.files path content }

/-- The file after a write at its start. -/
def overwrite (text old : Bytes) : Bytes :=
  text ++ old.drop text.length

/-- Writing at the start of the file, which may stop on the way. -/
def writeFile (env : KmipEnvironment) (path : String) (text old : Bytes)
    (message : String → String) : KmipRun Unit := do
  let call ← nextFileCall
  match env.fileFailure call with
  | none => return ()
  | some reason => do
      setFile path (some (overwrite (text.take (env.written call)) old))
      bail (message reason)

/-- The access mode to use when accessing a credentials file. -/
inductive KmipServerCredentialsFileMode where
  | readOnly
  | readWrite
  | createReadWrite
  deriving DecidableEq, Repr

def KmipServerCredentialsFileMode.display : KmipServerCredentialsFileMode → String
  | .readOnly => "read-only"
  | .readWrite => "read-write"
  | .createReadWrite => "create-read-write"

def KmipServerCredentialsFileMode.creates : KmipServerCredentialsFileMode → Bool
  | .readOnly => false
  | .readWrite => false
  | .createReadWrite => true

/-- A KMIP server credential set file. -/
structure KmipClientCredentialsFile where
  path : String
  credentials : KmipClientCredentialsSet
  mode : KmipServerCredentialsFileMode
  deriving DecidableEq, Repr

def noSuchFile : String := "No such file or directory (os error 2)"

/-- Open the file, or create it if missing and allowed. -/
def openFile (env : KmipEnvironment) (path : String)
    (mode : KmipServerCredentialsFileMode) : KmipRun Unit := do
  let message := fun reason =>
    s!"unable to open KMIP credentials file {path} in {mode.display} mode: {reason}"
  attemptFile env message
  let space ← get
  match space.files path, mode.creates with
  | some _, _ => return ()
  | none, true => setFile path (some [])
  | none, false => bail (message noSuchFile)

/-- JSON parsing fails if the file is completely empty. -/
def loadCredentials (env : KmipEnvironment) (path : String) :
    KmipRun KmipClientCredentialsSet := do
  let message := fun reason =>
    s!"error loading KMIP credentials file {path.quote}: {reason}\n"
  let space ← get
  match space.files path with
  | none => return []
  | some [] => return []
  | some content => do
      attemptFile env message
      mapErr message (env.parseCredentials content)

/-- Load credentials from disk. -/
def KmipClientCredentialsFile.new (env : KmipEnvironment) (path : String)
    (mode : KmipServerCredentialsFileMode) : KmipRun KmipClientCredentialsFile := do
  openFile env path mode
  attemptFile env fun reason =>
    s!"unable to query metadata of KMIP credentials file {path}: {reason}"
  let credentials ← loadCredentials env path
  return { path, credentials, mode }

/-- Write the credential set back to the file it was loaded from. -/
def KmipClientCredentialsFile.save (env : KmipEnvironment)
    (file : KmipClientCredentialsFile) : KmipRun Unit := do
  attemptFile env fun reason => s!"seek to start failed: {reason}"
  let space ← get
  let text := env.showCredentials space.calls file.credentials
  let old := (space.files file.path).getD []
  writeFile env file.path text old fun reason =>
    s!"error writing KMIP credentials file {file.path}: {reason}"
  writeFile env file.path text old fun reason => s!"flush failed: {reason}"
  setFile file.path (some (overwrite text old))
  attemptFile env fun reason => s!"unable to get stream position: {reason}"
  attemptFile env fun reason => s!"unable to set file length: {reason}"
  -- Truncate the file to the length of the text.
  setFile file.path (some text)
  attemptFile env fun reason => s!"flush failed: {reason}"

def KmipClientCredentialsFile.contains (serverId : String)
    (file : KmipClientCredentialsFile) : Bool :=
  HashMap.contains serverId file.credentials

def KmipClientCredentialsFile.insert (serverId : String)
    (credentials : KmipClientCredentials) (file : KmipClientCredentialsFile) :
    KmipClientCredentialsFile :=
  { file with credentials := HashMap.insert serverId credentials file.credentials }

def KmipClientCredentialsFile.remove (serverId : String)
    (file : KmipClientCredentialsFile) : KmipClientCredentialsFile :=
  { file with credentials := HashMap.remove serverId file.credentials }

def KmipClientCredentialsFile.isEmpty (file : KmipClientCredentialsFile) : Bool :=
  file.credentials.isEmpty

/-! ## Removing servers -/

/-- Remove credentials from a file, removing the file entirely if then empty. -/
def removeKmipClientCredentials (env : KmipEnvironment)
    (serverId credentialsPath : String) : KmipRun KmipClientCredentials := do
  let credentialsFile ← KmipClientCredentialsFile.new env credentialsPath .readWrite
  match credentialsFile.credentials.lookup serverId with
  | none =>
      bail (s!"unable to remove credentials for KMIP server '{serverId}' from credentials " ++
        s!"file {credentialsPath}: server id does not exist in the file")
  | some removedCreds => do
      let credentialsFile := credentialsFile.remove serverId
      credentialsFile.save env
      onlyIf credentialsFile.isEmpty do
        attemptFile env fun reason =>
          s!"unable to remove empty credentials file {credentialsPath} for KMIP server " ++
            s!"'{serverId}': {reason}"
        setFile credentialsPath none
      return removedCreds

/-- The URL of the key names the server. -/
def usesServer (platform : Platform) (serverId keyUrl : String) : Bool :=
  match platform.parseUrl keyUrl with
  | .ok (.kmip id _) => id == serverId
  | _ => false

def setServers (change : List (String × KmipServerConnectionConfig) →
    List (String × KmipServerConnectionConfig)) : KmipRun Unit :=
  modify fun space => { space with kss.kmip.servers := change space.kss.kmip.servers }

def setDefault (serverId : Option String) : KmipRun Unit :=
  modify fun space => { space with kss.kmip.defaultServerId := serverId }

/-- Remove a KMIP server and its credentials. -/
def removeKmipServer (env : KmipEnvironment) (serverId : String) : KmipRun Unit := do
  let space ← get
  refuseIf (space.kss.kmip.defaultServerId == some serverId)
    (s!"KMIP server '{serverId}' cannot be removed as it is the current default. " ++
      "Use kmip disable first.")
  refuseIf (space.kss.keyset.keys.any fun entry =>
      usesServer env.toPlatform serverId entry.1)
    s!"KMIP server '{serverId}' cannot be removed as there are still keys using it."
  setServers (HashMap.remove serverId)
  ifSome ((space.kss.kmip.servers.lookup serverId).bind
      KmipServerConnectionConfig.clientCredentialsPath) fun credentialsPath => do
    let _ ← removeKmipClientCredentials env serverId credentialsPath
    return ()

/-! ## Adding servers -/

/-- Password without username is left to `clap` to reject. -/
def AddServer.credentials (options : AddServer) : Option KmipClientCredentials :=
  options.username.map fun username => ⟨username, options.password⟩

def AddServer.clientCertAuth (options : AddServer) :
    Option KmipClientTlsCertificateAuthConfig :=
  match options.clientCertPath, options.clientKeyPath with
  | some certPath, some privateKeyPath => some { certPath, privateKeyPath }
  | _, _ => none

/-- Add credentials to a file, or check that the file has them. -/
def addCredentials (env : KmipEnvironment) (serverId credentialsStorePath : String)
    (credentials : Option KmipClientCredentials) : KmipRun Unit := do
  let credentialsFile ←
    KmipClientCredentialsFile.new env credentialsStorePath .createReadWrite
  match credentials with
  | some credentials => do
      -- Don't accidental change existing credentials.
      refuseIf (credentialsFile.contains serverId)
        (s!"unable to add KMIP credentials to file {credentialsStorePath}: " ++
          s!"server '{serverId}' already exists.")
      (credentialsFile.insert serverId credentials).save env
  | none =>
      refuseIf (!credentialsFile.contains serverId)
        (s!"unable to add KMIP server '{serverId}': credentials for server not found in " ++
          credentialsStorePath)

/-- The settings of a new server. -/
def AddServer.settings (options : AddServer) : KmipServerConnectionConfig :=
  { serverAddr := options.ipHostOrFqdn
    serverPort := options.port
    serverCertVerification :=
      { verifyCertificate := !options.insecure
        serverCertPath := options.serverCertPath
        caCertPath := options.caCertPath }
    clientCredentialsPath := options.credentialsStorePath
    clientCertAuth := options.clientCertAuth
    clientLimits :=
      { connectTimeout := options.connectTimeout
        readTimeout := options.readTimeout
        writeTimeout := options.writeTimeout
        maxResponseBytes := options.maxResponseBytes }
    keyLabelConfig :=
      { maxLabelBytes := options.keyLabelMaxBytes
        supportsRelabeling := true
        labelPrefix := options.keyLabelPrefix.getD "" } }

/-- Adds a KMIP server to the configured set. -/
def addKmipServer (env : KmipEnvironment) (options : AddServer) : KmipRun Unit := do
  let space ← get
  refuseIf (HashMap.contains options.serverId space.kss.kmip.servers)
    s!"unable to add KMIP server '{options.serverId}': server already exists!"
  ifSome options.credentialsStorePath fun path =>
    addCredentials env options.serverId path options.credentials
  setServers (HashMap.insert options.serverId options.settings)
  let space ← get
  onlyIf (!options.pending && space.kss.kmip.servers.length == 1)
    (setDefault (some options.serverId))

/-! ## Modifying servers -/

/-- Should a setting be changed, removed or left as-is? -/
inductive ChangeRemoveLeave (Value : Type) where
  | change (value : Value)
  | remove
  | leave
  deriving DecidableEq, Repr

/-- A setting that can only be changed. -/
def ChangeRemoveLeave.ofOption {Value : Type} : Option Value → ChangeRemoveLeave Value
  | none => .leave
  | some value => .change value

/-- A setting that an option of the subcommand removes. -/
def ChangeRemoveLeave.removeIf {Value : Type} (removed : Bool) (value : Option Value) :
    ChangeRemoveLeave Value :=
  if removed then .remove else .ofOption value

/-- Adjust credentials if needed. -/
def adjustCredentials (username password : ChangeRemoveLeave String)
    (creds : KmipClientCredentials) : KmipRun KmipClientCredentials := do
  let creds ← match username with
    | .change value => pure { creds with username := value }
    | .remove => panic unreachableCode
    | .leave => pure creds
  return match password with
    | .change value => { creds with password := some value }
    | .remove => { creds with password := none }
    | .leave => creds

def newPassword : ChangeRemoveLeave String → Option String
  | .change value => some value
  | .remove => none
  | .leave => none

/-- The credentials that go to another file. -/
def movedCredentials (env : KmipEnvironment) (serverId : String) (oldPath : Option String)
    (username password : ChangeRemoveLeave String) : KmipRun KmipClientCredentials :=
  match oldPath with
  | some path => do
      let creds ← removeKmipClientCredentials env serverId path
      adjustCredentials username password creds
  | none =>
      match username with
      | .change username => return { username, password := newPassword password }
      | .remove => panic unreachableCode
      | .leave => bail "cannot use existing username as none was found"

/-- The credentials that replace those in the file. -/
def adjustedCredentials (username password : ChangeRemoveLeave String) :
    Option KmipClientCredentials → KmipRun KmipClientCredentials
  | some creds => adjustCredentials username password creds
  | none =>
      match username with
      | .change username => return { username, password := newPassword password }
      | _ => bail "cannot change credentials that do not exist if no username is supplied"

def removeAndChange : String :=
  "cannot remove credentials and change credentials at the same time"

/-- Handle changed credentials. The result is the path to store in the settings. -/
def changeCredentials (env : KmipEnvironment) (serverId : String) (oldPath : Option String) :
    ChangeRemoveLeave String → ChangeRemoveLeave String → ChangeRemoveLeave String →
      KmipRun (Option String)
  | .leave, .leave, .leave => return oldPath
  | .remove, .change _, _ => bail removeAndChange
  | .remove, _, .change _ => bail removeAndChange
  | .leave, .remove, .change _ => bail removeAndChange
  | .change _, .remove, _ =>
      bail "cannot move credentials and remove credentials at the same time"
  | .remove, _, _ => do
      ifSome oldPath fun path => do
        let _ ← removeKmipClientCredentials env serverId path
        return ()
      return none
  | .change newPath, username, password => do
      let creds ← movedCredentials env serverId oldPath username password
      let newCredsFile ← KmipClientCredentialsFile.new env newPath .createReadWrite
      (newCredsFile.insert serverId creds).save env
      return some newPath
  | .leave, username, password =>
      match oldPath with
      | none => bail "cannot change client credentials that don't exist"
      | some path => do
          let credsFile ← KmipClientCredentialsFile.new env path .readWrite
          let creds ← adjustedCredentials username password
            (credsFile.credentials.lookup serverId)
          (credsFile.insert serverId creds).save env
          return oldPath

/-- Handle changed client certificate authentication. -/
def changeClientAuth (auth : Option KmipClientTlsCertificateAuthConfig) :
    ChangeRemoveLeave String → ChangeRemoveLeave String →
      Except String (Option KmipClientTlsCertificateAuthConfig)
  | .leave, .leave => .ok auth
  | .remove, .remove => .ok none
  | .remove, _ => .error "cannot remove only one of the client certificate or client key."
  | _, .remove => .error "cannot remove only one of the client certificate or client key."
  | .change certPath, .change privateKeyPath => .ok (some { certPath, privateKeyPath })
  | .change certPath, .leave =>
      match auth with
      | none =>
          .error "cannot configure client certificate authentication with a private key path"
      | some auth => .ok (some { certPath, privateKeyPath := auth.privateKeyPath })
  | .leave, .change privateKeyPath =>
      match auth with
      | none =>
          .error ("cannot configure client certicate authentication without a client " ++
            "certificate path")
      | some auth => .ok (some { certPath := auth.certPath, privateKeyPath })

/-- A path that may be set or forgotten. -/
def ChangeRemoveLeave.apply {Value : Type} (old : Option Value) :
    ChangeRemoveLeave Value → Option Value
  | .change value => some value
  | .remove => none
  | .leave => old

/-- The settings other than the credentials. -/
def ModifyServer.settings (options : ModifyServer)
    (clientCredentialsPath : Option String)
    (clientCertAuth : Option KmipClientTlsCertificateAuthConfig)
    (cfg : KmipServerConnectionConfig) : KmipServerConnectionConfig :=
  { serverAddr := options.ipHostOrFqdn.getD cfg.serverAddr
    serverPort := options.port.getD cfg.serverPort
    serverCertVerification :=
      { verifyCertificate := (options.insecure.map not).getD
          cfg.serverCertVerification.verifyCertificate
        serverCertPath := (ChangeRemoveLeave.ofOption options.serverCertPath).apply
          cfg.serverCertVerification.serverCertPath
        caCertPath := (ChangeRemoveLeave.ofOption options.caCertPath).apply
          cfg.serverCertVerification.caCertPath }
    clientCredentialsPath
    clientCertAuth
    clientLimits :=
      { connectTimeout := options.connectTimeout.getD cfg.clientLimits.connectTimeout
        readTimeout := options.readTimeout.getD cfg.clientLimits.readTimeout
        writeTimeout := options.writeTimeout.getD cfg.clientLimits.writeTimeout
        maxResponseBytes := options.maxResponseBytes.getD cfg.clientLimits.maxResponseBytes }
    keyLabelConfig :=
      { cfg.keyLabelConfig with
        labelPrefix := options.keyLabelPrefix.getD cfg.keyLabelConfig.labelPrefix
        maxLabelBytes := options.keyLabelMaxBytes.getD cfg.keyLabelConfig.maxLabelBytes } }

def ModifyServer.clientAuth (options : ModifyServer)
    (auth : Option KmipClientTlsCertificateAuthConfig) :
    Except String (Option KmipClientTlsCertificateAuthConfig) :=
  changeClientAuth auth (.removeIf options.noClientAuth options.clientCertPath)
    (.removeIf options.noClientAuth options.clientKeyPath)

/-- Modify the settings of a currently configured KMIP server. -/
def modifyKmipServer (env : KmipEnvironment) (options : ModifyServer) : KmipRun Unit := do
  let space ← get
  match space.kss.kmip.servers.lookup options.serverId with
  | none => bail "server does not exist!"
  | some cfg => do
      setServers (HashMap.remove options.serverId)
      let credentialsPath ← changeCredentials env options.serverId cfg.clientCredentialsPath
        (.removeIf options.noCredentials options.credentialsStorePath)
        (.removeIf options.noCredentials options.username)
        (.removeIf options.noCredentials options.password)
      let clientCertAuth ← mapErr id (options.clientAuth cfg.clientCertAuth)
      setServers (HashMap.insert options.serverId
        (options.settings credentialsPath clientCertAuth cfg))
      let space ← get
      onlyIf (space.kss.kmip.servers.length == 1) (setDefault (some options.serverId))

/-! ## The kmip subcommand -/

def unknownServer (serverId : String) : String := s!"KMIP server id '{serverId}' is not known"

/-- Process a `dnst keyset kmip` command. The result says whether the state has
changed. -/
def kmipCommand (env : KmipEnvironment) : KmipCommands → KmipRun Bool
  | .disable => do
      setDefault none
      return true
  | .addServer options => do
      addKmipServer env options
      return true
  | .modifyServer options => do
      let modified ← capture (modifyKmipServer env options)
      mapErr (fun reason => s!"unable to modify configuration for KMIP server " ++
        s!"'{options.serverId}': {reason}") modified
      return true
  | .removeServer serverId => do
      removeKmipServer env serverId
      return true
  | .setDefaultServer serverId => do
      let space ← get
      refuseIf (!HashMap.contains serverId space.kss.kmip.servers) (unknownServer serverId)
      setDefault (some serverId)
      return true
  | .getServer serverId => do
      let space ← get
      refuseIf (!HashMap.contains serverId space.kss.kmip.servers) (unknownServer serverId)
      return false
  | .listServers => return false

/-! ## Installations -/

/-- The files of one zone with the credentials files around them. -/
structure Installation extends System where
  credentialFiles : CredentialFiles

/-- The subcommand on the files as they have been loaded. -/
def Installation.attempt (installation : Installation) (env : KmipEnvironment)
    (command : KmipCommands) : Except Fault Bool × KmipSpace :=
  exec (kmipCommand env command) ⟨installation.state, installation.credentialFiles, 0⟩

/-- What an invocation has to go on with. -/
def settingsOf : Except Fault Bool × KmipSpace → Except String (Bool × KmipState)
  | (.ok changed, space) => .ok (changed, space.kss.kmip)
  | (.error (.error message), _) => .error message
  | (.error (.panic message), _) => .error message

/-- One invocation with a KMIP subcommand. Credentials files are not touched when
the files of the zone cannot be loaded. -/
def invokeKmip (env : KmipEnvironment) (command : KmipCommands)
    (installation : Installation) : Except Fault Unit × Installation :=
  let attempted := installation.attempt env command
  let result := invoke env.toEnvironment (.kmip fun _ => settingsOf attempted)
    installation.toSystem
  (result.1,
    { result.2 with
      credentialFiles :=
        if (env.failure 0).isSome then installation.credentialFiles else attempted.2.files })

end Dnst.Keyset.Kmip
