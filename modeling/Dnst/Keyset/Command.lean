import Dnst.Keyset.Schedule

/-! # Subcommands and invocations

One invocation loads the configuration and the state, executes a subcommand,
recomputes when cron has to run and saves what has changed. `Reachable` collects
the systems that any sequence of invocations starting with `create` leads to.
-/

namespace Dnst.Keyset

/-! ## The set and get subcommands -/

/-- The fields that can be changed with a set command. -/
inductive SetCommands where
  | useCsk (boolean : Bool)
  | autoremove (boolean : Bool)
  | autoremoveDelay (delay : Duration)
  | algorithm (algorithm : String) (bits : Option Nat)
  | kskRollType (value : KskRollType)
  | zskRollType (value : ZskRollType)
  | autoKsk (auto : AutoConfig)
  | autoZsk (auto : AutoConfig)
  | autoCsk (auto : AutoConfig)
  | autoAlgorithm (auto : AutoConfig)
  | dsAlgorithm (algorithm : DsAlgorithm)
  | dnskeyInceptionOffset (duration : Duration)
  | dnskeyLifetime (duration : Duration)
  | dnskeyRemainTime (duration : Duration)
  | cdsInceptionOffset (duration : Duration)
  | cdsLifetime (duration : Duration)
  | cdsRemainTime (duration : Duration)
  | kskValidity (optDuration : Option Duration)
  | zskValidity (optDuration : Option Duration)
  | cskValidity (optDuration : Option Duration)
  | defaultTtl (ttl : Ttl)
  | updateDsCommand (args : List String)
  | fakeTime (optUnixtime : Option UnixTime)
  | tsigStorePath (optPath : Option String)
  /-- Each address is given with what parsing it results in. -/
  | publicationNameservers (addrs : List (Except String NameserverConnectionDetails))

inductive GetCommands where
  | useCsk
  | autoremove
  | autoremoveDelay
  | algorithm
  | dsAlgorithm
  | dnskeyLifetime
  | cdsLifetime
  | dnskey
  | cds
  | ds
  deriving DecidableEq, Repr

def parseNameservers : List (Except String NameserverConnectionDetails) →
    Except String (List NameserverConnectionDetails)
  | [] => .ok []
  | .error reason :: _ => .error reason
  | .ok nameserver :: addrs =>
      match parseNameservers addrs with
      | .error reason => .error reason
      | .ok nameservers => .ok (nameserver :: nameservers)

/-- The first TSIG key that the store does not have. -/
def missingTsigKey (store : TsigKeyStore) (nameservers : List NameserverConnectionDetails) :
    Option Name :=
  (nameservers.filterMap NameserverConnectionDetails.tsigKeyName).find? fun name =>
    !store.names.contains name

/-- When adding nameservers, check that referenced TSIG keys are in the TSIG
store. -/
def checkTsigKeys (env : Environment) (ws : WorkSpace)
    (nameservers : List NameserverConnectionDetails) : Step Unit := do
  if nameservers.any fun nameserver => nameserver.tsigKeyName.isSome then
    match ws.config.tsigStorePath with
    | none => bail "keyset set tsig-store-path MUST be called first"
    | some path => do
        attempt env fun reason => s!"error loading {path}: {reason}\n"
        match missingTsigKey ws.tsigStore nameservers with
        | some name =>
            bail s!"No TSIG key with name '{name.display}' found in store '{path}'"
        | none => return ()
  else
    return ()

/-- The new configuration. -/
def SetCommands.apply (env : Environment) (ws : WorkSpace) :
    SetCommands → Step KeySetConfig
  | .useCsk boolean => return { ws.config with useCsk := boolean }
  | .autoremove boolean => return { ws.config with autoremove := boolean }
  | .autoremoveDelay delay => return { ws.config with autoremoveDelay := delay }
  | .algorithm name bits => do
      let parameters ← mapErr id (KeyParameters.new name bits)
      return { ws.config with algorithm := parameters }
  | .kskRollType value => return { ws.config with kskRollType := value }
  | .zskRollType value => return { ws.config with zskRollType := value }
  | .autoKsk auto => return { ws.config with autoKsk := auto }
  | .autoZsk auto => return { ws.config with autoZsk := auto }
  | .autoCsk auto => return { ws.config with autoCsk := auto }
  | .autoAlgorithm auto => return { ws.config with autoAlgorithm := auto }
  | .dsAlgorithm value => return { ws.config with dsAlgorithm := value }
  | .dnskeyInceptionOffset duration =>
      return { ws.config with dnskeyInceptionOffset := duration }
  | .dnskeyLifetime duration => return { ws.config with dnskeySignatureLifetime := duration }
  | .dnskeyRemainTime duration => return { ws.config with dnskeyRemainTime := duration }
  | .cdsInceptionOffset duration => return { ws.config with cdsInceptionOffset := duration }
  | .cdsLifetime duration => return { ws.config with cdsSignatureLifetime := duration }
  | .cdsRemainTime duration => return { ws.config with cdsRemainTime := duration }
  | .kskValidity optDuration => return { ws.config with kskValidity := optDuration }
  | .zskValidity optDuration => return { ws.config with zskValidity := optDuration }
  | .cskValidity optDuration => return { ws.config with cskValidity := optDuration }
  | .defaultTtl ttl => return { ws.config with defaultTtl := ttl }
  | .updateDsCommand args => return { ws.config with updateDsCommand := args }
  | .fakeTime optUnixtime => return { ws.config with faketime := optUnixtime }
  | .tsigStorePath optPath => return { ws.config with tsigStorePath := optPath }
  | .publicationNameservers addrs => do
      let nameservers ← mapErr id (parseNameservers addrs)
      checkTsigKeys env ws nameservers
      return { ws.config with nameservers := nameservers }

/-- Implement the set subcommand. -/
def setCommand (env : Environment) (command : SetCommands) : Run Unit := do
  let ws ← get
  let config ← perform (command.apply env ws)
  modify fun ws => { ws with config }
  markConfigChanged

/-- The durations that the get subcommand prints. -/
def GetCommands.duration (config : KeySetConfig) : GetCommands → Option Duration
  | .autoremoveDelay => some config.autoremoveDelay
  | .dnskeyLifetime => some config.dnskeySignatureLifetime
  | .cdsLifetime => some config.cdsSignatureLifetime
  | _ => none

/-- Implement the get subcommand. Durations are printed as a `Span`. -/
def getCommand (env : Environment) (command : GetCommands) : Run Unit := do
  let ws ← get
  assert ((command.duration ws.config).all env.spanFits)
    (expectMessage "should not fail" "duration out of range")

/-! ## The status subcommand -/

/-- The automation of the roll's class. -/
def RollType.auto (config : KeySetConfig) : RollType → AutoConfig
  | .kskRoll => config.autoKsk
  | .kskDoubleDsRoll => config.autoKsk
  | .zskRoll => config.autoZsk
  | .zskDoubleSignatureRoll => config.autoZsk
  | .cskRoll => config.autoCsk
  | .algorithmRoll => config.autoAlgorithm

def RollState.auto (auto : AutoConfig) : RollState → Bool
  | .propagation1 => auto.report
  | .cacheExpire1 _ => auto.expire
  | .propagation2 => auto.report
  | .cacheExpire2 _ => auto.expire
  | .done => auto.done

def KeyType.zskRole : KeyType → Option KeyState
  | .ksk _ => none
  | .zsk state => some state
  | .csk _ zskState => some zskState
  | .include _ => none

/-- Print the keys that sign the zone. -/
def printZoneSigners (env : Environment) (ws : WorkSpace) : List (String × Key) → Step Unit
  | [] => return ()
  | (pubref, key) :: keys => do
      onlyIf (key.keytype.zskRole.any KeyState.signer) do
        let url ← parseReference env "URL" pubref
        let _ ← publicKeyFromUrl env ws url
      printZoneSigners env ws keys

def statusExpire (platform : Platform) (now : UnixTime) (roll : RollType)
    (keyset : KeySet) : RollState → Step Unit
  | .cacheExpire1 _ => report (platform.keySet.cacheExpired1 now roll keyset)
  | .cacheExpire2 _ => report (platform.keySet.cacheExpired2 now roll keyset)
  | _ => return ()
where
  report : Except KeySetError (List Action × KeySet) → Step Unit
    | .ok _ => return ()
    | .error (.wait _) => return ()
    | .error reason => bail (expireError roll reason.display)

def Action.isRrsigCheck : Action → Bool
  | .reportRrsigPropagated => true
  | .waitRrsigPropagated => true
  | _ => false

def statusActions (env : Environment) (ws : WorkSpace) (auto : Bool) :
    List Action → Step Unit
  | [] => return ()
  | action :: actions => do
      onlyIf (action.isRrsigCheck && !auto) (printZoneSigners env ws ws.state.keyset.keys)
      statusActions env ws auto actions

/-- Only a wait for a record lists the keys that sign the zone. -/
def showAutomaticRollState (env : Environment) (ws : WorkSpace) (report : ReportState) :
    Step Unit :=
  match report.rrsig with
  | some (.waitRecord _ _ _ _ _) => printZoneSigners env ws ws.state.keyset.keys
  | _ => return ()

def RollStateReports.ofState (reports : RollStateReports) : RollState → ReportState
  | .propagation1 => reports.propagation1
  | .cacheExpire1 _ => .default
  | .propagation2 => reports.propagation2
  | .cacheExpire2 _ => .default
  | .done => reports.done

def statusRoll (env : Environment) (ws : WorkSpace) (roll : RollType) : Step Unit :=
  match ws.state.keyset.rollstates roll with
  | none => return ()
  | some state => do
      let auto := state.auto (roll.auto ws.config)
      let clock ← wallClock env
      statusExpire env.toPlatform clock roll ws.state.keyset state
      statusActions env ws auto (env.keySet.actions roll ws.state.keyset)
      match ws.state.internal roll with
      | none => panic noEntryShown
      | some reports => showAutomaticRollState env ws (reports.ofState state)

def statusRolls (env : Environment) (ws : WorkSpace) : List RollType → Step Unit
  | [] => return ()
  | roll :: rolls => do
      statusRoll env ws roll
      statusRolls env ws rolls

/-- The removal times of stale keys are only printed with autoremove. -/
def statusKeys (ws : WorkSpace) : Step Unit :=
  onlyIf ws.config.autoremove do
    let _ ← removalTimes ws.config.autoremoveDelay ws.state.keyset.keys

def status (env : Environment) (verbose : Bool) : Run Unit := do
  let ws ← get
  onlyIf verbose do
    perform (statusRolls env ws RollType.all)
    perform (statusKeys ws)

/-! ## The init subcommand -/

def KeyType.isKsk : KeyType → Bool
  | .ksk _ => true
  | _ => false

def KeyType.isZsk : KeyType → Bool
  | .zsk _ => true
  | _ => false

def KeyType.isCsk : KeyType → Bool
  | .csk _ _ => true
  | _ => false

/-- Start with new keys: an algorithm roll from no keys. -/
def initNewKeys (env : Environment) : Run Unit := do
  let (new, _) ← newCskOrKskZsk env
  let now ← perform (wallClock env)
  let ws ← get
  match env.keySet.startRoll now .algorithmRoll [] (new.map env.showUrl)
      ws.state.keyset with
  | .error reason => panic (expectMessage "should not happen" reason.display)
  | .ok (actions, keyset) => do
      setKeySet keyset
      let _ ← finishStart env .algorithmRoll actions

def init (env : Environment) : Run Unit := do
  let ws ← get
  -- Assume that dnskey_rrset is a reliable way to tell if we are initialized.
  refuseIf (!ws.state.dnskeyRrset.isEmpty) "already initialized\n"
  let kskPresent := ws.state.keyset.keys.any fun (_, key) => key.keytype.isKsk
  let zskPresent := ws.state.keyset.keys.any fun (_, key) => key.keytype.isZsk
  let cskPresent := ws.state.keyset.keys.any fun (_, key) => key.keytype.isCsk
  if (kskPresent && zskPresent) || cskPresent then do
    -- Start with imported keys.
    updateDnskeyRrset env
    updateDsRrset env
  else do
    refuseIf (kskPresent || zskPresent) "Cannot start with only a KSK or ZSK."
    initNewKeys env
  markStateChanged

/-! ## Subcommands -/

/-- All subcommands but create. A KMIP subcommand is what it makes of the KMIP
settings and whether it changes them. -/
inductive Commands where
  | init
  | roll (variant : RollVariant) (subcommand : RollCommands)
  | importKey (subcommand : ImportCommands)
  | removeKey (key : String) (force continueFlag : Bool)
  | status (verbose : Bool)
  | actions
  | keys
  | get (subcommand : GetCommands)
  | set (subcommand : SetCommands)
  | showConfig
  | cron
  | kmip (subcommand : KmipState → Except String (Bool × KmipState))

def kmipCommand (subcommand : KmipState → Except String (Bool × KmipState)) : Run Unit := do
  let ws ← get
  let (changed, kmip) ← mapErr id (subcommand ws.state.kmip)
  modify fun ws => { ws with state.kmip := kmip, stateChanged := changed }

def removeKeySubcommand (env : Environment) (key : String) (force continueFlag : Bool) :
    Run Unit := do
  removeKeyCommand env key force continueFlag
  -- If the key was in use then the RRsets may be affected.
  onlyIf force (refreshRrsets env)
  markStateChanged

/-- Execute a subcommand in memory. -/
def subcommand (env : Environment) (now : UnixTime) : Commands → Run Unit
  | .init => init env
  | .roll variant subcommand => rollCommand env subcommand variant
  | .importKey subcommand => importCommand env subcommand
  | .removeKey key force continueFlag => removeKeySubcommand env key force continueFlag
  | .status verbose => status env verbose
  | .actions => return ()
  | .keys => return ()
  | .get subcommand => getCommand env subcommand
  | .set subcommand => setCommand env subcommand
  | .showConfig => return ()
  | .cron => cron env now
  | .kmip subcommand => kmipCommand subcommand

/-- There are imported keys to start with. -/
def startsWithImported (keyset : KeySet) : Bool :=
  (keyset.keys.any (fun (_, key) => key.keytype.isKsk) &&
      keyset.keys.any fun (_, key) => key.keytype.isZsk) ||
    keyset.keys.any fun (_, key) => key.keytype.isCsk

/-- Whether a subcommand rebuilds the DS RRset by itself, not as an action of a roll. -/
def Commands.rebuildsDs (keyset : KeySet) : Commands → Bool
  | .init => startsWithImported keyset
  | .importKey _ => true
  | .removeKey _ force _ => force
  | _ => false

/-! ## Writing config and state -/

def apexRemove : List Rtype := [.dnskey, .cds, .cdnskey]

/-- The fields that `write_state` derives from the others. -/
def KeySetState.withApex (state : KeySetState) : KeySetState :=
  { state with
    apexRemove := Keyset.apexRemove
    apexExtra := state.dnskeyRrset ++ state.cdsRrset ++ state.nsRrset }

/-- First write to a new filename and then rename to make sure that changes are
atomic. -/
def writeToNewAndRename (env : Environment) (filename : String) : Step Unit := do
  let filenameNew := filename ++ ".new"
  attempt env fun reason => s!"unable to create file {filenameNew}: {reason}"
  attempt env fun reason => s!"unable to write to file {filenameNew}: {reason}"
  attempt env fun reason => s!"unable to rename {filenameNew} to {filename}: {reason}"

/-- Write config to a file. -/
def writeConfig (env : Environment) : Run Unit := do
  perform (writeToNewAndRename env env.keysetConf)
  modify fun ws => { ws with savedConfig := ws.config }

/-- Write state to a file. -/
def writeState (env : Environment) : Run Unit := do
  modify fun ws => { ws with state := ws.state.withApex }
  let ws ← get
  perform (writeToNewAndRename env ws.config.stateFile)
  modify fun ws => { ws with savedState := ws.state }

/-- Save what has changed. -/
def persist (env : Environment) : Run Unit := do
  let ws ← get
  onlyIf ws.configChanged (writeConfig env)
  onlyIf ws.stateChanged (writeState env)

/-- Run a program. Its output is only passed on when it has failed. -/
def executeCommand (env : Environment) (program : String) : Step Unit := do
  attempt env fun reason => s!"creating for command for {program} failed: {reason}"
  let status ← nextCall
  match env.failure status with
  | none => return ()
  | some _ => do
      attempt env fun reason => s!"writing to stdout failed: {reason}"
      attempt env fun reason => s!"writing to stderr failed: {reason}"

def updateDs (env : Environment) : Run Unit := do
  let ws ← get
  onlyIf (ws.runUpdateDsCommand && !ws.config.updateDsCommand.isEmpty)
    (perform (executeCommand env (ws.config.updateDsCommand.headD "")))

/-! ## Invocations -/

/-- Everything an invocation computes before the first file is replaced. The
result says whether there is something to save. -/
def compute (env : Environment) (command : Commands) : Run Bool := do
  let ws ← get
  let now ← perform (faketimeOrNow env ws.config)
  subcommand env now command
  let ws ← get
  if ws.configChanged || ws.stateChanged then do
    updateCronNext env now
    return true
  else
    -- No need to update cron_next if nothing has changed.
    return false

/-- `Keyset::run` after the files have been loaded. -/
def run (env : Environment) (command : Commands) : Run Unit := do
  let changed ← compute env command
  onlyIf changed do
    persist env
    updateDs env

/-- The files of one zone and the key material around them. -/
structure System where
  config : KeySetConfig
  state : KeySetState
  tsigStore : TsigKeyStore
  keyStore : KeyStore

def System.load (system : System) : WorkSpace :=
  { config := system.config
    state := system.state
    configChanged := false
    stateChanged := false
    runUpdateDsCommand := false
    tsigStore := system.tsigStore
    savedConfig := system.config
    savedState := system.state
    keyStore := system.keyStore
    calls := 0 }

def WorkSpace.system (ws : WorkSpace) : System :=
  { config := ws.savedConfig
    state := ws.savedState
    tsigStore := ws.tsigStore
    keyStore := ws.keyStore }

/-- Lock the config file and load the files; nothing changes when that fails. -/
def loadFiles (env : Environment) : Run Unit :=
  perform (attempt env id)

/-- One invocation of the keyset command. -/
def invoke (env : Environment) (command : Commands) (system : System) :
    Except Fault Unit × System :=
  let result := Effect.exec (do loadFiles env; run env command) system.load
  (result.1, result.2.system)

/-! ## The create subcommand -/

def oneDay : Duration := fromSecs 86400

def fourWeeks : Duration := fromSecs 2419200

def createConfig (stateFile keysDir : String) : KeySetConfig :=
  { stateFile
    keysDir
    useCsk := false
    algorithm := .ecdsaP256Sha256
    kskRollType := .doubleSignatureKskRoll
    zskRollType := .prePublishZskRoll
    kskValidity := none
    zskValidity := none
    cskValidity := none
    autoKsk := .default
    autoZsk := .default
    autoCsk := .default
    autoAlgorithm := .default
    dnskeyInceptionOffset := oneDay
    dnskeySignatureLifetime := fourWeeks
    dnskeyRemainTime := fourWeeks / 2
    cdsInceptionOffset := oneDay
    cdsSignatureLifetime := fourWeeks
    cdsRemainTime := fourWeeks / 2
    dsAlgorithm := .sha256
    defaultTtl := defaultTtl
    autoremove := false
    autoremoveDelay := defaultAutoremoveDelay
    updateDsCommand := []
    faketime := none
    tsigStorePath := none
    nameservers := [] }

def createKeySet (domainName : Name) : KeySet := ⟨domainName, [], fun _ => none⟩

def createState (domainName : Name) : KeySetState :=
  { keyset := createKeySet domainName
    dnskeyRrset := []
    dsRrset := []
    cdsRrset := []
    nsRrset := []
    apexRemove := apexRemove
    apexExtra := []
    cronNext := none
    kmip := ⟨[], none⟩
    internal := fun _ => none }

/-- What the create subcommand leaves next to the key material found there. -/
def create (domainName : Name) (stateFile keysDir : String) (tsigStore : TsigKeyStore)
    (keyStore : KeyStore) : System :=
  { config := createConfig stateFile keysDir
    state := createState domainName
    tsigStore
    keyStore }

/-! ## Runs -/

/-- The systems that keyset commands lead to when each of them meets the
condition. Files that are imported later can be added in between. -/
inductive ReachableIf (platform : Platform)
    (condition : Environment → Commands → System → Prop) : System → Prop
  | create (domainName stateFile keysDir tsigStore keyStore) :
      ReachableIf platform condition
        (create domainName stateFile keysDir tsigStore keyStore)
  | addKeyFile {system path} (material) :
      ReachableIf platform condition system →
      system.keyStore (.file path) = none →
      ReachableIf platform condition
        { system with
          keyStore := Function.update system.keyStore (.file path) (some material) }
  | invoke {system} (env command) :
      ReachableIf platform condition system →
      env.toPlatform = platform →
      condition env command system →
      ReachableIf platform condition (invoke env command system).2

/-- The systems that any keyset commands lead to. -/
abbrev Reachable (platform : Platform) : System → Prop :=
  ReachableIf platform fun _ _ _ => True

theorem ReachableIf.mono {platform : Platform}
    {condition weaker : Environment → Commands → System → Prop} {system : System}
    (reachable : ReachableIf platform condition system)
    (implied : ∀ env command system, condition env command system →
      weaker env command system) :
    ReachableIf platform weaker system := by
  induction reachable with
  | create domainName stateFile keysDir tsigStore keyStore => exact .create _ _ _ _ _
  | addKeyFile material _ absent induction => exact .addKeyFile material induction absent
  | invoke env command _ same allowed induction =>
      exact .invoke env command induction same (implied _ _ _ allowed)

/-- Invoke commands one after the other, also after one that fails. -/
def runAll : List (Environment × Commands) → System → System
  | [], system => system
  | (env, command) :: rest, system => runAll rest (invoke env command system).2

/-- Every command meets the condition in the system that it finds. -/
def AllMeet (platform : Platform) (condition : Environment → Commands → System → Prop) :
    List (Environment × Commands) → System → Prop
  | [], _ => True
  | (env, command) :: rest, system =>
      (env.toPlatform = platform ∧ condition env command system) ∧
        AllMeet platform condition rest (invoke env command system).2

theorem ReachableIf.runAll {platform : Platform}
    {condition : Environment → Commands → System → Prop}
    {steps : List (Environment × Commands)} {system : System}
    (reachable : ReachableIf platform condition system)
    (meet : AllMeet platform condition steps system) :
    ReachableIf platform condition (runAll steps system) := by
  induction steps generalizing system with
  | nil => exact reachable
  | cons step steps induction =>
      rcases meet with ⟨⟨same, allowed⟩, rest⟩
      exact induction (reachable.invoke step.1 step.2 same allowed) rest

end Dnst.Keyset
