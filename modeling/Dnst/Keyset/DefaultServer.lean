import Dnst.Keyset.Kmip
import Dnst.Keyset.UpdateDs

/-! # The default KMIP server

New keys are generated in an HSM as long as a default server is set. Which
subcommand may set it is checked against every history of an installation.
-/

namespace Dnst.Keyset.Kmip

open Effect

/-! ## Files and settings are apart -/

section Frame

variable {kss : KeySetState} (env : KmipEnvironment)

/-- Nothing but credentials files is touched. -/
abbrev KeepsSettings {Value : Type} (kss : KeySetState) (action : KmipRun Value) : Prop :=
  Preserves (fun space => space.kss = kss) action

theorem nextFileCall_keepsSettings : KeepsSettings kss nextFileCall :=
  keeps_bind keeps_get fun _ => keeps_bind (keeps_modify fun _ same => same) fun _ =>
    keeps_pure _

theorem setFile_keepsSettings (path : String) (content : Option Bytes) :
    KeepsSettings kss (setFile path content) :=
  keeps_modify fun _ same => same

theorem mapErr_keepsSettings {Value : Type} (message : String → String)
    (result : Except String Value) :
    KeepsSettings kss (mapErr message result : KmipRun Value) := by
  cases result with
  | ok value => exact keeps_pure _
  | error reason => exact preserves_throw _

theorem refuseIf_keepsSettings (condition : Bool) (message : String) :
    KeepsSettings kss (refuseIf condition message : KmipRun Unit) :=
  keeps_ite (fun _ => preserves_throw _) fun _ => keeps_pure _

theorem ifSome_keepsSettings {Value : Type} (option : Option Value)
    {action : Value → KmipRun Unit} (keeps : ∀ value, KeepsSettings kss (action value)) :
    KeepsSettings kss (ifSome option action) := by
  cases option with
  | none => exact keeps_pure _
  | some value => exact keeps value

theorem attemptFile_keepsSettings (message : String → String) :
    KeepsSettings kss (attemptFile env message) := by
  refine keeps_bind nextFileCall_keepsSettings fun call => ?_
  cases env.fileFailure call with
  | none => exact keeps_pure _
  | some reason => exact preserves_throw _

theorem writeFile_keepsSettings (path : String) (text old : Bytes)
    (message : String → String) : KeepsSettings kss (writeFile env path text old message) := by
  refine keeps_bind nextFileCall_keepsSettings fun call => ?_
  cases env.fileFailure call with
  | none => exact keeps_pure _
  | some reason =>
      exact keeps_bind (setFile_keepsSettings _ _) fun _ => preserves_throw _

theorem new_keepsSettings (path : String) (mode : KmipServerCredentialsFileMode) :
    KeepsSettings kss (KmipClientCredentialsFile.new env path mode) := by
  have opened : KeepsSettings kss (openFile env path mode) := by
    refine keeps_bind (attemptFile_keepsSettings env _) fun _ => ?_
    refine keeps_bind keeps_get fun space => ?_
    split
    · exact keeps_pure _
    · exact setFile_keepsSettings _ _
    · exact preserves_throw _
  have loaded : KeepsSettings kss (loadCredentials env path) := by
    refine keeps_bind keeps_get fun space => ?_
    split
    · exact keeps_pure _
    · exact keeps_pure _
    · exact keeps_bind (attemptFile_keepsSettings env _) fun _ => mapErr_keepsSettings _ _
  exact keeps_bind opened fun _ => keeps_bind (attemptFile_keepsSettings env _) fun _ =>
    keeps_bind loaded fun _ => keeps_pure _

theorem save_keepsSettings (file : KmipClientCredentialsFile) :
    KeepsSettings kss (file.save env) := by
  refine keeps_bind (attemptFile_keepsSettings env _) fun _ => ?_
  refine keeps_bind keeps_get fun space => ?_
  refine keeps_bind (writeFile_keepsSettings env _ _ _ _) fun _ => ?_
  refine keeps_bind (writeFile_keepsSettings env _ _ _ _) fun _ => ?_
  refine keeps_bind (setFile_keepsSettings _ _) fun _ => ?_
  refine keeps_bind (attemptFile_keepsSettings env _) fun _ => ?_
  refine keeps_bind (attemptFile_keepsSettings env _) fun _ => ?_
  exact keeps_bind (setFile_keepsSettings _ _) fun _ => attemptFile_keepsSettings env _

theorem removeKmipClientCredentials_keepsSettings (serverId path : String) :
    KeepsSettings kss (removeKmipClientCredentials env serverId path) := by
  refine keeps_bind (new_keepsSettings env _ _) fun file => ?_
  cases file.credentials.lookup serverId with
  | none => exact preserves_throw _
  | some creds =>
      refine keeps_bind (save_keepsSettings env _) fun _ => ?_
      refine keeps_bind (keeps_ite (fun _ => ?_) fun _ => keeps_pure _) fun _ => keeps_pure _
      exact keeps_bind (attemptFile_keepsSettings env _) fun _ => setFile_keepsSettings _ _

theorem addCredentials_keepsSettings (serverId path : String)
    (credentials : Option KmipClientCredentials) :
    KeepsSettings kss (addCredentials env serverId path credentials) := by
  refine keeps_bind (new_keepsSettings env _ _) fun file => ?_
  cases credentials with
  | none => exact refuseIf_keepsSettings _ _
  | some credentials =>
      exact keeps_bind (refuseIf_keepsSettings _ _) fun _ => save_keepsSettings env _

theorem adjustCredentials_keepsSettings (username password : ChangeRemoveLeave String)
    (creds : KmipClientCredentials) :
    KeepsSettings kss (adjustCredentials username password creds) := by
  cases username with
  | change value => exact keeps_pure _
  | remove => exact preserves_throw _
  | leave => exact keeps_pure _

theorem movedCredentials_keepsSettings (serverId : String) (oldPath : Option String)
    (username password : ChangeRemoveLeave String) :
    KeepsSettings kss (movedCredentials env serverId oldPath username password) := by
  cases oldPath with
  | some path =>
      exact keeps_bind (removeKmipClientCredentials_keepsSettings env _ _) fun _ =>
        adjustCredentials_keepsSettings _ _ _
  | none =>
      cases username with
      | change username => exact keeps_pure _
      | remove => exact preserves_throw _
      | leave => exact preserves_throw _

theorem adjustedCredentials_keepsSettings (username password : ChangeRemoveLeave String)
    (found : Option KmipClientCredentials) :
    KeepsSettings kss (adjustedCredentials username password found) := by
  cases found with
  | some creds => exact adjustCredentials_keepsSettings _ _ _
  | none =>
      cases username with
      | change username => exact keeps_pure _
      | remove => exact preserves_throw _
      | leave => exact preserves_throw _

theorem changeCredentials_keepsSettings (serverId : String) (oldPath : Option String)
    (store username password : ChangeRemoveLeave String) :
    KeepsSettings kss (changeCredentials env serverId oldPath store username password) := by
  have moved : ∀ newPath, KeepsSettings kss (do
      let creds ← movedCredentials env serverId oldPath username password
      let newCredsFile ← KmipClientCredentialsFile.new env newPath .createReadWrite
      (newCredsFile.insert serverId creds).save env
      return some newPath) := fun newPath =>
    keeps_bind (movedCredentials_keepsSettings env _ _ _ _) fun _ =>
      keeps_bind (new_keepsSettings env _ _) fun _ =>
        keeps_bind (save_keepsSettings env _) fun _ => keeps_pure _
  have removed : KeepsSettings kss (do
      ifSome oldPath fun path => do
        let _ ← removeKmipClientCredentials env serverId path
        return ()
      return none : KmipRun (Option String)) :=
    keeps_bind (ifSome_keepsSettings _ fun _ =>
      keeps_bind (removeKmipClientCredentials_keepsSettings env _ _) fun _ => keeps_pure _)
      fun _ => keeps_pure _
  unfold changeCredentials
  split
  · exact keeps_pure _
  · exact preserves_throw _
  · exact preserves_throw _
  · exact preserves_throw _
  · exact preserves_throw _
  · exact removed
  · exact moved _
  · cases oldPath with
    | none => exact preserves_throw _
    | some path =>
        exact keeps_bind (new_keepsSettings env _ _) fun _ =>
          keeps_bind (adjustedCredentials_keepsSettings _ _ _) fun _ =>
            keeps_bind (save_keepsSettings env _) fun _ => keeps_pure _

end Frame

/-! ## What a subcommand makes of the settings -/

/-- The settings after a subcommand that has succeeded. -/
inductive Changes (platform : Platform) (keyset : KeySet) (kmip : KmipState) :
    KmipCommands → KmipState → Prop
  | disable : Changes platform keyset kmip .disable { kmip with defaultServerId := none }
  | addServer {options : AddServer} :
      HashMap.contains options.serverId kmip.servers = false →
      Changes platform keyset kmip (.addServer options)
        { servers := HashMap.insert options.serverId options.settings kmip.servers
          defaultServerId :=
            if !options.pending && kmip.servers.isEmpty then some options.serverId
            else kmip.defaultServerId }
  | modifyServer {options : ModifyServer} {cfg} :
      HashMap.contains options.serverId kmip.servers = true →
      Changes platform keyset kmip (.modifyServer options)
        { servers := HashMap.insert options.serverId cfg
            (HashMap.remove options.serverId kmip.servers)
          defaultServerId :=
            if (HashMap.remove options.serverId kmip.servers).isEmpty then
              some options.serverId
            else kmip.defaultServerId }
  | removeServer {serverId} :
      kmip.defaultServerId ≠ some serverId →
      (∀ entry ∈ keyset.keys, usesServer platform serverId entry.1 = false) →
      Changes platform keyset kmip (.removeServer serverId)
        { kmip with servers := HashMap.remove serverId kmip.servers }
  | setDefaultServer {serverId} :
      HashMap.contains serverId kmip.servers = true →
      Changes platform keyset kmip (.setDefaultServer serverId)
        { kmip with defaultServerId := some serverId }
  | getServer {serverId} : Changes platform keyset kmip (.getServer serverId) kmip
  | listServers : Changes platform keyset kmip .listServers kmip

section Settings

variable {kss : KeySetState} (env : KmipEnvironment)

/-- The outcome of a subcommand that returns, started with these settings. -/
abbrev Returns {Value : Type} (kss : KeySetState) (action : KmipRun Value)
    (post : KeySetState → Prop) : Prop :=
  Triple (fun space => space.kss = kss) action (fun _ space => post space.kss) fun _ _ => True

theorem KeepsSettings.returns {Value : Type} {action : KmipRun Value}
    (keeps : KeepsSettings kss action) :
    Triple (fun space => space.kss = kss) action (fun _ space => space.kss = kss)
      fun _ _ => True :=
  triple_weaken keeps (fun _ same => same) (fun _ _ same => same) fun _ _ _ => trivial

/-- What is not refused goes on with the check passed. -/
theorem triple_refuseIf {Value : Type} {condition : Bool} {message : String}
    {pre : KmipSpace → Prop} {next : PUnit → KmipRun Value}
    {post : Value → KmipSpace → Prop}
    (later : condition = false → Triple pre (next ⟨⟩) post fun _ _ => True) :
    Triple pre (refuseIf condition message >>= next) post fun _ _ => True := by
  cases condition with
  | true => exact fun _ _ => trivial
  | false => exact later rfl

/-- The default changes when there is just one server. -/
theorem setDefault_returns {condition : Bool} {serverId : String} :
    Returns kss (onlyIf condition (setDefault (some serverId))) fun after =>
      after = { kss with
        kmip.defaultServerId :=
          if condition then some serverId else kss.kmip.defaultServerId } := by
  cases condition with
  | true =>
      refine triple_modify ?_
      rintro space rfl
      rfl
  | false =>
      refine triple_pure ?_
      rintro space rfl
      rfl

theorem setServers_returns (change : List (String × KmipServerConnectionConfig) →
    List (String × KmipServerConnectionConfig)) :
    Returns kss (setServers change) fun after =>
      after = { kss with kmip.servers := change kss.kmip.servers } := by
  refine triple_modify ?_
  rintro space rfl
  rfl

theorem length_insert (serverId : String) (cfg : KmipServerConnectionConfig)
    (servers : List (String × KmipServerConnectionConfig)) :
    ((HashMap.insert serverId cfg servers).length == 1) =
      (HashMap.remove serverId servers).isEmpty := by
  unfold HashMap.insert
  cases HashMap.remove serverId servers <;> rfl

/-- The end of `add-server` and `modify-server`. -/
theorem insertServer_returns (condition : List (String × KmipServerConnectionConfig) → Bool)
    (serverId : String) (cfg : KmipServerConnectionConfig) :
    Returns kss (do
        setServers (HashMap.insert serverId cfg)
        let space ← get
        onlyIf (condition space.kss.kmip.servers) (setDefault (some serverId))) fun after =>
      after.kmip =
        { servers := HashMap.insert serverId cfg kss.kmip.servers
          defaultServerId :=
            if condition (HashMap.insert serverId cfg kss.kmip.servers) then some serverId
            else kss.kmip.defaultServerId } := by
  refine triple_bind (setServers_returns _) fun _ => ?_
  refine triple_bind_get fun space same => ?_
  dsimp only at same
  refine triple_weaken setDefault_returns (fun _ same => same) ?_ fun _ _ _ => trivial
  intro _ final after
  rw [after, same]

theorem addKmipServer_returns (options : AddServer) :
    Returns kss (addKmipServer env options) fun after =>
      Changes env.toPlatform kss.keyset kss.kmip (.addServer options) after.kmip := by
  refine triple_bind_get fun space same => ?_
  subst same
  refine triple_refuseIf fun absent => ?_
  have stored : KeepsSettings space.kss (ifSome options.credentialsStorePath fun path =>
      addCredentials env options.serverId path options.credentials) :=
    ifSome_keepsSettings _ fun _ => addCredentials_keepsSettings env _ _ _
  refine triple_bind stored.returns fun _ => ?_
  refine triple_weaken (insertServer_returns (fun servers =>
    !options.pending && servers.length == 1) options.serverId options.settings)
    (fun _ same => same) ?_ fun _ _ _ => trivial
  intro _ final same
  rw [length_insert, HashMap.remove_of_not_contains absent] at same
  dsimp only
  rw [same]
  exact .addServer absent

theorem modifyKmipServer_returns (options : ModifyServer) :
    Returns kss (modifyKmipServer env options) fun after =>
      Changes env.toPlatform kss.keyset kss.kmip (.modifyServer options) after.kmip := by
  refine triple_bind_get fun space same => ?_
  subst same
  cases listed : space.kss.kmip.servers.lookup options.serverId with
  | none => exact fun _ _ => trivial
  | some cfg =>
      refine triple_bind (setServers_returns _) fun _ => ?_
      refine triple_bind (changeCredentials_keepsSettings env _ _ _ _ _).returns fun path => ?_
      refine triple_bind (mapErr_keepsSettings _ _).returns fun auth => ?_
      refine triple_weaken (insertServer_returns (fun servers => servers.length == 1)
        options.serverId (options.settings path auth cfg))
        (fun _ same => same) ?_ fun _ _ _ => trivial
      intro _ final same
      have present : HashMap.contains options.serverId space.kss.kmip.servers = true := by
        unfold HashMap.contains
        rw [listed]
        rfl
      rw [length_insert, HashMap.remove_remove] at same
      dsimp only
      rw [same]
      exact .modifyServer present

theorem removeKmipServer_returns (serverId : String) :
    Returns kss (removeKmipServer env serverId) fun after =>
      Changes env.toPlatform kss.keyset kss.kmip (.removeServer serverId) after.kmip := by
  refine triple_bind_get fun space same => ?_
  subst same
  refine triple_refuseIf fun notDefault => triple_refuseIf fun unused => ?_
  refine triple_bind (setServers_returns _) fun _ => ?_
  have forgotten : ∀ (kss : KeySetState) (path : String), KeepsSettings kss (do
      let _ ← removeKmipClientCredentials env serverId path
      return () : KmipRun Unit) := fun _ _ =>
    keeps_bind (removeKmipClientCredentials_keepsSettings env _ _) fun _ => keeps_pure _
  refine triple_weaken (ifSome_keepsSettings _ (forgotten _)).returns (fun _ same => same) ?_
    fun _ _ _ => trivial
  intro _ final same
  dsimp only at same ⊢
  rw [same]
  apply Changes.removeServer
  · intro isDefault
    rw [isDefault] at notDefault
    simp at notDefault
  · intro entry member
    have all := List.any_eq_false.mp unused entry member
    simpa using all

theorem setDefault_only (serverId : Option String) :
    Returns kss (setDefault serverId) fun after =>
      after.kmip = { kss.kmip with defaultServerId := serverId } := by
  refine triple_modify ?_
  rintro space rfl
  rfl

/-- Returning the error in another wording. -/
theorem triple_reworded {Value Result : Type} {action : KmipRun Value}
    {pre : KmipSpace → Prop} {middle : Value → KmipSpace → Prop}
    {post : Result → KmipSpace → Prop} {message : String → String}
    {next : Value → KmipRun Result}
    (acts : Triple pre action middle fun _ _ => True)
    (later : ∀ value, Triple (middle value) (next value) post fun _ _ => True) :
    Triple pre (do
      let result ← capture action
      let value ← mapErr message result
      next value) post fun _ _ => True := by
  refine triple_of_runs ?_ fun _ _ _ _ _ => trivial
  intro space value final before run
  rw [exec_bind, exec_capture] at run
  rcases inner : exec action space with ⟨⟨reason | reason⟩ | found, middle⟩
  · rw [inner] at run
    cases run
  · rw [inner] at run
    cases run
  · rw [inner] at run
    exact (later found).ok (acts.ok before inner) run

/-- What a subcommand that succeeds makes of the settings. -/
theorem kmipCommand_returns (command : KmipCommands) :
    Returns kss (kmipCommand env command) fun after =>
      Changes env.toPlatform kss.keyset kss.kmip command after.kmip := by
  cases command with
  | disable =>
      refine triple_bind (setDefault_only none) fun _ => triple_pure ?_
      intro _ same
      dsimp only at same ⊢
      rw [same]
      exact .disable
  | addServer options =>
      exact triple_bind (addKmipServer_returns env options) fun _ =>
        triple_pure fun _ after => after
  | modifyServer options =>
      exact triple_reworded (modifyKmipServer_returns env options) fun _ =>
        triple_pure fun _ after => after
  | removeServer serverId =>
      exact triple_bind (removeKmipServer_returns env serverId) fun _ =>
        triple_pure fun _ after => after
  | setDefaultServer serverId =>
      refine triple_bind_get fun space same => ?_
      subst same
      refine triple_refuseIf fun known => ?_
      refine triple_bind (setDefault_only (some serverId)) fun _ => triple_pure ?_
      intro _ same
      dsimp only at same ⊢
      rw [same]
      exact .setDefaultServer (by simpa using known)
  | getServer serverId =>
      refine triple_bind_get fun space same => triple_refuseIf fun _ => triple_pure ?_
      rintro _ rfl
      exact .getServer
  | listServers =>
      refine triple_pure ?_
      rintro _ rfl
      exact .listServers

end Settings

/-! ## Who changes the default -/

/-- The default is a configured server. -/
def DefaultConfigured (kmip : KmipState) : Prop :=
  ∀ serverId, kmip.defaultServerId = some serverId →
    HashMap.contains serverId kmip.servers = true

/-- A key of the key set has a URL that names the server. -/
def InUse (platform : Platform) (keyset : KeySet) (serverId : String) : Prop :=
  ∃ entry ∈ keyset.keys, usesServer platform serverId entry.1 = true

/-- The default that a subcommand asks for. -/
def KmipCommands.asks (kmip : KmipState) : KmipCommands → Option (Option String)
  | .disable => some none
  | .setDefaultServer serverId => some (some serverId)
  | .addServer options =>
      if !options.pending && kmip.servers.isEmpty then some (some options.serverId) else none
  | _ => none

/-- A server is not modified while it is the only one and not the default. -/
def KmipCommands.LeavesDefault (kmip : KmipState) (command : KmipCommands) : Prop :=
  ∀ options, command = .modifyServer options →
    HashMap.contains options.serverId kmip.servers = true →
    HashMap.remove options.serverId kmip.servers = [] →
    kmip.defaultServerId = some options.serverId

namespace Changes

variable {platform : Platform} {keyset : KeySet} {kmip next : KmipState}
variable {command : KmipCommands}

theorem configured (changes : Changes platform keyset kmip command next)
    (before : DefaultConfigured kmip) : DefaultConfigured next := by
  intro serverId isDefault
  cases changes with
  | disable => cases isDefault
  | addServer absent =>
      dsimp only at isDefault ⊢
      split at isDefault
      · cases isDefault
        exact HashMap.contains_insert_self _ _ _
      · exact HashMap.contains_insert _ (before serverId isDefault)
  | @modifyServer options cfg present =>
      dsimp only at isDefault ⊢
      by_cases same : serverId = options.serverId
      · rw [same]
        exact HashMap.contains_insert_self _ _ _
      · split at isDefault
        · cases isDefault
          exact absurd rfl same
        · apply HashMap.contains_insert
          rw [HashMap.contains_remove same]
          exact before serverId isDefault
  | @removeServer removed notDefault unused =>
      dsimp only at isDefault ⊢
      have different : serverId ≠ removed := by
        rintro rfl
        exact notDefault isDefault
      rw [HashMap.contains_remove different]
      exact before serverId isDefault
  | setDefaultServer present =>
      cases isDefault
      exact present
  | getServer => exact before serverId isDefault
  | listServers => exact before serverId isDefault

theorem keepsUsed (changes : Changes platform keyset kmip command next) {serverId : String}
    (used : InUse platform keyset serverId)
    (listed : HashMap.contains serverId kmip.servers = true) :
    HashMap.contains serverId next.servers = true := by
  cases changes with
  | disable => exact listed
  | addServer absent => exact HashMap.contains_insert _ listed
  | @modifyServer options cfg present =>
      by_cases same : serverId = options.serverId
      · rw [same]
        exact HashMap.contains_insert_self _ _ _
      · apply HashMap.contains_insert
        rw [HashMap.contains_remove same]
        exact listed
  | @removeServer removed notDefault unused =>
      rcases used with ⟨entry, member, names⟩
      have different : serverId ≠ removed := by
        rintro rfl
        rw [unused entry member] at names
        cases names
      dsimp only
      rw [HashMap.contains_remove different]
      exact listed
  | setDefaultServer present => exact listed
  | getServer => exact listed
  | listServers => exact listed

theorem default_asked (changes : Changes platform keyset kmip command next)
    (leaves : command.LeavesDefault kmip) :
    next.defaultServerId = kmip.defaultServerId ∨
      command.asks kmip = some next.defaultServerId := by
  cases changes with
  | disable => exact Or.inr rfl
  | @addServer options absent =>
      unfold KmipCommands.asks
      dsimp only
      split
      · exact Or.inr rfl
      · exact Or.inl rfl
  | @modifyServer options cfg present =>
      left
      dsimp only
      split
      · next only => exact (leaves options rfl present (List.isEmpty_iff.mp only)).symm
      · rfl
  | removeServer notDefault unused => exact Or.inl rfl
  | setDefaultServer present => exact Or.inr rfl
  | getServer => exact Or.inl rfl
  | listServers => exact Or.inl rfl

end Changes

/-! ## Other subcommands -/

/-- The same servers are configured, with the same default. -/
structure SameServers (before after : KmipState) : Prop where
  servers : ∀ serverId,
    HashMap.contains serverId after.servers = HashMap.contains serverId before.servers
  default : after.defaultServerId = before.defaultServerId

theorem SameServers.refl (kmip : KmipState) : SameServers kmip kmip := ⟨fun _ => rfl, rfl⟩

/-- Labels have no influence on which servers there are. -/
theorem SameServers.relabeled {before after : KmipState} (same : SameServers before after)
    (serverId : String) : SameServers before (disableRelabeling serverId after) := by
  refine ⟨fun other => ?_, same.default⟩
  rw [← same.servers other, Bool.eq_iff_iff, HashMap.contains_iff, HashMap.contains_iff]
  have keys : (disableRelabeling serverId after).servers.map Prod.fst =
      after.servers.map Prod.fst := by
    unfold disableRelabeling
    rw [List.map_map]
    apply List.map_congr_left
    intro entry _
    dsimp only [Function.comp]
    split <;> rfl
  rw [keys]

section OtherSubcommands

variable {env : Environment} {known : KmipState}

theorem sameServers_rebuilding :
    Rebuilding env (fun ws => SameServers known ws.state.kmip) fun _ _ => True where
  fails := fun _ _ _ _ => trivial
  calls := fun _ _ same => same
  runUpdateDsCommand := fun _ same => same
  dnskeyRrset := fun _ _ _ _ same _ => same
  cdsRrset := fun _ _ _ _ same _ => same
  cdsRemoved := fun _ same => same
  dsRrset := fun _ _ _ _ same _ _ => same

theorem sameServers_custody :
    Custody env (fun ws => SameServers known ws.state.kmip) (fun _ _ => True)
      fun _ => True where
  toRebuilding := sameServers_rebuilding
  stateChanged := fun _ same => same
  keySet := fun _ _ same _ => same
  cronNext := fun _ _ same => same
  relabeled := fun _ serverId same => same.relabeled serverId
  entry := fun _ _ _ _ _ _ _ _ => trivial
  done := fun roll => by
    have rebuilding := @sameServers_rebuilding env known
    apply keeps_bind
    · apply doDone_triple rebuilding.toTolerant roll
      · exact fun _ _ _ _ _ _ _ => trivial
      · exact fun _ _ _ _ same _ => same
    · exact fun _ => keeps_modify fun _ same => same
  starts := fun roll actions => by
    apply triple_weaken (finishStart_keeps sameServers_rebuilding (fun _ _ same => same) roll
      actions)
    · rintro ws ⟨before, now, old, new, keyset, same, _, _, rfl⟩
      exact same
    · exact fun _ _ after => after
    · exact fun _ _ after => after
  absent := fun _ _ _ _ => trivial
  newFile := fun _ _ _ _ _ _ _ _ => trivial
  newPair := fun _ _ _ _ _ => ⟨fun _ _ => trivial, fun _ _ => trivial⟩
  keyStore := fun _ _ _ same _ => same

/-- No other subcommand adds or removes a server or changes the default. -/
theorem invoke_sameServers {command : Commands}
    (other : ∀ subcommand, command ≠ .kmip subcommand) (system : System) :
    SameServers system.state.kmip (invoke env command system).2.state.kmip := by
  rcases invoke_state env command system with kept | ⟨computed, run, written⟩
  · rw [kept]
    exact .refl _
  · rw [written]
    have custody := @sameServers_custody env system.state.kmip
    have loading := perform_keeps custody.toTolerant (attempt_ordinary env id)
    have computing := anyCompute_keeps custody (fun _ _ _ _ same _ => same)
      (fun _ _ same => same) command (fun _ _ _ _ same _ _ _ _ => same)
      fun subcommand isKmip => absurd isKmip (other subcommand)
    have whole := keeps_bind loading fun _ => computing
    exact Keeps.ok whole (.refl _) run

theorem kmipCommand_ok {subcommand : KmipState → Except String (Bool × KmipState)}
    {ws final : WorkSpace}
    (run : exec (Keyset.kmipCommand subcommand) ws = (.ok ⟨⟩, final)) :
    ∃ changed kmip, subcommand ws.state.kmip = .ok (changed, kmip) ∧
      final = { ws with state.kmip := kmip, stateChanged := changed } := by
  unfold Keyset.kmipCommand at run
  rw [exec_bind_of_ok (exec_get ws)] at run
  cases result : subcommand ws.state.kmip with
  | error reason =>
      rw [result] at run
      cases run
  | ok outcome =>
      rw [result] at run
      cases run
      exact ⟨_, _, rfl, rfl⟩

/-- What follows a subcommand leaves the KMIP settings alone. -/
theorem kmip_of_finish {now : UnixTime} {ws final : WorkSpace} {changed : Bool}
    (run : exec (do
      let ws ← get
      if ws.configChanged || ws.stateChanged then do
        updateCronNext env now
        return true
      else
        return false : Run Bool) ws = (.ok changed, final)) :
    final.state.kmip = ws.state.kmip := by
  rw [exec_bind_of_ok (exec_get ws)] at run
  split at run
  · obtain ⟨_, scheduled, scheduling, returning⟩ := exec_bind_eq_ok.mp run
    obtain ⟨entries, middle, _, _, _, _, state⟩ := updateCronNext_ok scheduling
    cases returning
    rw [state]
  · cases run
    rfl

/-- A KMIP subcommand is applied to the settings that have been loaded. -/
theorem compute_kmip {subcommand : KmipState → Except String (Bool × KmipState)}
    {system : System} {computed : WorkSpace} {changed : Bool}
    (run : exec (do loadFiles env; compute env (.kmip subcommand)) system.load =
      (.ok changed, computed)) :
    ∃ marked, subcommand system.state.kmip = .ok (marked, computed.state.kmip) := by
  obtain ⟨_, loaded, loading, computing⟩ := exec_bind_eq_ok.mp run
  obtain ⟨calls, _, rfl⟩ := exec_perform_eq_ok loading
  unfold compute at computing
  rw [exec_bind_of_ok (exec_get _)] at computing
  obtain ⟨now, timed, reading, computing⟩ := exec_bind_eq_ok.mp computing
  obtain ⟨calls, _, rfl⟩ := exec_perform_eq_ok reading
  obtain ⟨_, changed, applying, finishing⟩ := exec_bind_eq_ok.mp computing
  have applied : exec (Keyset.kmipCommand subcommand)
      ({ system.load with calls } : WorkSpace) = (.ok ⟨⟩, changed) := applying
  obtain ⟨marked, kmip, result, rfl⟩ := kmipCommand_ok applied
  rw [kmip_of_finish finishing]
  exact ⟨marked, result⟩

theorem invoke_kmip (subcommand : KmipState → Except String (Bool × KmipState))
    (system : System) :
    (invoke env (.kmip subcommand) system).2.state.kmip = system.state.kmip ∨
      ∃ changed, subcommand system.state.kmip =
        .ok (changed, (invoke env (.kmip subcommand) system).2.state.kmip) := by
  rcases invoke_state env (.kmip subcommand) system with kept | ⟨computed, run, written⟩
  · rw [kept]
    exact Or.inl rfl
  · have apex : ∀ state : KeySetState, state.withApex.kmip = state.kmip := fun _ => rfl
    rw [written, apex]
    exact Or.inr (compute_kmip run)

/-- Nothing is saved when the subcommand fails. -/
theorem invoke_kmip_error {subcommand : KmipState → Except String (Bool × KmipState)}
    {system : System} {reason : String}
    (fails : subcommand system.state.kmip = .error reason) :
    (invoke env (.kmip subcommand) system).2.state = system.state := by
  rcases invoke_state env (.kmip subcommand) system with kept | ⟨computed, run, written⟩
  · exact kept
  · obtain ⟨marked, result⟩ := compute_kmip run
    rw [fails] at result
    cases result

/-- Saving is the last thing that can fail: the update-ds command does not run. -/
theorem invoke_kmip_failed {subcommand : KmipState → Except String (Bool × KmipState)}
    {system : System} {fault : Fault}
    (fails : (invoke env (.kmip subcommand) system).1 = .error fault) :
    (invoke env (.kmip subcommand) system).2.state = system.state := by
  have before := (@compute_saved env (.kmip subcommand) system).2
  rcases computing : exec (do loadFiles env; compute env (.kmip subcommand)) system.load with
    ⟨reason | changed, computed⟩
  · rw [computing] at before
    rw [invoke_of_error computing]
    exact before
  · rw [computing] at before
    cases changed with
    | false =>
        rw [invoke_of_unchanged computing]
        exact before
    | true =>
        rw [invoke_of_compute computing]
        rcases saving : exec (persist env) computed with ⟨reason | ⟨⟩, saved⟩
        · exact (persist_error saving).trans before
        · have quiet : saved.runUpdateDsCommand = false :=
            (persist_flags saving).1.trans (quiet_of_computed rfl computing)
          have announcing : exec (updateDs env) saved = (.ok ⟨⟩, saved) := by
            unfold updateDs
            rw [exec_bind_of_ok (exec_get saved), quiet]
            rfl
          have ending : exec (do persist env; updateDs env) computed = (.ok ⟨⟩, saved) :=
            (exec_bind_of_ok saving).trans announcing
          have succeeds : (invoke env (.kmip subcommand) system).1 = .ok ⟨⟩ := by
            unfold invoke run
            rw [← bind_assoc, exec_bind_of_ok computing]
            exact congrArg Prod.fst ending
          rw [fails] at succeeds
          cases succeeds

end OtherSubcommands

/-! ## Histories of an installation -/

/-- Something that happens to an installation. -/
inductive Event where
  | keyset (env : Environment) (command : Commands)
  | kmip (env : KmipEnvironment) (command : KmipCommands)
  /-- A key file that is imported later. -/
  | addKeyFile (path : String) (material : KeyMaterial)
  /-- Credentials files can be written by hand. -/
  | editCredentials (path : String) (content : Option Bytes)

def Event.Possible (platform : Platform) (installation : Installation) : Event → Prop
  | .keyset env command =>
      env.toPlatform = platform ∧ ∀ subcommand, command ≠ .kmip subcommand
  | .kmip env _ => env.toPlatform = platform
  | .addKeyFile path _ => installation.keyStore (.file path) = none
  | .editCredentials _ _ => True

def Installation.after (installation : Installation) : Event → Installation
  | .keyset env command =>
      { (invoke env command installation.toSystem).2 with
        credentialFiles := installation.credentialFiles }
  | .kmip env command => (invokeKmip env command installation).2
  | .addKeyFile path material =>
      { installation with
        keyStore := Function.update installation.keyStore (.file path) (some material) }
  | .editCredentials path content =>
      { installation with
        credentialFiles := Function.update installation.credentialFiles path content }

/-- The default that an event asks for. -/
def Event.asks (installation : Installation) : Event → Option (Option String)
  | .kmip _ command => command.asks installation.state.kmip
  | _ => none

/-- No server is successfully modified while it is the only one and not the default. -/
def Event.LeavesDefault (installation : Installation) (event : Event) : Prop :=
  ∀ env command, event = .kmip env command →
    (invokeKmip env command installation).1 = .ok ⟨⟩ →
    command.LeavesDefault installation.state.kmip

/-- The installations that events meeting the condition lead to, with what happened to
which installation before, the last event first. -/
inductive Reaches (platform : Platform) (condition : Installation → Event → Prop) :
    List (Installation × Event) → Installation → Prop
  | create (domainName stateFile keysDir tsigStore keyStore credentialFiles) :
      Reaches platform condition []
        { create domainName stateFile keysDir tsigStore keyStore with credentialFiles }
  | step {history installation} (event : Event) :
      Reaches platform condition history installation →
      event.Possible platform installation → condition installation event →
      Reaches platform condition ((installation, event) :: history)
        (installation.after event)

/-- An event leads from one state of the KMIP settings to another as it should. -/
structure InOrder (platform : Platform) (installation : Installation) (event : Event) :
    Prop where
  keepsUsed : ∀ serverId, InUse platform installation.state.keyset serverId →
    HashMap.contains serverId installation.state.kmip.servers = true →
    HashMap.contains serverId (installation.after event).state.kmip.servers = true
  default : (installation.after event).state.kmip.defaultServerId =
      installation.state.kmip.defaultServerId ∨
    event.asks installation = some (installation.after event).state.kmip.defaultServerId

/-- The settings stay in a good state. -/
def GoesOnConfigured (installation : Installation) (event : Event) : Prop :=
  DefaultConfigured installation.state.kmip →
    DefaultConfigured (installation.after event).state.kmip

section Steps

variable {platform : Platform} {installation : Installation}

/-- The settings after an invocation are those before or those that the subcommand has
made of them. -/
theorem invokeKmip_changes (env : KmipEnvironment) (command : KmipCommands) :
    (invokeKmip env command installation).2.state.kmip = installation.state.kmip ∨
      Changes env.toPlatform installation.state.keyset installation.state.kmip command
        (invokeKmip env command installation).2.state.kmip := by
  let attempted := installation.attempt env command
  rcases @invoke_kmip env.toEnvironment (fun _ => settingsOf attempted)
      installation.toSystem with kept | ⟨changed, result⟩
  · exact Or.inl kept
  · right
    rcases run : installation.attempt env command with ⟨⟨message | message⟩ | value, final⟩
    · simp only [attempted, run] at result
      cases result
    · simp only [attempted, run] at result
      cases result
    · have changes := (kmipCommand_returns env command).ok rfl run
      simp only [attempted, run, settingsOf, Except.ok.injEq, Prod.mk.injEq] at result
      unfold invokeKmip
      dsimp only
      rw [run]
      have same := result.2
      simp only [settingsOf] at same ⊢
      rw [← same]
      exact changes

theorem SameServers.inOrder {event : Event}
    (same : SameServers installation.state.kmip (installation.after event).state.kmip) :
    InOrder platform installation event ∧ GoesOnConfigured installation event := by
  refine ⟨⟨fun serverId _ listed => ?_, Or.inl same.default⟩, fun configured serverId => ?_⟩
  · rw [same.servers]
    exact listed
  · rw [same.default, same.servers]
    exact configured serverId

/-- The step lemma: an event that leaves the default of a single server alone. -/
theorem inOrder_of_possible {event : Event} (possible : event.Possible platform installation)
    (leaves : event.LeavesDefault installation) :
    InOrder platform installation event ∧ GoesOnConfigured installation event := by
  cases event with
  | keyset env command =>
      exact SameServers.inOrder (invoke_sameServers possible.2 installation.toSystem)
  | kmip env command =>
      have unchanged : (invokeKmip env command installation).2.state.kmip =
          installation.state.kmip →
          InOrder platform installation (.kmip env command) ∧
            GoesOnConfigured installation (.kmip env command) := by
        intro kept
        apply SameServers.inOrder
        change SameServers _ (invokeKmip env command installation).2.state.kmip
        rw [kept]
        exact .refl _
      cases result : (invokeKmip env command installation).1 with
      | error fault => exact unchanged (congrArg KeySetState.kmip (invoke_kmip_failed result))
      | ok =>
          rcases @invokeKmip_changes installation env command with kept | changes
          · exact unchanged kept
          · have same : env.toPlatform = platform := possible
            rw [same] at changes
            have asked := changes.default_asked (leaves env command rfl result)
            exact ⟨⟨fun _ => changes.keepsUsed, asked⟩, changes.configured⟩
  | addKeyFile path material => exact SameServers.inOrder (.refl _)
  | editCredentials path content => exact SameServers.inOrder (.refl _)

end Steps

/-- What holds in every history: the default is a configured server that was asked for,
and whatever comes next goes in order. -/
structure DefaultInOrder (platform : Platform) (history : List (Installation × Event))
    (installation : Installation) : Prop where
  configured : DefaultConfigured installation.state.kmip
  asked : ∀ serverId, installation.state.kmip.defaultServerId = some serverId →
    ∃ step ∈ history, step.2.asks step.1 = some (some serverId)
  next : ∀ event : Event, event.Possible platform installation →
    event.LeavesDefault installation → InOrder platform installation event

theorem default_inOrder {platform : Platform} {history : List (Installation × Event)}
    {installation : Installation}
    (reaches : Reaches platform Event.LeavesDefault history installation) :
    DefaultInOrder platform history installation := by
  have next : ∀ {installation : Installation} (event : Event),
      event.Possible platform installation → event.LeavesDefault installation →
      InOrder platform installation event :=
    fun event possible leaves => (inOrder_of_possible possible leaves).1
  induction reaches with
  | create domainName stateFile keysDir tsigStore keyStore credentialFiles =>
      exact ⟨nofun, nofun, next⟩
  | @step history installation event reaches possible leaves induction =>
      obtain ⟨inOrder, goesOn⟩ := inOrder_of_possible possible leaves
      refine ⟨goesOn induction.configured, fun serverId isDefault => ?_, next⟩
      rcases inOrder.default with kept | asked
      · rw [kept] at isDefault
        obtain ⟨step, member, asked⟩ := induction.asked serverId isDefault
        exact ⟨step, List.mem_cons_of_mem _ member, asked⟩
      · rw [isDefault] at asked
        exact ⟨_, List.mem_cons_self, asked⟩

/-! ## A pending server -/

namespace Reference

/-- Credentials files are not used. -/
def environment : KmipEnvironment where
  toEnvironment := Keyset.Reference.environment 1 (fromSecs 1000000)
  fileFailure := fun _ => none
  written := fun _ => 0
  parseCredentials := fun _ => .error "EOF while parsing a value at line 1 column 0"
  showCredentials := fun _ _ => "\x7b\x7d".toUTF8.data.toList

def addHsm (pending : Bool) : AddServer where
  serverId := "hsm"
  ipHostOrFqdn := "hsm.example"
  port := 5696
  pending
  credentialsStorePath := none
  username := none
  password := none
  clientCertPath := none
  clientKeyPath := none
  insecure := false
  serverCertPath := none
  caCertPath := none
  connectTimeout := fromSecs 3
  readTimeout := fromSecs 30
  writeTimeout := fromSecs 3
  maxResponseBytes := 8192
  keyLabelPrefix := none
  keyLabelMaxBytes := 32

def changePort : ModifyServer where
  serverId := "hsm"
  ipHostOrFqdn := none
  port := some 5697
  noCredentials := false
  credentialsStorePath := none
  username := none
  password := none
  noClientAuth := false
  clientCertPath := none
  clientKeyPath := none
  insecure := none
  serverCertPath := none
  caCertPath := none
  connectTimeout := none
  readTimeout := none
  writeTimeout := none
  maxResponseBytes := none
  keyLabelPrefix := none
  keyLabelMaxBytes := none

def created : Installation :=
  { Keyset.Reference.created with credentialFiles := fun _ => none }

def withHsm (pending : Bool) : Installation :=
  created.after (.kmip environment (.addServer (addHsm pending)))

theorem withHsm_reaches {condition : Installation → Event → Prop} (pending : Bool)
    (allowed : condition created (.kmip environment (.addServer (addHsm pending)))) :
    Reaches Keyset.Reference.platform condition
      [(created, .kmip environment (.addServer (addHsm pending)))] (withHsm pending) := by
  have start : Reaches Keyset.Reference.platform condition [] created := .create _ _ _ _ _ _
  exact start.step _ rfl allowed

end Reference

theorem default_inOrder_withHsm :
    DefaultInOrder Keyset.Reference.platform
        [(Reference.created, .kmip Reference.environment (.addServer (Reference.addHsm false)))]
        (Reference.withHsm false) ∧
      (Reference.withHsm false).state.kmip.defaultServerId = some "hsm" := by
  refine ⟨default_inOrder (Reference.withHsm_reaches false ?_), by decide +kernel⟩
  rintro env command same _ options isModify
  cases same
  cases isModify

/-- Another port makes a pending server the default. -/
theorem default_pendingModified :
    ∃ history installation event,
      Reaches Keyset.Reference.platform (fun _ _ => True) history installation ∧
        event.Possible Keyset.Reference.platform installation ∧
        installation.state.kmip.defaultServerId = none ∧
        (installation.after event).state.kmip.defaultServerId = some "hsm" ∧
        event.asks installation = none ∧
        ¬ InOrder Keyset.Reference.platform installation event := by
  let event : Event := .kmip Reference.environment (.modifyServer Reference.changePort)
  have before : (Reference.withHsm true).state.kmip.defaultServerId = none := by
    decide +kernel
  have after : ((Reference.withHsm true).after event).state.kmip.defaultServerId =
      some "hsm" := by decide +kernel
  have asked : event.asks (Reference.withHsm true) = none := rfl
  refine ⟨_, _, event, Reference.withHsm_reaches true trivial, rfl, before, after, asked, ?_⟩
  intro inOrder
  rcases inOrder.default with kept | asks
  · rw [before, after] at kept
    cases kept
  · rw [asked] at asks
    cases asks

end Dnst.Keyset.Kmip
