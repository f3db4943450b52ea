import Mathlib.Logic.Equiv.List
import Dnst.Keyset.LateFailures

/-! # All or nothing

It is read off from the outcome for the credentials files when a subcommand that fails
has changed nothing, and that the credentials of other servers are left alone otherwise.
-/

namespace Dnst.Keyset.Kmip

open Effect

/-! ## All or nothing -/

/-- The server that a subcommand names. -/
def KmipCommands.server : KmipCommands → Option String
  | .disable => none
  | .addServer options => some options.serverId
  | .modifyServer options => some options.serverId
  | .removeServer serverId => some serverId
  | .setDefaultServer serverId => some serverId
  | .getServer serverId => some serverId
  | .listServers => none

/-- The credentials of a server that can be read from a file. -/
def storedCredentials (env : KmipEnvironment) (content : Option Bytes) (serverId : String) :
    Option KmipClientCredentials :=
  match content with
  | none => none
  | some bytes =>
      if bytes.isEmpty then none
      else ((env.parseCredentials bytes).toOption.bind fun set => set.lookup serverId)

/-- A subcommand that fails leaves every credentials file as it was, and so is the state
file. Other servers are not touched in any case. -/
structure AllOrNothing (env : KmipEnvironment) (space : KmipSpace) (command : KmipCommands) :
    Prop where
  restores : (exec (kmipCommand env command) space).1.isOk = false →
    (exec (kmipCommand env command) space).2.files = space.files
  persists : (exec (kmipCommand env command) space).1.isOk = false →
    ∀ system : System, system.state = space.kss →
      (invoke env.toEnvironment
        (.kmip fun _ => settingsOf (exec (kmipCommand env command) space)) system).2.state =
          space.kss
  configured : ∀ other, command.server ≠ some other →
    (exec (kmipCommand env command) space).2.kss.kmip.servers.lookup other =
      space.kss.kmip.servers.lookup other
  stored : ∀ path other, command.server ≠ some other →
    storedCredentials env ((exec (kmipCommand env command) space).2.files path) other =
      storedCredentials env (space.files path) other

/-- Failing with changed files is all that can go wrong with the files. -/
theorem restores_iff {env : KmipEnvironment} {space : KmipSpace} {command : KmipCommands} :
    ((exec (kmipCommand env command) space).1.isOk = false →
        (exec (kmipCommand env command) space).2.files = space.files) ↔
      ¬ (command.outcome env space).Stops (· ≠ space.files) := by
  have ends := @kmipCommand_ends env space command
  cases outcome : command.outcome env space with
  | stopped files =>
      rw [outcome] at ends
      obtain ⟨⟨message, failed⟩, left⟩ := ends
      rw [failed, left]
      constructor
      · intro restores changed
        exact changed (restores rfl)
      · intro unchanged _
        exact not_not.mp unchanged
  | done value files calls =>
      rw [outcome] at ends
      obtain ⟨⟨value, returned⟩, left⟩ := ends
      rw [returned]
      constructor
      · intro _ impossible
        exact impossible
      · intro _ failed
        cases failed

/-! ## Other servers -/

section Configured

variable {env : KmipEnvironment}

/-- Working on credentials files keeps what is known of the settings. -/
theorem KeepsSettings.preserves {Value : Type} {action : KmipRun Value}
    (keeps : ∀ kss, KeepsSettings kss action) (known : KeySetState → Prop) :
    Preserves (fun space => known space.kss) action := by
  refine preserves_of_final fun space before => ?_
  have same : (exec action space).2.kss = space.kss := (keeps space.kss).final rfl
  rw [same]
  exact before

/-- The settings of all other servers are the given ones. -/
def OthersConfigured (serverId : String)
    (servers : List (String × KmipServerConnectionConfig)) (kss : KeySetState) : Prop :=
  ∀ other, serverId ≠ other → kss.kmip.servers.lookup other = servers.lookup other

variable {serverId : String} {servers : List (String × KmipServerConnectionConfig)}

abbrev KeepsOthers {Value : Type} (serverId : String)
    (servers : List (String × KmipServerConnectionConfig)) (action : KmipRun Value) : Prop :=
  Preserves (fun space => OthersConfigured serverId servers space.kss) action

theorem setServers_keepsOthers
    {change : List (String × KmipServerConnectionConfig) →
      List (String × KmipServerConnectionConfig)}
    (others : ∀ before other, serverId ≠ other →
      (change before).lookup other = List.lookup other before) :
    KeepsOthers serverId servers (setServers change) := by
  refine keeps_modify fun space before other different => ?_
  rw [← before other different]
  exact others _ other different

theorem insert_keepsOthers (cfg : KmipServerConnectionConfig) :
    KeepsOthers serverId servers (setServers (HashMap.insert serverId cfg)) :=
  setServers_keepsOthers fun _ _ different =>
    HashMap.lookup_insert_of_ne (fun same => different same.symm) _ _

theorem remove_keepsOthers :
    KeepsOthers serverId servers (setServers (HashMap.remove serverId)) :=
  setServers_keepsOthers fun _ _ different =>
    HashMap.lookup_remove_of_ne (fun same => different same.symm) _

theorem onlyIf_setDefault_keepsOthers (condition : Bool) (default : Option String) :
    KeepsOthers serverId servers (onlyIf condition (setDefault default)) :=
  keeps_ite (fun _ => keeps_modify fun _ before => before) fun _ => keeps_pure _

theorem addKmipServer_keepsOthers (options : AddServer) :
    KeepsOthers options.serverId servers (addKmipServer env options) := by
  have stored : KeepsOthers options.serverId servers
      (ifSome options.credentialsStorePath fun path =>
        addCredentials env options.serverId path options.credentials) :=
    KeepsSettings.preserves (fun _ => ifSome_keepsSettings _ fun _ =>
      addCredentials_keepsSettings env _ _ _) _
  refine keeps_bind keeps_get fun space => ?_
  refine keeps_bind (keeps_ite (fun _ => preserves_throw _) fun _ => keeps_pure _) fun _ => ?_
  refine keeps_bind stored fun _ => keeps_bind (insert_keepsOthers _) fun _ => ?_
  exact keeps_bind keeps_get fun _ => onlyIf_setDefault_keepsOthers _ _

theorem modifyKmipServer_keepsOthers (options : ModifyServer) :
    KeepsOthers options.serverId servers (modifyKmipServer env options) := by
  refine keeps_bind keeps_get fun space => ?_
  cases space.kss.kmip.servers.lookup options.serverId with
  | none => exact preserves_throw _
  | some cfg =>
      refine keeps_bind remove_keepsOthers fun _ => ?_
      refine keeps_bind (KeepsSettings.preserves
        (fun _ => changeCredentials_keepsSettings env _ _ _ _ _) _) fun path => ?_
      refine keeps_bind (KeepsSettings.preserves (fun _ => mapErr_keepsSettings _ _) _)
        fun auth => ?_
      refine keeps_bind (insert_keepsOthers _) fun _ => ?_
      exact keeps_bind keeps_get fun _ => onlyIf_setDefault_keepsOthers _ _

theorem removeKmipServer_keepsOthers (serverId : String) :
    KeepsOthers serverId servers (removeKmipServer env serverId) := by
  refine keeps_bind keeps_get fun space => ?_
  refine keeps_bind (keeps_ite (fun _ => preserves_throw _) fun _ => keeps_pure _) fun _ => ?_
  refine keeps_bind (keeps_ite (fun _ => preserves_throw _) fun _ => keeps_pure _) fun _ => ?_
  refine keeps_bind remove_keepsOthers fun _ => ?_
  exact KeepsSettings.preserves (fun _ => ifSome_keepsSettings _ fun _ =>
    keeps_bind (removeKmipClientCredentials_keepsSettings env _ _) fun _ => keeps_pure _) _

/-- Entries of other servers stay, whatever comes of the subcommand. -/
theorem kmipCommand_configured (space : KmipSpace) (command : KmipCommands) {other : String}
    (different : command.server ≠ some other) :
    (exec (kmipCommand env command) space).2.kss.kmip.servers.lookup other =
      space.kss.kmip.servers.lookup other := by
  have others : ∀ {serverId : String} {action : KmipRun Bool}, serverId ≠ other →
      KeepsOthers serverId space.kss.kmip.servers action →
      (exec action space).2.kss.kmip.servers.lookup other =
        space.kss.kmip.servers.lookup other := by
    intro serverId action different keeps
    exact keeps.final (fun _ _ => rfl) other different
  cases command with
  | disable => rfl
  | addServer options =>
      apply others (fun same => different (congrArg some same))
      exact keeps_bind (addKmipServer_keepsOthers options) fun _ => keeps_pure _
  | modifyServer options =>
      apply others (fun same => different (congrArg some same))
      have captured : KeepsOthers options.serverId space.kss.kmip.servers
          (capture (modifyKmipServer env options)) := by
        refine preserves_of_final fun space before => ?_
        have after := (@modifyKmipServer_keepsOthers env _ options).final before
        rw [exec_capture]
        rcases run : exec (modifyKmipServer env options) space with
          ⟨⟨reason | reason⟩ | value, final⟩ <;> rw [run] at after <;> exact after
      exact keeps_bind captured fun _ => keeps_bind (KeepsSettings.preserves
        (fun _ => mapErr_keepsSettings _ _) _) fun _ => keeps_pure _
  | removeServer serverId =>
      apply others (fun same => different (congrArg some same))
      exact keeps_bind (removeKmipServer_keepsOthers serverId) fun _ => keeps_pure _
  | setDefaultServer serverId =>
      dsimp only [kmipCommand]
      rw [exec_bind_of_ok (exec_get _)]
      cases HashMap.contains serverId space.kss.kmip.servers <;> rfl
  | getServer serverId =>
      dsimp only [kmipCommand]
      rw [exec_bind_of_ok (exec_get _)]
      cases HashMap.contains serverId space.kss.kmip.servers <;> rfl
  | listServers => rfl

end Configured

/-! ## Credentials of other servers -/

section Stored

variable {env : KmipEnvironment} {serverId path : String} {content after : Option Bytes}
variable {call calls : Nat}

/-- The credentials that other servers have in a file stay. -/
def StoresOthers (env : KmipEnvironment) (serverId : String) (before after : Option Bytes) :
    Prop :=
  ∀ other, serverId ≠ other →
    storedCredentials env after other = storedCredentials env before other

theorem loading_stored {mode : KmipServerCredentialsFileMode} {bytes : Bytes}
    {file : KmipClientCredentialsFile}
    (loaded : loading env path mode bytes call = .done file after calls) (other : String) :
    storedCredentials env (some bytes) other = file.credentials.lookup other := by
  unfold loading at loaded
  split at loaded
  · cases loaded
  · split at loaded
    · next empty =>
        cases loaded
        unfold storedCredentials
        dsimp only
        rw [if_pos empty]
        rfl
    · next present =>
        split at loaded
        · cases loaded
        · split at loaded
          · cases loaded
          · next parsed =>
              cases loaded
              unfold storedCredentials
              dsimp only
              rw [if_neg present, parsed]
              rfl

/-- What is read from a file is what it stores. -/
theorem reading_stored {mode : KmipServerCredentialsFileMode}
    {file : KmipClientCredentialsFile}
    (read : reading env path mode content call = .done file after calls) (other : String) :
    storedCredentials env content other = file.credentials.lookup other := by
  unfold reading at read
  split at read
  · cases read
  · split at read
    · exact loading_stored read other
    · split at read
      · have blank := loading_stored read other
        exact blank
      · cases read

theorem loading_leaves {mode : KmipServerCredentialsFileMode} {bytes : Bytes}
    {file : KmipClientCredentialsFile}
    (loaded : loading env path mode bytes call = .done file after calls) :
    after = some bytes := by
  unfold loading at loaded
  split at loaded
  · cases loaded
  · split at loaded
    · cases loaded
      rfl
    · split at loaded
      · cases loaded
      · split at loaded
        · cases loaded
        · cases loaded
          rfl

/-- Reading leaves the credentials in the file. -/
theorem reading_leaves {mode : KmipServerCredentialsFileMode}
    {file : KmipClientCredentialsFile}
    (read : reading env path mode content call = .done file after calls) (other : String) :
    storedCredentials env after other = file.credentials.lookup other := by
  unfold reading at read
  split at read
  · cases read
  · split at read
    · rw [loading_leaves read]
      exact loading_stored read other
    · split at read
      · rw [loading_leaves read]
        exact loading_stored read other
      · cases read

variable (laws : CredentialLaws env)

include laws

/-- A saved file stores the set. -/
theorem saving_stored {set : KmipClientCredentialsSet}
    (saved : saving env set content call = .done () after calls) (other : String) :
    storedCredentials env after other = set.lookup other := by
  have text : after = some (env.showCredentials (call + 1) set) := by
    unfold saving at saved
    dsimp only at saved
    split_ifs at saved
    cases saved
    rfl
  obtain ⟨parsed, read, same⟩ := laws.parses (call + 1) set
  rw [text]
  unfold storedCredentials
  dsimp only
  rw [laws.nonempty, if_neg Bool.false_ne_true, read]
  exact same other

/-- Reading a file and saving it with another entry for the server. -/
theorem inserting_stored {mode : KmipServerCredentialsFileMode} {middle : Option Bytes}
    {file : KmipClientCredentialsFile} {creds : KmipClientCredentials} {next : Nat}
    (read : reading env path mode content call = .done file middle next)
    (saved : saving env (HashMap.insert serverId creds file.credentials) middle next =
      .done () after calls) : StoresOthers env serverId content after := by
  intro other different
  rw [saving_stored laws saved, reading_stored read]
  exact HashMap.lookup_insert_of_ne (fun same => different same.symm) _ _

theorem storing_stored {creds : KmipClientCredentials}
    (stores : storing env serverId path creds content call = .done () after calls) :
    StoresOthers env serverId content after := by
  obtain ⟨file, middle, next, read, saved⟩ := Outcome.andThen_eq_done.mp stores
  exact inserting_stored laws read saved

theorem adding_stored {creds : Option KmipClientCredentials}
    (adds : adding env serverId path creds content call = .done () after calls) :
    StoresOthers env serverId content after := by
  obtain ⟨file, middle, next, read, rest⟩ := Outcome.andThen_eq_done.mp adds
  split at rest
  · exact inserting_stored laws read rest
  · cases rest
    intro other _
    rw [reading_stored read, reading_leaves read]
  · cases rest

theorem adjusting_stored {username password : Option String}
    (adjusts : adjusting env serverId path username password content call =
      .done () after calls) : StoresOthers env serverId content after := by
  obtain ⟨file, middle, next, read, rest⟩ := Outcome.andThen_eq_done.mp adjusts
  split at rest
  · cases rest
  · exact inserting_stored laws read rest
  · exact inserting_stored laws read rest

theorem removal_stored {creds : KmipClientCredentials}
    (removed : removal env serverId path content call = .done creds after calls) :
    StoresOthers env serverId content after := by
  obtain ⟨file, middle, next, read, rest⟩ := Outcome.andThen_eq_done.mp removed
  split at rest
  · cases rest
  · obtain ⟨_, written, later, saved, deleting⟩ := Outcome.andThen_eq_done.mp rest
    intro other different
    have kept : other ≠ serverId := fun same => different same.symm
    rw [reading_stored read]
    split at deleting
    · cases deleting
      rw [saving_stored laws saved, HashMap.lookup_remove_of_ne kept]
    · next emptied =>
        split at deleting
        · cases deleting
        · cases deleting
          have none : HashMap.remove serverId file.credentials = [] := by
            simpa using emptied
          exact (HashMap.lookup_of_remove_nil none kept).symm

end Stored

section AllFiles

variable {env : KmipEnvironment} {serverId : String} {before after : CredentialFiles}

/-- The credentials that other servers have in any file stay. -/
def FilesStoreOthers (env : KmipEnvironment) (serverId : String)
    (before after : CredentialFiles) : Prop :=
  ∀ path, StoresOthers env serverId (before path) (after path)

theorem FilesStoreOthers.refl (files : CredentialFiles) :
    FilesStoreOthers env serverId files files := fun _ _ _ => rfl

theorem FilesStoreOthers.trans {middle : CredentialFiles}
    (first : FilesStoreOthers env serverId before middle)
    (second : FilesStoreOthers env serverId middle after) :
    FilesStoreOthers env serverId before after := fun path other different =>
  (second path other different).trans (first path other different)

theorem filesStoreOthers_update {path : String} {content : Option Bytes}
    (stores : StoresOthers env serverId (before path) content) :
    FilesStoreOthers env serverId before (Function.update before path content) := by
  intro other
  by_cases same : other = path
  · rw [same, Function.update_self]
    exact stores
  · rw [Function.update_of_ne same]
    exact fun _ _ => rfl

/-- One file is worked on. -/
theorem atFile_stores {Value : Type} {path : String} {outcome : FileOutcome Value}
    {value : Value} {calls : Nat}
    (works : outcome.atFile path before = .done value after calls)
    (stores : ∀ content, outcome = .done value content calls →
      StoresOthers env serverId (before path) content) :
    FilesStoreOthers env serverId before after := by
  obtain ⟨content, done, rfl⟩ := atFile_eq_done.mp works
  exact filesStoreOthers_update (stores content done)

variable (laws : CredentialLaws env)

include laws

theorem changing_stores {options : ModifyServer} {oldPath path : Option String}
    {call calls : Nat}
    (changes : changing env options oldPath before call = .done path after calls) :
    FilesStoreOthers env options.serverId before after := by
  have stored : ∀ {store : String} {creds} {files : CredentialFiles} {call : Nat},
      ((storing env options.serverId store creds (files store) call).atFile store
        files).andThen (fun _ files call => .done (some store) files call) =
          .done path after calls →
      FilesStoreOthers env options.serverId files after := by
    intro store creds files call stores
    obtain ⟨_, middle, next, works, same⟩ := Outcome.andThen_eq_done.mp stores
    cases same
    exact atFile_stores works fun _ => storing_stored laws
  unfold changing at changes
  split at changes
  · cases changes
    exact .refl _
  · obtain ⟨_, middle, next, works, same⟩ := Outcome.andThen_eq_done.mp changes
    cases same
    exact atFile_stores works fun _ => removal_stored laws
  · obtain ⟨_, middle, next, works, rest⟩ := Outcome.andThen_eq_done.mp changes
    exact (atFile_stores works fun _ => removal_stored laws).trans (stored rest)
  · split at changes
    · exact stored changes
    · cases changes
  · split at changes
    · cases changes
      exact .refl _
    · cases changes
    · obtain ⟨_, middle, next, works, same⟩ := Outcome.andThen_eq_done.mp changes
      cases same
      exact atFile_stores works fun _ => adjusting_stored laws

/-- A subcommand that succeeds leaves the credentials of other servers alone. -/
theorem outcome_stores {space : KmipSpace} {command : KmipCommands} {calls : Nat}
    (done : command.outcome env space = .done () after calls) {other : String}
    (different : command.server ≠ some other) (path : String) :
    storedCredentials env (after path) other =
      storedCredentials env (space.files path) other := by
  have kept : ∀ {serverId : String}, serverId ≠ other →
      FilesStoreOthers env serverId space.files after →
      storedCredentials env (after path) other =
        storedCredentials env (space.files path) other :=
    fun different stores => stores path other different
  cases command with
  | disable =>
      cases done
      rfl
  | addServer options =>
      apply kept (fun same => different (congrArg some same))
      dsimp only [KmipCommands.outcome] at done
      split at done
      · cases done
      · cases done
        exact .refl _
      · exact atFile_stores done fun _ => adding_stored laws
  | modifyServer options =>
      apply kept (fun same => different (congrArg some same))
      dsimp only [KmipCommands.outcome, modifying] at done
      split at done
      · cases done
      · obtain ⟨_, middle, next, changes, rest⟩ := Outcome.andThen_eq_done.mp done
        split at rest
        · cases rest
        · cases rest
          exact changing_stores laws changes
  | removeServer serverId =>
      apply kept (fun same => different (congrArg some same))
      dsimp only [KmipCommands.outcome] at done
      split at done
      · cases done
      · cases done
        exact .refl _
      · obtain ⟨_, middle, next, works, same⟩ := Outcome.andThen_eq_done.mp done
        cases same
        exact atFile_stores works fun _ => removal_stored laws
  | setDefaultServer serverId =>
      dsimp only [KmipCommands.outcome] at done
      split at done
      · cases done
        rfl
      · cases done
  | getServer serverId =>
      dsimp only [KmipCommands.outcome] at done
      split at done
      · cases done
        rfl
      · cases done
  | listServers =>
      cases done
      rfl

end AllFiles

/-- A KMIP subcommand is all-or-nothing exactly when it does not fail too late. -/
theorem kmipCommand_allOrNothing_iff {env : KmipEnvironment} (laws : CredentialLaws env)
    (space : KmipSpace) (command : KmipCommands) :
    AllOrNothing env space command ↔ ¬ LateFailure env space command := by
  rw [lateFailure_iff laws]
  constructor
  · intro whole
    exact restores_iff.mp whole.restores
  · intro notLate
    have restores := restores_iff.mpr notLate
    refine ⟨restores, ?_, fun other => kmipCommand_configured space command, ?_⟩
    · intro failed system same
      have reason : ∃ reason, settingsOf (exec (kmipCommand env command) space) =
          .error reason := by
        rcases run : exec (kmipCommand env command) space with ⟨⟨reason | reason⟩ | value, final⟩
        · exact ⟨reason, rfl⟩
        · exact ⟨reason, rfl⟩
        · rw [run] at failed
          cases failed
      obtain ⟨reason, refused⟩ := reason
      rw [← same]
      exact invoke_kmip_error refused
    · intro path other different
      have ends := @kmipCommand_ends env space command
      cases outcome : command.outcome env space with
      | stopped files =>
          rw [outcome] at ends
          obtain ⟨⟨message, failed⟩, _⟩ := ends
          rw [restores (by rw [failed]; rfl)]
      | done value files calls =>
          rw [outcome] at ends
          rw [ends.2]
          exact outcome_stores laws outcome different path

/-! ## A server with a credentials file -/

namespace Reference

def credentialsOf (username : String) : KmipClientCredentialsSet :=
  [("hsm", ⟨username, some "secret"⟩)]

/-- What the JSON library makes of these credentials. -/
def credentialsJson (username : String) : Bytes :=
  ("\x7b\n  \"hsm\": \x7b\n    \"username\": \"" ++ username ++
    "\",\n    \"password\": \"secret\"\n  \x7d\n\x7d").toUTF8.data.toList

/-! Other sets are written as numbers, which is enough to have them all. -/

def codes (text : String) : List Nat := text.toList.map Char.toNat

def ofCodes (codes : List Nat) : String := String.ofList (codes.map Char.ofNat)

theorem ofCodes_codes (text : String) : ofCodes (codes text) = text := by
  unfold ofCodes codes
  rw [List.map_map]
  have same : Char.ofNat ∘ Char.toNat = id := by
    funext char
    exact Char.ofNat_toNat char
  rw [same, List.map_id, String.ofList_toList]

abbrev CodedSet := List (List Nat × List Nat × Option (List Nat))

def coded (set : KmipClientCredentialsSet) : CodedSet :=
  set.map fun entry =>
    (codes entry.1, codes entry.2.username, entry.2.password.map codes)

def ofCoded (set : CodedSet) : KmipClientCredentialsSet :=
  set.map fun entry => (ofCodes entry.1, ⟨ofCodes entry.2.1, entry.2.2.map ofCodes⟩)

theorem ofCoded_coded (set : KmipClientCredentialsSet) : ofCoded (coded set) = set := by
  induction set with
  | nil => rfl
  | cons entry set induction =>
      rcases entry with ⟨server, username, password⟩
      have password : (password.map codes).map ofCodes = password := by
        cases password with
        | none => rfl
        | some password => simp [ofCodes_codes]
      unfold ofCoded coded at induction ⊢
      rw [List.map_cons, List.map_cons, induction]
      simp only [ofCodes_codes, password]

def showCredentials (_call : Nat) (set : KmipClientCredentialsSet) : Bytes :=
  if set = credentialsOf "operator" then credentialsJson "operator"
  else if set = credentialsOf "admin" then credentialsJson "admin"
  else List.replicate (Encodable.encode (coded set) + 1) 0

def parseCredentials (bytes : Bytes) : Except String KmipClientCredentialsSet :=
  if bytes = credentialsJson "operator" then .ok (credentialsOf "operator")
  else if bytes = credentialsJson "admin" then .ok (credentialsOf "admin")
  else
    match (Encodable.decode (bytes.length - 1) : Option CodedSet) with
    | some set => .ok (ofCoded set)
    | none => .error "expected value at line 1 column 1"

def storeEnvironment : KmipEnvironment where
  toEnvironment := Keyset.Reference.environment 1 (fromSecs 1000000)
  fileFailure := fun _ => none
  written := fun _ => 0
  parseCredentials := parseCredentials
  showCredentials := showCredentials

theorem credentialsJson_ne (count : Nat) :
    List.replicate (count + 1) (0 : UInt8) ≠ credentialsJson "operator" ∧
      List.replicate (count + 1) (0 : UInt8) ≠ credentialsJson "admin" := by
  constructor
  · intro same
    have head : (credentialsJson "operator").head? = some 123 := by decide +kernel
    rw [← same] at head
    cases head
  · intro same
    have head : (credentialsJson "admin").head? = some 123 := by decide +kernel
    rw [← same] at head
    cases head

theorem credentialLaws : CredentialLaws storeEnvironment where
  nonempty := by
    intro call set
    change (showCredentials call set).isEmpty = false
    unfold showCredentials
    split_ifs
    · decide +kernel
    · decide +kernel
    · rfl
  parses := by
    intro call set
    change ∃ parsed, parseCredentials (showCredentials call set) = .ok parsed ∧ _
    refine ⟨set, ?_, fun _ => rfl⟩
    unfold showCredentials
    split_ifs with isOperator isAdmin
    · unfold parseCredentials
      rw [if_pos rfl, isOperator]
    · have different : credentialsJson "admin" ≠ credentialsJson "operator" := by
        decide +kernel
      unfold parseCredentials
      rw [if_neg different, if_pos rfl, isAdmin]
    · obtain ⟨notOperator, notAdmin⟩ := credentialsJson_ne (Encodable.encode (coded set))
      unfold parseCredentials
      rw [if_neg notOperator, if_neg notAdmin, List.length_replicate, Nat.add_sub_cancel,
        Encodable.encodek]
      dsimp only
      rw [ofCoded_coded]

/-- A configured server whose credentials are stored. -/
def stored : KmipSpace where
  kss := { created.state with
    kmip := ⟨[("hsm", { (addHsm false).settings with
      clientCredentialsPath := some "/keys/credentials" })], some "hsm"⟩ }
  files := fun path =>
    if path = "/keys/credentials" then some (credentialsJson "operator") else none
  calls := 0

/-- A new username, and a client certificate if wanted. -/
def rename (clientCertPath : Option String) : KmipCommands :=
  .modifyServer { changePort with username := some "admin", clientCertPath }

end Reference

theorem kmipCommand_allOrNothing_rename :
    ¬ LateFailure Reference.storeEnvironment Reference.stored (Reference.rename none) ∧
      AllOrNothing Reference.storeEnvironment Reference.stored (Reference.rename none) := by
  have succeeds : (exec (kmipCommand Reference.storeEnvironment (Reference.rename none))
      Reference.stored).1.isOk = true := by decide +kernel
  have whole : ¬ LateFailure Reference.storeEnvironment Reference.stored
      (Reference.rename none) := by
    rw [lateFailure_iff Reference.credentialLaws]
    apply restores_iff.mp
    intro failed
    rw [succeeds] at failed
    cases failed
  exact ⟨whole, (kmipCommand_allOrNothing_iff Reference.credentialLaws _ _).mpr whole⟩

/-- The new username is stored although the certificate without a key is refused. -/
theorem kmipCommand_refused_afterRename :
    errorMessage (exec (kmipCommand Reference.storeEnvironment
        (Reference.rename (some "/keys/client.pem"))) Reference.stored).1 =
        some ("unable to modify configuration for KMIP server 'hsm': cannot configure " ++
          "client certificate authentication with a private key path") ∧
      Reference.stored.files "/keys/credentials" =
        some (Reference.credentialsJson "operator") ∧
      (exec (kmipCommand Reference.storeEnvironment
        (Reference.rename (some "/keys/client.pem"))) Reference.stored).2.files
          "/keys/credentials" = some (Reference.credentialsJson "admin") ∧
      ¬ AllOrNothing Reference.storeEnvironment Reference.stored
        (Reference.rename (some "/keys/client.pem")) := by
  have before : Reference.stored.files "/keys/credentials" =
      some (Reference.credentialsJson "operator") := by decide +kernel
  have after : (exec (kmipCommand Reference.storeEnvironment
      (Reference.rename (some "/keys/client.pem"))) Reference.stored).2.files
        "/keys/credentials" = some (Reference.credentialsJson "admin") := by decide +kernel
  refine ⟨by decide +kernel, before, after, fun whole => ?_⟩
  have fails : (exec (kmipCommand Reference.storeEnvironment
      (Reference.rename (some "/keys/client.pem"))) Reference.stored).1.isOk = false := by
    decide +kernel
  rw [whole.restores fails, before] at after
  have different : some (Reference.credentialsJson "operator") ≠
      some (Reference.credentialsJson "admin") := by decide +kernel
  exact different after

end Dnst.Keyset.Kmip
