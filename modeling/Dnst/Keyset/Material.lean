import Dnst.Keyset.Phases

/-! # What a subcommand can do to the key store

Starting a roll creates key material, removing a key destroys it. `Lawful` says
which material an invariant leaves to the subcommands; an invariant that is lawful
survives every subcommand that removes nothing else.
-/

namespace Dnst.Keyset

open Effect

/-! ## Origin of new keys -/

theorem newKeyFiles_origin (env : Environment) (key : Dnskey) :
    Yields (fun keys => KeyOrigin env (env.showUrl keys.publicUrl)
        (some (env.showUrl keys.privateUrl)))
      (newKeyFiles env key) :=
  yields_next fun _ => yields_next fun _ => yields_next fun _ => yields_next fun _ =>
    yields_next fun _ => yields_bind (yields_mapErr _ _) fun _ privateUrl =>
      yields_bind (yields_mapErr _ _) fun _ publicUrl =>
        yields_pure (.created publicUrl privateUrl)

theorem generateUniquePair_origin (env : Environment) (serverId : String)
    (params : GenerateParams) (flags retries : Nat) :
    Yields (fun pair => KeyOrigin env (env.showUrl pair.publicKeyUrl)
        (some (env.showUrl pair.privateKeyUrl)))
      (generateUniquePair env serverId params flags retries) := by
  induction retries with
  | zero => exact yields_throw _
  | succ retries induction =>
      refine yields_next fun ws => ?_
      split
      · exact yields_throw _
      · refine yields_next fun call => ?_
        refine yields_bind (yields_mapErr _ _) fun pair generated => ?_
        refine yields_next fun _ => ?_
        split
        · exact induction
        · exact yields_next fun _ => yields_pure (.generated generated)

theorem newKeys_origin (env : Environment) (makeKsk : Bool) :
    Yields (fun keys => KeyOrigin env (env.showUrl keys.publicUrl)
        (some (env.showUrl keys.privateUrl)))
      (newKeys env makeKsk) := by
  refine yields_next fun ws => yields_next fun params => ?_
  cases ws.state.kmip.defaultServerId with
  | some serverId =>
      refine yields_next fun _ => ?_
      exact yields_bind (generateUniquePair_origin env serverId params _ _) fun _ origin =>
        yields_pure origin
  | none => exact yields_next fun key => newKeyFiles_origin env key

/-! ## Invariants and the material they leave to the subcommands -/

/-- The rolls that a configuration can start. -/
def startable (config : KeySetConfig) (roll : RollType) : Prop :=
  roll = config.kskRollType.roll ∨ roll = config.zskRollType.roll ∨ roll = .cskRoll ∨
    roll = .algorithmRoll

/-- The URL refers to nothing but the given material. -/
def Touches (mine : KeyRef → Prop) (url : Url) : Prop :=
  ∀ ref, url.keyRef = some ref → mine ref

def ReferenceTouches (platform : Platform) (mine : KeyRef → Prop) (reference : String) :
    Prop :=
  ∀ url, platform.parseUrl reference = .ok url → Touches mine url

/-- Both halves of a key. -/
structure KeyTouches (platform : Platform) (mine : KeyRef → Prop) (pubref : String)
    (privref : Option String) : Prop where
  publicHalf : ReferenceTouches platform mine pubref
  privateHalf : ∀ reference, privref = some reference →
    ReferenceTouches platform mine reference

/-- The invariant survives the elementary changes and the start of a roll. It allows
changes of the material `mine`, to which all new keys belong. -/
structure Lawful (env : Environment) (invariant : WorkSpace → Prop)
    (mine : KeyRef → Prop) : Prop where
  stable : Stable env invariant
  starts : ∀ ws roll keyset, invariant ws → startable ws.config roll →
    KeySetChange env (some roll) ws.state.keyset keyset →
    invariant { ws with state.keyset := keyset }
  absent : ∀ ws path, invariant ws → ws.keyStore (.file path) = none → mine (.file path)
  newFile : ∀ ws file url, invariant ws → mine (.file (joinPath ws.config.keysDir file)) →
    env.parseUrl ("file://" ++ joinPath ws.config.keysDir file) = .ok url → Touches mine url
  newPair : ∀ call params flags pair, env.kmipGenerate call params flags = .ok pair →
    Touches mine pair.publicKeyUrl ∧ Touches mine pair.privateKeyUrl
  keyStore : ∀ ws ref material, invariant ws → mine ref →
    invariant { ws with keyStore := Function.update ws.keyStore ref material }

/-- The roll has just been started in a workspace with the invariant. -/
def Begun (env : Environment) (invariant : WorkSpace → Prop) (roll : RollType)
    (actions : List Action) (ws : WorkSpace) : Prop :=
  ∃ before now old new keyset, invariant before ∧ startable before.config roll ∧
    env.keySet.startRoll now roll old new before.state.keyset = .ok (actions, keyset) ∧
    ws = { before with state.keyset := keyset }

/-- What an invariant leaves to the creation and removal of key material: the
material `mine`, to which everything new belongs. -/
structure Depot (env : Environment) (invariant : WorkSpace → Prop)
    (failed : Fault → WorkSpace → Prop) (mine : KeyRef → Prop) : Prop
    extends Tolerant invariant failed where
  relabeled : ∀ ws serverId, invariant ws →
    invariant { ws with state.kmip := disableRelabeling serverId ws.state.kmip }
  absent : ∀ ws path, invariant ws → ws.keyStore (.file path) = none → mine (.file path)
  newFile : ∀ ws file url, invariant ws → mine (.file (joinPath ws.config.keysDir file)) →
    env.parseUrl ("file://" ++ joinPath ws.config.keysDir file) = .ok url → Touches mine url
  newPair : ∀ call params flags pair, env.kmipGenerate call params flags = .ok pair →
    Touches mine pair.publicKeyUrl ∧ Touches mine pair.privateKeyUrl
  keyStore : ∀ ws ref material, invariant ws → mine ref →
    invariant { ws with keyStore := Function.update ws.keyStore ref material }

/-- What an invariant leaves to the subcommands that create and remove keys. -/
structure Storage (env : Environment) (invariant : WorkSpace → Prop)
    (failed : Fault → WorkSpace → Prop) (mine : KeyRef → Prop) : Prop
    extends Editing env invariant failed, Depot env invariant failed mine

/-- Rolls go on as a routine, and starting one keeps the invariant as a whole. -/
structure Custody (env : Environment) (invariant : WorkSpace → Prop)
    (failed : Fault → WorkSpace → Prop) (mine : KeyRef → Prop) : Prop
    extends Routine env invariant failed, Storage env invariant failed mine where
  starts : ∀ roll actions, Triple (Begun env invariant roll actions)
    (finishStart env roll actions) (fun _ => invariant) failed

theorem finishStart_keeps {env : Environment} {invariant : WorkSpace → Prop}
    {failed : Fault → WorkSpace → Prop} (rebuilding : Rebuilding env invariant failed)
    (internal : ∀ ws internal, invariant ws → invariant { ws with state.internal := internal })
    (roll : RollType) (actions : List Action) :
    Keeps invariant failed (finishStart env roll actions) :=
  keeps_bind (handleActions_keeps rebuilding actions) fun _ =>
    keeps_bind (keeps_modify fun ws holds => internal ws _ holds) fun _ => keeps_pure _

theorem finishStart_preserves {env : Environment} {invariant : WorkSpace → Prop}
    (stable : Stable env invariant) (roll : RollType) (actions : List Action) :
    Preserves invariant (finishStart env roll actions) :=
  finishStart_keeps stable.routine.toRebuilding
    (fun ws _ holds => stable ws _ holds (.internal ws _)) roll actions

theorem Lawful.custody {env : Environment} {invariant : WorkSpace → Prop}
    {mine : KeyRef → Prop} (lawful : Lawful env invariant mine) :
    Custody env invariant (fun _ => invariant) mine where
  toRoutine := lawful.stable.routine
  starts := by
    intro roll actions
    refine triple_weaken (finishStart_preserves lawful.stable roll actions) ?_
      (fun _ _ after => after) (fun _ _ after => after)
    rintro state ⟨before, now, old, new, keyset, holds, startable, started, rfl⟩
    exact lawful.starts before roll keyset holds startable (.startRoll started)
  absent := lawful.absent
  newFile := lawful.newFile
  newPair := lawful.newPair
  keyStore := lawful.keyStore

theorem Lawful.recording {env : Environment} {invariant : WorkSpace → Prop}
    {mine : KeyRef → Prop} (lawful : Lawful env invariant mine) : Recording env invariant :=
  lawful.stable.recording

/-- An invariant about neither the key set nor the key store. -/
theorem Stable.lawful {env : Environment} {invariant : WorkSpace → Prop}
    (stable : Stable env invariant)
    (keySets : ∀ ws keyset, invariant ws → invariant { ws with state.keyset := keyset })
    (keyStores : ∀ ws keyStore, invariant ws → invariant { ws with keyStore := keyStore }) :
    Lawful env invariant fun _ => True where
  stable := stable
  starts := fun ws _ keyset holds _ _ => keySets ws keyset holds
  absent := fun _ _ _ _ => trivial
  newFile := fun _ _ _ _ _ _ _ _ => trivial
  newPair := fun _ _ _ _ _ => ⟨fun _ _ => trivial, fun _ _ => trivial⟩
  keyStore := fun ws _ _ holds _ => keyStores ws _ holds

theorem stateChanged_lawful {env : Environment} :
    Lawful env (fun ws => ws.stateChanged = true) fun _ => True :=
  stateChanged_stable.lawful (fun _ _ changed => changed) fun _ _ changed => changed

theorem keyTouches_true (platform : Platform) (pubref : String) (privref : Option String) :
    KeyTouches platform (fun _ => True) pubref privref :=
  ⟨fun _ _ _ _ => trivial, fun _ _ _ _ _ _ => trivial⟩

/-- Both halves of a new key belong to the material of this run. -/
def NewKeysTouch (mine : KeyRef → Prop) (publicUrl privateUrl : Url) : Prop :=
  Touches mine publicUrl ∧ Touches mine privateUrl

/-- All URLs refer to material of this run. -/
def AllTouch (mine : KeyRef → Prop) (urls : List Url) : Prop :=
  ∀ url, url ∈ urls → Touches mine url

theorem NewKeysTouch.all {mine : KeyRef → Prop} {publicUrl privateUrl : Url}
    (touched : NewKeysTouch mine publicUrl privateUrl) :
    AllTouch mine [privateUrl, publicUrl] := by
  intro url member
  rcases List.mem_cons.mp member with rfl | rest
  · exact touched.2
  · rw [List.mem_singleton.mp rest]
    exact touched.1

section Depot

variable {env : Environment} {invariant : WorkSpace → Prop}
variable {failed : Fault → WorkSpace → Prop} {mine : KeyRef → Prop}
variable (depot : Depot env invariant failed mine)

include depot

/-! ## Files and HSM keys -/

theorem storeKey_keeps {ref : KeyRef} (touched : mine ref) (material : KeyMaterial) :
    Keeps invariant failed (storeKey ref material) :=
  keeps_modify fun ws holds => depot.keyStore ws ref _ holds touched

/-- A new file did not exist before. -/
theorem createNewFile_triple (path : String) :
    Triple invariant (createNewFile env path)
      (fun _ ws => invariant ws ∧ mine (.file path)) failed := by
  refine triple_bind (perform_keeps depot.toTolerant (attempt_ordinary env _)) fun _ => ?_
  refine triple_read fun known holds => ?_
  cases exists? : (known.keyStore (.file path)).isSome with
  | true =>
      refine triple_throw ?_
      rintro ws rfl
      exact depot.fails _ _ (ordinary_error _) holds
  | false =>
      have touched : mine (.file path) :=
        depot.absent known path holds (by simpa using exists?)
      refine triple_modify ?_
      rintro ws rfl
      exact ⟨depot.keyStore ws _ _ holds touched, touched⟩

theorem writeKeyFile_keeps {path : String} (touched : mine (.file path))
    (material : KeyMaterial) (reason : String → String) :
    Keeps invariant failed (writeKeyFile env path material reason) :=
  keeps_bind (perform_keeps depot.toTolerant (attempt_ordinary env _)) fun _ =>
    storeKey_keeps depot touched material

/-- A key that cannot be removed is still there. -/
theorem removeKey_triple {url : Url} (touched : Touches mine url) :
    Triple invariant (removeKey env url) (fun _ => invariant)
      (fun fault ws => invariant ws ∧ Ordinary fault) := by
  have tolerant : Tolerant invariant fun fault ws => invariant ws ∧ Ordinary fault :=
    ⟨fun _ _ ordinary holds => ⟨holds, ordinary⟩, depot.calls⟩
  have drop : ∀ {ref : KeyRef}, mine ref →
      Keeps invariant (fun fault ws => invariant ws ∧ Ordinary fault) (dropKey ref) :=
    fun touched => keeps_modify fun ws holds => depot.keyStore ws _ _ holds touched
  refine keeps_bind keeps_get fun ws => ?_
  cases url with
  | file path =>
      exact keeps_bind (perform_keeps tolerant (attempt_ordinary env _)) fun _ =>
        keeps_bind (refuseIf_keeps tolerant _ _) fun _ => drop (touched _ rfl)
  | kmip serverId keyId =>
      exact keeps_bind (perform_keeps tolerant (getPool_ordinary env _ _)) fun _ =>
        keeps_bind (perform_keeps tolerant (attempt_ordinary env _)) fun _ =>
          keeps_bind (perform_keeps tolerant (attempt_ordinary env _)) fun _ =>
            keeps_bind (refuseIf_keeps tolerant _ _) fun _ => drop (touched _ rfl)
  | other scheme =>
      refine keeps_throw fun ws holds => ⟨holds, ?_⟩
      exact ordinary_panic (append_ne (by decide)) (append_ne (by decide))

theorem removeKey_keeps {url : Url} (touched : Touches mine url) :
    Keeps invariant failed (removeKey env url) :=
  triple_weaken (removeKey_triple depot touched) (fun _ holds => holds)
    (fun _ _ after => after) (fun fault ws after => depot.fails fault ws after.2 after.1)

/-- The error becomes a value. -/
theorem captureRemoveKey_keeps {url : Url} (touched : Touches mine url) :
    Keeps invariant failed (capture (removeKey env url)) := by
  have removed := removeKey_triple depot touched
  refine keeps_of_runs ?_ ?_
  · intro ws value final holds run
    rw [exec_capture] at run
    rcases inner : exec (removeKey env url) ws with ⟨⟨message | message⟩ | value, after⟩ <;>
      rw [inner] at run <;> cases run
    · exact (removed.error holds inner).1
    · exact removed.ok holds inner
  · intro ws fault final holds run
    rw [exec_capture] at run
    rcases inner : exec (removeKey env url) ws with ⟨⟨message | message⟩ | value, after⟩ <;>
      rw [inner] at run <;> cases run
    have stopped := removed.error holds inner
    exact depot.fails _ _ stopped.2 stopped.1

theorem removeKeys_keeps {urls : List Url} (touched : ∀ url, url ∈ urls → Touches mine url) :
    Keeps invariant failed (removeKeys env urls) := by
  induction urls with
  | nil => exact keeps_pure _
  | cons url urls induction =>
      exact keeps_bind (removeKey_keeps depot (touched url (by simp))) fun _ =>
        induction fun other member => touched other (by simp [member])

/-! ## New keys -/

theorem storePair_keeps {pair : KmipKeyPair} (touchesPublic : Touches mine pair.publicKeyUrl)
    (touchesPrivate : Touches mine pair.privateKeyUrl) :
    Keeps invariant failed (storePair pair) := by
  unfold storePair
  cases publicKey : pair.publicKeyUrl.keyRef with
  | none => exact keeps_pure _
  | some publicRef =>
      cases privateKey : pair.privateKeyUrl.keyRef with
      | none => exact keeps_pure _
      | some privateRef =>
          exact keeps_bind keeps_get fun _ =>
            keeps_bind (storeKey_keeps depot (touchesPublic _ publicKey) _) fun _ =>
              storeKey_keeps depot (touchesPrivate _ privateKey) _

theorem relabelPair_keeps (serverId : String) (server : KmipServerConnectionConfig) :
    Keeps invariant failed (relabelPair env serverId server) := by
  have attempted := perform_keeps depot.toTolerant (attempt_ordinary env id)
  refine keeps_ite (fun _ => ?_) fun _ => keeps_pure _
  refine keeps_bind (perform_keeps depot.toTolerant nextCall_ordinary) fun call => ?_
  cases env.relabel call with
  | noLabel => exact keeps_pure _
  | renamed => exact attempted
  | unsupported =>
      exact keeps_bind attempted fun _ => keeps_modify fun ws holds => depot.relabeled ws _ holds
  | halfRenamed message =>
      exact keeps_bind attempted fun _ => bail_keeps depot.toTolerant _

theorem generateUniquePair_triple (serverId : String) (params : GenerateParams)
    (flags retries : Nat) :
    Triple invariant (generateUniquePair env serverId params flags retries)
      (fun pair ws => invariant ws ∧ NewKeysTouch mine pair.publicKeyUrl pair.privateKeyUrl)
      failed := by
  have tolerant := depot.toTolerant
  induction retries with
  | zero => exact triple_throw fun ws holds => depot.fails _ ws (ordinary_error _) holds
  | succ retries induction =>
      refine triple_bind keeps_get fun ws => ?_
      split
      · exact triple_throw fun ws holds =>
          depot.fails _ ws (ordinary_panic (by decide) (by decide)) holds
      · refine triple_bind (perform_keeps tolerant nextCall_ordinary) fun call => ?_
        refine triple_bind_yields (mapErr_keeps tolerant _ _) (yields_mapErr _ _)
          fun pair generated => ?_
        rcases depot.newPair _ _ _ _ generated with ⟨touchesPublic, touchesPrivate⟩
        refine triple_bind (storePair_keeps depot touchesPublic touchesPrivate) fun _ => ?_
        refine triple_ite (fun _ => induction) fun _ => ?_
        refine triple_bind (relabelPair_keeps depot serverId _) fun _ => ?_
        exact triple_pure fun _ holds => ⟨holds, touchesPublic, touchesPrivate⟩

theorem newKeyFiles_triple (key : Dnskey) :
    Triple invariant (newKeyFiles env key)
      (fun keys ws => invariant ws ∧ NewKeysTouch mine keys.publicUrl keys.privateUrl)
      failed := by
  have tolerant := depot.toTolerant
  refine triple_bind_get fun known holds => ?_
  refine triple_bind (createNewFile_triple depot _) fun _ => triple_fact fun secret => ?_
  refine triple_bind (createNewFile_triple depot _) fun _ => triple_fact fun publicHalf => ?_
  refine triple_bind (writeKeyFile_keeps depot secret _ _) fun _ => ?_
  refine triple_bind (writeKeyFile_keeps depot publicHalf _ _) fun _ => ?_
  refine triple_bind_yields (mapErr_keeps tolerant _ _) (yields_mapErr _ _)
    fun privateUrl parsed => ?_
  have touchesPrivate := depot.newFile known _ privateUrl holds secret parsed
  refine triple_bind_yields (mapErr_keeps tolerant _ _) (yields_mapErr _ _)
    fun publicUrl parsed => ?_
  have touchesPublic := depot.newFile known _ publicUrl holds publicHalf parsed
  exact triple_pure fun _ holds => ⟨holds, touchesPublic, touchesPrivate⟩

theorem newKeys_triple (makeKsk : Bool) :
    Triple invariant (newKeys env makeKsk)
      (fun keys ws => invariant ws ∧ NewKeysTouch mine keys.publicUrl keys.privateUrl)
      failed := by
  have tolerant := depot.toTolerant
  refine triple_bind_get fun known _ => ?_
  refine triple_bind (toGenerateParams_keeps tolerant _) fun params => ?_
  cases known.state.kmip.defaultServerId with
  | some serverId =>
      refine triple_bind (perform_keeps tolerant (getPool_ordinary env _ _)) fun _ => ?_
      refine triple_bind (generateUniquePair_triple depot serverId params _ _) fun pair => ?_
      exact triple_pure fun _ holds => holds
  | none =>
      refine triple_bind (perform_keeps tolerant (generateUnique_ordinary env _ _ _ _))
        fun key => ?_
      exact newKeyFiles_triple depot key

end Depot

section Storage

variable {env : Environment} {invariant : WorkSpace → Prop}
variable {failed : Fault → WorkSpace → Prop} {mine : KeyRef → Prop}
variable (storage : Storage env invariant failed mine)

include storage

theorem addNewKey_triple (variant : KeyVariant) (makeKsk : Bool) (now : UnixTime) :
    Triple invariant (addNewKey env variant makeKsk now)
      (fun keys ws => invariant ws ∧ NewKeysTouch mine keys.publicUrl keys.privateUrl)
      failed := by
  refine triple_bind_yields (newKeys_triple storage.toDepot makeKsk) (newKeys_origin env makeKsk)
    fun keys origin => triple_fact fun touched => ?_
  refine triple_bind (onKeySet_keeps storage.toEditing _ fun _ _ => .addKey origin) fun _ => ?_
  exact triple_pure fun _ holds => ⟨holds, touched⟩

theorem newCskOrKskZsk_triple :
    Triple invariant (newCskOrKskZsk env)
      (fun created ws => invariant ws ∧ AllTouch mine created.2) failed := by
  refine triple_bind_get fun known _ => ?_
  refine triple_bind (perform_keeps storage.toTolerant (faketimeOrNow_ordinary env _))
    fun now => ?_
  refine triple_ite (fun _ => ?_) fun _ => ?_
  · refine triple_bind (addNewKey_triple storage _ _ _) fun csk => triple_fact fun touched => ?_
    exact triple_pure fun _ holds => ⟨holds, touched.all⟩
  · refine triple_bind (addNewKey_triple storage _ _ _) fun ksk =>
      triple_fact fun kskTouched => ?_
    refine triple_bind (addNewKey_triple storage _ _ _) fun zsk =>
      triple_fact fun zskTouched => ?_
    refine triple_pure fun _ holds => ⟨holds, ?_⟩
    intro url member
    have inEither : url ∈ [ksk.privateUrl, ksk.publicUrl] ++
        [zsk.privateUrl, zsk.publicUrl] := member
    rcases List.mem_append.mp inEither with inKsk | inZsk
    · exact kskTouched.all url inKsk
    · exact zskTouched.all url inZsk

/-! ## Removing keys -/

theorem removePrivateKey_keeps {privref : Option String}
    (touched : ∀ reference, privref = some reference →
      ReferenceTouches env.toPlatform mine reference) (continueFlag : Bool) :
    Keeps invariant failed (removePrivateKey env privref continueFlag) := by
  cases privref with
  | none => exact keeps_pure _
  | some privref =>
      refine keeps_bind_yields (parseReference_keeps storage.toTolerant env _ _)
        (yields_mapErr _ _) fun url parsed => ?_
      refine keeps_bind (captureRemoveKey_keeps storage.toDepot (touched privref rfl url parsed))
        fun result => ?_
      cases result with
      | ok _ => exact keeps_pure _
      | error reason => exact refuseIf_keeps storage.toTolerant _ _

theorem removePublicKey_keeps {key : String}
    (touched : ReferenceTouches env.toPlatform mine key) (hasPrivate continueFlag : Bool) :
    Keeps invariant failed (removePublicKey env key hasPrivate continueFlag) := by
  refine keeps_bind_yields (parseReference_keeps storage.toTolerant env _ _)
    (yields_mapErr _ _) fun url parsed => ?_
  refine keeps_bind (captureRemoveKey_keeps storage.toDepot (touched url parsed)) fun result => ?_
  cases result with
  | ok _ => exact keeps_pure _
  | error reason => exact refuseIf_keeps storage.toTolerant _ _

/-- The command removes the material of a coupled key only. -/
theorem removeKeyCommand_triple {known : WorkSpace → Prop} {key : String}
    (touched : ∀ ws found, known ws → ws.state.keyset.keys.lookup key = some found →
      found.decoupled = false → KeyTouches env.toPlatform mine key found.privref)
    (force continueFlag : Bool) :
    Triple (fun ws => invariant ws ∧ known ws) (removeKeyCommand env key force continueFlag)
      (fun _ => invariant) failed := by
  refine triple_bind_get fun ws holds => triple_drop ?_
  cases found : ws.state.keyset.keys.lookup key with
  | none => exact bail_keeps storage.toTolerant _
  | some entry =>
      refine keeps_ite (fun _ => forgetKey_keeps storage.toEditing key force) fun coupled => ?_
      have touches := touched ws entry holds.2 found (by simpa using coupled)
      exact keeps_bind (refuseIf_keeps storage.toTolerant _ _) fun _ =>
        keeps_bind (removePrivateKey_keeps storage touches.privateHalf _) fun _ =>
          keeps_bind (removePublicKey_keeps storage touches.publicHalf _ _) fun _ =>
            forgetKey_keeps storage.toEditing key force

theorem removeByReference_keeps {reference : String}
    (touched : ReferenceTouches env.toPlatform mine reference) :
    Keeps invariant failed (removeByReference env reference) :=
  keeps_bind_yields (parseReference_keeps storage.toTolerant env _ _) (yields_mapErr _ _)
    fun url parsed => removeKey_keeps storage.toDepot (touched url parsed)

theorem autoremoveKey_keeps {pubref : String} {privref : Option String}
    (touched : KeyTouches env.toPlatform mine pubref privref) :
    Keeps invariant failed (autoremoveKey env pubref privref) := by
  refine keeps_bind (onKeySet_keeps storage.toEditing _ fun _ _ => .deleteKey) fun _ => ?_
  cases privref with
  | none => exact removeByReference_keeps storage touched.publicHalf
  | some privref =>
      exact keeps_bind (removeByReference_keeps storage (touched.privateHalf _ rfl))
        fun _ => removeByReference_keeps storage touched.publicHalf

theorem autoremoveKeys_keeps {keys : List (String × Option String)}
    (touched : ∀ entry, entry ∈ keys → KeyTouches env.toPlatform mine entry.1 entry.2) :
    Keeps invariant failed (autoremoveKeys env keys) := by
  induction keys with
  | nil => exact keeps_pure _
  | cons entry keys induction =>
      exact keeps_bind (autoremoveKey_keeps storage (touched entry (by simp))) fun _ =>
        induction fun other member => touched other (by simp [member])

theorem removeKeySubcommand_triple {known : WorkSpace → Prop} {key : String}
    (touched : ∀ ws found, known ws → ws.state.keyset.keys.lookup key = some found →
      found.decoupled = false → KeyTouches env.toPlatform mine key found.privref)
    (force continueFlag : Bool) (signing : Signing env invariant failed)
    (silent : force = true → SilentDs env invariant) :
    Triple (fun ws => invariant ws ∧ known ws)
      (removeKeySubcommand env key force continueFlag) (fun _ => invariant) failed := by
  refine triple_bind (removeKeyCommand_triple storage touched force continueFlag) fun _ => ?_
  refine keeps_bind ?_ fun _ => markStateChanged_keeps storage.toEditing
  cases force with
  | false => exact keeps_pure _
  | true => exact refreshRrsets_keeps signing (silent rfl)

end Storage

/-! ## Starting a roll -/

section Starting

variable {env : Environment} {invariant after : WorkSpace → Prop}
variable {failed : Fault → WorkSpace → Prop} {mine : KeyRef → Prop}

theorem Storage.and_config (storage : Storage env invariant failed mine)
    (config : KeySetConfig) :
    Storage env (fun ws => invariant ws ∧ ws.config = config) failed mine where
  fails := fun fault ws ordinary holds => storage.fails fault ws ordinary holds.1
  calls := fun ws calls holds => ⟨storage.calls ws calls holds.1, holds.2⟩
  stateChanged := fun ws holds => ⟨storage.stateChanged ws holds.1, holds.2⟩
  keySet := fun ws keyset holds change => ⟨storage.keySet ws keyset holds.1 change, holds.2⟩
  cronNext := fun ws cronNext holds => ⟨storage.cronNext ws cronNext holds.1, holds.2⟩
  relabeled := fun ws serverId holds => ⟨storage.relabeled ws serverId holds.1, holds.2⟩
  entry := fun ws roll fault other holds inProgress missing after =>
    storage.entry ws roll fault other holds.1 inProgress missing after.1
  absent := fun ws path holds => storage.absent ws path holds.1
  newFile := fun ws file url holds => storage.newFile ws file url holds.1
  newPair := storage.newPair
  keyStore := fun ws ref material holds touched =>
    ⟨storage.keyStore ws ref material holds.1 touched, holds.2⟩

variable (storage : Storage env invariant failed mine)

include storage

/-- The new keys are removed again when the roll cannot be started. -/
theorem startRoll_triple {config : KeySetConfig} {roll : RollType}
    (startable : startable config roll) (old : List String) (new : List Url)
    {created : List Url} (touched : AllTouch mine created) (message : String → String) :
    Triple (fun ws => invariant ws ∧ ws.config = config)
      (startRoll env roll old new created message)
      (fun actions => Begun env invariant roll actions) failed := by
  have stay := storage.and_config config
  have ticked := perform_keeps stay.toTolerant (wallClock_ordinary env)
  refine triple_bind ticked fun now => triple_read fun ws holds => ?_
  cases outcome : env.keySet.startRoll now roll old (new.map env.showUrl)
      ws.state.keyset with
  | error reason =>
      have removed : Triple (fun state => state = ws) (removeKeys env created)
          (fun _ state => invariant state ∧ state.config = config) failed := by
        refine triple_weaken (removeKeys_keeps stay.toDepot touched) ?_ (fun _ _ after => after)
          (fun _ _ after => after)
        rintro state rfl
        exact holds
      exact triple_bind removed fun _ => triple_throw fun state holds =>
        stay.fails _ state (ordinary_error _) holds
  | ok result =>
      rcases result with ⟨actions, keyset⟩
      refine triple_of_runs ?_ ?_
      · rintro state value final rfl run
        cases run
        exact ⟨state, now, old, _, keyset, holds.1, by rw [holds.2]; exact startable, outcome,
          rfl⟩
      · rintro state fault final rfl run
        cases run

variable (starts : ∀ roll actions, Triple (Begun env invariant roll actions)
  (finishStart env roll actions) (fun _ => after) failed)

include starts

theorem startSingleRoll_triple {config : KeySetConfig} {roll : RollType}
    (startable : startable config roll) (variant : KeyVariant) (makeKsk : Bool)
    (takesPart : KeyType → Bool) :
    Triple (fun ws => invariant ws ∧ ws.config = config)
      (startSingleRoll env roll variant makeKsk takesPart) (fun _ => after) failed := by
  have stay := storage.and_config config
  have tolerant := stay.toTolerant
  refine triple_bind keeps_get fun ws => ?_
  refine triple_bind (perform_keeps tolerant (faketimeOrNow_ordinary env _)) fun now => ?_
  refine triple_bind (assert_keeps tolerant (ordinary_panic (by decide) (by decide)) _)
    fun _ => ?_
  refine triple_bind (refuseIf_keeps tolerant _ _) fun _ => ?_
  refine triple_bind (refuseIf_keeps tolerant _ _) fun _ => ?_
  refine triple_bind (addNewKey_triple stay variant makeKsk now) fun keys =>
    triple_fact fun touched => ?_
  exact triple_bind (startRoll_triple storage startable _ _ touched.all _) fun actions =>
    starts roll actions

theorem startFullRoll_triple {roll : RollType}
    (full : roll = .cskRoll ∨ roll = .algorithmRoll) (message : String → String) :
    Triple invariant (startFullRoll env roll message) (fun _ => after) failed := by
  refine triple_readConfig fun known => ?_
  have stay := storage.and_config known.config
  refine triple_bind (assert_keeps stay.toTolerant (ordinary_panic (by decide) (by decide)) _)
    fun _ => ?_
  refine triple_bind (newCskOrKskZsk_triple stay) fun created => triple_fact fun touched => ?_
  rcases created with ⟨new, created⟩
  exact triple_bind (startRoll_triple storage (Or.inr (Or.inr full)) _ _ touched _)
    fun actions => starts roll actions

theorem start_triple (variant : RollVariant) :
    Triple invariant (variant.start env) (fun _ => after) failed := by
  cases variant with
  | ksk =>
      exact triple_readConfig fun _ =>
        startSingleRoll_triple storage starts (Or.inl rfl) _ _ _
  | zsk =>
      exact triple_readConfig fun _ =>
        startSingleRoll_triple storage starts (Or.inr (Or.inl rfl)) _ _ _
  | csk => exact startFullRoll_triple storage starts (Or.inl rfl) _
  | algorithm => exact startFullRoll_triple storage starts (Or.inr rfl) _

end Starting

section Custody

variable {env : Environment} {invariant : WorkSpace → Prop}
variable {failed : Fault → WorkSpace → Prop} {mine : KeyRef → Prop}
variable (custody : Custody env invariant failed mine)

include custody

theorem start_keeps (variant : RollVariant) :
    Keeps invariant failed (variant.start env) :=
  start_triple custody.toStorage custody.starts variant

theorem Custody.openings : Openings env invariant failed :=
  custody.toRoutine.stepping.openings fun variant =>
    keeps_bind (start_keeps custody variant) fun _ => markStateChanged_keeps custody.toEditing

theorem Custody.phases (recording : Recording env invariant) : Phases env invariant failed :=
  custody.toRoutine.stepping.phases recording custody.openings

omit custody in
theorem Lawful.phases (lawful : Lawful env invariant mine) :
    Phases env invariant fun _ => invariant :=
  lawful.custody.phases lawful.recording

theorem initNewKeys_keeps : Keeps invariant failed (initNewKeys env) := by
  refine triple_bind (newCskOrKskZsk_triple custody.toStorage) fun created => triple_fact fun _ => ?_
  rcases created with ⟨new, created⟩
  refine triple_bind (perform_keeps custody.toTolerant (wallClock_ordinary env)) fun now => ?_
  refine triple_read fun ws holds => ?_
  cases outcome : env.keySet.startRoll now .algorithmRoll [] (new.map env.showUrl)
      ws.state.keyset with
  | error reason =>
      refine triple_throw ?_
      rintro state rfl
      exact custody.fails _ _ (shouldNotHappen_ordinary _) holds
  | ok result =>
      rcases result with ⟨actions, keyset⟩
      have begun : Triple (fun state => state = ws) (setKeySet keyset)
          (fun _ => Begun env invariant .algorithmRoll actions) failed := by
        refine triple_modify ?_
        rintro state rfl
        exact ⟨state, now, [], _, keyset, holds, Or.inr (Or.inr (Or.inr rfl)), outcome, rfl⟩
      exact triple_bind begun fun _ =>
        triple_bind (custody.starts .algorithmRoll actions) fun _ => keeps_pure _

/-- Starting with imported keys rebuilds the DS RRset on the way. -/
theorem init_triple :
    Triple (fun ws => invariant ws ∧
        (startsWithImported ws.state.keyset = true → SilentDs env invariant))
      (init env) (fun _ => invariant) failed := by
  have tolerant := custody.toTolerant
  refine triple_bind_get fun ws holds => triple_drop ?_
  refine keeps_bind (refuseIf_keeps tolerant _ _) fun _ => ?_
  refine keeps_ite (fun imported => ?_) fun _ => ?_
  · have silent := holds.2 imported
    exact keeps_bind (updateDnskeyRrset_keeps custody.toSigning) fun _ =>
      keeps_bind (updateDsRrset_keeps custody.toSigning silent) fun _ =>
        markStateChanged_keeps custody.toEditing
  · exact keeps_bind (refuseIf_keeps tolerant _ _) fun _ =>
      keeps_bind (initNewKeys_keeps custody) fun _ => markStateChanged_keeps custody.toEditing

end Custody

/-- The removal delay of a stale key has passed. -/
def Overdue (now : UnixTime) (delay : Duration) (key : Key) : Prop :=
  key.keytype.mainState.stale = true ∧
    ∃ withdrawn, key.timestamps.withdrawn = some withdrawn ∧ withdrawn + delay ≤ now

theorem removableKeys_keeps {invariant : WorkSpace → Prop} {failed : Fault → WorkSpace → Prop}
    (tolerant : Tolerant invariant failed) (now : UnixTime) (delay : Duration)
    (keys : List (String × Key)) :
    Keeps invariant failed (removableKeys now delay keys : Run _) := by
  induction keys with
  | nil => exact keeps_pure _
  | cons entry keys induction =>
      unfold removableKeys
      refine keeps_ite (fun _ => ?_) fun _ => induction
      split
      · exact keeps_throw fun ws holds =>
          tolerant.fails _ ws (ordinary_panic (by decide) (by decide)) holds
      · refine keeps_bind induction fun others => ?_
        exact keeps_ite (fun _ => keeps_pure _) fun _ => keeps_pure _

/-- Cron selects exactly the keys that are overdue. -/
theorem removableKeys_overdue (now : UnixTime) (delay : Duration)
    (keys : List (String × Key)) :
    Yields (fun selected => ∀ entry, entry ∈ selected ↔
        ∃ key, (entry.1, key) ∈ keys ∧ key.privref = entry.2 ∧ Overdue now delay key)
      (removableKeys now delay keys : Run _) := by
  induction keys with
  | nil => exact yields_pure fun entry => by simp
  | cons first keys induction =>
      rcases first with ⟨pubref, key⟩
      -- A key that is not overdue adds nothing to the selection.
      have skip : ∀ {selected : List (String × Option String)},
          (∀ entry, entry ∈ selected ↔
            ∃ key, (entry.1, key) ∈ keys ∧ key.privref = entry.2 ∧ Overdue now delay key) →
          ¬Overdue now delay key → ∀ entry, entry ∈ selected ↔
            ∃ other, (entry.1, other) ∈ (pubref, key) :: keys ∧ other.privref = entry.2 ∧
              Overdue now delay other := by
        intro selected rest notOverdue entry
        rw [rest entry]
        constructor
        · rintro ⟨other, member, same, overdue⟩
          exact ⟨other, List.mem_cons_of_mem _ member, same, overdue⟩
        · rintro ⟨other, member, same, overdue⟩
          rcases List.mem_cons.mp member with first | member
          · cases first
            exact absurd overdue notOverdue
          · exact ⟨other, member, same, overdue⟩
      unfold removableKeys
      by_cases stale : key.keytype.mainState.stale = true
      · rw [if_pos stale]
        cases withdrawn : key.timestamps.withdrawn with
        | none => exact yields_throw _
        | some time =>
            refine yields_bind induction fun others rest => ?_
            by_cases passed : time + delay ≤ now
            · rw [if_pos passed]
              refine yields_pure fun entry => ?_
              have overdue : Overdue now delay key := ⟨stale, time, withdrawn, passed⟩
              rw [List.mem_cons, rest entry]
              constructor
              · rintro (rfl | ⟨other, member, same, overdue⟩)
                · exact ⟨key, by simp, rfl, overdue⟩
                · exact ⟨other, List.mem_cons_of_mem _ member, same, overdue⟩
              · rintro ⟨other, member, same, overdue⟩
                rcases List.mem_cons.mp member with first | member
                · cases first
                  exact Or.inl (Prod.ext rfl same.symm)
                · exact Or.inr ⟨other, member, same, overdue⟩
            · rw [if_neg passed]
              refine yields_pure (skip rest ?_)
              rintro ⟨_, other, same, before⟩
              rw [withdrawn] at same
              cases same
              exact passed before
      · rw [if_neg stale]
        refine triple_weaken induction (fun _ before => before) (fun selected _ rest => ?_)
          (fun _ _ after => after)
        exact skip rest fun overdue => stale overdue.1

section Cron

variable {env : Environment} {invariant : WorkSpace → Prop}
variable {failed : Fault → WorkSpace → Prop} {mine : KeyRef → Prop}
variable (storage : Storage env invariant failed mine)

include storage

theorem autoremovePhase_triple {known : WorkSpace → Prop}
    (touched : ∀ ws now final pubref key, known ws →
      exec (faketimeOrNow env ws.config) ws.calls = (.ok now, final) →
      ws.config.autoremove = true → (pubref, key) ∈ ws.state.keyset.keys →
      Overdue now ws.config.autoremoveDelay key →
      KeyTouches env.toPlatform mine pubref key.privref) :
    Triple (fun ws => invariant ws ∧ known ws) (autoremovePhase env)
      (fun _ => invariant) failed := by
  refine triple_read fun ws holds => ?_
  have counted : Triple (fun state => state = ws) (perform (faketimeOrNow env ws.config))
      (fun now state => invariant state ∧
        ∃ final, exec (faketimeOrNow env ws.config) ws.calls = (.ok now, final)) failed := by
    have keeps : Keeps invariant failed (perform (faketimeOrNow env ws.config)) :=
      faketimeOrNow_keeps storage.calls ws.config
    refine triple_of_runs ?_ ?_
    · rintro state now final rfl run
      rcases exec_perform_eq_ok run with ⟨calls, reading, _⟩
      exact ⟨keeps.ok holds.1 run, calls, reading⟩
    · rintro state fault final rfl run
      exact Triple.error keeps holds.1 run
  refine triple_bind counted fun now => triple_fact fun reading => ?_
  rcases reading with ⟨calls, reading⟩
  refine triple_ite (fun enabled => ?_) fun _ => keeps_pure _
  refine triple_bind_yields (removableKeys_keeps storage.toTolerant _ _ _)
    (removableKeys_overdue _ _ _) fun selected overdue => ?_
  refine onlyIf_keeps ?_
  refine keeps_bind (autoremoveKeys_keeps storage ?_) fun _ =>
    markStateChanged_keeps storage.toEditing
  intro entry member
  rcases (overdue entry).mp member with ⟨key, listed, same, late⟩
  rw [← same]
  exact touched ws now calls entry.1 key holds.2 reading enabled listed late

/-- The workspace in which an invocation turns to its subcommand, at the time `now`. -/
def ComesToSubcommand (env : Environment) (system : System) (now : UnixTime)
    (ws : WorkSpace) : Prop :=
  exec (do
    loadFiles env
    let ws ← get
    perform (faketimeOrNow env ws.config)) system.load = (.ok now, ws)

omit storage in
theorem ComesToSubcommand.loaded {system : System} {now : UnixTime} {ws : WorkSpace}
    (comes : ComesToSubcommand env system now ws) :
    ∃ calls, ws = { system.load with calls := calls } := by
  rcases exec_bind_eq_ok.mp comes with ⟨_, loaded, loads, rest⟩
  rcases exec_perform_eq_ok loads with ⟨_, _, rfl⟩
  rw [exec_bind_of_ok (exec_get _)] at rest
  rcases exec_perform_eq_ok rest with ⟨calls, _, rfl⟩
  exact ⟨calls, rfl⟩

/-- What cron does before it removes keys. -/
def beforeAutoremove (env : Environment) : Run Unit := do
  loadFiles env
  let ws ← get
  let now ← perform (faketimeOrNow env ws.config)
  renewPhase env now
  autoStartPhase env
  autoReportExpireDonePhase env

/-- A workspace in which cron comes to the removal of keys. -/
def ComesToAutoremove (env : Environment) (system : System) (ws : WorkSpace) : Prop :=
  exec (beforeAutoremove env) system.load = (.ok ⟨⟩, ws)

omit storage in
theorem ComesToSubcommand.autoremove {system : System} {now : UnixTime} {start ws : WorkSpace}
    (comes : ComesToSubcommand env system now start)
    (run : exec (do
      renewPhase env now
      autoStartPhase env
      autoReportExpireDonePhase env) start = (.ok ⟨⟩, ws)) :
    ComesToAutoremove env system ws := by
  rcases exec_bind_eq_ok.mp comes with ⟨_, loaded, loads, reading⟩
  rw [exec_bind_of_ok (exec_get _)] at reading
  unfold ComesToAutoremove beforeAutoremove
  rw [exec_bind_of_ok loads, exec_bind_of_ok (exec_get _), exec_bind_of_ok reading]
  exact run

end Cron

/-! ## Whole subcommands -/

/-- A KMIP subcommand decides anew whether the state has changed. -/
def KmipStable (invariant : WorkSpace → Prop) : Prop :=
  ∀ ws kmip stateChanged, invariant ws →
    invariant { ws with state.kmip := kmip, stateChanged := stateChanged }

section Everything

variable {env : Environment} {invariant : WorkSpace → Prop}
variable {failed : Fault → WorkSpace → Prop}

theorem kmipCommand_keeps (tolerant : Tolerant invariant failed)
    (kmipStable : KmipStable invariant)
    (subcommand : KmipState → Except String (Bool × KmipState)) :
    Keeps invariant failed (kmipCommand subcommand) := by
  refine keeps_bind keeps_get fun ws => ?_
  refine keeps_bind (mapErr_keeps tolerant _ _) fun changed => ?_
  rcases changed with ⟨changed, kmip⟩
  exact keeps_modify fun ws holds => kmipStable ws kmip changed holds

/-- The invariant does not depend on the configuration. -/
def ConfigStable (invariant : WorkSpace → Prop) : Prop :=
  ∀ ws config, invariant ws → invariant { ws with config := config, configChanged := true }

theorem setCommand_keeps (tolerant : Tolerant invariant failed)
    (configStable : ConfigStable invariant) (subcommand : SetCommands) :
    Keeps invariant failed (setCommand env subcommand) := by
  refine triple_read fun ws holds => ?_
  have applied : Triple (fun state => state = ws) (perform (subcommand.apply env ws))
      (fun _ state => invariant state) failed := by
    refine triple_weaken (perform_keeps tolerant (setApply_ordinary env ws subcommand)) ?_
      (fun _ _ after => after) (fun _ _ after => after)
    rintro state rfl
    exact holds
  refine triple_bind applied fun config => ?_
  refine triple_of_runs ?_ ?_
  · intro state value final before run
    cases run
    exact configStable state config before
  · intro state fault final before run
    cases run

theorem getCommand_keeps (tolerant : Tolerant invariant failed) (command : GetCommands) :
    Keeps invariant failed (getCommand env command) :=
  keeps_bind keeps_get fun _ => assert_keeps tolerant (shouldNotFail_ordinary _) _

/-- Only the lookup of an entry that is not there raises another fault. -/
theorem statusRoll_raises (ws : WorkSpace) (roll : RollType) :
    Raises (fun fault => Ordinary fault ∨
        (ws.state.keyset.rollstates roll).isSome ∧ ws.state.internal roll = none)
      (statusRoll env ws roll) := by
  have ordinary : ∀ {Value : Type} {step : Step Value}, Raises Ordinary step →
      Raises (fun fault => Ordinary fault ∨
        (ws.state.keyset.rollstates roll).isSome ∧ ws.state.internal roll = none) step :=
    fun raises => raises.weaken fun _ => Or.inl
  unfold statusRoll
  cases inProgress : ws.state.keyset.rollstates roll with
  | none => exact raises_pure _
  | some state =>
      rw [inProgress] at ordinary
      refine raises_bind (ordinary (wallClock_ordinary env)) fun clock => ?_
      refine raises_bind (ordinary ?_) fun _ => ?_
      · unfold statusExpire
        split
        · unfold statusExpire.report
          split <;> first | exact raises_pure _ | exact bail_ordinary _
        · unfold statusExpire.report
          split <;> first | exact raises_pure _ | exact bail_ordinary _
        · exact raises_pure _
      refine raises_bind (ordinary (statusActions_ordinary env ws _ _)) fun _ => ?_
      cases entry : ws.state.internal roll with
      | none => exact raises_throw (Or.inr ⟨rfl, rfl⟩)
      | some reports =>
          rw [entry] at ordinary
          refine ordinary ?_
          dsimp only
          unfold showAutomaticRollState
          split
          · exact printZoneSigners_ordinary env ws _
          · exact raises_pure _

theorem status_keeps (editing : Editing env invariant failed) (verbose : Bool) :
    Keeps invariant failed (status env verbose) := by
  refine triple_bind_get fun ws holds => onlyIf_keeps ?_
  have rolls : ∀ rolls : List RollType,
      Raises (fun fault => Ordinary fault ∨ ∃ roll,
        (ws.state.keyset.rollstates roll).isSome ∧ ws.state.internal roll = none)
        (statusRolls env ws rolls) := by
    intro rolls
    induction rolls with
    | nil => exact raises_pure _
    | cons roll rolls induction =>
        refine raises_bind ((statusRoll_raises ws roll).weaken ?_) fun _ => induction
        rintro fault (ordinary | missing)
        · exact Or.inl ordinary
        · exact Or.inr ⟨roll, missing⟩
  have printed : Keeps invariant failed (perform (statusRolls env ws RollType.all)) := by
    refine triple_weaken ((perform_counts editing.calls _).raises (raises_zoom (rolls _)))
      (fun _ before => before) (fun _ _ after => after) ?_
    rintro fault other ⟨after, ordinary | ⟨roll, inProgress, missing⟩⟩
    · exact editing.fails fault other ordinary after
    · exact editing.entry ws roll fault other holds inProgress missing after
  refine keeps_bind printed fun _ => perform_keeps editing.toTolerant (onlyIf_ordinary ?_)
  refine raises_bind ?_ fun _ => raises_pure _
  have times : ∀ (delay : Duration) (keys : List (String × Key)),
      Raises Ordinary (removalTimes delay keys : Step _) := by
    intro delay keys
    induction keys with
    | nil => exact raises_pure _
    | cons entry keys induction =>
        unfold removalTimes
        refine raises_ite ?_ induction
        split
        · exact raises_throw (ordinary_panic (by decide) (by decide))
        · exact raises_bind induction fun _ => raises_pure _
  exact times _ _

/-- Subcommands other than set that remove no keys. -/
theorem plainSubcommand_triple {mine : KeyRef → Prop}
    (custody : Custody env invariant failed mine) (now : UnixTime) {command : Commands}
    (kmipStable : ∀ subcommand, command = .kmip subcommand → KmipStable invariant)
    (notSet : ∀ change, command ≠ .set change)
    (notRemove : ∀ key force continueFlag, command ≠ .removeKey key force continueFlag)
    (notCron : command ≠ .cron) :
    Triple (fun ws => invariant ws ∧
        (command.rebuildsDs ws.state.keyset = true → SilentDs env invariant))
      (subcommand env now command) (fun _ => invariant) failed := by
  cases command with
  | init => exact init_triple custody
  | roll variant subcommand => exact triple_drop (rollCommand_keeps custody.openings subcommand variant)
  | importKey subcommand =>
      refine triple_pointwise fun ws holds => ?_
      have imported := importCommand_keeps custody.toEditing custody.toSigning (holds.2 rfl) subcommand
      refine triple_weaken imported ?_ (fun _ _ after => after) (fun _ _ after => after)
      rintro _ rfl
      exact holds.1
  | removeKey key force continueFlag => exact absurd rfl (notRemove key force continueFlag)
  | status verbose => exact triple_drop (status_keeps custody.toEditing verbose)
  | actions => exact triple_drop (keeps_pure _)
  | keys => exact triple_drop (keeps_pure _)
  | get subcommand => exact triple_drop (getCommand_keeps custody.toTolerant subcommand)
  | set subcommand => exact absurd rfl (notSet subcommand)
  | showConfig => exact triple_drop (keeps_pure _)
  | cron => exact absurd rfl notCron
  | kmip subcommand =>
      exact triple_drop (kmipCommand_keeps custody.toTolerant (kmipStable subcommand rfl) subcommand)

theorem plainSubcommand_keeps {mine : KeyRef → Prop}
    (custody : Custody env invariant failed mine) (silent : SilentDs env invariant)
    (now : UnixTime) {command : Commands}
    (kmipStable : ∀ subcommand, command = .kmip subcommand → KmipStable invariant)
    (notSet : ∀ change, command ≠ .set change)
    (notRemove : ∀ key force continueFlag, command ≠ .removeKey key force continueFlag)
    (notCron : command ≠ .cron) : Keeps invariant failed (subcommand env now command) :=
  triple_weaken (plainSubcommand_triple custody now kmipStable notSet notRemove notCron)
    (fun _ holds => ⟨holds, fun _ => silent⟩) (fun _ _ after => after) (fun _ _ after => after)

/-- When something has changed the next cron run is computed. -/
theorem scheduled_keeps (editing : Editing env invariant failed) (now : UnixTime) :
    Keeps invariant failed (do
      let ws ← get
      if ws.configChanged || ws.stateChanged then do
        updateCronNext env now
        return true
      else
        return false) :=
  keeps_bind keeps_get fun _ => keeps_ite
    (fun _ => keeps_bind (updateCronNext_keeps editing now) fun _ => keeps_pure _)
    fun _ => keeps_pure _

/-- What the subcommand keeps, the whole computation keeps. -/
theorem compute_triple (editing : Editing env invariant failed) {known : WorkSpace → Prop}
    (counted : CallStable known) {command : Commands}
    (subcommands : ∀ now, Triple (fun ws => invariant ws ∧ known ws)
      (subcommand env now command) (fun _ => invariant) failed) :
    Triple (fun ws => invariant ws ∧ known ws) (compute env command)
      (fun _ => invariant) failed := by
  have counts : CallStable fun ws => invariant ws ∧ known ws := fun ws calls holds =>
    ⟨editing.calls ws calls holds.1, counted ws calls holds.2⟩
  refine triple_bind_get fun ws _ => ?_
  refine triple_bind (faketimeOrNow_keeps counts ws.config) fun now => ?_
  exact triple_bind (subcommands now) fun _ => scheduled_keeps editing now

/-- Leave an addition that says nothing to the invariant behind. -/
theorem keeps_of_and_true {Value : Type} {action : Run Value}
    (triple : Triple (fun ws => invariant ws ∧ True) action (fun _ => invariant) failed) :
    Keeps invariant failed action :=
  triple_weaken triple (fun _ holds => ⟨holds, trivial⟩) (fun _ _ holds => holds)
    (fun _ _ after => after)

theorem autoremovePhase_keeps (storage : Storage env invariant failed fun _ => True) :
    Keeps invariant failed (autoremovePhase env) :=
  keeps_of_and_true <| autoremovePhase_triple storage
    fun _ _ _ _ _ _ _ _ _ _ => keyTouches_true _ _ _

section Material

variable (custody : Custody env invariant failed fun _ => True)

include custody

/-- Every subcommand but set is made of routine changes. Cron also records the results of
checks. -/
theorem subcommand_keeps (silent : SilentDs env invariant) (now : UnixTime)
    {command : Commands} (recording : command = .cron → Recording env invariant)
    (kmipStable : ∀ subcommand, command = .kmip subcommand → KmipStable invariant)
    (notSet : ∀ change, command ≠ .set change) :
    Keeps invariant failed (subcommand env now command) := by
  by_cases isCron : command = .cron
  · have phases := custody.phases (recording isCron)
    rw [isCron]
    exact cron_keeps phases now (autoremovePhase_keeps custody.toStorage)
  · by_cases isRemove : ∃ key force continueFlag, command = .removeKey key force continueFlag
    · rcases isRemove with ⟨key, force, continueFlag, rfl⟩
      exact keeps_of_and_true <| removeKeySubcommand_triple custody.toStorage
        (fun _ _ _ _ _ => keyTouches_true _ _ _) force continueFlag custody.toSigning
        fun _ => silent
    · exact plainSubcommand_keeps custody silent now kmipStable notSet
        (fun key force continueFlag same => isRemove ⟨key, force, continueFlag, same⟩) isCron

theorem compute_keeps (silent : SilentDs env invariant) {command : Commands}
    (recording : command = .cron → Recording env invariant)
    (kmipStable : ∀ subcommand, command = .kmip subcommand → KmipStable invariant)
    (notSet : ∀ change, command ≠ .set change) :
    Keeps invariant failed (compute env command) :=
  keeps_of_and_true <| compute_triple custody.toEditing (fun _ _ known => known) fun now =>
    triple_weaken (subcommand_keeps custody silent now recording kmipStable notSet)
      (fun _ holds => holds.1) (fun _ _ holds => holds) (fun _ _ after => after)

/-- Every subcommand keeps an invariant that does not depend on the configuration. -/
theorem anyCompute_keeps (silent : SilentDs env invariant)
    (configStable : ConfigStable invariant) (command : Commands)
    (recording : command = .cron → Recording env invariant)
    (kmipStable : ∀ subcommand, command = .kmip subcommand → KmipStable invariant) :
    Keeps invariant failed (compute env command) := by
  by_cases isSet : ∃ subcommand, command = .set subcommand
  · rcases isSet with ⟨subcommand, rfl⟩
    exact keeps_of_and_true <| compute_triple custody.toEditing (fun _ _ known => known)
      fun now => triple_weaken (setCommand_keeps custody.toTolerant configStable subcommand)
        (fun _ holds => holds.1) (fun _ _ holds => holds) (fun _ _ after => after)
  · exact compute_keeps custody silent recording kmipStable
      fun change same => isSet ⟨change, same⟩

end Material

end Everything

end Dnst.Keyset
