import Dnst.Foundation.ReplacedFiles
import Dnst.Keyset.Bookkeeping
import Mathlib.Logic.Relation

/-! # Invocations that are cut off

An invocation replaces the config file and the state file one after the other, each by
renaming a file that has been written before. One that is cut off at any moment leaves
two whole files, of which the config file may be a version ahead.
-/

namespace Dnst.Keyset

open Effect FileSteps Relation

/-! ## The two files -/

/-- The JSON of the two files. -/
structure Formats (Octet : Type) where
  showConfig : KeySetConfig → List Octet
  showState : KeySetState → List Octet
  readConfig : List Octet → Option KeySetConfig
  readState : List Octet → Option KeySetState
  readConfig_showConfig : ∀ config, readConfig (showConfig config) = some config
  readState_showState : ∀ state, readState (showState state) = some state

abbrev Disk (Octet : Type) := Directory String Octet

/-- The name of a file until it is renamed. -/
def filenameNew (filename : String) : String := filename ++ ".new"

variable {Octet : Type}

/-- What an invocation reads before it does anything else. -/
def Formats.load (formats : Formats Octet) (keysetConf : String) (disk : Disk Octet) :
    Option (KeySetConfig × KeySetState) := do
  let config ← formats.readConfig (← contentAt disk keysetConf)
  let state ← formats.readState (← contentAt disk config.stateFile)
  return (config, state)

/-- The files that are replaced at the end of an invocation. -/
def saves (formats : Formats Octet) (keysetConf : String) (ws : WorkSpace) :
    List (Replacement String Octet) :=
  (if ws.configChanged then [⟨keysetConf, formats.showConfig ws.config⟩] else []) ++
    if ws.stateChanged then [⟨ws.config.stateFile, formats.showState ws.state.withApex⟩] else []

/-! ## What an invocation can leave -/

/-- What is saved when saving ends at some point. -/
inductive CutOff (ws : WorkSpace) : KeySetConfig × KeySetState → Prop
  | nothing : CutOff ws (ws.savedConfig, ws.savedState)
  | config : ws.configChanged = true → CutOff ws (ws.config, ws.savedState)
  | all :
      CutOff ws
        (if ws.configChanged then ws.config else ws.savedConfig,
          if ws.stateChanged then ws.state.withApex else ws.savedState)

/-- An invocation that has computed something is cut off somewhere in saving it. -/
inductive Continues (platform : Platform) :
    KeySetConfig × KeySetState → KeySetConfig × KeySetState → Prop
  | invoke {system : System} {computed : WorkSpace} {later : KeySetConfig × KeySetState}
      (env : Environment) (command : Commands) :
      env.toPlatform = platform →
      exec (do loadFiles env; compute env command) system.load = (.ok true, computed) →
      CutOff computed later →
      Continues platform (system.config, system.state) later

/-- One step of the files on disk: an invocation saves for some time, or something else
happens that has nothing to do with them. -/
inductive Proceeds (formats : Formats Octet) (platform : Platform) (keysetConf : String) :
    Disk Octet → Disk Octet → Prop
  | invoke {disk after : Disk Octet} {system : System} {computed : WorkSpace}
      (env : Environment) (command : Commands) :
      formats.load keysetConf disk = some (system.config, system.state) →
      env.toPlatform = platform → env.keysetConf = keysetConf →
      exec (do loadFiles env; compute env command) system.load = (.ok true, computed) →
      Moments filenameNew 0o644 (saves formats env.keysetConf computed) disk after →
      Proceeds formats platform keysetConf disk after
  | elsewhere {disk after : Disk Octet} {config : KeySetConfig} {state : KeySetState} :
      formats.load keysetConf disk = some (config, state) →
      (∀ place, LooksAt filenameNew (fun path => path = keysetConf ∨ path = config.stateFile)
        disk place → after place = disk place) →
      Proceeds formats platform keysetConf disk after

/-! ## Saving -/

section Saving

variable {formats : Formats Octet} {keysetConf : String} {disk after : Disk Octet}
variable {config : KeySetConfig} {state : KeySetState}

theorem load_eq_some :
    formats.load keysetConf disk = some (config, state) ↔
      (contentAt disk keysetConf).bind formats.readConfig = some config ∧
        (contentAt disk config.stateFile).bind formats.readState = some state := by
  unfold Formats.load
  constructor
  · intro loaded
    simp only [Option.bind_eq_bind, Option.bind_eq_some_iff, Option.pure_def, Option.some.injEq,
      Prod.mk.injEq] at loaded ⊢
    rcases loaded with ⟨text, found, _, read, content, other, _, parsed, rfl, rfl⟩
    exact ⟨⟨text, found, read⟩, content, other, parsed⟩
  · intro both
    simp only [Option.bind_eq_bind, Option.bind_eq_some_iff, Option.pure_def, Option.some.injEq,
      Prod.mk.injEq] at both ⊢
    rcases both with ⟨⟨text, found, read⟩, content, other, parsed⟩
    exact ⟨text, found, config, read, content, other, state, parsed, rfl, rfl⟩

/-- A list of at most one element is not split in the middle. -/
theorem short_split {Element : Type} {list front back : List Element} (short : list.length ≤ 1)
    (split : list = front ++ back) : front = [] ∨ front = list := by
  cases front with
  | nil => exact Or.inl rfl
  | cons first front =>
      right
      have count := congrArg List.length split
      simp only [List.length_cons, List.length_append] at count
      have none : back = [] := List.length_eq_zero_iff.mp (by omega)
      rw [split, none, List.append_nil]

/-- Either nothing, the config file or everything has been replaced. -/
theorem saves_split {ws : WorkSpace} {done rest : List (Replacement String Octet)}
    (split : saves formats keysetConf ws = done ++ rest) :
    done = [] ∨
      (ws.configChanged = true ∧ done = [⟨keysetConf, formats.showConfig ws.config⟩]) ∨
      done = saves formats keysetConf ws := by
  have short : ∀ (condition : Bool) (replacement : Replacement String Octet),
      (if condition then [replacement] else []).length ≤ 1 := by
    intro condition replacement
    cases condition <;> simp
  unfold saves at split ⊢
  rcases List.append_eq_append_iff.mp split with ⟨more, begins, ends⟩ | ⟨more, begins, _⟩
  · rcases short_split (short _ _) ends with nothing | everything
    · rw [nothing, List.append_nil] at begins
      cases changed : ws.configChanged with
      | false =>
          left
          simpa [changed] using begins
      | true => exact Or.inr (Or.inl ⟨rfl, by simpa [changed] using begins⟩)
    · exact Or.inr (Or.inr (by rw [begins, everything]))
  · rcases short_split (short _ _) begins with nothing | everything
    · exact Or.inl nothing
    · cases changed : ws.configChanged with
      | false =>
          left
          simpa [changed] using everything
      | true => exact Or.inr (Or.inl ⟨rfl, by simpa [changed] using everything⟩)

theorem latest_saves_config {ws : WorkSpace} (differ : keysetConf ≠ ws.config.stateFile)
    (content : Option (List Octet)) :
    latest (saves formats keysetConf ws) keysetConf content =
      if ws.configChanged then some (formats.showConfig ws.config) else content := by
  unfold saves
  cases ws.configChanged <;> cases ws.stateChanged <;> simp [differ.symm]

theorem latest_saves_state {ws : WorkSpace} (differ : keysetConf ≠ ws.config.stateFile)
    (content : Option (List Octet)) :
    latest (saves formats keysetConf ws) ws.config.stateFile content =
      if ws.stateChanged then some (formats.showState ws.state.withApex) else content := by
  unfold saves
  cases ws.configChanged <;> cases ws.stateChanged <;> simp [differ]

/-- What is read at any moment of saving. -/
theorem load_moments {ws : WorkSpace}
    (moments : Moments filenameNew 0o644 (saves formats keysetConf ws) disk after)
    (loaded : formats.load keysetConf disk = some (ws.savedConfig, ws.savedState))
    (sameFile : ws.config.stateFile = ws.savedConfig.stateFile)
    (differ : keysetConf ≠ ws.config.stateFile)
    (apart : Apart filenameNew (fun path => path = keysetConf ∨ path = ws.config.stateFile)
      disk) :
    Apart filenameNew (fun path => path = keysetConf ∨ path = ws.config.stateFile) after ∧
      ∃ later, formats.load keysetConf after = some later ∧
        later.1.stateFile = ws.config.stateFile ∧ CutOff ws later := by
  have seen : ∀ replacement ∈ saves formats keysetConf ws,
      replacement.path = keysetConf ∨ replacement.path = ws.config.stateFile := by
    intro replacement member
    unfold saves at member
    rcases List.mem_append.mp member with first | second
    · left
      split at first
      · rw [List.mem_singleton.mp first]
      · cases first
    · right
      split at second
      · rw [List.mem_singleton.mp second]
      · cases second
  rcases moments.contentAt apart seen with ⟨apartAfter, done, rest, split, contents⟩
  apply And.intro apartAfter
  have confAfter := contents keysetConf (Or.inl rfl)
  have stateAfter := contents ws.config.stateFile (Or.inr rfl)
  rcases load_eq_some.mp loaded with ⟨oldConfig, oldState⟩
  rw [← sameFile] at oldState
  rcases saves_split split with nothing | ⟨changed, onlyConfig⟩ | everything
  · rw [nothing] at confAfter stateAfter
    refine ⟨(ws.savedConfig, ws.savedState), load_eq_some.mpr ⟨?_, ?_⟩, sameFile.symm,
      .nothing⟩
    · rw [confAfter]
      exact oldConfig
    · rw [← sameFile, stateAfter]
      exact oldState
  · rw [onlyConfig] at confAfter stateAfter
    have confWritten : contentAt after keysetConf = some (formats.showConfig ws.config) := by
      rw [confAfter, latest_cons, if_pos rfl]
      rfl
    have stateKept : contentAt after ws.config.stateFile =
        contentAt disk ws.config.stateFile := by
      rw [stateAfter, latest_cons, if_neg differ]
      rfl
    refine ⟨(ws.config, ws.savedState), load_eq_some.mpr ⟨?_, ?_⟩, rfl, .config changed⟩
    · rw [confWritten]
      exact formats.readConfig_showConfig _
    · rw [stateKept]
      exact oldState
  · rw [everything] at confAfter stateAfter
    rw [latest_saves_config differ] at confAfter
    rw [latest_saves_state differ] at stateAfter
    have configFile : (if ws.configChanged then ws.config else ws.savedConfig).stateFile =
        ws.config.stateFile := by
      cases ws.configChanged
      · exact sameFile.symm
      · rfl
    have loadedAfter : formats.load keysetConf after =
        some (if ws.configChanged then ws.config else ws.savedConfig,
          if ws.stateChanged then ws.state.withApex else ws.savedState) := by
      rw [load_eq_some, configFile, confAfter, stateAfter]
      constructor
      · cases ws.configChanged
        · exact oldConfig
        · exact formats.readConfig_showConfig _
      · cases ws.stateChanged
        · exact oldState
        · exact formats.readState_showState _
    exact ⟨_, loadedAfter, configFile, .all⟩

end Saving

/-! ## Invocations that are not cut off -/

/-- Saving the state replaces the state file or leaves it as it was. -/
theorem writeState_saved (env : Environment) (ws : WorkSpace) :
    (exec (onlyIf ws.stateChanged (writeState env)) ws).2.savedConfig = ws.savedConfig ∧
      ((exec (onlyIf ws.stateChanged (writeState env)) ws).2.savedState = ws.savedState ∨
        ws.stateChanged = true ∧
          (exec (onlyIf ws.stateChanged (writeState env)) ws).2.savedState =
            ws.state.withApex) := by
  cases changed : ws.stateChanged with
  | false => exact ⟨rfl, Or.inl rfl⟩
  | true =>
      have same : exec (onlyIf true (writeState env)) ws = exec (writeState env) ws := rfl
      rw [same]
      rcases exec_writeState env ws with ⟨calls, written⟩ | ⟨fault, calls, failed⟩
      · rw [written]
        exact ⟨rfl, Or.inr ⟨rfl, rfl⟩⟩
      · rw [failed]
        exact ⟨rfl, Or.inl rfl⟩

/-- What saving leaves, also when it fails, is what a cut leaves. -/
theorem persist_cutOff (env : Environment) (ws : WorkSpace) :
    CutOff ws ((exec (persist env) ws).2.savedConfig, (exec (persist env) ws).2.savedState) := by
  unfold persist
  rw [exec_bind_of_ok (exec_get ws)]
  cases changed : ws.configChanged with
  | false =>
      have skipped : exec (onlyIf false (writeConfig env)) ws = (.ok ⟨⟩, ws) := rfl
      rw [exec_bind_of_ok skipped]
      have whole := @CutOff.all ws
      rw [changed] at whole
      rcases writeState_saved env ws with ⟨config, kept | ⟨marked, written⟩⟩
      · rw [config, kept]
        exact .nothing
      · rw [config, written]
        rw [marked] at whole
        exact whole
  | true =>
      rcases exec_writeConfig env ws with ⟨calls, written⟩ | ⟨fault, calls, failed⟩
      · have first : exec (onlyIf true (writeConfig env)) ws =
            (.ok ⟨⟩, { ws with calls := calls, savedConfig := ws.config }) := written
        rw [exec_bind_of_ok first]
        have whole := @CutOff.all ws
        rw [changed] at whole
        rcases writeState_saved env { ws with calls := calls, savedConfig := ws.config } with
          ⟨config, kept | ⟨marked, saved⟩⟩
        · rw [config, kept]
          exact .config changed
        · rw [config, saved]
          change ws.stateChanged = true at marked
          rw [marked] at whole
          exact whole
      · have first : exec (onlyIf true (writeConfig env)) ws =
            (.error fault, { ws with calls := calls }) := failed
        rw [exec_bind_of_error first]
        exact .nothing

/-- A whole invocation, whatever fails in it. -/
theorem invoke_continues {platform : Platform} {env : Environment} (command : Commands)
    (system : System) (same : env.toPlatform = platform) :
    ReflTransGen (Continues platform) (system.config, system.state)
      ((invoke env command system).2.config, (invoke env command system).2.state) := by
  have saved := @compute_saved env command system
  rcases computing : exec (do loadFiles env; compute env command) system.load with
    ⟨fault | changed, computed⟩
  · rw [computing] at saved
    rw [invoke_of_error computing, WorkSpace.system, saved.1, saved.2]
  · rw [computing] at saved
    cases changed with
    | false => rw [invoke_of_unchanged computing, WorkSpace.system, saved.1, saved.2]
    | true =>
        rw [invoke_of_compute computing]
        exact .single (.invoke env command same computing (persist_cutOff env computed))

/-! ## Whole histories -/

/-- No command moves the state file. -/
theorem compute_stateFile {env : Environment} {command : Commands} {system : System}
    {computed : WorkSpace} {changed : Bool}
    (computing : exec (do loadFiles env; compute env command) system.load =
      (.ok changed, computed)) :
    computed.config.stateFile = system.config.stateFile := by
  let holds : KeySetConfig → KeySetState → Prop :=
    fun config _ => config.stateFile = system.config.stateFile
  have lasting : Lasting env holds :=
    ⟨fun _ _ same _ => same, fun _ _ _ _ same _ _ => same, fun _ _ same => same⟩
  have keeps : SetKeeps holds env command system := by
    intro subcommand _ ws calls config final _ run state _ same
    exact (SetCommands.apply_places run).1.trans same
  have loaded : Preserves (fun ws => Consistent holds ws ∧ ws.config = system.config ∧
      ws.state.keyset = system.state.keyset ∧ ws.savedState.keyset = system.state.keyset)
      (loadFiles env) :=
    preserves_zoom fun ws calls ⟨consistent, same⟩ =>
      ⟨lasting.stable ws _ consistent (.calls ws calls), same⟩
  have whole := triple_bind (triple_weaken loaded (fun _ before => before)
    (fun _ _ after => after) (fun _ _ after => after.1)) fun _ =>
      compute_consistent lasting command system keeps
  exact (Triple.ok whole ⟨load_consistent system rfl, rfl, rfl, rfl⟩ computing).current

theorem compute_tracked {platform : Platform} (laws : RollStateLaws platform)
    {env : Environment} {command : Commands} {system : System} {computed : WorkSpace}
    {changed : Bool} (same : env.toPlatform = platform) (tracked : Tracked system.state)
    (computing : exec (do loadFiles env; compute env command) system.load =
      (.ok changed, computed)) :
    Tracked computed.state := by
  subst same
  have loading := perform_keeps (tracked_custody laws).toTolerant (attempt_ordinary env id)
  have whole := keeps_bind loading fun _ => compute_tracks laws command
  have loaded : Tracked system.load.state := tracked
  exact Keeps.ok whole loaded computing

theorem CutOff.tracked {ws : WorkSpace} {later : KeySetConfig × KeySetState}
    (cutOff : CutOff ws later) (saved : Tracked ws.savedState) (current : Tracked ws.state) :
    Tracked later.2 := by
  cases cutOff with
  | nothing => exact saved
  | config _ => exact saved
  | all =>
      cases ws.stateChanged
      · exact saved
      · exact current

theorem Continues.tracked {platform : Platform} (laws : RollStateLaws platform)
    {now later : KeySetConfig × KeySetState} (continues : Continues platform now later)
    (tracked : Tracked now.2) : Tracked later.2 := by
  rcases continues with ⟨env, command, same, computing, cutOff⟩
  have saved := @compute_saved env command ‹System›
  rw [computing] at saved
  apply cutOff.tracked
  · rw [saved.2]
    exact tracked
  · exact compute_tracked laws same tracked computing

section Histories

variable {platform : Platform} {formats : Formats Octet} {keysetConf stateFile : String}
variable {disk after : Disk Octet} {files : KeySetConfig × KeySetState}

/-- The files can be loaded, and what is written stays out of their way. -/
structure Sound (formats : Formats Octet) (keysetConf stateFile : String) (disk : Disk Octet)
    (files : KeySetConfig × KeySetState) : Prop where
  loaded : formats.load keysetConf disk = some files
  sameFile : files.1.stateFile = stateFile
  apart : Apart filenameNew (fun path => path = keysetConf ∨ path = stateFile) disk

/-- A step on disk is a step of the two files, or nothing. -/
theorem Proceeds.sound (proceeds : Proceeds formats platform keysetConf disk after)
    (differ : keysetConf ≠ stateFile) (sound : Sound formats keysetConf stateFile disk files) :
    ∃ later, Sound formats keysetConf stateFile after later ∧
      ReflTransGen (Continues platform) files later := by
  cases proceeds with
  | @invoke system computed env command loaded same sameConf computing moments =>
      rw [sound.loaded, Option.some_inj] at loaded
      subst files
      have saved := @compute_saved env command system
      rw [computing] at saved
      have file := (compute_stateFile computing).trans sound.sameFile
      rw [← saved.1, ← saved.2] at sound
      rw [sameConf] at moments
      rcases load_moments moments sound.loaded (file.trans sound.sameFile.symm)
        (file ▸ differ) (file ▸ sound.apart) with
        ⟨apart, later, loadedAfter, laterFile, cutOff⟩
      refine ⟨later, ⟨loadedAfter, laterFile.trans file, file ▸ apart⟩, .single ?_⟩
      exact .invoke env command same computing cutOff
  | @elsewhere config state loaded same =>
      rw [sound.loaded, Option.some_inj] at loaded
      subst files
      have file : config.stateFile = stateFile := sound.sameFile
      rw [file] at same
      rcases load_eq_some.mp sound.loaded with ⟨readConfig, readState⟩
      refine ⟨(config, state),
        ⟨load_eq_some.mpr ⟨?_, ?_⟩, file, sound.apart.elsewhere same⟩, .refl⟩
      · rw [contentAt_elsewhere same (Or.inl rfl)]
        exact readConfig
      · rw [contentAt_elsewhere same (Or.inr file)]
        exact readState

/-- However many invocations are cut off while they save, the files that the next one
finds can be loaded, are what invocations have computed from one another, and have an
entry for exactly the rolls in progress. -/
theorem cutOffs_keep_files (laws : RollStateLaws platform)
    (loaded : formats.load keysetConf disk = some files)
    (differ : keysetConf ≠ files.1.stateFile)
    (apart : Apart filenameNew (fun path => path = keysetConf ∨ path = files.1.stateFile) disk)
    (tracked : Tracked files.2)
    (history : ReflTransGen (Proceeds formats platform keysetConf) disk after) :
    ∃ later, formats.load keysetConf after = some later ∧
      later.1.stateFile = files.1.stateFile ∧
      ReflTransGen (Continues platform) files later ∧ Tracked later.2 := by
  have reached : ∃ later, Sound formats keysetConf files.1.stateFile after later ∧
      ReflTransGen (Continues platform) files later := by
    induction history with
    | refl => exact ⟨files, ⟨loaded, rfl, apart⟩, .refl⟩
    | tail _ proceeds induction =>
        rcases induction with ⟨middle, sound, before⟩
        rcases proceeds.sound differ sound with ⟨later, soundAfter, step⟩
        exact ⟨later, soundAfter, before.trans step⟩
  rcases reached with ⟨later, sound, steps⟩
  refine ⟨later, sound.loaded, sound.sameFile, steps, ?_⟩
  clear sound
  induction steps with
  | refl => exact tracked
  | tail _ step induction => exact step.tracked laws induction

end Histories

namespace Reference

/-- Files that hold one document each. -/
def documents : Formats (KeySetConfig ⊕ KeySetState) where
  showConfig := fun config => [.inl config]
  showState := fun state => [.inr state]
  readConfig
    | [.inl config] => some config
    | _ => none
  readState
    | [.inr state] => some state
    | _ => none
  readConfig_showConfig := fun _ => rfl
  readState_showState := fun _ => rfl

/-- The two files of the initialised zone. -/
def savedFiles : Disk (KeySetConfig ⊕ KeySetState) := fun path =>
  if path = "/keys/config" then
    some (.file 0o644 (documents.showConfig (initialised true).config))
  else if path = "/keys/state" then
    some (.file 0o644 (documents.showState (initialised true).state))
  else none

def settingDay : Environment × Commands := day 4 (.set (.dnskeyRemainTime oneDay))

/-- What the set command has computed. -/
def settingComputed : WorkSpace :=
  (exec (do loadFiles settingDay.1; compute settingDay.1 settingDay.2) (initialised true).load).2

/-- The config file has been replaced, the state file has not. -/
def betweenRenames : Disk (KeySetConfig ⊕ KeySetState) :=
  (replace filenameNew 0o644
    ⟨"/keys/config", documents.showConfig settingComputed.config⟩ savedFiles).toOption.getD
      savedFiles

theorem savedFiles_visits {path : String} :
    visits savedFiles maxLinks path = [path] := by
  apply visits_self
  intro target found
  unfold savedFiles at found
  split at found
  · cases found
  · split at found
    · cases found
    · cases found

theorem betweenRenames_replaced :
    replace filenameNew 0o644 ⟨"/keys/config", documents.showConfig settingComputed.config⟩
      savedFiles = .ok betweenRenames := by
  rfl

end Reference

theorem cutOffs_keep_files_reference :
    ∃ later, Reference.documents.load "/keys/config" Reference.betweenRenames = some later ∧
      later.1.stateFile = (Reference.initialised true).config.stateFile ∧
      ReflTransGen (Continues Reference.platform)
        ((Reference.initialised true).config, (Reference.initialised true).state) later ∧
      Tracked later.2 := by
  have stateFile : (Reference.initialised true).config.stateFile = "/keys/state" := by
    decide +kernel
  have loaded : Reference.documents.load "/keys/config" Reference.savedFiles =
      some ((Reference.initialised true).config, (Reference.initialised true).state) := by
    rw [load_eq_some, stateFile]
    exact ⟨rfl, rfl⟩
  have tracked : Tracked (Reference.initialised true).state := by
    intro roll
    cases roll <;> decide +kernel
  have computing : exec (do
      loadFiles Reference.settingDay.1
      compute Reference.settingDay.1 Reference.settingDay.2) (Reference.initialised true).load =
        (.ok true, Reference.settingComputed) := by
    have succeeds : (exec (do
        loadFiles Reference.settingDay.1
        compute Reference.settingDay.1 Reference.settingDay.2)
          (Reference.initialised true).load).1 = .ok true := by decide +kernel
    unfold Reference.settingComputed
    rw [← succeeds]
  have differ : "/keys/config" ≠ (Reference.initialised true).config.stateFile := by
    rw [stateFile]
    decide
  have apart : Apart filenameNew (fun path => path = "/keys/config" ∨
      path = (Reference.initialised true).config.stateFile) Reference.savedFiles := by
    rw [stateFile]
    constructor
    · intro path seen target found
      rcases seen with rfl | rfl
      · cases found
      · cases found
    · intro path other first second visited
      rw [Reference.savedFiles_visits, List.mem_singleton] at visited
      revert visited
      rcases first with rfl | rfl <;> rcases second with rfl | rfl <;> decide
    · intro path other _ _ visited
      rw [Reference.savedFiles_visits, List.mem_singleton] at visited
      exact visited
  have history : ReflTransGen (Proceeds Reference.documents Reference.platform "/keys/config")
      Reference.savedFiles Reference.betweenRenames := by
    apply ReflTransGen.single
    apply Proceeds.invoke Reference.settingDay.1 Reference.settingDay.2 loaded rfl rfl computing
    have changed : Reference.settingComputed.configChanged = true := by decide +kernel
    unfold saves
    rw [if_pos changed]
    exact .during (.finish Reference.betweenRenames_replaced)
  exact cutOffs_keep_files Reference.rollStateLaws loaded differ apart tracked history

end Dnst.Keyset
