import Dnst.Keyset.Material

/-! # Invariants of the configuration and the state file

A property of configuration and state that survives every elementary change, and
the set commands that are allowed, holds after every run. The two files are
replaced one after the other, so it has to hold in between as well.
-/

namespace Dnst.Keyset

open Effect

/-- A property of the files that subcommands other than set cannot break. -/
structure Lasting (env : Environment) (holds : KeySetConfig → KeySetState → Prop) : Prop where
  change : ∀ ws next, holds ws.config ws.state → Change env ws next →
    holds ws.config next.state
  starts : ∀ config state roll keyset, holds config state → startable config roll →
    KeySetChange env (some roll) state.keyset keyset →
    holds config { state with keyset := keyset }
  apex : ∀ config state, holds config state → holds config state.withApex

/-- What is true between any two steps of an invocation: the property holds in
memory, on disk, and for the new configuration next to the old state. -/
structure Consistent (holds : KeySetConfig → KeySetState → Prop) (ws : WorkSpace) : Prop where
  current : holds ws.config ws.state
  saved : holds ws.savedConfig ws.savedState
  between : holds ws.config ws.savedState
  unchanged : ws.configChanged = false → ws.config = ws.savedConfig

/-! ## Writing the files -/

/-- Writing config either fails before the rename or leaves it in the file. -/
theorem exec_writeConfig (env : Environment) (ws : WorkSpace) :
    (∃ calls, exec (writeConfig env) ws =
        (.ok ⟨⟩, { ws with calls := calls, savedConfig := ws.config })) ∨
      ∃ fault calls, exec (writeConfig env) ws = (.error fault, { ws with calls := calls }) := by
  unfold writeConfig
  have performed := exec_perform (writeToNewAndRename env env.keysetConf) ws
  rcases written : exec (writeToNewAndRename env env.keysetConf) ws.calls with
    ⟨fault | ⟨⟩, calls⟩
  · right
    rw [written] at performed
    exact ⟨fault, calls, exec_bind_of_error performed⟩
  · left
    rw [written] at performed
    refine ⟨calls, ?_⟩
    rw [exec_bind_of_ok performed, exec_modify]

/-- Writing state derives the apex records whatever becomes of the file. -/
theorem exec_writeState (env : Environment) (ws : WorkSpace) :
    (∃ calls, exec (writeState env) ws =
        (.ok ⟨⟩, { ws with
          state := ws.state.withApex, calls := calls, savedState := ws.state.withApex })) ∨
      ∃ fault calls, exec (writeState env) ws =
        (.error fault, { ws with state := ws.state.withApex, calls := calls }) := by
  unfold writeState
  rw [exec_bind_of_ok (exec_modify _ ws), exec_bind_of_ok (exec_get _)]
  have performed := exec_perform (writeToNewAndRename env ws.config.stateFile)
    { ws with state := ws.state.withApex }
  rcases written : exec (writeToNewAndRename env ws.config.stateFile) ws.calls with
    ⟨fault | ⟨⟩, calls⟩
  · right
    rw [written] at performed
    exact ⟨fault, calls, exec_bind_of_error performed⟩
  · left
    rw [written] at performed
    refine ⟨calls, ?_⟩
    rw [exec_bind_of_ok performed, exec_modify]

/-! ## The end of an invocation -/

/-- `cron_next` is recomputed from the state that is saved. -/
theorem updateCronNext_ok {env : Environment} {now : UnixTime} {ws final : WorkSpace}
    (run : exec (updateCronNext env now) ws = (.ok ⟨⟩, final)) :
    ∃ entries middle, exec (cronNextEntries env now) ws = (.ok entries, middle) ∧
      final.config = ws.config ∧ final.configChanged = ws.configChanged ∧
      final.savedConfig = ws.savedConfig ∧
      final.state = { ws.state with cronNext := (entries.filterMap id).min? } := by
  rcases exec_bind_eq_ok.mp run with ⟨entries, middle, computed, rest⟩
  have counts : CallStable fun other => other.config = ws.config ∧
      other.configChanged = ws.configChanged ∧ other.savedConfig = ws.savedConfig ∧
      other.state = ws.state := fun _ _ same => same
  have keeps := @cronNextEntries_keeps env _ _ counts.tolerant
    (fun _ _ _ _ _ _ _ after => after) now
  rcases keeps.ok ⟨rfl, rfl, rfl, rfl⟩ computed with
    ⟨config, configChanged, savedConfig, state⟩
  refine ⟨entries, middle, computed, ?_⟩
  rw [exec_bind_of_ok (exec_get middle)] at rest
  dsimp only at rest
  by_cases same : (entries.filterMap id).min? = middle.state.cronNext
  · rw [if_pos same] at rest
    cases rest
    exact ⟨config, configChanged, savedConfig, by rw [same, ← state]⟩
  · rw [if_neg same] at rest
    cases rest
    exact ⟨config, configChanged, savedConfig, by rw [← state]⟩

/-- Nothing of the outside world changes while the files are saved. -/
theorem persist_ok {env : Environment} {ws final : WorkSpace}
    (run : exec (persist env) ws = (.ok ⟨⟩, final)) :
    final.savedConfig = (if ws.configChanged then ws.config else ws.savedConfig) ∧
      final.savedState = (if ws.stateChanged then ws.state.withApex else ws.savedState) ∧
      final.state = (if ws.stateChanged then ws.state.withApex else ws.state) := by
  unfold persist at run
  rw [exec_bind_of_ok (exec_get ws)] at run
  rcases exec_bind_eq_ok.mp run with ⟨value, middle, config, state⟩
  have saved : middle.savedConfig = (if ws.configChanged then ws.config else ws.savedConfig) ∧
      middle.state = ws.state ∧ middle.savedState = ws.savedState := by
    cases changed : ws.configChanged with
    | false =>
        rw [changed] at config
        cases config
        exact ⟨rfl, rfl, rfl⟩
    | true =>
        rw [changed] at config
        change exec (writeConfig env) ws = _ at config
        rcases exec_writeConfig env ws with ⟨calls, written⟩ | ⟨fault, calls, failed⟩
        · rw [written] at config
          cases config
          exact ⟨rfl, rfl, rfl⟩
        · rw [failed] at config
          cases config
  rcases saved with ⟨savedConfig, sameState, savedState⟩
  cases changed : ws.stateChanged with
  | false =>
      rw [changed] at state
      cases state
      exact ⟨savedConfig, savedState, sameState⟩
  | true =>
      rw [changed] at state
      change exec (writeState env) middle = _ at state
      have derived := congrArg KeySetState.withApex sameState
      rcases exec_writeState env middle with ⟨calls, written⟩ | ⟨fault, calls, failed⟩
      · rw [written] at state
        cases state
        exact ⟨savedConfig, derived, derived⟩
      · rw [failed] at state
        cases state

/-- Saving changes nothing but the calls, the saved files and the derived fields. -/
theorem persist_preserves {env : Environment} {invariant : WorkSpace → Prop}
    (counts : CallStable invariant)
    (config : ∀ ws, invariant ws → invariant { ws with savedConfig := ws.config })
    (apex : ∀ ws, invariant ws → invariant { ws with state := ws.state.withApex })
    (state : ∀ ws, invariant ws → invariant { ws with savedState := ws.state }) :
    Preserves invariant (persist env) := by
  refine keeps_bind keeps_get fun known => ?_
  refine keeps_bind (onlyIf_keeps ?_) fun _ => onlyIf_keeps ?_
  · exact keeps_bind (perform_counts counts _) fun _ => keeps_modify config
  · exact keeps_bind (keeps_modify apex) fun _ => keeps_bind keeps_get fun _ =>
      keeps_bind (perform_counts counts _) fun _ => keeps_modify state

/-- Saving that fails leaves the state file as it was. -/
theorem persist_error {env : Environment} {ws final : WorkSpace} {fault : Fault}
    (run : exec (persist env) ws = (.error fault, final)) :
    final.savedState = ws.savedState := by
  have counts : CallStable fun state => state.savedState = ws.savedState := fun _ _ same => same
  unfold persist at run
  rw [exec_bind_of_ok (exec_get ws)] at run
  rcases config : exec (onlyIf ws.configChanged (writeConfig env)) ws with
    ⟨reason | ⟨⟩, middle⟩
  · have kept : Preserves (fun state => state.savedState = ws.savedState)
        (onlyIf ws.configChanged (writeConfig env)) :=
      onlyIf_keeps (keeps_bind (perform_counts counts _) fun _ => keeps_modify fun _ same => same)
    rw [exec_bind_of_error config] at run
    cases run
    exact kept.error rfl config
  · have kept : Preserves (fun state => state.savedState = ws.savedState)
        (onlyIf ws.configChanged (writeConfig env)) :=
      onlyIf_keeps (keeps_bind (perform_counts counts _) fun _ => keeps_modify fun _ same => same)
    have before := Keeps.ok kept rfl config
    rw [exec_bind_of_ok config] at run
    rw [← before]
    cases changed : ws.stateChanged with
    | false =>
        rw [changed] at run
        cases run
    | true =>
        rw [changed] at run
        change exec (writeState env) middle = _ at run
        rcases exec_writeState env middle with ⟨calls, written⟩ | ⟨reason, calls, failed⟩
        · rw [written] at run
          cases run
        · rw [failed] at run
          cases run
          rfl

/-- An invocation that fails before it saves anything. -/
theorem invoke_of_error {env : Environment} {command : Commands} {system : System}
    {computed : WorkSpace} {fault : Fault}
    (computing : exec (do loadFiles env; compute env command) system.load =
      (.error fault, computed)) :
    (invoke env command system).2 = computed.system := by
  have whole : exec (do loadFiles env; run env command) system.load =
      (.error fault, computed) := by
    unfold run
    rw [← bind_assoc]
    exact exec_bind_of_error computing
  unfold invoke
  rw [whole]

/-- An invocation that has nothing to save. -/
theorem invoke_of_unchanged {env : Environment} {command : Commands} {system : System}
    {computed : WorkSpace}
    (computing : exec (do loadFiles env; compute env command) system.load =
      (.ok false, computed)) :
    (invoke env command system).2 = computed.system := by
  have whole : exec (do loadFiles env; run env command) system.load = (.ok ⟨⟩, computed) := by
    unfold run
    rw [← bind_assoc]
    exact exec_bind_of_ok computing
  unfold invoke
  rw [whole]

/-- What an invocation leaves is what it has saved. -/
theorem invoke_of_compute {env : Environment} {command : Commands} {system : System}
    {computed : WorkSpace}
    (computing : exec (do loadFiles env; compute env command) system.load =
      (.ok true, computed)) :
    (invoke env command system).2 = (exec (persist env) computed).2.system := by
  have whole : exec (do loadFiles env; run env command) system.load =
      exec (do persist env; updateDs env) computed := by
    unfold run
    rw [← bind_assoc]
    exact exec_bind_of_ok computing
  have counts : CallStable fun ws => ws.system = (exec (persist env) computed).2.system :=
    fun _ _ same => same
  have keeps : Preserves (fun ws => ws.system = (exec (persist env) computed).2.system)
      (updateDs env) :=
    keeps_bind keeps_get fun _ => onlyIf_keeps (perform_counts counts _)
  unfold invoke
  rw [whole]
  rcases persisting : exec (persist env) computed with ⟨fault | ⟨⟩, saved⟩
  · rw [exec_bind_of_error persisting]
  · rw [exec_bind_of_ok persisting]
    rw [persisting] at keeps
    exact keeps.final rfl

theorem Change.files {ws next : WorkSpace} (change : Change env ws next) :
    next.config = ws.config ∧ next.savedConfig = ws.savedConfig ∧
      next.savedState = ws.savedState ∧
      (next.configChanged = false → ws.configChanged = false) := by
  cases change with
  | configChanged => exact ⟨rfl, rfl, rfl, fun impossible => by cases impossible⟩
  | calls => exact ⟨rfl, rfl, rfl, id⟩
  | stateChanged => exact ⟨rfl, rfl, rfl, id⟩
  | runUpdateDsCommand => exact ⟨rfl, rfl, rfl, id⟩
  | keySet => exact ⟨rfl, rfl, rfl, id⟩
  | dnskeyRrset => exact ⟨rfl, rfl, rfl, id⟩
  | dsRrset => exact ⟨rfl, rfl, rfl, id⟩
  | cdsRrset => exact ⟨rfl, rfl, rfl, id⟩
  | cdsRemoved => exact ⟨rfl, rfl, rfl, id⟩
  | internal => exact ⟨rfl, rfl, rfl, id⟩
  | cronNext => exact ⟨rfl, rfl, rfl, id⟩
  | kmip => exact ⟨rfl, rfl, rfl, id⟩

/-- Nothing is saved before everything has been computed. -/
theorem compute_saved {env : Environment} {command : Commands} {system : System} :
    (exec (do loadFiles env; compute env command) system.load).2.savedConfig = system.config ∧
      (exec (do loadFiles env; compute env command) system.load).2.savedState =
        system.state := by
  have stable : Stable env fun ws =>
      ws.savedConfig = system.config ∧ ws.savedState = system.state := by
    intro ws next same change
    rw [change.files.2.1, change.files.2.2.1]
    exact same
  have kmipStable : KmipStable fun ws =>
      ws.savedConfig = system.config ∧ ws.savedState = system.state :=
    fun _ _ _ same => same
  have lawful := stable.lawful (fun _ _ same => same) fun _ _ same => same
  have computed := anyCompute_keeps lawful.custody stable.silentDs
    (fun _ _ same => same) command (fun _ => lawful.recording) fun _ _ => kmipStable
  have whole := keeps_bind (perform_preserves stable (attempt env id)) fun _ => computed
  exact Preserves.final whole ⟨rfl, rfl⟩

/-- The state file holds what it held or what has been computed. -/
theorem invoke_state (env : Environment) (command : Commands) (system : System) :
    (invoke env command system).2.state = system.state ∨
      ∃ computed, exec (do loadFiles env; compute env command) system.load =
          (.ok true, computed) ∧
        (invoke env command system).2.state = computed.state.withApex := by
  have saved := (@compute_saved env command system).2
  rcases computing : exec (do loadFiles env; compute env command) system.load with
    ⟨fault | changed, computed⟩
  · rw [computing] at saved
    rw [invoke_of_error computing]
    exact Or.inl saved
  · rw [computing] at saved
    cases changed with
    | false =>
        rw [invoke_of_unchanged computing]
        exact Or.inl saved
    | true =>
        rw [invoke_of_compute computing]
        rcases persisting : exec (persist env) computed with ⟨fault | ⟨⟩, final⟩
        · exact Or.inl ((persist_error persisting).trans saved)
        · have written := (persist_ok persisting).2.1
          cases marked : computed.stateChanged with
          | false =>
              rw [marked] at written
              exact Or.inl (written.trans saved)
          | true =>
              rw [marked] at written
              exact Or.inr ⟨computed, rfl, written⟩

/-- What holds of the state file survives when everything that is computed from it
satisfies it again. -/
theorem ReachableIf.state {platform : Platform}
    {condition : Environment → Commands → System → Prop} {holds : KeySetState → Prop}
    (created : ∀ domainName, holds (createState domainName))
    (apex : ∀ state, holds state → holds state.withApex)
    (computes : ∀ env command system computed, env.toPlatform = platform →
      condition env command system → holds system.state →
      exec (do loadFiles env; compute env command) system.load = (.ok true, computed) →
      holds computed.state)
    {system : System} (reachable : ReachableIf platform condition system) :
    holds system.state := by
  induction reachable with
  | create domainName stateFile keysDir tsigStore keyStore => exact created domainName
  | addKeyFile material reachable absent induction => exact induction
  | invoke env command reachable same allowed induction =>
      rcases invoke_state env command _ with kept | ⟨computed, run, written⟩
      · rw [kept]
        exact induction
      · rw [written]
        exact apex _ (computes env command _ computed same allowed induction run)

section Invocation

variable {env : Environment} {holds : KeySetConfig → KeySetState → Prop}

theorem Lasting.stable (lasting : Lasting env holds) : Stable env (Consistent holds) := by
  rintro ws next ⟨current, saved, between, unchanged⟩ change
  rcases change.files with ⟨config, savedConfig, savedState, flag⟩
  refine ⟨?_, ?_, ?_, ?_⟩
  · rw [config]
    exact lasting.change ws next current change
  · rw [savedConfig, savedState]
    exact saved
  · rw [config, savedState]
    exact between
  · intro same
    rw [config, savedConfig]
    exact unchanged (flag same)

theorem Lasting.lawful (lasting : Lasting env holds) :
    Lawful env (Consistent holds) fun _ => True where
  stable := lasting.stable
  starts := by
    rintro ws roll keyset ⟨current, saved, between, unchanged⟩ startable change
    exact ⟨lasting.starts _ _ roll _ current startable change, saved, between, unchanged⟩
  absent := fun _ _ _ _ => trivial
  newFile := fun _ _ _ _ _ _ _ _ => trivial
  newPair := fun _ _ _ _ _ => ⟨fun _ _ => trivial, fun _ _ => trivial⟩
  keyStore := by
    rintro ws ref material ⟨current, saved, between, unchanged⟩ _
    exact ⟨current, saved, between, unchanged⟩

theorem Lasting.kmipStable (lasting : Lasting env holds) :
    KmipStable (Consistent holds) := by
  rintro ws kmip stateChanged ⟨current, saved, between, unchanged⟩
  have changed : holds ws.config { ws.state with kmip := kmip } :=
    lasting.change ws _ current (.kmip ws kmip)
  exact ⟨changed, saved, between, unchanged⟩

/-- Saving config makes it agree with the config in memory. -/
theorem writeConfig_consistent (lasting : Lasting env holds) :
    Triple (Consistent holds) (writeConfig env)
      (fun _ ws => Consistent holds ws ∧ ws.config = ws.savedConfig)
      (fun _ => Consistent holds) := by
  refine triple_bind (perform_preserves lasting.stable _) fun _ => ?_
  refine triple_modify ?_
  rintro ws ⟨current, saved, between, unchanged⟩
  exact ⟨⟨current, between, between, fun _ => rfl⟩, rfl⟩

theorem writeState_consistent (lasting : Lasting env holds) :
    Triple (fun ws => Consistent holds ws ∧ ws.config = ws.savedConfig) (writeState env)
      (fun _ => Consistent holds) (fun _ => Consistent holds) := by
  have stable : Stable env fun ws =>
      Consistent holds ws ∧ ws.config = ws.savedConfig := by
    rintro ws next ⟨consistent, same⟩ change
    refine ⟨lasting.stable ws next consistent change, ?_⟩
    rw [change.files.1, change.files.2.1]
    exact same
  have derived : Preserves (fun ws => Consistent holds ws ∧ ws.config = ws.savedConfig)
      (modify fun ws => { ws with state := ws.state.withApex } : Run Unit) := by
    refine keeps_modify ?_
    rintro ws ⟨⟨current, saved, between, unchanged⟩, same⟩
    exact ⟨⟨lasting.apex _ _ current, saved, between, unchanged⟩, same⟩
  have written := keeps_bind derived fun _ => keeps_bind keeps_get fun ws =>
    perform_preserves stable (writeToNewAndRename env ws.config.stateFile)
  have saved : Triple (fun ws => Consistent holds ws ∧ ws.config = ws.savedConfig)
      (modify fun ws => { ws with savedState := ws.state } : Run Unit)
      (fun _ => Consistent holds) (fun _ => Consistent holds) := by
    refine triple_modify ?_
    rintro ws ⟨⟨current, saved, between, unchanged⟩, same⟩
    have stored : holds ws.savedConfig ws.state := by
      rw [← same]
      exact current
    exact ⟨current, stored, current, fun _ => same⟩
  have steps := triple_bind (triple_weaken written (fun _ holds => holds)
    (fun _ _ holds => holds) (fun _ _ holds => holds.1)) fun _ => saved
  simpa only [writeState, bind_assoc] using steps

/-- Saving both files keeps the property on disk, also when it stops in between. -/
theorem persist_consistent (lasting : Lasting env holds) :
    Preserves (Consistent holds) (persist env) := by
  have start : Triple (Consistent holds) (get : Run WorkSpace)
      (fun known ws => ws = known ∧ Consistent holds known) (fun _ => Consistent holds) :=
    triple_get fun ws consistent => ⟨rfl, consistent⟩
  refine triple_bind start fun known => ?_
  have config : Triple (fun ws => ws = known ∧ Consistent holds known)
      (onlyIf known.configChanged (writeConfig env))
      (fun _ ws => Consistent holds ws ∧ ws.config = ws.savedConfig)
      (fun _ => Consistent holds) := by
    refine triple_ite (fun _ => ?_) fun off => triple_pure ?_
    · refine triple_weaken (writeConfig_consistent lasting) ?_ (fun _ _ after => after)
        (fun _ _ after => after)
      rintro ws ⟨rfl, consistent⟩
      exact consistent
    · rintro ws ⟨rfl, consistent⟩
      exact ⟨consistent, consistent.unchanged (by simpa using off)⟩
  refine triple_bind config fun _ => ?_
  exact triple_ite (fun _ => writeState_consistent lasting)
    fun _ => triple_pure fun _ consistent => consistent.1

/-- What set does is harmless when the new configuration keeps the property. -/
theorem setCommand_consistent {subcommand : SetCommands} (system : System)
    (allowed : ∀ ws calls config final, ws.config = system.config →
      exec (subcommand.apply env ws) calls = (.ok config, final) →
      ∀ state : KeySetState, state.keyset = system.state.keyset →
        holds ws.config state → holds config state) :
    Triple
      (fun ws => Consistent holds ws ∧ ws.config = system.config ∧
        ws.state.keyset = system.state.keyset ∧ ws.savedState.keyset = system.state.keyset)
      (setCommand env subcommand) (fun _ => Consistent holds) (fun _ => Consistent holds) := by
  refine triple_of_runs ?_ ?_
  · rintro ws value final ⟨consistent, config, current, saved⟩ run
    rcases exec_bind_eq_ok.mp run with ⟨known, middle, read, rest⟩
    cases read
    rcases exec_bind_eq_ok.mp rest with ⟨changed, middle, applied, rest⟩
    rcases exec_perform_eq_ok applied with ⟨calls, returned, rfl⟩
    cases rest
    have new := allowed ws _ changed _ config returned
    exact ⟨new _ current consistent.current, consistent.saved, new _ saved consistent.between,
      fun impossible => by cases impossible⟩
  · rintro ws fault final ⟨consistent, _⟩ run
    unfold setCommand at run
    rw [exec_bind_of_ok (exec_get ws), exec_bind, exec_perform] at run
    rcases outcome : exec (subcommand.apply env ws) ws.calls with ⟨_ | changed, calls⟩
    · rw [outcome] at run
      cases run
      exact ⟨consistent.current, consistent.saved, consistent.between, consistent.unchanged⟩
    · rw [outcome] at run
      cases run

/-- No set command says where the state file and the keys are. -/
theorem SetCommands.apply_places {env : Environment} {ws : WorkSpace}
    {subcommand : SetCommands} {calls final : Nat} {config : KeySetConfig}
    (run : exec (subcommand.apply env ws) calls = (.ok config, final)) :
    config.stateFile = ws.config.stateFile ∧ config.keysDir = ws.config.keysDir := by
  cases subcommand with
  | algorithm name bits =>
      rcases exec_bind_eq_ok.mp run with ⟨parameters, middle, _, rest⟩
      cases rest
      exact ⟨rfl, rfl⟩
  | publicationNameservers addrs =>
      rcases exec_bind_eq_ok.mp run with ⟨nameservers, middle, _, rest⟩
      rcases exec_bind_eq_ok.mp rest with ⟨_, checked, _, rest⟩
      cases rest
      exact ⟨rfl, rfl⟩
  | _ =>
      cases run
      exact ⟨rfl, rfl⟩

/-- A condition on set commands under which the property survives them. -/
def SetKeeps (holds : KeySetConfig → KeySetState → Prop) (env : Environment)
    (command : Commands) (system : System) : Prop :=
  ∀ subcommand, command = .set subcommand →
    ∀ ws calls config final, ws.config = system.config →
      exec (subcommand.apply env ws) calls = (.ok config, final) →
      ∀ state : KeySetState, state.keyset = system.state.keyset →
        holds ws.config state → holds config state

theorem load_consistent (system : System) (before : holds system.config system.state) :
    Consistent holds system.load :=
  ⟨before, before, before, fun _ => rfl⟩

theorem compute_consistent (lasting : Lasting env holds) (command : Commands)
    (system : System) (keeps : SetKeeps holds env command system) :
    Triple
      (fun ws => Consistent holds ws ∧ ws.config = system.config ∧
        ws.state.keyset = system.state.keyset ∧ ws.savedState.keyset = system.state.keyset)
      (compute env command) (fun _ => Consistent holds) (fun _ => Consistent holds) := by
  by_cases isSet : ∃ subcommand, command = .set subcommand
  · rcases isSet with ⟨subcommand, rfl⟩
    have counted : ∀ {Value : Type} (step : Step Value),
        Preserves (fun ws => Consistent holds ws ∧ ws.config = system.config ∧
          ws.state.keyset = system.state.keyset ∧
          ws.savedState.keyset = system.state.keyset) (perform step) := fun _ =>
      preserves_zoom fun ws calls ⟨consistent, same⟩ =>
        ⟨lasting.stable ws _ consistent (.calls ws calls), same⟩
    refine triple_read fun known before => ?_
    refine triple_bind (triple_weaken (counted _) (fun _ same => same ▸ before)
      (fun _ _ after => after) (fun _ _ after => after.1)) fun now => ?_
    refine triple_bind (setCommand_consistent system (keeps subcommand rfl)) fun _ => ?_
    refine keeps_bind keeps_get fun ws => ?_
    refine keeps_ite (fun _ => ?_) fun _ => keeps_pure _
    exact keeps_bind (updateCronNext_keeps lasting.stable.routine.toEditing now) fun _ => keeps_pure _
  · have notSet : ∀ change, command ≠ .set change := fun change same => isSet ⟨change, same⟩
    have computed := compute_keeps lasting.lawful.custody lasting.stable.silentDs
      (fun _ => lasting.lawful.recording) (fun _ _ => lasting.kmipStable) notSet
    exact triple_weaken computed (fun _ before => before.1) (fun _ _ after => after)
      (fun _ _ after => after)

/-- An invocation keeps the property of the files on disk. -/
theorem invoke_keeps (lasting : Lasting env holds) (command : Commands) (system : System)
    (keeps : SetKeeps holds env command system)
    (before : holds system.config system.state) :
    holds (invoke env command system).2.config (invoke env command system).2.state := by
  have loaded : Preserves (fun ws => Consistent holds ws ∧ ws.config = system.config ∧
      ws.state.keyset = system.state.keyset ∧ ws.savedState.keyset = system.state.keyset)
      (loadFiles env) :=
    preserves_zoom fun ws calls ⟨consistent, same⟩ =>
      ⟨lasting.stable ws _ consistent (.calls ws calls), same⟩
  have computed := compute_consistent lasting command system keeps
  have rest : ∀ changed : Bool, Preserves (Consistent holds) (onlyIf changed do
      persist env
      updateDs env) := by
    intro changed
    refine onlyIf_keeps (keeps_bind (persist_consistent lasting) fun _ => ?_)
    refine keeps_bind keeps_get fun ws => ?_
    exact onlyIf_keeps (perform_preserves lasting.stable _)
  have whole := triple_bind (triple_weaken loaded (fun _ before => before)
    (fun _ _ after => after) (fun _ _ after => after.1)) fun _ => triple_bind computed rest
  have final := Triple.final whole ⟨load_consistent system before, rfl, rfl, rfl⟩
  exact final.saved

end Invocation

/-- The invariant rule for whole runs. -/
theorem ReachableIf.files {platform : Platform}
    {condition : Environment → Commands → System → Prop}
    {holds : KeySetConfig → KeySetState → Prop}
    (lasting : ∀ env : Environment, env.toPlatform = platform → Lasting env holds)
    (created : ∀ domainName stateFile keysDir,
      holds (createConfig stateFile keysDir) (createState domainName))
    (keeps : ∀ env command system, condition env command system →
      SetKeeps holds env command system)
    {system : System} (reachable : ReachableIf platform condition system) :
    holds system.config system.state := by
  induction reachable with
  | create domainName stateFile keysDir tsigStore keyStore =>
      exact created domainName stateFile keysDir
  | addKeyFile material reachable absent induction => exact induction
  | invoke env command reachable same allowed induction =>
      exact invoke_keeps (lasting env same) command _ (keeps env command _ allowed) induction

end Dnst.Keyset
