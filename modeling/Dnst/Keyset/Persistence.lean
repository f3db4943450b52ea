import Dnst.Keyset.Faults
import Dnst.Keyset.Reference
import Dnst.Keyset.Runs

/-! # What an invocation that fails has saved

The config file is replaced before the state file, and the update-ds command runs
after both. Each of these steps is atomic, so the files of an invocation that
fails are new exactly when an earlier step has replaced one of them.
-/

namespace Dnst.Keyset

open Effect

/-- An invocation that returns an error leaves both files as they were. -/
def ErrorLeavesFiles (env : Environment) (command : Commands) (system : System) : Prop :=
  ∀ message, (invoke env command system).1 = .error (.error message) →
    (invoke env command system).2.config = system.config ∧
      (invoke env command system).2.state = system.state

/-- One of the files has another content than the one that was loaded. -/
def Replaced (system : System) (ws : WorkSpace) : Prop :=
  ws.savedConfig ≠ system.config ∨ ws.savedState ≠ system.state

/-- Once a rename has given one of the files another content, no later step fails:
neither writing the state file nor running the update-ds command. -/
structure SafeOnceReplaced (env : Environment) (system : System) (ws : WorkSpace) : Prop where
  writeState : ∀ written, exec (onlyIf ws.configChanged (writeConfig env)) ws = (.ok ⟨⟩, written) →
    Replaced system written → Completes (onlyIf ws.stateChanged (writeState env)) written
  updateDs : ∀ saved, exec (persist env) ws = (.ok ⟨⟩, saved) →
    Replaced system saved → Completes (updateDs env) saved

/-! ## Steps that fail change no file -/

/-- A failure that is reported and leaves the files alone. -/
def Atomic (ws : WorkSpace) (fault : Fault) (final : WorkSpace) : Prop :=
  fault.isPanic = false ∧ final.savedConfig = ws.savedConfig ∧ final.savedState = ws.savedState

theorem attempt_returns (env : Environment) (message : String → String) :
    Raises (fun fault => fault.isPanic = false) (attempt env message) := by
  refine raises_bind (raises_bind raises_get fun _ => raises_bind (raises_modify _) fun _ =>
    raises_pure _) fun call => ?_
  cases env.failure call with
  | none => exact raises_pure _
  | some reason => exact raises_throw rfl

theorem writeToNewAndRename_returns (env : Environment) (filename : String) :
    Raises (fun fault => fault.isPanic = false) (writeToNewAndRename env filename) :=
  raises_bind (attempt_returns env _) fun _ =>
    raises_bind (attempt_returns env _) fun _ => attempt_returns env _

theorem executeCommand_returns (env : Environment) (program : String) :
    Raises (fun fault => fault.isPanic = false) (executeCommand env program) := by
  refine raises_bind (attempt_returns env _) fun _ => raises_bind ?_ fun status => ?_
  · exact raises_bind raises_get fun _ => raises_bind (raises_modify _) fun _ => raises_pure _
  · cases env.failure status with
    | none => exact raises_pure _
    | some reason => exact raises_bind (attempt_returns env _) fun _ => attempt_returns env _

/-- What only makes calls replaces no file. -/
theorem perform_atomic {Value : Type} {step : Step Value} {ws start : WorkSpace}
    (returns : Raises (fun fault => fault.isPanic = false) step)
    (config : start.savedConfig = ws.savedConfig) (state : start.savedState = ws.savedState) :
    OnError (Atomic ws) (perform step) start := by
  intro fault final run
  rw [exec_perform] at run
  rcases outcome : exec step start.calls with ⟨reason | value, calls⟩
  · rw [outcome] at run
    cases run
    exact ⟨returns.error outcome, config, state⟩
  · rw [outcome] at run
    cases run

theorem onlyIf_atomic {condition : Bool} {action : Run Unit} {ws start : WorkSpace}
    (atomic : OnError (Atomic ws) action start) :
    OnError (Atomic ws) (onlyIf condition action) start := by
  cases condition with
  | false => exact onError_pure _
  | true => exact atomic

theorem writeConfig_atomic (env : Environment) (ws : WorkSpace) :
    OnError (Atomic ws) (writeConfig env) ws := by
  refine onError_bind.mpr ⟨?_, ?_⟩
  · exact perform_atomic (writeToNewAndRename_returns env _) rfl rfl
  · intro value middle written
    exact onError_modify _

theorem writeState_atomic (env : Environment) (ws : WorkSpace) :
    OnError (Atomic ws) (writeState env) ws := by
  refine onError_bind.mpr ⟨onError_modify _, ?_⟩
  intro value derived derives
  cases derives
  refine onError_bind.mpr ⟨onError_get, ?_⟩
  intro value known read
  cases read
  refine onError_bind.mpr ⟨?_, ?_⟩
  · exact perform_atomic (writeToNewAndRename_returns env _) rfl rfl
  · intro value middle written
    exact onError_modify _

theorem updateDs_atomic (env : Environment) (ws : WorkSpace) :
    OnError (Atomic ws) (updateDs env) ws := by
  refine onError_bind.mpr ⟨onError_get, ?_⟩
  intro value known read
  cases read
  exact onlyIf_atomic (perform_atomic (executeCommand_returns env _) rfl rfl)

/-! ## The error of an invocation -/

/-- A reported fault finds the files as they were loaded. -/
def Spared (system : System) (fault : Fault) (ws : WorkSpace) : Prop :=
  fault.isPanic = false → ¬Replaced system ws

/-- An atomic step may fail as long as nothing has been replaced. -/
theorem OnError.spared_iff {system : System} {action : Run Unit} {ws : WorkSpace}
    (atomic : OnError (Atomic ws) action ws) :
    OnError (Spared system) action ws ↔ (Replaced system ws → Completes action ws) := by
  have unchanged : ∀ fault final, exec action ws = (.error fault, final) →
      (Spared system fault final ↔ ¬Replaced system ws) := by
    intro fault final run
    rcases atomic fault final run with ⟨returned, config, state⟩
    unfold Spared Replaced
    rw [returned, config, state]
    simp
  rw [onError_of_unchanged unchanged, not_not]

/-- Saving and announcing what has been computed from the loaded files. -/
theorem finish_spared_iff {env : Environment} {system : System} {computed : WorkSpace}
    (loaded : ¬Replaced system computed) :
    OnError (Spared system) (do persist env; updateDs env) computed ↔
      SafeOnceReplaced env system computed := by
  have first : OnError (Spared system)
      (onlyIf computed.configChanged (writeConfig env)) computed := by
    apply (OnError.spared_iff (onlyIf_atomic (writeConfig_atomic env computed))).mpr
    intro replaced
    exact absurd replaced loaded
  have second : ∀ written, OnError (Spared system)
      (onlyIf computed.stateChanged (writeState env)) written ↔
        (Replaced system written →
          Completes (onlyIf computed.stateChanged (writeState env)) written) :=
    fun written => OnError.spared_iff (onlyIf_atomic (writeState_atomic env written))
  have third : ∀ saved, OnError (Spared system) (updateDs env) saved ↔
      (Replaced system saved → Completes (updateDs env) saved) :=
    fun saved => OnError.spared_iff (updateDs_atomic env saved)
  have saving : OnError (Spared system) (persist env) computed ↔
      ∀ written, exec (onlyIf computed.configChanged (writeConfig env)) computed =
          (.ok ⟨⟩, written) →
        Replaced system written →
          Completes (onlyIf computed.stateChanged (writeState env)) written := by
    unfold persist
    rw [onError_bind]
    constructor
    · intro whole written config
      have rest := (onError_bind.mp (whole.2 computed computed rfl)).2 ⟨⟩ written config
      exact (second written).mp rest
    · intro safe
      refine ⟨onError_get, ?_⟩
      intro known start read
      cases read
      refine onError_bind.mpr ⟨first, ?_⟩
      intro value written config
      exact (second written).mpr (safe written config)
  rw [onError_bind, saving]
  constructor
  · intro parts
    exact ⟨parts.1, fun saved persisted => (third saved).mp (parts.2 ⟨⟩ saved persisted)⟩
  · intro safe
    exact ⟨safe.writeState, fun _ saved persisted => (third saved).mpr (safe.updateDs saved persisted)⟩

/-- Nothing is saved before everything has been computed. -/
theorem compute_notReplaced (env : Environment) (command : Commands) (system : System) :
    ¬Replaced system (exec (do loadFiles env; compute env command) system.load).2 := by
  rcases @compute_saved env command system with ⟨config, state⟩
  intro replaced
  cases replaced with
  | inl different => exact different config
  | inr different => exact different state

/-- An error is harmless exactly when the steps of the invocation that follow a
replaced file succeed. -/
theorem error_leaves_files_iff (env : Environment) (command : Commands) (system : System) :
    ErrorLeavesFiles env command system ↔
      ∀ computed, exec (do loadFiles env; compute env command) system.load =
          (.ok true, computed) →
        SafeOnceReplaced env system computed := by
  have spared : ErrorLeavesFiles env command system ↔
      OnError (Spared system) (do loadFiles env; run env command) system.load := by
    unfold ErrorLeavesFiles OnError Spared Replaced invoke
    rcases whole : exec (do loadFiles env; run env command) system.load with ⟨fault | value, final⟩
    · cases fault with
      | error message => simp [Fault.isPanic, WorkSpace.system]
      | panic message => simp [Fault.isPanic]
    · simp
  have split : (do loadFiles env; run env command) = (do
      let changed ← (do loadFiles env; compute env command)
      onlyIf changed do
        persist env
        updateDs env) := by
    unfold run
    rw [bind_assoc]
  have loaded := compute_notReplaced env command system
  rw [spared, split, onError_bind]
  constructor
  · intro parts computed computing
    rw [computing] at loaded
    exact (finish_spared_iff loaded).mp (parts.2 true computed computing)
  · intro safe
    constructor
    · intro fault final computing returned
      rw [computing] at loaded
      exact loaded
    · intro changed computed computing
      rw [computing] at loaded
      cases changed with
      | false => exact onError_pure _
      | true => exact (finish_spared_iff loaded).mpr (safe computed computing)

/-! ## A set command whose state file cannot be written -/

namespace Reference

/-- The file system is full when the new state file is written. -/
def fullDisk : Environment :=
  { (day 4 .init).1 with
    failure := fun call => if call = 10 then some "No space left on device" else none }

end Reference

/-- The command fails, but the config file is new and `cron_next` is old. -/
theorem set_leaves_new_config :
    Reachable Reference.platform (Reference.initialised true) ∧
      (invoke Reference.fullDisk (.set (.dnskeyRemainTime oneDay))
          (Reference.initialised true)).2.state.cronNext =
        (Reference.initialised true).state.cronNext ∧
      ¬ErrorLeavesFiles Reference.fullDisk (.set (.dnskeyRemainTime oneDay))
        (Reference.initialised true) := by
  refine ⟨Reference.initialised_reachable true, by decide +kernel, ?_⟩
  intro harmless
  have failed : errorMessage (invoke Reference.fullDisk (.set (.dnskeyRemainTime oneDay))
      (Reference.initialised true)).1 =
        some "unable to write to file /keys/state.new: No space left on device" := by
    decide +kernel
  have returned : ∃ message, (invoke Reference.fullDisk (.set (.dnskeyRemainTime oneDay))
      (Reference.initialised true)).1 = .error (.error message) := by
    rcases outcome : (invoke Reference.fullDisk (.set (.dnskeyRemainTime oneDay))
      (Reference.initialised true)).1 with (message | message) | value
    · exact ⟨message, rfl⟩
    · rw [outcome] at failed
      cases failed
    · rw [outcome] at failed
      cases failed
  rcases returned with ⟨message, returned⟩
  have remain := congrArg KeySetConfig.dnskeyRemainTime (harmless message returned).1
  revert remain
  decide +kernel

end Dnst.Keyset
