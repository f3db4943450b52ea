import Dnst.Foundation.LockedFile
import Dnst.Keyset.Reference
import Dnst.Keyset.Runs

/-! # Concurrent invocations

Every invocation other than `create` locks the config file, loads the config and
the state file and replaces them one after the other. Two invocations leave what
they leave one after the other when neither reads the state file between the two
renames of the other; between them it can lose the other's state.
-/

namespace Dnst.Keyset

open Effect LockedFile

/-! ## An invocation as a process -/

abbrev SystemFiles := Files KeySetConfig KeySetState (TsigKeyStore × KeyStore)

def System.files (system : System) : SystemFiles :=
  ⟨system.config, system.state, (system.tsigStore, system.keyStore)⟩

/-- The system that is left when the given files are in place. -/
def System.ofFiles (files : SystemFiles) : System :=
  ⟨files.config, files.state, files.world.1, files.world.2⟩

@[simp] theorem System.files_ofFiles (files : SystemFiles) :
    (System.ofFiles files).files = files := rfl

@[simp] theorem System.ofFiles_files (system : System) :
    System.ofFiles system.files = system := rfl

/-- The files that are renamed into place at the end of an invocation. -/
def replaced (env : Environment) (ws : WorkSpace) : Writes KeySetConfig KeySetState :=
  match exec (onlyIf ws.configChanged (writeConfig env)) ws with
  | (.error _, _) => .none
  | (.ok _, middle) =>
      { config := if ws.configChanged then some ws.config else none
        state :=
          match exec (onlyIf ws.stateChanged (writeState env)) middle with
          | (.error _, _) => none
          | (.ok _, final) => if ws.stateChanged then some final.state else none }

/-- What an invocation makes of the files it has loaded. -/
def Commands.program (env : Environment) (command : Commands) :
    Program KeySetConfig KeySetState (TsigKeyStore × KeyStore) := fun config state world =>
  let system := System.ofFiles ⟨config, state, world⟩
  match exec (do loadFiles env; compute env command) system.load with
  | (.ok true, ws) => (replaced env ws, (ws.tsigStore, ws.keyStore))
  | (.ok false, ws) => (.none, (ws.tsigStore, ws.keyStore))
  | (.error _, ws) => (.none, (ws.tsigStore, ws.keyStore))

/-! ## The process does what the invocation does -/

/-- The second half of saving, from wherever the first half has got to. -/
theorem writeState_files (env : Environment) (ws : WorkSpace) :
    (exec (onlyIf ws.stateChanged (writeState env)) ws).2.system.files =
      ws.system.files.write
        ⟨none, match exec (onlyIf ws.stateChanged (writeState env)) ws with
          | (.error _, _) => none
          | (.ok _, final) => if ws.stateChanged then some final.state else none⟩ := by
  cases changed : ws.stateChanged with
  | false => rfl
  | true =>
      change (exec (writeState env) ws).2.system.files = _
      rcases exec_writeState env ws with ⟨calls, written⟩ | ⟨fault, calls, failed⟩
      · simp only [onlyIf, if_true, written]
        rfl
      · simp only [onlyIf, if_true, failed]
        rfl

/-- Saving replaces exactly the files that are renamed into place. -/
theorem persist_files (env : Environment) (ws : WorkSpace) :
    (exec (persist env) ws).2.system.files = ws.system.files.write (replaced env ws) := by
  unfold persist replaced
  rw [exec_bind_of_ok (exec_get ws)]
  cases changed : ws.configChanged with
  | false =>
      have skipped : exec (onlyIf false (writeConfig env)) ws = (.ok ⟨⟩, ws) := rfl
      rw [skipped, exec_bind_of_ok skipped]
      exact writeState_files env ws
  | true =>
      rcases exec_writeConfig env ws with ⟨calls, written⟩ | ⟨fault, calls, failed⟩
      · have first : exec (onlyIf true (writeConfig env)) ws =
            (.ok ⟨⟩, { ws with calls := calls, savedConfig := ws.config }) := written
        rw [first, exec_bind_of_ok first]
        exact writeState_files env { ws with calls := calls, savedConfig := ws.config }
      · have first : exec (onlyIf true (writeConfig env)) ws =
            (.error fault, { ws with calls := calls }) := failed
        rw [first, exec_bind_of_error first]
        rfl

/-- The process, run on its own, is the invocation. -/
theorem program_run (env : Environment) (command : Commands) (system : System) :
    (command.program env).run system.files = (invoke env command system).2.files := by
  have saved := @compute_saved env command system
  unfold Program.run Commands.program
  rw [System.files]
  dsimp only [System.ofFiles]
  rcases computing : exec (do loadFiles env; compute env command) system.load with
    ⟨fault | changed, computed⟩
  · rw [computing] at saved
    rw [invoke_of_error computing, WorkSpace.system, saved.1, saved.2]
    rfl
  · rw [computing] at saved
    cases changed with
    | false =>
        rw [invoke_of_unchanged computing, WorkSpace.system, saved.1, saved.2]
        rfl
    | true =>
        rw [invoke_of_compute computing, persist_files, WorkSpace.system, saved.1, saved.2]
        rfl

theorem sequential_programs (invocations : Bool → Environment × Commands)
    (system : System) (order : List Bool) :
    sequential (fun process => (invocations process).2.program (invocations process).1)
        system.files order =
      (runAll (order.map invocations) system).files := by
  induction order generalizing system with
  | nil => rfl
  | cons process order induction =>
      have first := program_run (invocations process).1 (invocations process).2 system
      unfold sequential at induction ⊢
      rw [List.foldl_cons, first]
      exact induction _

/-! ## Two invocations -/

/-- Two invocations on the files of one zone, with their steps in the given order. -/
def parallel (invocations : Bool → Environment × Commands) (schedule : List Bool)
    (system : System) : Execution Bool KeySetConfig KeySetState (TsigKeyStore × KeyStore) :=
  runSchedule (fun process => (invocations process).2.program (invocations process).1)
    maxFileLockTries schedule (start system.files)

/-- Neither invocation reads the state file between the two renames of the other. -/
def WindowsSeparate (invocations : Bool → Environment × Commands) (schedule : List Bool)
    (system : System) : Prop :=
  Separate (fun process => (invocations process).2.program (invocations process).1)
    maxFileLockTries schedule (start system.files)

theorem ordersOfBool {order : List Bool} (nodup : order.Nodup)
    (complete : ∀ process, process ∈ order) :
    order = [false, true] ∨ order = [true, false] := by
  rcases order with _ | ⟨first, _ | ⟨second, _ | ⟨third, rest⟩⟩⟩
  · cases complete true
  · have one := complete true
    have other := complete false
    simp only [List.mem_singleton] at one other
    rw [← one] at other
    cases other
  · have different : first ≠ second := by
      rintro rfl
      simp at nodup
    cases first <;> cases second <;> simp at different ⊢
  · have bound := nodup.length_le_card
    simp at bound

theorem parallel_serializable {invocations : Bool → Environment × Commands}
    {schedule : List Bool} {system : System}
    (separate : WindowsSeparate invocations schedule system)
    (finished : Finished (parallel invocations schedule system)) :
    ((parallel invocations schedule system).files =
        (runAll [invocations false, invocations true] system).files ∨
      (parallel invocations schedule system).files =
        (runAll [invocations true, invocations false] system).files) ∧
    ∀ earlier, earlier <+: schedule → ∀ process,
      ((parallel invocations earlier system).phase process).Accurate
        (parallel invocations earlier system) := by
  constructor
  · rcases serializable (by decide) separate finished with ⟨order, nodup, complete, files⟩
    unfold parallel
    rw [files, sequential_programs]
    cases ordersOfBool nodup complete with
    | inl falseFirst =>
        left
        rw [falseFirst]
        rfl
    | inr trueFirst =>
        right
        rw [trueFirst]
        rfl
  · intro earlier part process
    exact reads_accurate separate part process

/-! ## A lost roll -/

namespace Reference

/-- One invocation changes the configuration while the other starts a roll. -/
def settingAndRolling : Bool → Environment × Commands
  | false => day 4 (.set (.dnskeyRemainTime oneDay))
  | true => day 5 (.roll .ksk .startRoll)

/-- The roll starts between the two renames of the set command. -/
def rollInWindow : List Bool :=
  List.replicate 7 false ++ List.replicate 9 true ++ List.replicate 2 false

/-- The roll starts while the set command still holds the lock, and retries. -/
def rollBehindLock : List Bool :=
  List.replicate 6 false ++ [true, true] ++ List.replicate 3 false ++ List.replicate 13 true

/-- Whether the files know of a KSK roll. -/
def rollsKsk (files : SystemFiles) : Bool :=
  (files.state.keyset.rollstates .kskRoll).isSome

end Reference

theorem parallel_serializable_behind_lock :
    ((parallel Reference.settingAndRolling Reference.rollBehindLock
          (Reference.initialised true)).files =
        (runAll [Reference.settingAndRolling false, Reference.settingAndRolling true]
          (Reference.initialised true)).files ∨
      (parallel Reference.settingAndRolling Reference.rollBehindLock
          (Reference.initialised true)).files =
        (runAll [Reference.settingAndRolling true, Reference.settingAndRolling false]
          (Reference.initialised true)).files) ∧
    ∀ earlier, earlier <+: Reference.rollBehindLock → ∀ process,
      ((parallel Reference.settingAndRolling earlier
          (Reference.initialised true)).phase process).Accurate
        (parallel Reference.settingAndRolling earlier (Reference.initialised true)) := by
  have separate : WindowsSeparate Reference.settingAndRolling Reference.rollBehindLock
      (Reference.initialised true) := by
    unfold WindowsSeparate
    decide +kernel
  have finished : Finished (parallel Reference.settingAndRolling Reference.rollBehindLock
      (Reference.initialised true)) := by
    unfold Finished
    decide +kernel
  exact parallel_serializable separate finished

/-- The roll has started, but the set command has read the state file before. -/
theorem started_roll_lost :
    Reachable Reference.platform (Reference.initialised true) ∧
      Finished (parallel Reference.settingAndRolling Reference.rollInWindow
        (Reference.initialised true)) ∧
      Reference.rollsKsk (parallel Reference.settingAndRolling Reference.rollInWindow
        (Reference.initialised true)).files = false ∧
      (parallel Reference.settingAndRolling Reference.rollInWindow
          (Reference.initialised true)).files ≠
        (runAll [Reference.settingAndRolling false, Reference.settingAndRolling true]
          (Reference.initialised true)).files ∧
      (parallel Reference.settingAndRolling Reference.rollInWindow
          (Reference.initialised true)).files ≠
        (runAll [Reference.settingAndRolling true, Reference.settingAndRolling false]
          (Reference.initialised true)).files := by
  have finished : Finished (parallel Reference.settingAndRolling Reference.rollInWindow
      (Reference.initialised true)) := by
    unfold Finished
    decide +kernel
  have lost : Reference.rollsKsk (parallel Reference.settingAndRolling Reference.rollInWindow
      (Reference.initialised true)).files = false := by decide +kernel
  refine ⟨Reference.initialised_reachable true, finished, lost, ?_, ?_⟩
  · intro same
    have kept : Reference.rollsKsk (runAll [Reference.settingAndRolling false,
        Reference.settingAndRolling true] (Reference.initialised true)).files = true := by
      decide +kernel
    rw [← same, lost] at kept
    cases kept
  · intro same
    have kept : Reference.rollsKsk (runAll [Reference.settingAndRolling true,
        Reference.settingAndRolling false] (Reference.initialised true)).files = true := by
      decide +kernel
    rw [← same, lost] at kept
    cases kept

end Dnst.Keyset
