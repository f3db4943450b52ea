import Dnst.Foundation.NestedLock
import Dnst.Keyset.Concurrency
import Dnst.Keyset.UpdateDs

/-! # Invocations made by the update-ds command

An invocation runs the update-ds command after it has saved its files and before it
gives up the lock on the config file. The config file is only replaced by `set`, which
never runs the command, so that an invocation that the command makes on the same config
waits for that lock.
-/

namespace Dnst.Keyset

open Effect LockedFile

/-- An invocation and the one that its update-ds command makes. -/
def outerAndInner (outer inner : Environment × Commands) : Bool → Environment × Commands
  | false => outer
  | true => inner

/-- The two invocations on the files of one zone, with their steps in the given order. -/
def nested (outer inner : Environment × Commands) (schedule : List Bool) (system : System) :
    Execution Bool KeySetConfig KeySetState (TsigKeyStore × KeyStore) :=
  runNested (fun process => ((outerAndInner outer inner) process).2.program
      ((outerAndInner outer inner) process).1)
    maxFileLockTries schedule (start system.files)

/-- The update-ds command is started in the given workspace. -/
structure ExecutesUpdateDs (env : Environment) (command : Commands) (system : System)
    (ws : WorkSpace) : Prop extends RunsUpdateDs env command system ws where
  spawned : env.failure ws.calls = none

/-- The outer invocation has saved its files and is running the update-ds command. -/
def RunningUpdateDs
    (execution : Execution Bool KeySetConfig KeySetState (TsigKeyStore × KeyStore)) : Prop :=
  (execution.phase false).isEnding = true

/-- The update-ds command runs outside the configuration lock. -/
structure OutsideLock (outer inner : Environment × Commands) (system : System) : Prop where
  unlocked : ∀ schedule, RunningUpdateDs (nested outer inner schedule system) →
    (nested outer inner schedule system).holder (nested outer inner schedule system).current ≠
      some false
  acquires : ∀ schedule, RunningUpdateDs (nested outer inner schedule system) →
    ∃ later, ((nested outer inner (schedule ++ later) system).phase true).lock ≠ none
  noCycle : ∀ schedule, ¬WaitCycle (nested outer inner schedule system)

/-- The command only runs in invocations that leave the config file alone. -/
theorem RunsUpdateDs.keeps_config {env : Environment} {command : Commands} {system : System}
    {ws : WorkSpace} (runs : RunsUpdateDs env command system ws) :
    (command.program env system.files.config system.files.state
      system.files.world).1.config = none := by
  rcases beforeUpdateDs_ok runs.reached with ⟨computed, computing, saving⟩
  have flagged := (persist_flags saving).1.symm.trans runs.flagged
  have unchanged := (saved_of_flagged computing flagged).2.1
  have loaded : System.ofFiles ⟨system.files.config, system.files.state, system.files.world⟩ =
      system := rfl
  unfold Commands.program
  simp only [loaded, computing, replaced, unchanged]
  rfl

/-- The two invocations come to wait for each other. -/
theorem RunsUpdateDs.waitCycle {outer inner : Environment × Commands} {system : System}
    {ws : WorkSpace} (runs : RunsUpdateDs outer.1 outer.2 system ws) :
    WaitCycle (nested outer inner (List.replicate 8 false ++ [true]) system) :=
  waitCycle_run runs.keeps_config

/-- Whenever the update-ds command runs, the invocation holds the lock of the current
config file. No invocation made by the command ever gets it, and there is an order of
steps after which the two wait for each other for good. -/
theorem update_ds_runs_inside_lock (outer inner : Environment × Commands) (system : System)
    (ws : WorkSpace) (executes : ExecutesUpdateDs outer.1 outer.2 system ws) :
    ¬OutsideLock outer inner system ∧
      (∀ schedule, RunningUpdateDs (nested outer inner schedule system) →
        (nested outer inner schedule system).holder
          (nested outer inner schedule system).current = some false) ∧
      (∀ schedule, ((nested outer inner schedule system).phase true).lock = none ∧
        ((nested outer inner schedule system).phase true).hasEnded = false) ∧
      ∃ schedule, ∀ later, WaitCycle (nested outer inner (schedule ++ later) system) := by
  have runs := executes.toRunsUpdateDs
  have keeps := runs.keeps_config
  have approaching := fun schedule => @approaching_run _ _ _
    (fun process => ((outerAndInner outer inner) process).2.program
      ((outerAndInner outer inner) process).1) maxFileLockTries system.files keeps schedule
  have cycles : WaitCycle (nested outer inner (List.replicate 8 false ++ [true]) system) :=
    runs.waitCycle
  refine ⟨?_, ?_, ?_, ?_⟩
  · intro outside
    exact outside.noCycle _ cycles
  · intro schedule running
    exact (approaching schedule).holder keeps running
  · intro schedule
    exact (approaching schedule).locked_out keeps
  · refine ⟨List.replicate 8 false ++ [true], fun later => ?_⟩
    have stays : nested outer inner (List.replicate 8 false ++ [true] ++ later) system =
        nested outer inner (List.replicate 8 false ++ [true]) system := by
      unfold nested
      rw [runNested_append]
      exact cycles.run later
    rw [stays]
    exact cycles

/-! ## A roll that starts at the parent -/

namespace Reference

/-- A zone whose KSK rolls begin with a new DS record, which a command announces. -/
def doubleDs : System :=
  runAll (importing true ++ [day 4 (.set (.kskRollType .doubleDsKskRoll)),
    day 5 (.set (.updateDsCommand ["/bin/update-ds"]))]) created

theorem doubleDs_reachable : Reachable platform doubleDs := by
  have start : Reachable platform created := .create _ _ _ _ _
  exact start.runAll ⟨⟨rfl, trivial⟩, ⟨rfl, trivial⟩, ⟨rfl, trivial⟩, ⟨rfl, trivial⟩,
    ⟨rfl, trivial⟩, trivial⟩

def doubleDsRoll : Environment × Commands := day 6 (.roll .ksk .startRoll)

/-- The update-ds command asks for the DS records. -/
def getDs : Environment × Commands := day 6 (.get .ds)

theorem doubleDsRoll_executesUpdateDs :
    ExecutesUpdateDs doubleDsRoll.1 doubleDsRoll.2 doubleDs
      (exec (beforeUpdateDs doubleDsRoll.1 doubleDsRoll.2) doubleDs.load).2 where
  reached := exec_eq_of_toOption (by decide +kernel)
  flagged := by decide +kernel
  configured := by decide +kernel
  spawned := rfl

end Reference

theorem doubleDsRoll_runs_inside_lock :
    ¬OutsideLock Reference.doubleDsRoll Reference.getDs Reference.doubleDs ∧
      (∀ schedule,
        RunningUpdateDs
            (nested Reference.doubleDsRoll Reference.getDs schedule Reference.doubleDs) →
          (nested Reference.doubleDsRoll Reference.getDs schedule Reference.doubleDs).holder
            (nested Reference.doubleDsRoll Reference.getDs schedule
              Reference.doubleDs).current = some false) ∧
      (∀ schedule,
        ((nested Reference.doubleDsRoll Reference.getDs schedule
            Reference.doubleDs).phase true).lock = none ∧
          ((nested Reference.doubleDsRoll Reference.getDs schedule
            Reference.doubleDs).phase true).hasEnded = false) ∧
      ∃ schedule, ∀ later,
        WaitCycle (nested Reference.doubleDsRoll Reference.getDs (schedule ++ later)
          Reference.doubleDs) :=
  update_ds_runs_inside_lock Reference.doubleDsRoll Reference.getDs Reference.doubleDs _
    Reference.doubleDsRoll_executesUpdateDs

/-- Asking for the DS records from the update-ds command never ends. -/
theorem get_ds_waits_forever :
    Reachable Reference.platform Reference.doubleDs ∧
      (∃ ws, ExecutesUpdateDs Reference.doubleDsRoll.1 Reference.doubleDsRoll.2
        Reference.doubleDs ws) ∧
      ¬OutsideLock Reference.doubleDsRoll Reference.getDs Reference.doubleDs := by
  have executes := Reference.doubleDsRoll_executesUpdateDs
  refine ⟨Reference.doubleDs_reachable, ⟨_, executes⟩, ?_⟩
  intro outside
  exact outside.noCycle _ executes.waitCycle

end Dnst.Keyset
