import Dnst.Foundation.LockedFile
import Mathlib.Tactic.IntervalCases

/-! # A process that starts another one before it gives up its lock

The outer process has replaced its files when it starts the inner one and waits for it
to end. When the outer process has not replaced the locked file, the inner one waits
for the lock in turn.
-/

namespace Dnst.LockedFile

variable {Config State World : Type}

/-- The files have been saved; what is left to do happens before the lock is given up. -/
def Phase.isEnding : Phase Config State → Bool
  | .wroteState _ => true
  | _ => false

/-! ## A process that starts another one and waits for it -/

/-- The next step when `false`, once it has saved its files, starts `true` and waits
for it to end. -/
def stepNested (programs : Bool → Program Config State World) (maxTries : Nat) :
    Bool → Execution Bool Config State World → Execution Bool Config State World
  | false, execution =>
      if (execution.phase false).isEnding && !(execution.phase true).hasEnded then execution
      else step programs maxTries false execution
  | true, execution =>
      if (execution.phase false).isEnding then step programs maxTries true execution
      else execution

def runNested (programs : Bool → Program Config State World) (maxTries : Nat) :
    List Bool → Execution Bool Config State World → Execution Bool Config State World
  | [], execution => execution
  | process :: schedule, execution =>
      runNested programs maxTries schedule (stepNested programs maxTries process execution)

theorem runNested_append (programs : Bool → Program Config State World) (maxTries : Nat)
    (first later : List Bool) (execution : Execution Bool Config State World) :
    runNested programs maxTries (first ++ later) execution =
      runNested programs maxTries later (runNested programs maxTries first execution) := by
  induction first generalizing execution with
  | nil => rfl
  | cons process first induction => exact induction _

/-- The outer process waits for the inner one, and holds the lock that the inner one
needs. -/
structure Stuck (execution : Execution Bool Config State World) : Prop where
  outer : execution.phase false = .wroteState execution.current
  holder : execution.holder execution.current = some false
  inner : execution.phase true = .starting 0 ∨
    execution.phase true = .opened 0 execution.current

/-- The inner process has come to the lock. -/
structure WaitCycle (execution : Execution Bool Config State World) : Prop where
  stuck : Stuck execution
  waits : execution.phase true = .opened 0 execution.current

theorem WaitCycle.step {programs : Bool → Program Config State World} {maxTries : Nat}
    {execution : Execution Bool Config State World} (cycle : WaitCycle execution)
    (process : Bool) : stepNested programs maxTries process execution = execution := by
  cases process with
  | false => simp [stepNested, cycle.stuck.outer, cycle.waits, Phase.isEnding, Phase.hasEnded]
  | true =>
      simp [stepNested, LockedFile.step, cycle.stuck.outer, cycle.waits, cycle.stuck.holder,
        Phase.isEnding]

theorem WaitCycle.run {programs : Bool → Program Config State World} {maxTries : Nat}
    {execution : Execution Bool Config State World} (cycle : WaitCycle execution)
    (schedule : List Bool) : runNested programs maxTries schedule execution = execution := by
  induction schedule with
  | nil => rfl
  | cons process schedule induction =>
      unfold runNested
      rw [cycle.step process]
      exact induction

/-- Opening the locked file is all that the inner process can do. -/
theorem Stuck.step {programs : Bool → Program Config State World} {maxTries : Nat}
    {execution : Execution Bool Config State World} (stuck : Stuck execution)
    (process : Bool) : Stuck (stepNested programs maxTries process execution) := by
  cases stuck.inner with
  | inr waits =>
      rw [WaitCycle.step ⟨stuck, waits⟩ process]
      exact stuck
  | inl starting =>
      cases process with
      | false =>
          have same : stepNested programs maxTries false execution = execution := by
            simp [stepNested, stuck.outer, starting, Phase.isEnding, Phase.hasEnded]
          rw [same]
          exact stuck
      | true =>
          have opens : stepNested programs maxTries true execution =
              execution.move true (.opened 0 execution.current) := by
            simp [stepNested, LockedFile.step, stuck.outer, starting, Phase.isEnding]
          rw [opens]
          exact ⟨by simp [stuck.outer], by simp [stuck.holder], by simp⟩

theorem Stuck.opens {programs : Bool → Program Config State World} {maxTries : Nat}
    {execution : Execution Bool Config State World} (stuck : Stuck execution) :
    WaitCycle (stepNested programs maxTries true execution) := by
  refine ⟨stuck.step true, ?_⟩
  cases stuck.inner with
  | inr waits =>
      rw [WaitCycle.step ⟨stuck, waits⟩ true]
      exact waits
  | inl starting =>
      simp [stepNested, LockedFile.step, stuck.outer, starting, Phase.isEnding]

/-! ## From the start -/

section Start

variable {programs : Bool → Program Config State World} {maxTries : Nat}
variable {files : Files Config State World}

/-- The outer process has taken some of the eight steps that it needs to save its files. -/
def Alone (programs : Bool → Program Config State World) (maxTries : Nat)
    (files : Files Config State World) (count : Nat)
    (execution : Execution Bool Config State World) : Prop :=
  execution = runSchedule programs maxTries (List.replicate count false) (start files)

theorem Alone.step {count : Nat} {execution : Execution Bool Config State World}
    (alone : Alone programs maxTries files count execution) :
    Alone programs maxTries files (count + 1) (LockedFile.step programs maxTries false execution) := by
  unfold Alone
  rw [List.replicate_succ', runSchedule_append, ← alone]
  rfl

section Keeps

variable (keeps : (programs false files.config files.state files.world).1.config = none)

include keeps

theorem Alone.not_ending {count : Nat} {execution : Execution Bool Config State World}
    (alone : Alone programs maxTries files count execution) (early : count < 8) :
    (execution.phase false).isEnding = false := by
  rw [alone]
  interval_cases count <;>
    simp [List.replicate, runSchedule, LockedFile.step, start, keeps, Phase.isEnding]

theorem Alone.stuck {execution : Execution Bool Config State World}
    (alone : Alone programs maxTries files 8 execution) : Stuck execution := by
  rw [alone]
  cases saves : (programs false files.config files.state files.world).1.state with
  | none =>
      constructor <;>
        simp [List.replicate, runSchedule, LockedFile.step, start, keeps, saves]
  | some state =>
      constructor <;>
        simp [List.replicate, runSchedule, LockedFile.step, start, keeps, saves]

theorem Alone.inner {count : Nat} {execution : Execution Bool Config State World}
    (alone : Alone programs maxTries files count execution) (early : count < 8) :
    execution.phase true = .starting 0 := by
  rw [alone]
  interval_cases count <;>
    simp [List.replicate, runSchedule, LockedFile.step, start, keeps]

theorem Alone.stepNested {count : Nat} {execution : Execution Bool Config State World}
    (alone : Alone programs maxTries files count execution) (early : count < 8) :
    Alone programs maxTries files (count + 1) (stepNested programs maxTries false execution) ∧
      stepNested programs maxTries true execution = execution := by
  have notEnding := alone.not_ending keeps early
  constructor
  · simp only [LockedFile.stepNested, notEnding, Bool.false_and]
    exact alone.step
  · simp [LockedFile.stepNested, notEnding]

/-- The outer process is on its own until it is stuck. -/
def Approaching (programs : Bool → Program Config State World) (maxTries : Nat)
    (files : Files Config State World) (execution : Execution Bool Config State World) : Prop :=
  (∃ count, count < 8 ∧ Alone programs maxTries files count execution) ∨ Stuck execution

theorem Approaching.step {execution : Execution Bool Config State World}
    (approaching : Approaching programs maxTries files execution) (process : Bool) :
    Approaching programs maxTries files (stepNested programs maxTries process execution) := by
  rcases approaching with ⟨count, early, alone⟩ | stuck
  · have next := alone.stepNested keeps early
    cases process with
    | true =>
        rw [next.2]
        exact Or.inl ⟨count, early, alone⟩
    | false =>
        rcases Nat.lt_or_ge (count + 1) 8 with stillEarly | late
        · exact Or.inl ⟨count + 1, stillEarly, next.1⟩
        · have last : count + 1 = 8 := by omega
          rw [last] at next
          exact Or.inr (next.1.stuck keeps)
  · exact Or.inr (stuck.step process)

theorem Approaching.run {execution : Execution Bool Config State World}
    (approaching : Approaching programs maxTries files execution) (schedule : List Bool) :
    Approaching programs maxTries files (runNested programs maxTries schedule execution) := by
  induction schedule generalizing execution with
  | nil => exact approaching
  | cons process schedule induction => exact induction (approaching.step keeps process)

/-- The inner process does not get the lock. -/
theorem Approaching.locked_out {execution : Execution Bool Config State World}
    (approaching : Approaching programs maxTries files execution) :
    (execution.phase true).lock = none ∧ (execution.phase true).hasEnded = false := by
  rcases approaching with ⟨count, early, alone⟩ | stuck
  · rw [alone.inner keeps early]
    exact ⟨rfl, rfl⟩
  · cases stuck.inner with
    | inl starting => rw [starting]; exact ⟨rfl, rfl⟩
    | inr waits => rw [waits]; exact ⟨rfl, rfl⟩

/-- An outer process that waits for the inner one holds the lock of the current file. -/
theorem Approaching.holder {execution : Execution Bool Config State World}
    (approaching : Approaching programs maxTries files execution)
    (ending : (execution.phase false).isEnding = true) :
    execution.holder execution.current = some false := by
  rcases approaching with ⟨count, early, alone⟩ | stuck
  · rw [alone.not_ending keeps early] at ending
    cases ending
  · exact stuck.holder

/-- Whatever the order of the steps, the outer process ends up stuck if it gets that far. -/
theorem approaching_run (schedule : List Bool) :
    Approaching programs maxTries files (runNested programs maxTries schedule (start files)) :=
  Approaching.run keeps (Or.inl ⟨0, by omega, rfl⟩) schedule

theorem alone_run {count : Nat} (bound : count ≤ 8) :
    Alone programs maxTries files count
      (runNested programs maxTries (List.replicate count false) (start files)) := by
  induction count with
  | zero => rfl
  | succ count induction =>
      have before := induction (by omega)
      rw [List.replicate_succ', runNested_append]
      exact (before.stepNested keeps (by omega)).1

/-- The two processes do come to wait for each other. -/
theorem waitCycle_run :
    WaitCycle (runNested programs maxTries (List.replicate 8 false ++ [true]) (start files)) := by
  rw [runNested_append]
  exact ((alone_run keeps (Nat.le_refl 8)).stuck keeps).opens

end Keeps

end Start

end Dnst.LockedFile
