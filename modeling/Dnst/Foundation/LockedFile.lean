import Mathlib.Data.Fintype.Card
import Mathlib.Data.List.Nodup
import Mathlib.Logic.Function.Basic

/-! # A lock on a file that is replaced by renaming

Processes lock the file under a path, read it and a second file, and replace both
by renaming. The lock belongs to the opened version of the file, not to the path.
`Serial` relates the files to an execution of the processes one after the other;
it holds as long as no process reads the second file between the two renames of
another process.
-/

namespace Dnst.LockedFile

/-- The files that a process replaces. -/
structure Writes (Config State : Type) where
  config : Option Config
  state : Option State

def Writes.none {Config State : Type} : Writes Config State := ⟨.none, .none⟩

/-- The two files and everything else that the processes share. -/
structure Files (Config State World : Type) where
  config : Config
  state : State
  world : World

def Files.write {Config State World : Type} (files : Files Config State World)
    (writes : Writes Config State) : Files Config State World :=
  ⟨writes.config.getD files.config, writes.state.getD files.state, files.world⟩

@[simp] theorem Files.write_none {Config State World : Type}
    (files : Files Config State World) : files.write .none = files := rfl

/-- What a process makes of the files it has read. -/
abbrev Program (Config State World : Type) :=
  Config → State → World → Writes Config State × World

def Program.run {Config State World : Type} (program : Program Config State World)
    (files : Files Config State World) : Files Config State World :=
  let result := program files.config files.state files.world
  ({ files with world := result.2 }).write result.1

/-- How far a process has come. `version` is the version of the locked file that it
has opened. -/
inductive Phase (Config State : Type) where
  | starting (tries : Nat)
  | opened (tries version : Nat)
  | locked (tries version : Nat)
  | entered (version : Nat)
  | readConfig (version : Nat) (config : Config)
  | readState (version : Nat) (config : Config) (state : State)
  | computed (version : Nat) (writes : Writes Config State)
  | wroteConfig (version : Nat) (pending : Option State)
  | wroteState (version : Nat)
  | done
  | gaveUp

/-- `versions` holds every file that the path has ever named, in order. -/
structure Execution (Process Config State World : Type) where
  versions : Nat → Config
  current : Nat
  holder : Nat → Option Process
  state : State
  world : World
  phase : Process → Phase Config State

variable {Process Config State World : Type}

def start (files : Files Config State World) : Execution Process Config State World where
  versions := fun _ => files.config
  current := 0
  holder := fun _ => none
  state := files.state
  world := files.world
  phase := fun _ => .starting 0

/-- What the two paths name. -/
def Execution.files (execution : Execution Process Config State World) :
    Files Config State World :=
  ⟨execution.versions execution.current, execution.state, execution.world⟩

def Execution.setHolder (execution : Execution Process Config State World) (version : Nat)
    (holder : Option Process) : Execution Process Config State World :=
  { execution with holder := Function.update execution.holder version holder }

def Execution.replaceConfig (execution : Execution Process Config State World)
    (config : Config) : Execution Process Config State World :=
  { execution with
    versions := Function.update execution.versions (execution.current + 1) config
    current := execution.current + 1 }

def Execution.replaceState (execution : Execution Process Config State World)
    (state : State) : Execution Process Config State World :=
  { execution with state }

def Execution.setWorld (execution : Execution Process Config State World) (world : World) :
    Execution Process Config State World :=
  { execution with world }

def Execution.move [DecidableEq Process] (execution : Execution Process Config State World)
    (process : Process) (phase : Phase Config State) : Execution Process Config State World :=
  { execution with phase := Function.update execution.phase process phase }

section Fields

variable (execution : Execution Process Config State World)

@[simp] theorem Execution.replaceConfig_phase (config : Config) :
    (execution.replaceConfig config).phase = execution.phase := rfl

@[simp] theorem Execution.replaceConfig_holder (config : Config) :
    (execution.replaceConfig config).holder = execution.holder := rfl

@[simp] theorem Execution.replaceConfig_current (config : Config) :
    (execution.replaceConfig config).current = execution.current + 1 := rfl

@[simp] theorem Execution.replaceConfig_files (config : Config) :
    (execution.replaceConfig config).files = { execution.files with config } := by
  simp [Execution.files, Execution.replaceConfig]

@[simp] theorem Execution.replaceState_phase (state : State) :
    (execution.replaceState state).phase = execution.phase := rfl

@[simp] theorem Execution.replaceState_current (state : State) :
    (execution.replaceState state).current = execution.current := rfl

@[simp] theorem Execution.replaceState_holder (state : State) :
    (execution.replaceState state).holder = execution.holder := rfl

@[simp] theorem Execution.replaceState_files (state : State) :
    (execution.replaceState state).files = { execution.files with state } := rfl

@[simp] theorem Execution.setWorld_phase (world : World) :
    (execution.setWorld world).phase = execution.phase := rfl

@[simp] theorem Execution.setWorld_current (world : World) :
    (execution.setWorld world).current = execution.current := rfl

@[simp] theorem Execution.setWorld_holder (world : World) :
    (execution.setWorld world).holder = execution.holder := rfl

@[simp] theorem Execution.setWorld_files (world : World) :
    (execution.setWorld world).files = { execution.files with world } := rfl

@[simp] theorem Execution.setHolder_phase (version : Nat) (holder : Option Process) :
    (execution.setHolder version holder).phase = execution.phase := rfl

@[simp] theorem Execution.setHolder_holder (version : Nat) (holder : Option Process) :
    (execution.setHolder version holder).holder =
      Function.update execution.holder version holder := rfl

@[simp] theorem Execution.setHolder_current (version : Nat) (holder : Option Process) :
    (execution.setHolder version holder).current = execution.current := rfl

@[simp] theorem Execution.setHolder_files (version : Nat) (holder : Option Process) :
    (execution.setHolder version holder).files = execution.files := rfl

@[simp] theorem Execution.setHolder_versions (version : Nat) (holder : Option Process) :
    (execution.setHolder version holder).versions = execution.versions := rfl

@[simp] theorem Execution.setHolder_state (version : Nat) (holder : Option Process) :
    (execution.setHolder version holder).state = execution.state := rfl

@[simp] theorem Execution.setHolder_world (version : Nat) (holder : Option Process) :
    (execution.setHolder version holder).world = execution.world := rfl

variable [DecidableEq Process] (process : Process) (phase : Phase Config State)

@[simp] theorem Execution.move_versions :
    (execution.move process phase).versions = execution.versions := rfl

@[simp] theorem Execution.move_state :
    (execution.move process phase).state = execution.state := rfl

@[simp] theorem Execution.move_world :
    (execution.move process phase).world = execution.world := rfl

@[simp] theorem Execution.move_phase :
    (execution.move process phase).phase = Function.update execution.phase process phase := rfl

@[simp] theorem Execution.move_holder :
    (execution.move process phase).holder = execution.holder := rfl

@[simp] theorem Execution.move_current :
    (execution.move process phase).current = execution.current := rfl

@[simp] theorem Execution.move_files :
    (execution.move process phase).files = execution.files := rfl

end Fields

variable [DecidableEq Process]

/-- The next step of a process. One that waits for a lock stays where it is. -/
def step (programs : Process → Program Config State World) (maxTries : Nat)
    (process : Process) (execution : Execution Process Config State World) :
    Execution Process Config State World :=
  match execution.phase process with
  | .starting tries => execution.move process (.opened tries execution.current)
  | .opened tries version =>
      match execution.holder version with
      | none =>
          (execution.setHolder version (some process)).move process (.locked tries version)
      | some _ => execution
  | .locked tries version =>
      if version = execution.current then
        execution.move process (.entered version)
      else if tries + 1 < maxTries then
        (execution.setHolder version none).move process (.starting (tries + 1))
      else
        (execution.setHolder version none).move process .gaveUp
  | .entered version =>
      execution.move process (.readConfig version (execution.versions version))
  | .readConfig version config =>
      execution.move process (.readState version config execution.state)
  | .readState version config state =>
      let result := programs process config state execution.world
      (execution.setWorld result.2).move process (.computed version result.1)
  | .computed version writes =>
      match writes.config with
      | some config =>
          (execution.replaceConfig config).move process (.wroteConfig version writes.state)
      | none => execution.move process (.wroteConfig version writes.state)
  | .wroteConfig version pending =>
      match pending with
      | some state => (execution.replaceState state).move process (.wroteState version)
      | none => execution.move process (.wroteState version)
  | .wroteState version => (execution.setHolder version none).move process .done
  | .done => execution
  | .gaveUp => execution

def runSchedule (programs : Process → Program Config State World) (maxTries : Nat) :
    List Process → Execution Process Config State World →
      Execution Process Config State World
  | [], execution => execution
  | process :: schedule, execution =>
      runSchedule programs maxTries schedule (step programs maxTries process execution)

theorem runSchedule_append (programs : Process → Program Config State World) (maxTries : Nat)
    (first later : List Process) (execution : Execution Process Config State World) :
    runSchedule programs maxTries (first ++ later) execution =
      runSchedule programs maxTries later (runSchedule programs maxTries first execution) := by
  induction first generalizing execution with
  | nil => rfl
  | cons process first induction => exact induction _

def Phase.hasEnded : Phase Config State → Bool
  | .done => true
  | .gaveUp => true
  | _ => false

/-- Every process has come to an end. -/
def Finished (execution : Execution Process Config State World) : Prop :=
  ∀ process, (execution.phase process).hasEnded = true

/-- The process has replaced the locked file but not yet the other one. -/
def inWindow (execution : Execution Process Config State World) (process : Process) : Bool :=
  match execution.phase process with
  | .wroteConfig version (some _) => version != execution.current
  | _ => false

/-- The next step of the process reads the second file. -/
def readsState (execution : Execution Process Config State World) (process : Process) : Bool :=
  match execution.phase process with
  | .readConfig _ _ => true
  | _ => false

/-- No process reads the second file in the window of another. -/
def Separate (programs : Process → Program Config State World) (maxTries : Nat) :
    List Process → Execution Process Config State World → Prop
  | [], _ => True
  | process :: schedule, execution =>
      (readsState execution process = true → ∀ other, inWindow execution other = false) ∧
        Separate programs maxTries schedule (step programs maxTries process execution)

instance decidableSeparate [Fintype Process] (programs : Process → Program Config State World)
    (maxTries : Nat) : (schedule : List Process) →
      (execution : Execution Process Config State World) →
        Decidable (Separate programs maxTries schedule execution)
  | [], _ => isTrue trivial
  | process :: schedule, execution =>
      @instDecidableAnd _ _ inferInstance
        (decidableSeparate programs maxTries schedule (step programs maxTries process execution))

theorem Separate.of_append {programs : Process → Program Config State World} {maxTries : Nat}
    {first later : List Process} {execution : Execution Process Config State World}
    (separate : Separate programs maxTries (first ++ later) execution) :
    Separate programs maxTries first execution := by
  induction first generalizing execution with
  | nil => trivial
  | cons process first induction => exact ⟨separate.1, induction separate.2⟩

/-! ## What a phase implies -/

namespace Phase

variable {Config State : Type}

/-- The version whose lock the process holds. -/
def lock : Phase Config State → Option Nat
  | locked _ version => some version
  | entered version => some version
  | readConfig version _ => some version
  | readState version _ _ => some version
  | computed version _ => some version
  | wroteConfig version _ => some version
  | wroteState version => some version
  | _ => none

/-- The process holds the lock of the current version and has replaced nothing. -/
def active : Phase Config State → Bool
  | entered _ => true
  | readConfig _ _ => true
  | readState _ _ _ => true
  | computed _ _ => true
  | _ => false

/-- What the process has still to write. -/
def pending : Phase Config State → Writes Config State
  | computed _ writes => writes
  | wroteConfig _ state => ⟨none, state⟩
  | _ => .none

/-- The process has computed what it writes. -/
def hasComputed : Phase Config State → Bool
  | computed _ _ => true
  | wroteConfig _ _ => true
  | wroteState _ => true
  | done => true
  | _ => false

/-- Every retry is due to a version that has been replaced. -/
def Bounded (maxTries current : Nat) : Phase Config State → Prop
  | starting tries => tries ≤ current
  | opened tries version => tries ≤ version ∧ version ≤ current
  | locked tries version => tries ≤ version ∧ version ≤ current
  | gaveUp => maxTries ≤ current
  | _ => True

theorem Bounded.mono {maxTries current later : Nat} {phase : Phase Config State}
    (bounded : phase.Bounded maxTries current) (grows : current ≤ later) :
    phase.Bounded maxTries later := by
  cases phase with
  | starting tries => exact Nat.le_trans bounded grows
  | opened tries version => exact ⟨bounded.1, Nat.le_trans bounded.2 grows⟩
  | locked tries version => exact ⟨bounded.1, Nat.le_trans bounded.2 grows⟩
  | gaveUp => exact Nat.le_trans bounded grows
  | _ => trivial

end Phase

/-! ## The lock -/

/-- A process that is active holds the lock of the current version. -/
structure Guarded (maxTries : Nat) (execution : Execution Process Config State World) :
    Prop where
  holds : ∀ process version, (execution.phase process).lock = some version →
    execution.holder version = some process
  active : ∀ process, (execution.phase process).active = true →
    (execution.phase process).lock = some execution.current
  bounded : ∀ process, (execution.phase process).Bounded maxTries execution.current

namespace Guarded

variable {programs : Process → Program Config State World} {maxTries : Nat}
variable {execution : Execution Process Config State World} {process other : Process}

omit [DecidableEq Process] in
/-- An active process shares the current version with nobody. -/
theorem exclusive (guarded : Guarded maxTries execution)
    (active : (execution.phase process).active = true)
    (lock : (execution.phase other).lock = some execution.current) : other = process := by
  have mine := guarded.holds process _ (guarded.active process active)
  have theirs := guarded.holds other _ lock
  rw [mine] at theirs
  exact (Option.some.inj theirs).symm

omit [DecidableEq Process] in
theorem active_unique (guarded : Guarded maxTries execution)
    (active : (execution.phase process).active = true)
    (otherActive : (execution.phase other).active = true) : other = process :=
  guarded.exclusive active (guarded.active other otherActive)

/-- A step of one process that takes no lock away from another. -/
theorem update (guarded : Guarded maxTries execution)
    {next : Execution Process Config State World} {phase : Phase Config State}
    (phases : next.phase = Function.update execution.phase process phase)
    (grows : execution.current ≤ next.current)
    (replaces : next.current ≠ execution.current → (execution.phase process).active = true)
    (keeps : ∀ other version, other ≠ process → execution.holder version = some other →
      next.holder version = some other)
    (holds : ∀ version, phase.lock = some version → next.holder version = some process)
    (active : phase.active = true → phase.lock = some next.current)
    (bounded : phase.Bounded maxTries next.current) : Guarded maxTries next := by
  constructor
  · intro candidate version held
    rw [phases] at held
    by_cases same : candidate = process
    · subst same
      rw [Function.update_self] at held
      exact holds version held
    · rw [Function.update_of_ne same] at held
      exact keeps candidate version same (guarded.holds candidate version held)
  · intro candidate isActive
    rw [phases] at isActive ⊢
    by_cases same : candidate = process
    · subst same
      rw [Function.update_self] at isActive ⊢
      exact active isActive
    · rw [Function.update_of_ne same] at isActive ⊢
      have unmoved : next.current = execution.current := by
        by_contra moved
        exact same (guarded.active_unique (replaces moved) isActive)
      rw [unmoved]
      exact guarded.active candidate isActive
  · intro candidate
    rw [phases]
    by_cases same : candidate = process
    · subst same
      rw [Function.update_self]
      exact bounded
    · rw [Function.update_of_ne same]
      exact (guarded.bounded candidate).mono grows

/-- A step that leaves the locks and the current version alone. -/
theorem move (guarded : Guarded maxTries execution)
    {next : Execution Process Config State World} {before phase : Phase Config State}
    (was : execution.phase process = before)
    (phases : next.phase = Function.update execution.phase process phase)
    (current : next.current = execution.current) (holder : next.holder = execution.holder)
    (lock : ∀ version, phase.lock = some version → before.lock = some version)
    (active : phase.active = true → phase.lock = some execution.current)
    (bounded : phase.Bounded maxTries execution.current) : Guarded maxTries next := by
  subst was
  apply guarded.update phases
  · exact Nat.le_of_eq current.symm
  · intro moved
    exact absurd current moved
  · intro candidate version _ held
    rw [holder]
    exact held
  · intro version held
    rw [holder]
    exact guarded.holds process version (lock version held)
  · rw [current]
    exact active
  · rw [current]
    exact bounded

/-- A step that takes a free lock. -/
theorem acquire (guarded : Guarded maxTries execution) {phase : Phase Config State}
    {version : Nat} (free : execution.holder version = none)
    (lock : phase.lock = some version) (inactive : phase.active = false)
    (bounded : phase.Bounded maxTries execution.current) :
    Guarded maxTries ((execution.setHolder version (some process)).move process phase) := by
  apply guarded.update (Execution.move_phase (execution.setHolder version _) process phase)
  · exact Nat.le_refl _
  · intro moved
    exact absurd rfl moved
  · intro candidate held _ holder
    have different : held ≠ version := by
      rintro rfl
      rw [free] at holder
      cases holder
    simpa [different] using holder
  · intro held same
    rw [lock] at same
    cases same
    exact Function.update_self _ _ _
  · intro impossible
    rw [inactive] at impossible
    cases impossible
  · exact bounded

/-- A step that gives a lock back. -/
theorem release (guarded : Guarded maxTries execution) {phase : Phase Config State}
    {version : Nat} (held : (execution.phase process).lock = some version)
    (lock : phase.lock = none) (inactive : phase.active = false)
    (bounded : phase.Bounded maxTries execution.current) :
    Guarded maxTries ((execution.setHolder version none).move process phase) := by
  apply guarded.update (Execution.move_phase (execution.setHolder version _) process phase)
  · exact Nat.le_refl _
  · intro moved
    exact absurd rfl moved
  · intro candidate kept other holder
    have different : kept ≠ version := by
      rintro rfl
      rw [guarded.holds process _ held] at holder
      exact other (Option.some.inj holder).symm
    simpa [different] using holder
  · intro kept impossible
    rw [lock] at impossible
    cases impossible
  · intro impossible
    rw [inactive] at impossible
    cases impossible
  · exact bounded

omit [DecidableEq Process] in
theorem start (maxTries : Nat) (files : Files Config State World) :
    @Guarded Process Config State World maxTries (start files) := by
  constructor
  · intro process version impossible
    cases impossible
  · intro process impossible
    cases impossible
  · intro process
    exact Nat.le_refl 0

/-- The locks are respected whatever the order of the steps. -/
theorem step (guarded : Guarded maxTries execution) (process : Process) :
    Guarded maxTries (step programs maxTries process execution) := by
  have bounded := guarded.bounded process
  have active := guarded.active process
  unfold LockedFile.step
  cases phase : execution.phase process with
  | starting tries =>
      rw [phase] at bounded
      apply guarded.move phase (Execution.move_phase _ process _) rfl rfl
      · intro version impossible
        cases impossible
      · intro impossible
        cases impossible
      · exact ⟨bounded, Nat.le_refl _⟩
  | opened tries version =>
      rw [phase] at bounded
      dsimp only
      cases free : execution.holder version with
      | some holder => exact guarded
      | none => exact guarded.acquire free rfl rfl bounded
  | locked tries version =>
      rw [phase] at bounded
      have held : (execution.phase process).lock = some version := by
        rw [phase]
        rfl
      dsimp only
      by_cases current : version = execution.current
      · rw [if_pos current]
        apply guarded.move phase (Execution.move_phase _ process _) rfl rfl
        · intro kept same
          exact same
        · intro _
          exact congrArg some current
        · trivial
      · rw [if_neg current]
        have replaced : tries + 1 ≤ execution.current := by
          have := bounded.1
          have := bounded.2
          omega
        by_cases again : tries + 1 < maxTries
        · rw [if_pos again]
          exact guarded.release held rfl rfl replaced
        · rw [if_neg again]
          exact guarded.release held rfl rfl (Nat.le_trans (Nat.not_lt.mp again) replaced)
  | entered version =>
      rw [phase] at active
      exact guarded.move phase (Execution.move_phase _ process _) rfl rfl (fun _ same => same)
        (fun _ => active rfl) trivial
  | readConfig version config =>
      rw [phase] at active
      exact guarded.move phase (Execution.move_phase _ process _) rfl rfl (fun _ same => same)
        (fun _ => active rfl) trivial
  | readState version config state =>
      rw [phase] at active
      exact guarded.move phase rfl rfl rfl (fun _ same => same) (fun _ => active rfl) trivial
  | computed version writes =>
      have isActive : (execution.phase process).active = true := by
        rw [phase]
        rfl
      dsimp only
      cases writes.config with
      | none =>
          exact guarded.move phase (Execution.move_phase _ process _) rfl rfl
            (fun _ same => same) (fun impossible => by cases impossible) trivial
      | some config =>
          apply guarded.update (Execution.move_phase (execution.replaceConfig config) process _)
          · exact Nat.le_succ _
          · intro _
            exact isActive
          · intro other kept _ held
            exact held
          · intro kept same
            apply guarded.holds
            rw [phase]
            exact same
          · intro impossible
            cases impossible
          · trivial
  | wroteConfig version pending =>
      dsimp only
      cases pending with
      | none =>
          exact guarded.move phase (Execution.move_phase _ process _) rfl rfl
            (fun _ same => same) (fun impossible => by cases impossible) trivial
      | some state =>
          exact guarded.move phase rfl rfl rfl (fun _ same => same)
            (fun impossible => by cases impossible) trivial
  | wroteState version =>
      have held : (execution.phase process).lock = some version := by
        rw [phase]
        rfl
      exact guarded.release held rfl rfl trivial
  | done => exact guarded
  | gaveUp => exact guarded

end Guarded

/-! ## The order of the processes -/

/-- The files after the processes have run one after the other. -/
def sequential (programs : Process → Program Config State World)
    (files : Files Config State World) (order : List Process) : Files Config State World :=
  order.foldl (fun files process => (programs process).run files) files

/-- What the last process of the order has still to write. -/
def pendingWrites (order : List Process) (execution : Execution Process Config State World) :
    Writes Config State :=
  match order.getLast? with
  | none => .none
  | some process => (execution.phase process).pending

/-- What a process has read is what the paths name, and nothing of it is about to
be replaced. -/
def Phase.Accurate (execution : Execution Process Config State World) :
    Phase Config State → Prop
  | readConfig _ config => config = execution.files.config
  | readState _ config state =>
      config = execution.files.config ∧ state = execution.files.state ∧
        ∀ other, (execution.phase other).pending.state = none
  | _ => True

/-- Apart from what the last process is about to write, the files are those of a
sequential execution in the given order. -/
structure Serial (programs : Process → Program Config State World)
    (initial : Files Config State World) (order : List Process)
    (execution : Execution Process Config State World) : Prop where
  nodup : order.Nodup
  ordered : ∀ process, process ∈ order ↔ (execution.phase process).hasComputed = true
  accurate : ∀ process, (execution.phase process).Accurate execution
  last : ∀ process, order.getLast? ≠ some process →
    (execution.phase process).pending = .none
  files : sequential programs initial order = execution.files.write (pendingWrites order execution)
  renames : execution.current ≤ order.length
  renamesPending : (pendingWrites order execution).config ≠ none →
    execution.current + 1 ≤ order.length

namespace Serial

variable {programs : Process → Program Config State World} {maxTries : Nat}
variable {initial : Files Config State World} {order : List Process}
variable {execution next : Execution Process Config State World} {process : Process}
variable {phase : Phase Config State}

omit [DecidableEq Process] in
theorem start (files : Files Config State World) :
    Serial programs files [] (start files) := by
  constructor
  · exact List.nodup_nil
  · intro process
    simp [LockedFile.start, Phase.hasComputed]
  · intro process
    trivial
  · intro process _
    rfl
  · rfl
  · exact Nat.le_refl 0
  · intro impossible
    exact absurd rfl impossible

omit [DecidableEq Process] in
/-- Only the last process of the order can have something to write. -/
theorem pendingWrites_of_pending (serial : Serial programs initial order execution)
    (pending : (execution.phase process).pending ≠ .none) :
    order.getLast? = some process ∧
      pendingWrites order execution = (execution.phase process).pending := by
  have last : order.getLast? = some process := by
    by_contra other
    exact pending (serial.last process other)
  refine ⟨last, ?_⟩
  unfold pendingWrites
  rw [last]

/-- A step after which every process has as much to write as before. -/
theorem quiet (serial : Serial programs initial order execution)
    {before : Phase Config State} (was : execution.phase process = before)
    (phases : next.phase = Function.update execution.phase process phase)
    (current : next.current = execution.current) (files : next.files = execution.files)
    (pending : phase.pending = before.pending)
    (computed : phase.hasComputed = before.hasComputed)
    (accurate : phase.Accurate execution) : Serial programs initial order next := by
  have pendings : ∀ other, (next.phase other).pending = (execution.phase other).pending := by
    intro other
    rw [phases]
    by_cases same : other = process
    · subst same
      rw [Function.update_self, pending, was]
    · rw [Function.update_of_ne same]
  have writes : pendingWrites order next = pendingWrites order execution := by
    unfold pendingWrites
    cases order.getLast? with
    | none => rfl
    | some last => exact pendings last
  have stays : ∀ phase : Phase Config State, phase.Accurate execution → phase.Accurate next := by
    intro phase holds
    cases phase with
    | readConfig version config =>
        rw [Phase.Accurate, files]
        exact holds
    | readState version config state =>
        rw [Phase.Accurate, files]
        refine ⟨holds.1, holds.2.1, ?_⟩
        intro other
        rw [pendings]
        exact holds.2.2 other
    | _ => trivial
  constructor
  · exact serial.nodup
  · intro other
    rw [serial.ordered other, phases]
    by_cases same : other = process
    · subst same
      rw [Function.update_self, computed, was]
    · rw [Function.update_of_ne same]
  · intro other
    rw [phases]
    by_cases same : other = process
    · subst same
      rw [Function.update_self]
      exact stays phase accurate
    · rw [Function.update_of_ne same]
      exact stays _ (serial.accurate other)
  · intro other notLast
    rw [pendings]
    exact serial.last other notLast
  · rw [writes, files]
    exact serial.files
  · rw [current]
    exact serial.renames
  · rw [writes, current]
    exact serial.renamesPending

/-- The last process replaces a file. -/
theorem written (serial : Serial programs initial order execution)
    (phases : next.phase = Function.update execution.phase process phase)
    (pending : (execution.phase process).pending ≠ .none)
    (computed : (execution.phase process).hasComputed = true)
    (stillComputed : phase.hasComputed = true)
    (accurate : ∀ other, other ≠ process → (execution.phase other).Accurate next)
    (own : phase.Accurate next)
    (files : next.files.write phase.pending =
      execution.files.write (execution.phase process).pending)
    (renames : next.current ≤ order.length)
    (renamesPending : phase.pending.config ≠ none → next.current + 1 ≤ order.length) :
    Serial programs initial order next := by
  rcases serial.pendingWrites_of_pending pending with ⟨last, before⟩
  have after : pendingWrites order next = phase.pending := by
    unfold pendingWrites
    rw [last, phases]
    exact congrArg Phase.pending (Function.update_self process phase execution.phase)
  constructor
  · exact serial.nodup
  · intro other
    rw [serial.ordered other, phases]
    by_cases same : other = process
    · subst same
      rw [Function.update_self, computed, stillComputed]
    · rw [Function.update_of_ne same]
  · intro other
    rw [phases]
    by_cases same : other = process
    · subst same
      rw [Function.update_self]
      exact own
    · rw [Function.update_of_ne same]
      exact accurate other same
  · intro other notLast
    have different : other ≠ process := by
      rintro rfl
      exact notLast last
    rw [phases, Function.update_of_ne different]
    exact serial.last other notLast
  · rw [after, files, ← before]
    exact serial.files
  · exact renames
  · rw [after]
    exact renamesPending

omit [DecidableEq Process] in
/-- While a process reads, nobody else is about to replace the first file. -/
theorem configSettled (guarded : Guarded maxTries execution)
    (active : (execution.phase process).active = true)
    (own : (execution.phase process).pending.config = none) (other : Process) :
    (execution.phase other).pending.config = none := by
  by_cases same : other = process
  · rw [same]
    exact own
  · cases phase : execution.phase other with
    | computed version writes =>
        have otherActive : (execution.phase other).active = true := by
          rw [phase]
          rfl
        exact absurd (guarded.active_unique active otherActive) same
    | _ => rfl

omit [DecidableEq Process] in
/-- Outside the windows of the others nobody is about to replace the second file. -/
theorem stateSettled (guarded : Guarded maxTries execution)
    (active : (execution.phase process).active = true)
    (own : (execution.phase process).pending.state = none)
    (separate : ∀ other, inWindow execution other = false) (other : Process) :
    (execution.phase other).pending.state = none := by
  by_cases same : other = process
  · rw [same]
    exact own
  · cases phase : execution.phase other with
    | computed version writes =>
        have otherActive : (execution.phase other).active = true := by
          rw [phase]
          rfl
        exact absurd (guarded.active_unique active otherActive) same
    | wroteConfig version pending =>
        cases pending with
        | none => rfl
        | some state =>
            have outside := separate other
            rw [inWindow, phase] at outside
            have current : version = execution.current := by simpa using outside
            have lock : (execution.phase other).lock = some execution.current := by
              rw [phase, ← current]
              rfl
            exact absurd (guarded.exclusive active lock) same
    | _ => rfl

omit [DecidableEq Process] in
/-- What a process other than the active one has read does not matter. -/
theorem accurate_of_inactive (guarded : Guarded maxTries execution)
    (active : (execution.phase process).active = true) {other : Process}
    (different : other ≠ process) : (execution.phase other).Accurate next := by
  have inactive : (execution.phase other).active ≠ true := fun alsoActive =>
    different (guarded.active_unique active alsoActive)
  cases phase : execution.phase other with
  | readConfig version config =>
      rw [phase] at inactive
      exact absurd rfl inactive
  | readState version config state =>
      rw [phase] at inactive
      exact absurd rfl inactive
  | _ => trivial

omit [DecidableEq Process] in
theorem sequential_append (programs : Process → Program Config State World)
    (files : Files Config State World) (order : List Process) (process : Process) :
    sequential programs files (order ++ [process]) =
      (programs process).run (sequential programs files order) := by
  simp [sequential]

/-- A process computes from what the paths name: it comes next in the order. -/
theorem compute (serial : Serial programs initial order execution)
    (guarded : Guarded maxTries execution) {version : Nat} {config : Config} {state : State}
    (reading : execution.phase process = .readState version config state) :
    Serial programs initial (order ++ [process]) (step programs maxTries process execution) := by
  have active : (execution.phase process).active = true := by
    rw [reading]
    rfl
  have own : (execution.phase process).pending.config = none := by
    rw [reading]
    rfl
  have accurate := serial.accurate process
  rw [reading] at accurate
  rcases accurate with ⟨rfl, rfl, states⟩
  have settled : ∀ other, (execution.phase other).pending = .none := by
    intro other
    have config := configSettled guarded active own other
    have state := states other
    cases pending : (execution.phase other).pending
    rw [pending] at config state
    cases config
    cases state
    rfl
  have files : sequential programs initial order = execution.files := by
    rw [serial.files]
    have nothing : pendingWrites order execution = .none := by
      unfold pendingWrites
      cases order.getLast? with
      | none => rfl
      | some last => exact settled last
    rw [nothing, Files.write_none]
  have absent : process ∉ order := by
    rw [serial.ordered, reading]
    simp [Phase.hasComputed]
  unfold step
  rw [reading]
  constructor
  · rw [List.nodup_append]
    refine ⟨serial.nodup, List.nodup_singleton process, ?_⟩
    intro first inOrder second isLast same
    rw [same, List.mem_singleton.mp isLast] at inOrder
    exact absent inOrder
  · intro other
    by_cases same : other = process
    · subst same
      simp [Phase.hasComputed]
    · simpa [same] using serial.ordered other
  · intro other
    by_cases same : other = process
    · subst same
      simp [Phase.Accurate]
    · rw [Execution.move_phase, Function.update_of_ne same]
      exact accurate_of_inactive guarded active same
  · intro other notLast
    have different : other ≠ process := by
      rintro rfl
      exact notLast (by simp)
    rw [Execution.move_phase, Function.update_of_ne different]
    exact settled other
  · rw [sequential_append, files]
    simp [pendingWrites, Phase.pending, Program.run]
    rfl
  · have bound := serial.renames
    simp
    omega
  · intro _
    have bound := serial.renames
    simpa using bound

/-- One step extends the order by at most the process that takes it. -/
theorem step (serial : Serial programs initial order execution)
    (guarded : Guarded maxTries execution) (process : Process)
    (separate : readsState execution process = true →
      ∀ other, inWindow execution other = false) :
    ∃ extended,
      Serial programs initial extended (step programs maxTries process execution) := by
  have accurate := serial.accurate process
  cases phase : execution.phase process with
  | readState version config state => exact ⟨_, serial.compute guarded phase⟩
  | starting tries =>
      refine ⟨order, ?_⟩
      unfold LockedFile.step
      rw [phase]
      exact serial.quiet phase (Execution.move_phase _ process _) rfl rfl rfl rfl trivial
  | opened tries version =>
      refine ⟨order, ?_⟩
      unfold LockedFile.step
      rw [phase]
      dsimp only
      cases execution.holder version with
      | some holder => exact serial
      | none =>
          exact serial.quiet phase (Execution.move_phase _ process _) rfl rfl rfl rfl trivial
  | locked tries version =>
      refine ⟨order, ?_⟩
      unfold LockedFile.step
      rw [phase]
      dsimp only
      split
      · exact serial.quiet phase (Execution.move_phase _ process _) rfl rfl rfl rfl trivial
      · split
        · exact serial.quiet phase (Execution.move_phase _ process _) rfl rfl rfl rfl trivial
        · exact serial.quiet phase (Execution.move_phase _ process _) rfl rfl rfl rfl trivial
  | entered version =>
      have active := guarded.active process
      rw [phase] at active
      have current : version = execution.current := Option.some.inj (active rfl)
      refine ⟨order, ?_⟩
      unfold LockedFile.step
      rw [phase]
      exact serial.quiet phase (Execution.move_phase _ process _) rfl rfl rfl rfl
        (congrArg execution.versions current)
  | readConfig version config =>
      have settled : ∀ other, (execution.phase other).pending.state = none :=
        stateSettled guarded (by rw [phase]; rfl) (by rw [phase]; rfl)
          (separate (by rw [readsState, phase]))
      rw [phase] at accurate
      refine ⟨order, ?_⟩
      unfold LockedFile.step
      rw [phase]
      exact serial.quiet phase (Execution.move_phase _ process _) rfl rfl rfl rfl
        ⟨accurate, rfl, settled⟩
  | computed version writes =>
      refine ⟨order, ?_⟩
      unfold LockedFile.step
      rw [phase]
      rcases writes with ⟨config | config, state⟩
      · exact serial.quiet phase (Execution.move_phase _ process _) rfl rfl rfl rfl trivial
      · have pending : (execution.phase process).pending = ⟨some config, state⟩ := by
          rw [phase]
          rfl
        have some : (execution.phase process).pending ≠ .none := by
          rw [pending]
          exact fun impossible => by cases impossible
        have room : execution.current + 1 ≤ order.length := by
          apply serial.renamesPending
          rw [(serial.pendingWrites_of_pending some).2, pending]
          exact fun impossible => by cases impossible
        apply serial.written (Execution.move_phase (execution.replaceConfig config) process _) some
        · rw [phase]
          rfl
        · rfl
        · intro other different
          exact accurate_of_inactive guarded (by rw [phase]; rfl) different
        · trivial
        · rw [pending, Execution.move_files, Execution.replaceConfig_files]
          rfl
        · exact room
        · intro impossible
          exact absurd rfl impossible
  | wroteConfig version pending =>
      refine ⟨order, ?_⟩
      unfold LockedFile.step
      rw [phase]
      cases pending with
      | none =>
          exact serial.quiet phase (Execution.move_phase _ process _) rfl rfl rfl rfl trivial
      | some state =>
          have pending : (execution.phase process).pending = ⟨none, some state⟩ := by
            rw [phase]
            rfl
          have unsettled : (execution.phase process).pending ≠ .none := by
            rw [pending]
            exact fun impossible => by cases impossible
          apply serial.written (Execution.move_phase (execution.replaceState state) process _)
            unsettled
          · rw [phase]
            rfl
          · rfl
          · intro other different
            have before := serial.accurate other
            cases read : execution.phase other with
            | readState readVersion config readState =>
                rw [read] at before
                have nothing := before.2.2 process
                rw [pending] at nothing
                cases nothing
            | readConfig readVersion config =>
                rw [read] at before
                exact before
            | _ => trivial
          · trivial
          · rw [pending, Execution.move_files, Execution.replaceState_files]
            rfl
          · exact serial.renames
          · intro impossible
            exact absurd rfl impossible
  | wroteState version =>
      refine ⟨order, ?_⟩
      unfold LockedFile.step
      rw [phase]
      exact serial.quiet phase (Execution.move_phase _ process _) rfl rfl rfl rfl trivial
  | done =>
      refine ⟨order, ?_⟩
      unfold LockedFile.step
      rw [phase]
      exact serial
  | gaveUp =>
      refine ⟨order, ?_⟩
      unfold LockedFile.step
      rw [phase]
      exact serial

/-- What a whole run keeps. -/
theorem runSchedule {schedule : List Process} (serial : Serial programs initial order execution)
    (guarded : Guarded maxTries execution)
    (separate : Separate programs maxTries schedule execution) :
    ∃ extended,
      Serial programs initial extended (runSchedule programs maxTries schedule execution) ∧
        Guarded maxTries (LockedFile.runSchedule programs maxTries schedule execution) := by
  induction schedule generalizing order execution with
  | nil => exact ⟨order, serial, guarded⟩
  | cons process schedule induction =>
      rcases serial.step guarded process separate.1 with ⟨extended, after⟩
      exact induction after (guarded.step process) separate.2

omit [DecidableEq Process] in
/-- With more tries than processes nobody gives up. -/
theorem finishes [Fintype Process] (serial : Serial programs initial order execution)
    (guarded : Guarded maxTries execution) (few : Fintype.card Process < maxTries)
    (process : Process) : execution.phase process ≠ .gaveUp := by
  intro gaveUp
  have bounded := guarded.bounded process
  rw [gaveUp] at bounded
  have tries : maxTries ≤ execution.current := bounded
  have renames := serial.renames
  have processes := serial.nodup.length_le_card
  omega

end Serial

/-- The files that are left are those of a sequential execution of all processes. -/
theorem serializable [Fintype Process] {programs : Process → Program Config State World}
    {maxTries : Nat} (few : Fintype.card Process < maxTries) {initial : Files Config State World}
    {schedule : List Process} (separate : Separate programs maxTries schedule (start initial))
    (finished : Finished (runSchedule programs maxTries schedule (start initial))) :
    ∃ order : List Process, order.Nodup ∧ (∀ process, process ∈ order) ∧
      (runSchedule programs maxTries schedule (start initial)).files =
        sequential programs initial order := by
  rcases (Serial.start initial).runSchedule (Guarded.start maxTries initial) separate with
    ⟨order, serial, guarded⟩
  have done : ∀ process,
      (runSchedule programs maxTries schedule (start initial)).phase process = .done := by
    intro process
    have ended := finished process
    cases phase : (runSchedule programs maxTries schedule (start initial)).phase process with
    | done => rfl
    | gaveUp => exact absurd phase (serial.finishes guarded few process)
    | _ =>
        rw [phase] at ended
        cases ended
  refine ⟨order, serial.nodup, ?_, ?_⟩
  · intro process
    rw [serial.ordered, done]
    rfl
  · have settled : pendingWrites order
        (runSchedule programs maxTries schedule (start initial)) = .none := by
      unfold pendingWrites
      cases order.getLast? with
      | none => rfl
      | some last => exact congrArg Phase.pending (done last)
    rw [serial.files, settled, Files.write_none]

/-- Whatever a process reads, nobody is about to replace. -/
theorem reads_accurate {programs : Process → Program Config State World} {maxTries : Nat}
    {initial : Files Config State World} {schedule earlier : List Process}
    (separate : Separate programs maxTries schedule (start initial))
    (part : earlier <+: schedule) (process : Process) :
    ((runSchedule programs maxTries earlier (start initial)).phase process).Accurate
      (runSchedule programs maxTries earlier (start initial)) := by
  rcases part with ⟨later, rfl⟩
  rcases (Serial.start initial).runSchedule (Guarded.start maxTries initial)
    separate.of_append with ⟨order, serial, _⟩
  exact serial.accurate process

end Dnst.LockedFile
