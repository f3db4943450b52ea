import Dnst.Foundation.Sequence
import Dnst.Keyset.AutoStart

/-! # The steps of a cron run

After the renewal of signatures cron starts rolls, phase by phase, and then takes each roll
that goes on a step further. A run comes to one such step after the other until one fails.
-/

namespace Dnst.Keyset

open Effect

/-! ## The automation of rolls -/

/-- The groups of rolls that are automated together. -/
def automatedRolls (config : KeySetConfig) : List (AutoConfig × List RollType) :=
  [(config.autoKsk, kskRolls), (config.autoZsk, zskRolls), (config.autoCsk, [.cskRoll]),
    (config.autoAlgorithm, [.algorithmRoll])]

def automateEach (env : Environment) : List (AutoConfig × List RollType) → Run Unit
  | [] => return ()
  | (auto, rolls) :: others => do
      autoReportExpireDone env auto rolls
      automateEach env others

theorem exec_autoReportExpireDonePhase (env : Environment) (ws : WorkSpace) :
    exec (autoReportExpireDonePhase env) ws =
      exec (automateEach env (automatedRolls ws.config)) ws := by
  unfold autoReportExpireDonePhase automatedRolls automateEach automateEach automateEach
    automateEach automateEach
  rw [exec_bind_of_ok (exec_get ws)]
  simp only [bind_pure_unit]

/-- The automation comes to this group of rolls. -/
def ComesToGroup (env : Environment) (begun : WorkSpace) (auto : AutoConfig)
    (rolls : List RollType) (start : WorkSpace) : Prop :=
  ∃ groups others, automatedRolls begun.config = groups ++ (auto, rolls) :: others ∧
    exec (automateEach env groups) begun = (.ok ⟨⟩, start)

/-- The steps for one group of rolls: reports, expired caches and ends of rolls. -/
def groupSteps (env : Environment) (auto : AutoConfig) (rolls : List RollType)
    (now : UnixTime) : List (Run Unit) :=
  (if auto.report then rolls.map (autoReportRoll env now) else []) ++
    (if auto.expire then rolls.map (autoExpireRoll env) else []) ++
    (if auto.done then rolls.map (autoDoneRoll env now) else [])

/-! ## Steps after the renewal -/

/-- The phases of cron that start and automate rolls. -/
def rollPhases (env : Environment) : Run Unit := do
  autoStartPhase env
  autoReportExpireDonePhase env

/-- A step that the run comes to when signatures have been renewed: the start of a roll,
or a step in the automation of a roll. -/
inductive RollStep (env : Environment) (renewed : WorkSpace) :
    Run Unit → WorkSpace → Prop
  | start {need begun step ws} :
      exec algorithmRollNeeded renewed = (.ok need, begun) →
      ComesTo ((startPhases begun.config need).map (StartPhase.run env)) begun step ws →
      RollStep env renewed step ws
  | automate {begun auto rolls start step ws} :
      exec (autoStartPhase env) renewed = (.ok ⟨⟩, begun) →
      ComesToGroup env begun auto rolls start →
      ComesTo (groupSteps env auto rolls (start.now env)) start.ticked step ws →
      RollStep env renewed step ws

section Steps

variable {env : Environment} {renewed ws final : WorkSpace}

theorem runPhases_eq (phases : List StartPhase) :
    runPhases env phases = inSequence (phases.map (StartPhase.run env)) := by
  induction phases with
  | nil => rfl
  | cons phase phases induction => rw [runPhases, induction, List.map_cons, inSequence]

theorem eachRoll_eq (rolls : List RollType) (step : RollType → Run Unit) :
    eachRoll rolls step = inSequence (rolls.map step) := by
  induction rolls with
  | nil => rfl
  | cons roll rolls induction => rw [eachRoll, induction, List.map_cons, inSequence]

theorem automateEach_eq (groups : List (AutoConfig × List RollType)) :
    automateEach env groups =
      inSequence (groups.map fun group => autoReportExpireDone env group.1 group.2) := by
  induction groups with
  | nil => rfl
  | cons group groups induction => rw [automateEach, induction, List.map_cons, inSequence]

theorem onlyIf_inSequence (condition : Bool) (steps : List (Run Unit)) :
    onlyIf condition (inSequence steps) = inSequence (if condition then steps else []) := by
  cases condition <;> rfl

/-- A group of rolls is automated by its steps. -/
theorem exec_autoReportExpireDone (auto : AutoConfig) (rolls : List RollType) :
    exec (autoReportExpireDone env auto rolls) ws =
      exec (inSequence (groupSteps env auto rolls (ws.now env))) ws.ticked := by
  unfold autoReportExpireDone groupSteps
  rw [exec_bind_of_ok (exec_get ws), exec_bind_of_ok (exec_now env ws), inSequence_append,
    inSequence_append, bind_assoc]
  simp only [eachRoll_eq, onlyIf_inSequence]

/-- The steps of the automation are the groups that it comes to. -/
theorem comesToGroup_iff {begun start : WorkSpace} {step : Run Unit} :
    ComesTo ((automatedRolls begun.config).map fun group =>
        autoReportExpireDone env group.1 group.2) begun step start ↔
      ∃ auto rolls, step = autoReportExpireDone env auto rolls ∧
        ComesToGroup env begun auto rolls start := by
  rw [comesTo_map]
  simp only [ComesToGroup, automateEach_eq]
  constructor
  · rintro ⟨groups, ⟨auto, rolls⟩, others, listed, same, run⟩
    exact ⟨auto, rolls, same, groups, others, listed, run⟩
  · rintro ⟨auto, rolls, same, groups, others, listed, run⟩
    exact ⟨groups, ⟨auto, rolls⟩, others, listed, same, run⟩

/-- In a group the run comes to the report of a roll, or to one of the steps after the
reports. -/
theorem comesTo_groupSteps {auto : AutoConfig} {rolls : List RollType} {now : UnixTime}
    {start : WorkSpace} {step : Run Unit}
    (comes : ComesTo (groupSteps env auto rolls now) start step ws) :
    (∃ earlier roll later, auto.report = true ∧ rolls = earlier ++ roll :: later ∧
        exec (eachRoll earlier (autoReportRoll env now)) start = (.ok ⟨⟩, ws) ∧
        step = autoReportRoll env now roll) ∨
      ∃ roll, step = autoExpireRoll env roll ∨ step = autoDoneRoll env now roll := by
  have listed : ∀ {condition : Bool} {each : RollType → Run Unit} {middle : WorkSpace},
      ComesTo (if condition then rolls.map each else []) middle step ws →
      condition = true ∧ ∃ earlier roll later, rolls = earlier ++ roll :: later ∧
        step = each roll ∧ exec (inSequence (earlier.map each)) middle = (.ok ⟨⟩, ws) := by
    intro condition each middle comes
    cases condition with
    | false => cases comes.mem
    | true => exact ⟨rfl, comesTo_map.mp comes⟩
  rcases comesTo_append.mp comes with comes | ⟨middle, _, comes⟩
  · rcases comesTo_append.mp comes with comes | ⟨middle, _, comes⟩
    · rcases listed comes with ⟨enabled, earlier, roll, later, split, same, run⟩
      rw [← eachRoll_eq] at run
      exact Or.inl ⟨earlier, roll, later, enabled, split, run, same⟩
    · rcases listed comes with ⟨_, _, roll, _, _, same, _⟩
      exact Or.inr ⟨roll, Or.inl same⟩
  · rcases listed comes with ⟨_, _, roll, _, _, same, _⟩
    exact Or.inr ⟨roll, Or.inr same⟩

section Induction

variable {holds : WorkSpace → Prop} (counts : CallStable holds)
variable (each : ∀ step ws next, RollStep env renewed step ws → holds ws →
  exec step ws = (.ok ⟨⟩, next) → holds next)
variable (before : holds renewed)

include each before

theorem autoStartPhase_induction {begun : WorkSpace}
    (starts : exec (autoStartPhase env) renewed = (.ok ⟨⟩, begun)) : holds begun := by
  rw [autoStartPhase_eq] at starts
  rcases exec_bind_eq_ok.mp starts with ⟨need, asked, needed, phases⟩
  rw [exec_bind_of_ok (exec_get asked), runPhases_eq] at phases
  have unchanged : holds asked := (algorithmRollNeeded_ok needed).1 ▸ before
  refine inSequence_induction ?_ unchanged phases
  intro step state next comes
  exact each step state next (.start needed comes)

omit before

include counts

/-- A group of rolls hands on what its steps hand on. -/
theorem group_induction {begun : WorkSpace}
    (starts : exec (autoStartPhase env) renewed = (.ok ⟨⟩, begun)) (group : Run Unit)
    (start next : WorkSpace)
    (comes : ComesTo ((automatedRolls begun.config).map fun group =>
      autoReportExpireDone env group.1 group.2) begun group start)
    (reached : holds start) (automated : exec group start = (.ok ⟨⟩, next)) : holds next := by
  rcases comesToGroup_iff.mp comes with ⟨auto, rolls, rfl, inGroup⟩
  rw [exec_autoReportExpireDone] at automated
  refine inSequence_induction ?_ (counts start _ reached) automated
  intro step state next comes
  exact each step state next (.automate starts inGroup comes)

include before

/-- What the steps hand on from one to the next holds when the phases have succeeded. -/
theorem rollPhases_induction (run : exec (rollPhases env) renewed = (.ok ⟨⟩, final)) :
    holds final := by
  rcases exec_bind_eq_ok.mp run with ⟨_, begun, starts, automates⟩
  rw [exec_autoReportExpireDonePhase, automateEach_eq] at automates
  exact inSequence_induction (group_induction counts each starts)
    (autoStartPhase_induction each before starts) automates

/-- It also holds wherever the run comes to a step. -/
theorem RollStep.induction {step : Run Unit} (comes : RollStep env renewed step ws) :
    holds ws := by
  cases comes with
  | start needed comes =>
      refine comesTo_induction ?_ ((algorithmRollNeeded_ok needed).1 ▸ before) comes
      intro step state next comes
      exact each step state next (.start needed comes)
  | automate starts inGroup comes =>
      have reached := comesTo_induction (group_induction counts each starts)
        (autoStartPhase_induction each before starts)
        (comesToGroup_iff.mpr ⟨_, _, rfl, inGroup⟩)
      refine comesTo_induction ?_ (counts _ _ reached) comes
      intro step state next comes
      exact each step state next (.automate starts inGroup comes)

end Induction

/-- The phases fail exactly when one of their steps does, or when the algorithm of the
keys cannot be compared with the configured one. -/
theorem rollPhases_completes_iff :
    Completes (rollPhases env) renewed ↔
      Completes algorithmRollNeeded renewed ∧
        ∀ step ws, RollStep env renewed step ws → Completes step ws := by
  rw [rollPhases, autoStartPhase_eq, completes_bind, completes_bind]
  constructor
  · rintro ⟨⟨asks, starts⟩, automates⟩
    refine ⟨asks, fun step ws comes => ?_⟩
    cases comes with
    | @start need asked _ _ needed comes =>
        have phases := starts need asked needed
        rw [completes_bind] at phases
        have begins := phases.2 asked asked (exec_get asked)
        rw [runPhases_eq] at begins
        exact completes_inSequence_iff.mp begins step ws comes
    | @automate begun auto rolls start _ _ started group comes =>
        rw [autoStartPhase_eq] at started
        have groups := automates ⟨⟩ begun started
        rw [Completes] at groups
        rw [exec_autoReportExpireDonePhase, automateEach_eq] at groups
        have automated := completes_inSequence_iff.mp groups _ _
          (comesToGroup_iff.mpr ⟨auto, rolls, rfl, group⟩)
        rw [Completes, exec_autoReportExpireDone] at automated
        exact completes_inSequence_iff.mp automated step ws comes
  · rintro ⟨asks, each⟩
    refine ⟨⟨asks, fun need asked needed => ?_⟩, fun _ begun started => ?_⟩
    · refine completes_bind.mpr ⟨⟨asked, asked, rfl⟩, ?_⟩
      intro known current read
      cases read
      rw [runPhases_eq]
      refine completes_inSequence_iff.mpr fun step ws comes => ?_
      exact each step ws (.start needed comes)
    · rw [← autoStartPhase_eq] at started
      rw [Completes]
      rw [exec_autoReportExpireDonePhase, automateEach_eq]
      refine completes_inSequence_iff.mpr fun group start comes => ?_
      rcases comesToGroup_iff.mp comes with ⟨auto, rolls, rfl, inGroup⟩
      rw [Completes, exec_autoReportExpireDone]
      refine completes_inSequence_iff.mpr fun step ws comes => ?_
      exact each step ws (.automate started inGroup comes)

end Steps

end Dnst.Keyset
