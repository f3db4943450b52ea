import Dnst.Keyset.Reference
import Dnst.Keyset.Runs

/-! # Which roll a step command acts on

The `ksk` and `zsk` subcommands take the roll type from the configuration. That
is the roll in progress as long as the roll type is not changed in mid-roll.
-/

namespace Dnst.Keyset

open Effect

/-! ## Step commands applied to a given roll -/

theorem exec_rollCommand (env : Environment) {command : RollCommands}
    (isStep : command ≠ .startRoll) (variant : RollVariant) (ws : WorkSpace) :
    exec (rollCommand env command variant) ws =
      exec (stepOnRoll env (variant.rollVariantToRoll ws.config) command) ws := by
  unfold rollCommand
  rw [exec_bind_of_ok (exec_get ws)]
  cases command with
  | startRoll => exact absurd rfl isStep
  | propagation1Complete ttl => rfl
  | cacheExpired1 => rfl
  | propagation2Complete ttl => rfl
  | cacheExpired2 => rfl
  | rollDone => rfl

/-! ### The same steps in cron -/

/-- When all checks have reported, cron applies the propagation step of the roll
that it has looked up. -/
theorem autoReport_applies_step (env : Environment) (now : UnixTime) (roll : RollType)
    (select : RollStateReports → ReportState)
    (put : RollStateReports → ReportState → RollStateReports)
    (complete : UnixTime → RollType → Ttl → KeySet →
      Except KeySetError (List Action × KeySet)) {ws middle : WorkSpace} {ttl : Ttl}
    (reported : exec (withReport roll select put fun ws =>
      autoReportActions env ws.state now ws.config.nameservers ws.tsigStore
        (env.keySet.actions roll ws.state.keyset)) ws = (.ok (.report ttl), middle)) :
    exec (autoReport env now roll select put complete) ws =
      exec (rollStep env propagationError fun clock => complete clock roll ttl) middle :=
  exec_bind_of_ok reported

/-- When the caches have expired, cron applies the same step as the command. -/
theorem autoExpire_applies_step (env : Environment) (roll : RollType)
    (message other : String → String)
    (expired : UnixTime → RollType → KeySet → Except KeySetError (List Action × KeySet))
    (ws : WorkSpace) {actions : List Action} {keyset : KeySet}
    (succeeds : expired (env.clock ws.calls) roll ws.state.keyset = .ok (actions, keyset)) :
    exec (autoExpire env roll message expired) ws =
      exec (rollStep env other fun clock => expired clock roll) ws := by
  have clock : exec (perform (wallClock env)) ws =
      (.ok (env.clock ws.calls), { ws with calls := ws.calls + 1 }) := rfl
  unfold autoExpire rollStep onRoll
  rw [exec_bind_of_ok clock, exec_bind_of_ok clock, exec_bind_of_ok (exec_get _), bind_assoc,
    exec_bind_of_ok (exec_get _)]
  simp only [succeeds, bind_assoc, pure_bind]

/-- When nothing is left to wait for, cron ends the roll as the command does. -/
theorem autoDoneRoll_applies_step (env : Environment) (now : UnixTime) (roll : RollType)
    {ws middle : WorkSpace} (done : ws.state.keyset.rollstates roll = some .done)
    (waited : exec (withReport roll RollStateReports.done RollStateReports.setDone fun ws =>
      autoWaitActions env ws.state now ws.config.nameservers ws.tsigStore
        (env.keySet.actions roll ws.state.keyset)) ws = (.ok .ok, middle)) :
    exec (autoDoneRoll env now roll) ws = exec (stepOnRoll env roll .rollDone) middle := by
  unfold autoDoneRoll
  rw [exec_bind_of_ok (exec_get ws)]
  simp only [done]
  exact exec_bind_of_ok waited

/-- Cron's automation of a roll takes the same steps as the commands, once its
checks allow them. -/
structure CronTakesSteps (env : Environment) (roll : RollType) (ws : WorkSpace) : Prop where
  propagation1 : ∀ now ttl middle, ws.state.keyset.rollstates roll = some .propagation1 →
    exec (withReport roll RollStateReports.propagation1 RollStateReports.setPropagation1
      fun ws => autoReportActions env ws.state now ws.config.nameservers ws.tsigStore
        (env.keySet.actions roll ws.state.keyset)) ws = (.ok (.report ttl), middle) →
    exec (autoReportRoll env now roll) ws =
      exec (stepOnRoll env roll (.propagation1Complete ttl)) middle
  cacheExpired1 : ∀ ttl actions keyset,
    ws.state.keyset.rollstates roll = some (.cacheExpire1 ttl) →
    env.keySet.cacheExpired1 (env.clock ws.calls) roll ws.state.keyset =
      .ok (actions, keyset) →
    exec (autoExpireRoll env roll) ws = exec (stepOnRoll env roll .cacheExpired1) ws
  propagation2 : ∀ now ttl middle, ws.state.keyset.rollstates roll = some .propagation2 →
    exec (withReport roll RollStateReports.propagation2 RollStateReports.setPropagation2
      fun ws => autoReportActions env ws.state now ws.config.nameservers ws.tsigStore
        (env.keySet.actions roll ws.state.keyset)) ws = (.ok (.report ttl), middle) →
    exec (autoReportRoll env now roll) ws =
      exec (stepOnRoll env roll (.propagation2Complete ttl)) middle
  cacheExpired2 : ∀ ttl actions keyset,
    ws.state.keyset.rollstates roll = some (.cacheExpire2 ttl) →
    env.keySet.cacheExpired2 (env.clock ws.calls) roll ws.state.keyset =
      .ok (actions, keyset) →
    exec (autoExpireRoll env roll) ws = exec (stepOnRoll env roll .cacheExpired2) ws
  rollDone : ∀ now middle, ws.state.keyset.rollstates roll = some .done →
    exec (withReport roll RollStateReports.done RollStateReports.setDone fun ws =>
      autoWaitActions env ws.state now ws.config.nameservers ws.tsigStore
        (env.keySet.actions roll ws.state.keyset)) ws = (.ok .ok, middle) →
    exec (autoDoneRoll env now roll) ws = exec (stepOnRoll env roll .rollDone) middle

theorem cron_takes_steps (env : Environment) (roll : RollType) (ws : WorkSpace) :
    CronTakesSteps env roll ws := by
  constructor
  · intro now ttl middle state reported
    unfold autoReportRoll
    rw [exec_bind_of_ok (exec_get ws)]
    simp only [state]
    exact autoReport_applies_step env now roll _ _ _ reported
  · intro ttl actions keyset state succeeds
    unfold autoExpireRoll
    rw [exec_bind_of_ok (exec_get ws)]
    simp only [state]
    exact autoExpire_applies_step env roll _ _ _ ws succeeds
  · intro now ttl middle state reported
    unfold autoReportRoll
    rw [exec_bind_of_ok (exec_get ws)]
    simp only [state]
    exact autoReport_applies_step env now roll _ _ _ reported
  · intro ttl actions keyset state succeeds
    unfold autoExpireRoll
    rw [exec_bind_of_ok (exec_get ws)]
    simp only [state]
    exact autoExpire_applies_step env roll _ _ _ ws succeeds
  · intro now middle state waited
    exact autoDoneRoll_applies_step env now roll state waited

/-! ## Rolls in progress -/

/-- Only `start_roll` puts a roll in progress, and only the roll it is given. -/
def RollLaws (platform : Platform) : Prop :=
  ∀ env : Environment, env.toPlatform = platform →
    ∀ started keyset next, KeySetChange env started keyset next →
      ∀ roll, started ≠ some roll → (next.rollstates roll).isSome →
        (keyset.rollstates roll).isSome

/-- `start_roll` puts the roll it is given in progress, `roll_done` ends the roll it is
given, and nothing else changes which rolls are in progress. -/
structure RollStateLaws (platform : Platform) : Prop where
  starts : ∀ now roll old new keyset actions next,
    platform.keySet.startRoll now roll old new keyset = .ok (actions, next) →
    ∀ other, (next.rollstates other).isSome =
      (other == roll || (keyset.rollstates other).isSome)
  ends : ∀ now roll keyset actions next,
    platform.keySet.rollDone now roll keyset = .ok (actions, next) →
    ∀ other, (next.rollstates other).isSome =
      (other != roll && (keyset.rollstates other).isSome)
  plain : ∀ env : Environment, env.toPlatform = platform →
    ∀ keyset next, PlainChange env keyset next →
      ∀ other, (next.rollstates other).isSome = (keyset.rollstates other).isSome

theorem RollStateLaws.rollLaws {platform : Platform} (laws : RollStateLaws platform) :
    RollLaws platform := by
  rintro env rfl started keyset next change roll other running
  cases change with
  | plain change =>
      rw [laws.plain env rfl keyset next change roll] at running
      exact running
  | startRoll result =>
      rw [laws.starts _ _ _ _ _ _ _ result roll] at running
      rcases Bool.or_eq_true_iff.mp running with same | before
      · exact absurd (congrArg some (beq_iff_eq.mp same).symm) other
      · exact before
  | rollDone result =>
      rw [laws.ends _ _ _ _ _ result roll] at running
      exact (Bool.and_eq_true_iff.mp running).2

/-- The rolls in progress are of the configured types. -/
structure RollTypesMatch (config : KeySetConfig) (state : KeySetState) : Prop where
  ksk : ∀ roll, roll ∈ kskRolls → (state.keyset.rollstates roll).isSome →
    config.kskRollType.roll = roll
  zsk : ∀ roll, roll ∈ zskRolls → (state.keyset.rollstates roll).isSome →
    config.zskRollType.roll = roll

/-- The roll type of a class is not changed while a roll of the class is in
progress. -/
structure RollTypesStay (_env : Environment) (command : Commands) (system : System) :
    Prop where
  ksk : ∀ value, command = .set (.kskRollType value) → ∀ roll, roll ∈ kskRolls →
    (system.state.keyset.rollstates roll).isSome → value.roll = roll
  zsk : ∀ value, command = .set (.zskRollType value) → ∀ roll, roll ∈ zskRolls →
    (system.state.keyset.rollstates roll).isSome → value.roll = roll

theorem kskRoll_ne_zskRoll {config : KeySetConfig} {roll : RollType}
    (member : roll ∈ kskRolls) : roll ≠ config.zskRollType.roll := by
  rintro rfl
  cases type : config.zskRollType <;> simp [kskRolls, type, ZskRollType.roll] at member

theorem zskRoll_ne_kskRoll {config : KeySetConfig} {roll : RollType}
    (member : roll ∈ zskRolls) : roll ≠ config.kskRollType.roll := by
  rintro rfl
  cases type : config.kskRollType <;> simp [zskRolls, type, KskRollType.roll] at member

/-- A KSK-type roll is started with the configured type. -/
theorem startable_ksk {config : KeySetConfig} {roll : RollType}
    (startable : startable config roll) (member : roll ∈ kskRolls) :
    config.kskRollType.roll = roll := by
  rcases startable with ksk | zsk | csk | algorithm
  · exact ksk.symm
  · exact absurd zsk (kskRoll_ne_zskRoll member)
  · simp [kskRolls, csk] at member
  · simp [kskRolls, algorithm] at member

theorem startable_zsk {config : KeySetConfig} {roll : RollType}
    (startable : startable config roll) (member : roll ∈ zskRolls) :
    config.zskRollType.roll = roll := by
  rcases startable with ksk | zsk | csk | algorithm
  · exact absurd ksk (zskRoll_ne_kskRoll member)
  · exact zsk.symm
  · simp [zskRolls, csk] at member
  · simp [zskRolls, algorithm] at member

theorem rollTypesMatch_lasting {platform : Platform} (laws : RollLaws platform)
    (env : Environment) (same : env.toPlatform = platform) : Lasting env RollTypesMatch := by
  refine ⟨?_, ?_, fun _ _ holds => ⟨holds.ksk, holds.zsk⟩⟩
  · intro ws next holds change
    cases change with
    | keySet changes =>
        have others := laws env same none _ _ changes
        exact ⟨fun roll member running => holds.ksk roll member (others roll nofun running),
          fun roll member running => holds.zsk roll member (others roll nofun running)⟩
    | _ => exact ⟨holds.ksk, holds.zsk⟩
  · intro config state started keyset holds startable changes
    have others := laws env same (some started) _ _ changes
    refine ⟨fun roll member running => ?_, fun roll member running => ?_⟩
    · by_cases begins : some started = some roll
      · cases begins
        exact startable_ksk startable member
      · exact holds.ksk roll member (others roll begins running)
    · by_cases begins : some started = some roll
      · cases begins
        exact startable_zsk startable member
      · exact holds.zsk roll member (others roll begins running)

/-- The roll types after a set command. -/
theorem apply_rollTypes (env : Environment) (ws : WorkSpace) (subcommand : SetCommands) :
    Yields (fun config =>
        (config.kskRollType = ws.config.kskRollType ∨
          subcommand = .kskRollType config.kskRollType) ∧
        (config.zskRollType = ws.config.zskRollType ∨
          subcommand = .zskRollType config.zskRollType))
      (subcommand.apply env ws) := by
  cases subcommand with
  | kskRollType value => exact yields_pure ⟨Or.inr rfl, Or.inl rfl⟩
  | zskRollType value => exact yields_pure ⟨Or.inl rfl, Or.inr rfl⟩
  | algorithm name bits => exact yields_next fun _ => yields_pure ⟨Or.inl rfl, Or.inl rfl⟩
  | publicationNameservers addrs =>
      exact yields_next fun _ => yields_next fun _ => yields_pure ⟨Or.inl rfl, Or.inl rfl⟩
  | _ => exact yields_pure ⟨Or.inl rfl, Or.inl rfl⟩

theorem rollTypesStay_keeps (env : Environment) (command : Commands) (system : System)
    (stay : RollTypesStay env command system) :
    SetKeeps RollTypesMatch env command system := by
  rintro subcommand rfl ws calls config final sameConfig applied state sameKeyset holds
  rcases (apply_rollTypes env ws subcommand).ok applied with ⟨ksk, zsk⟩
  refine ⟨fun roll member running => ?_, fun roll member running => ?_⟩
  · rcases ksk with unchanged | changed
    · rw [unchanged]
      exact holds.ksk roll member running
    · exact stay.ksk _ (congrArg Commands.set changed) roll member (sameKeyset ▸ running)
  · rcases zsk with unchanged | changed
    · rw [unchanged]
      exact holds.zsk roll member running
    · exact stay.zsk _ (congrArg Commands.set changed) roll member (sameKeyset ▸ running)

/-! ## Step commands act on the roll in progress -/

/-- The roll types of a class, as cron looks them up. -/
def RollVariant.rolls : RollVariant → List RollType
  | .ksk => kskRolls
  | .zsk => zskRolls
  | .csk => [.cskRoll]
  | .algorithm => [.algorithmRoll]

/-- In a run that leaves the roll types alone in mid-roll, every step command is
applied to the roll of its class that is in progress, as cron would apply it. -/
theorem step_commands_act_on_roll {platform : Platform} (laws : RollLaws platform)
    {system : System} (reachable : ReachableIf platform RollTypesStay system)
    (variant : RollVariant) {roll : RollType} (inClass : roll ∈ variant.rolls)
    (inProgress : (system.state.keyset.rollstates roll).isSome) (env : Environment)
    {command : RollCommands} (isStep : command ≠ .startRoll) :
    variant.rollVariantToRoll system.config = roll ∧
      exec (rollCommand env command variant) system.load =
        exec (stepOnRoll env roll command) system.load ∧
      CronTakesSteps env roll system.load := by
  have matching : RollTypesMatch system.config system.state :=
    reachable.files (rollTypesMatch_lasting laws)
      (fun _ _ _ => ⟨fun _ _ running => (by cases running),
        fun _ _ running => (by cases running)⟩)
      rollTypesStay_keeps
  have denotes : variant.rollVariantToRoll system.config = roll := by
    cases variant with
    | ksk => exact matching.ksk roll inClass inProgress
    | zsk => exact matching.zsk roll inClass inProgress
    | csk => exact (List.mem_singleton.mp inClass).symm
    | algorithm => exact (List.mem_singleton.mp inClass).symm
  refine ⟨denotes, ?_, cron_takes_steps env roll system.load⟩
  rw [exec_rollCommand env isStep]
  exact congrArg (fun roll => exec (stepOnRoll env roll command) system.load) denotes

/-! ## The worked platform -/

namespace Reference

theorem rollstates_insertKey {pubref : String} {key : Key} {keyset next : KeySet}
    (inserted : insertKey pubref key keyset = .ok next) :
    next.rollstates = keyset.rollstates := by
  unfold insertKey at inserted
  split at inserted
  · cases inserted
  · split at inserted <;> cases inserted
    rfl

theorem rollstates_changeKey {pubref : String} {change : Key → Key} {keyset next : KeySet}
    (changed : changeKey pubref change keyset = .ok next) :
    next.rollstates = keyset.rollstates := by
  unfold changeKey at changed
  split at changed <;> cases changed
  rfl

theorem rollstates_deleteKey {pubref : String} {keyset next : KeySet}
    (deleted : deleteKey pubref keyset = .ok next) :
    next.rollstates = keyset.rollstates := by
  unfold deleteKey at deleted
  split at deleted
  · cases deleted
  · split at deleted <;> cases deleted
    rfl

theorem isSome_setRoll {roll other : RollType} {state : RollState} {keyset : KeySet} :
    ((setRoll roll (some state) keyset).rollstates other).isSome =
      (other == roll || (keyset.rollstates other).isSome) := by
  by_cases same : other = roll
  · simp [setRoll, same]
  · simp [setRoll, same]

/-- A step gives a new state to a roll in progress. -/
theorem isSome_step {roll other : RollType} {before after : RollState} {keyset : KeySet}
    (state : keyset.rollstates roll = some before) (change : Key → Key) :
    ((setRoll roll (some after) (mapKeys change keyset)).rollstates other).isSome =
      (keyset.rollstates other).isSome := by
  rw [isSome_setRoll]
  by_cases same : other = roll
  · simp [same, state]
  · simp [same, mapKeys]

/-- However rolls are started, the other operations leave the rolls in progress alone. -/
theorem plain_rollstates {env : Environment}
    {start : UnixTime → RollType → List String → List String → KeySet →
      Except KeySetError (List Action × KeySet)}
    (ops : env.keySet = { keySet with startRoll := start }) {keyset next : KeySet}
    (change : PlainChange env keyset next) (other : RollType) :
    (next.rollstates other).isSome = (keyset.rollstates other).isSome := by
  cases change with
  | addKey origin result =>
      rw [ops] at result
      rw [rollstates_insertKey result]
  | addPublicKey origin result =>
      rw [ops] at result
      rw [rollstates_insertKey result]
  | deleteKey result =>
      rw [ops] at result
      rw [rollstates_deleteKey result]
  | propagation1Complete result =>
      rw [ops] at result
      simp only [keySet, propagation1Complete] at result
      split at result
      · next state =>
          cases result
          exact isSome_step state _
      · cases result
  | propagation2Complete result =>
      rw [ops] at result
      simp only [keySet, propagation2Complete] at result
      split at result
      · next state =>
          cases result
          exact isSome_step state _
      · cases result
  | cacheExpired1 result =>
      rw [ops] at result
      simp only [keySet, cacheExpired1] at result
      split at result
      · next state =>
          split at result <;> cases result
          exact isSome_step state _
      · cases result
  | cacheExpired2 result =>
      rw [ops] at result
      simp only [keySet, cacheExpired2] at result
      split at result
      · next state =>
          split at result <;> cases result
          exact isSome_step state _
      · cases result
  | _ result =>
      rw [ops] at result
      simp only [keySet] at result
      rw [rollstates_changeKey result]

theorem ends_rollstates {now : UnixTime} {roll : RollType} {keyset next : KeySet}
    {actions : List Action} (result : rollDone now roll keyset = .ok (actions, next))
    (other : RollType) :
    (next.rollstates other).isSome = (other != roll && (keyset.rollstates other).isSome) := by
  unfold rollDone at result
  split at result <;> cases result
  by_cases same : other = roll
  · simp [setRoll, same]
  · simp [setRoll, same]

theorem rollStateLaws : RollStateLaws platform where
  starts := by
    intro now roll old new keyset actions next result other
    simp only [platform, keySet, startRoll] at result
    split at result
    · cases result
    · split at result <;> cases result
      exact isSome_setRoll
  ends := by
    intro now roll keyset actions next result other
    exact @ends_rollstates now _ _ _ _ result other
  plain := by
    intro env same keyset next change
    exact @plain_rollstates env startRoll (congrArg Platform.keySet same) _ _ change

end Reference

theorem rollTypesStay_of_notSet {env : Environment} {command : Commands} {system : System}
    (notSet : ∀ change, command ≠ .set change) : RollTypesStay env command system :=
  ⟨fun _ isSet => absurd isSet (notSet _), fun _ isSet => absurd isSet (notSet _)⟩

namespace Reference

/-- A KSK roll of the first type has begun. -/
def kskRollBegun : System := runAll [day 4 (.roll .ksk .startRoll)] (initialised true)

theorem kskRollBegun_reachable : ReachableIf platform RollTypesStay kskRollBegun := by
  have stays : ∀ {env : Environment} {command : Commands} {system : System},
      (∀ change, command ≠ .set change) → RollTypesStay env command system :=
    rollTypesStay_of_notSet
  have initialised : ReachableIf platform RollTypesStay (initialised true) := by
    apply ReachableIf.runAll (.create _ _ _ _ _)
    exact ⟨⟨rfl, stays nofun⟩, ⟨rfl, stays nofun⟩, ⟨rfl, stays nofun⟩, trivial⟩
  exact initialised.runAll ⟨⟨rfl, stays nofun⟩, trivial⟩

/-- The KSK roll type is then changed. -/
def kskRollTypeChanged : System :=
  runAll [day 5 (.set (.kskRollType .doubleDsKskRoll))] kskRollBegun

end Reference

theorem step_command_acts_on_begun_kskRoll :
    RollVariant.rollVariantToRoll Reference.kskRollBegun.config .ksk = .kskRoll ∧
      exec (rollCommand (Reference.environment 5 (fromSecs 2000000))
          (.propagation1Complete 3600) .ksk) Reference.kskRollBegun.load =
        exec (stepOnRoll (Reference.environment 5 (fromSecs 2000000)) .kskRoll
          (.propagation1Complete 3600)) Reference.kskRollBegun.load ∧
      CronTakesSteps (Reference.environment 5 (fromSecs 2000000)) .kskRoll
        Reference.kskRollBegun.load :=
  step_commands_act_on_roll Reference.rollStateLaws.rollLaws Reference.kskRollBegun_reachable
    .ksk
    (by decide) (by decide +kernel) _ (by decide)

/-- After a change of the KSK roll type in mid-roll the step command fails: it is
applied to the other roll, while the same step of the roll in progress works. -/
theorem step_command_misses_begun_kskRoll :
    Reachable Reference.platform Reference.kskRollTypeChanged ∧
      Reference.kskRollTypeChanged.state.keyset.rollstates .kskRoll = some .propagation1 ∧
      errorMessage (exec (rollCommand (Reference.environment 6 (fromSecs 2000000))
          (.propagation1Complete 3600) .ksk) Reference.kskRollTypeChanged.load).1 =
        some "Error reporting propagation complete: wrong state for roll operation\n" ∧
      (exec (stepOnRoll (Reference.environment 6 (fromSecs 2000000)) .kskRoll
          (.propagation1Complete 3600)) Reference.kskRollTypeChanged.load).1.isOk := by
  have reachable : Reachable Reference.platform Reference.kskRollTypeChanged :=
    (Reference.kskRollBegun_reachable.mono fun _ _ _ _ => trivial).runAll
      ⟨⟨rfl, trivial⟩, trivial⟩
  exact ⟨reachable, by decide +kernel, by decide +kernel, by decide +kernel⟩

end Dnst.Keyset
