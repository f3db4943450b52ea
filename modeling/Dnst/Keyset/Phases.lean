import Dnst.Keyset.Changes

/-! # Subcommands made of phases

What the roll subcommands, the phases of cron and the computation of the next run
keep, from what their parts keep.
-/

namespace Dnst.Keyset

open Effect

/-! ## The next cron run -/

section CronNext

variable {env : Environment} {invariant : WorkSpace → Prop}
variable {failed : Fault → WorkSpace → Prop} (tolerant : Tolerant invariant failed)

/-- Every roll in progress has an entry, or its absence is put up with. -/
def EntriesFound (invariant : WorkSpace → Prop) (failed : Fault → WorkSpace → Prop)
    (kss : KeySetState) : Prop :=
  ∀ roll fault ws, (kss.keyset.rollstates roll).isSome → kss.internal roll = none →
    invariant ws → failed fault ws

theorem cronNextReport_keeps {kss : KeySetState} (entries : EntriesFound invariant failed kss)
    (now : UnixTime) (roll : RollType) :
    Keeps invariant failed (cronNextReport env.toPlatform kss now roll) := by
  unfold cronNextReport
  split
  · exact keeps_pure _
  next state inProgress =>
    split
    next missing =>
      exact keeps_throw fun ws holds =>
        entries roll _ ws (by rw [inProgress]; rfl) missing holds
    · split <;> exact keeps_pure _

theorem cronNextDone_keeps {kss : KeySetState} (entries : EntriesFound invariant failed kss)
    (now : UnixTime) (roll : RollType) :
    Keeps invariant failed (cronNextDone env.toPlatform kss now roll) := by
  unfold cronNextDone
  split
  next inProgress =>
    split
    next missing =>
      exact keeps_throw fun ws holds =>
        entries roll _ ws (by rw [inProgress]; rfl) missing holds
    · exact keeps_pure _
  · exact keeps_pure _

theorem entriesOfRolls_keeps {entries : RollType → Run (List (Option UnixTime))}
    (each : ∀ roll, Keeps invariant failed (entries roll)) (rolls : List RollType) :
    Keeps invariant failed (entriesOfRolls entries rolls) := by
  induction rolls with
  | nil => exact keeps_pure _
  | cons roll rolls induction =>
      exact keeps_bind (each roll) fun _ => keeps_bind induction fun _ => keeps_pure _

theorem entriesIf_keeps {condition : Bool} {entries : Run (List (Option UnixTime))}
    (keeps : Keeps invariant failed entries) :
    Keeps invariant failed (entriesIf condition entries) :=
  keeps_ite (fun _ => keeps) fun _ => keeps_pure _

include tolerant

theorem cronNextExpires_keeps (now : UnixTime) (rolls : List RollType) (keyset : KeySet) :
    Keeps invariant failed (cronNextExpires env now rolls keyset) := by
  induction rolls generalizing keyset with
  | nil => exact keeps_pure _
  | cons roll rolls induction =>
      refine keeps_bind (perform_keeps tolerant (wallClock_ordinary env)) fun clock => ?_
      refine keeps_bind ?_ fun result => ?_
      · unfold cronNextExpire
        dsimp only
        split <;> try split
        all_goals first | exact keeps_pure _ | exact bail_keeps tolerant _
      · exact keeps_bind (induction result.2) fun _ => keeps_pure _

theorem cronNextAutoReportExpireDone_keeps {kss : KeySetState}
    (entries : EntriesFound invariant failed kss) (auto : AutoConfig)
    (rollList : List RollType) :
    Keeps invariant failed (cronNextAutoReportExpireDone env kss auto rollList) := by
  refine keeps_bind keeps_get fun ws => ?_
  refine keeps_bind (perform_keeps tolerant (faketimeOrNow_ordinary env _)) fun now => ?_
  refine keeps_bind (entriesIf_keeps (entriesOfRolls_keeps
    (cronNextReport_keeps entries now) _)) fun reports => ?_
  refine keeps_bind (entriesIf_keeps (cronNextExpires_keeps tolerant now _ _))
    fun expires => ?_
  exact keeps_bind (entriesIf_keeps (entriesOfRolls_keeps
    (cronNextDone_keeps entries now) _)) fun dones => keeps_pure _

theorem removalTimes_keeps (delay : Duration) (keys : List (String × Key)) :
    Keeps invariant failed (removalTimes delay keys : Run _) := by
  induction keys with
  | nil => exact keeps_pure _
  | cons entry keys induction =>
      unfold removalTimes
      refine keeps_ite (fun _ => ?_) fun _ => induction
      split
      · exact keeps_throw fun ws holds =>
          tolerant.fails _ ws (ordinary_panic (by decide) (by decide)) holds
      · exact keeps_bind induction fun _ => keeps_pure _

theorem cronNextEntries_keeps
    (entries : ∀ ws, invariant ws → EntriesFound invariant failed ws.state) (now : UnixTime) :
    Keeps invariant failed (cronNextEntries env now) := by
  refine triple_bind_get fun ws holds => ?_
  have automatic := @cronNextAutoReportExpireDone_keeps env invariant failed tolerant ws.state
    (entries ws holds)
  exact keeps_bind (algorithmRollNeeded_keeps tolerant) fun _ =>
    keeps_bind (automatic _ _) fun _ =>
      keeps_bind (automatic _ _) fun _ =>
        keeps_bind (automatic _ _) fun _ =>
          keeps_bind (automatic _ _) fun _ =>
            keeps_bind (entriesIf_keeps (removalTimes_keeps tolerant _ _)) fun _ =>
              keeps_pure _

omit tolerant in
theorem updateCronNext_keeps (editing : Editing env invariant failed) (now : UnixTime) :
    Keeps invariant failed (updateCronNext env now) := by
  have entries : ∀ ws, invariant ws → EntriesFound invariant failed ws.state :=
    fun ws holds roll fault other inProgress missing after =>
      editing.entry ws roll fault other holds inProgress missing after
  refine keeps_bind (cronNextEntries_keeps editing.toTolerant entries now) fun entries => ?_
  refine keeps_bind keeps_get fun ws => ?_
  refine keeps_ite (fun _ => keeps_pure _) fun _ => ?_
  refine keeps_bind ?_ fun _ => markStateChanged_keeps editing
  exact keeps_modify fun ws holds => editing.cronNext ws _ holds

end CronNext

/-! ## Parts of the roll subcommands and of cron -/

/-- What the roll subcommands and the phases of cron that renew and start are made of. -/
structure Openings (env : Environment) (invariant : WorkSpace → Prop)
    (failed : Fault → WorkSpace → Prop) : Prop where
  counts : CallStable invariant
  renewDnskey : Keeps invariant failed (do updateDnskeyRrset env; markStateChanged)
  renewCds : Keeps invariant failed (do createCdsRrset env; markStateChanged)
  needed : Keeps invariant failed algorithmRollNeeded
  start : ∀ variant, Keeps invariant failed (do
    let _ ← RollVariant.start env variant
    markStateChanged)
  step : ∀ roll command, Keeps invariant failed (stepOnRoll env roll command)

/-- What the roll subcommands and cron are made of, up to the removal of keys. -/
structure Phases (env : Environment) (invariant : WorkSpace → Prop)
    (failed : Fault → WorkSpace → Prop) : Prop extends Openings env invariant failed where
  report : ∀ now roll, Keeps invariant failed (autoReportRoll env now roll)
  expire : ∀ roll, Keeps invariant failed (autoExpireRoll env roll)
  done : ∀ now roll, Keeps invariant failed (autoDoneRoll env now roll)

section Phases

variable {env : Environment} {invariant : WorkSpace → Prop}
variable {failed : Fault → WorkSpace → Prop}

/-- Reading the clock cannot fail. -/
theorem faketimeOrNow_keeps (counts : CallStable invariant) (config : KeySetConfig) :
    Keeps invariant failed (perform (faketimeOrNow env config)) := by
  refine keeps_of_runs ?_ ?_
  · exact fun ws value final holds run => (perform_counts counts _).ok holds run
  · intro ws fault final holds run
    rw [exec_perform] at run
    cases run

/-- A phase that may start a roll, from what the start establishes. -/
theorem autoStart_triple {after : WorkSpace → Prop} (counts : CallStable invariant)
    (idle : ∀ ws, invariant ws → after ws) (validity : Option Duration) (auto : AutoConfig)
    (conflictingRoll : RollType → Bool) (matchKeytype : KeyType → Option KeyState)
    {start : Run (List Action)}
    (starts : Triple invariant (do let _ ← start; markStateChanged) (fun _ => after) failed) :
    Triple invariant (autoStart env validity auto conflictingRoll matchKeytype start)
      (fun _ => after) failed := by
  refine triple_bind keeps_get fun ws => ?_
  refine triple_bind (faketimeOrNow_keeps counts _) fun now => ?_
  cases validity with
  | none => exact triple_pure idle
  | some validity =>
      refine triple_ite (fun _ => ?_) fun _ => triple_pure idle
      split
      · exact triple_pure idle
      · exact triple_ite (fun _ => starts) fun _ => triple_pure idle

section Openings

variable (openings : Openings env invariant failed)

include openings

theorem rollCommand_keeps (command : RollCommands) (variant : RollVariant) :
    Keeps invariant failed (rollCommand env command variant) := by
  refine keeps_bind keeps_get fun ws => ?_
  cases command with
  | startRoll => exact openings.start variant
  | propagation1Complete ttl => exact openings.step _ (.propagation1Complete ttl)
  | cacheExpired1 => exact openings.step _ .cacheExpired1
  | propagation2Complete ttl => exact openings.step _ (.propagation2Complete ttl)
  | cacheExpired2 => exact openings.step _ .cacheExpired2
  | rollDone => exact openings.step _ .rollDone

theorem autoStartPhase_keeps : Keeps invariant failed (autoStartPhase env) := by
  refine keeps_bind openings.needed fun need => ?_
  refine keeps_bind keeps_get fun ws => ?_
  have full : Keeps invariant failed (do let _ ← startFull env need; markStateChanged) := by
    cases need with
    | true => exact openings.start .algorithm
    | false => exact openings.start .csk
  have started := @autoStart_triple env invariant failed invariant openings.counts
    fun _ holds => holds
  have csk := started ws.config.cskValidity (autoFull ws.config need) anyRoll matchCsk full
  refine keeps_ite (fun _ => ?_) fun _ => ?_
  · exact keeps_bind (started _ _ _ _ full) fun _ =>
      keeps_bind (started _ _ _ _ full) fun _ => csk
  · exact keeps_bind (started _ _ _ _ (openings.start .ksk)) fun _ =>
      keeps_bind (started _ _ _ _ (openings.start .zsk)) fun _ => csk

theorem renewPhase_keeps (now : UnixTime) : Keeps invariant failed (renewPhase env now) := by
  refine keeps_bind keeps_get fun ws => ?_
  refine keeps_bind (onlyIf_keeps openings.renewDnskey) fun _ => ?_
  refine keeps_bind keeps_get fun ws => ?_
  exact onlyIf_keeps openings.renewCds

end Openings

variable (phases : Phases env invariant failed)

include phases

theorem autoReportExpireDone_keeps (auto : AutoConfig) (rollList : List RollType) :
    Keeps invariant failed (autoReportExpireDone env auto rollList) := by
  refine keeps_bind keeps_get fun ws => ?_
  refine keeps_bind (faketimeOrNow_keeps phases.counts _) fun now => ?_
  refine keeps_bind (onlyIf_keeps (eachRoll_keeps (phases.report now) _)) fun _ => ?_
  refine keeps_bind (onlyIf_keeps (eachRoll_keeps phases.expire _)) fun _ => ?_
  exact onlyIf_keeps (eachRoll_keeps (phases.done now) _)

theorem autoReportExpireDonePhase_keeps :
    Keeps invariant failed (autoReportExpireDonePhase env) :=
  keeps_bind keeps_get fun _ =>
    keeps_bind (autoReportExpireDone_keeps phases _ _) fun _ =>
      keeps_bind (autoReportExpireDone_keeps phases _ _) fun _ =>
        keeps_bind (autoReportExpireDone_keeps phases _ _) fun _ =>
          autoReportExpireDone_keeps phases _ _

/-- The phases of cron up to the removal of keys. -/
theorem phases_keeps (now : UnixTime) :
    Keeps invariant failed (do
      renewPhase env now
      autoStartPhase env
      autoReportExpireDonePhase env) :=
  keeps_bind (renewPhase_keeps phases.toOpenings now) fun _ =>
    keeps_bind (autoStartPhase_keeps phases.toOpenings) fun _ =>
      autoReportExpireDonePhase_keeps phases

theorem cron_keeps (now : UnixTime) (autoremove : Keeps invariant failed (autoremovePhase env)) :
    Keeps invariant failed (cron env now) := by
  have whole := keeps_bind (phases_keeps phases now) fun _ => autoremove
  unfold cron
  simpa only [bind_assoc] using whole

end Phases

/-! ## Phases made of steps -/

section Acting

variable {env : Environment} {invariant after : WorkSpace → Prop}
variable {failed : Fault → WorkSpace → Prop}
variable (editing : Editing env invariant failed) (acting : Acting env invariant after failed)

include editing acting

/-- When all checks of a propagation step have reported, the step is taken. -/
theorem autoReport_triple (now : UnixTime) (roll : RollType)
    (select : RollStateReports → ReportState)
    (put : RollStateReports → ReportState → RollStateReports) {ws : WorkSpace}
    {complete : UnixTime → RollType → Ttl → KeySet →
      Except KeySetError (List Action × KeySet)}
    (holds : invariant ws) (inProgress : (ws.state.keyset.rollstates roll).isSome)
    (records : ∀ before, ws.state.internal roll = some before →
      invariant (ws.withEntry roll (put before
        (exec (autoReportActions env ws.state now ws.config.nameservers ws.tsigStore
          (env.keySet.actions roll ws.state.keyset))
          ⟨select before, ws.stateChanged, ws.calls⟩).2.report)))
    (changes : ∀ clock ttl keyset actions next,
      complete clock roll ttl keyset = .ok (actions, next) → StepChange env roll actions keyset next) :
    Triple (fun state => state = ws) (autoReport env now roll select put complete)
      (fun _ => after) failed := by
  refine triple_bind (withReport_triple editing roll select put holds inProgress
    (fun stable => autoReportActions_checks stable env _ _ _ _ _) records) fun result => ?_
  cases result with
  | wait waitUntil notice => exact triple_pure acting.idle
  | report ttl =>
      exact rollStep_triple acting propagationError roll fun clock _ _ _ => changes clock ttl _ _ _

theorem autoReportRoll_triple {now : UnixTime} {roll : RollType} {ws : WorkSpace}
    (holds : invariant ws) (recording : RecordingAt env invariant now roll ws) :
    Triple (fun state => state = ws) (autoReportRoll env now roll) (fun _ => after)
      failed := by
  refine triple_read ?_
  rintro ws rfl
  cases state : ws.state.keyset.rollstates roll with
  | none =>
      refine triple_pure ?_
      rintro _ rfl
      exact acting.idle _ holds
  | some rollState =>
      have inProgress : (ws.state.keyset.rollstates roll).isSome := by rw [state]; rfl
      have present : Triple (fun state => state = ws)
          (if (ws.state.internal roll).isSome then return () else panic noEntry : Run Unit)
          (fun _ => after) failed := by
        refine triple_ite (fun _ => triple_pure ?_) fun missing => triple_throw ?_
        · rintro _ rfl
          exact acting.idle _ holds
        · rintro _ rfl
          exact editing.entry _ roll _ _ holds inProgress (by simpa using missing) holds
      cases rollState with
      | propagation1 =>
          exact autoReport_triple editing acting now roll _ _ holds inProgress
            (fun before entry => recording before _ entry (.propagation1 state))
            fun _ _ _ _ _ => .propagation1Complete
      | cacheExpire1 ttl => exact present
      | propagation2 =>
          exact autoReport_triple editing acting now roll _ _ holds inProgress
            (fun before entry => recording before _ entry (.propagation2 state))
            fun _ _ _ _ _ => .propagation2Complete
      | cacheExpire2 ttl => exact present
      | done => exact present

theorem autoReportRoll_after (recording : Recording env invariant) (now : UnixTime)
    (roll : RollType) :
    Triple invariant (autoReportRoll env now roll) (fun _ => after) failed :=
  triple_pointwise fun ws holds =>
    autoReportRoll_triple editing acting holds (recording now roll ws holds)

omit editing in
theorem autoExpire_triple (roll : RollType) (message : String → String)
    {expired : UnixTime → RollType → KeySet → Except KeySetError (List Action × KeySet)}
    (changes : ∀ clock keyset actions next,
      expired clock roll keyset = .ok (actions, next) → StepChange env roll actions keyset next) :
    Triple invariant (autoExpire env roll message expired) (fun _ => after) failed := by
  refine triple_bind (perform_keeps acting.toTolerant (wallClock_ordinary env)) fun clock => ?_
  refine triple_read fun ws holds => ?_
  rcases outcome : expired clock roll ws.state.keyset with ⟨_ | reason⟩ | ⟨actions, keyset⟩
  · refine triple_pure ?_
    rintro _ rfl
    exact acting.idle _ holds
  · refine triple_throw ?_
    rintro _ rfl
    exact acting.fails _ _ (ordinary_error _) holds
  · exact acting.act roll actions keyset ws holds (changes clock _ _ _ outcome)

omit editing in
theorem autoExpireRoll_triple (roll : RollType) :
    Triple invariant (autoExpireRoll env roll) (fun _ => after) failed := by
  refine triple_bind keeps_get fun ws => ?_
  split
  · exact autoExpire_triple acting roll _ fun _ _ _ _ => .cacheExpired1
  · exact autoExpire_triple acting roll _ fun _ _ _ _ => .cacheExpired2
  · exact triple_pure acting.idle

theorem autoDoneRoll_triple {now : UnixTime} {roll : RollType} {ws : WorkSpace}
    (holds : invariant ws)
    (recording : ws.state.keyset.rollstates roll = some .done →
      RecordingAt env invariant now roll ws) :
    Triple (fun state => state = ws) (autoDoneRoll env now roll) (fun _ => after)
      failed := by
  refine triple_read ?_
  rintro ws rfl
  split
  next state =>
    refine triple_bind (withReport_triple editing roll _ _ holds
      (by rw [state]; rfl) (fun stable => autoWaitActions_checks stable env _ _ _ _ _)
      fun before entry => recording state before _ entry (.done state)) fun result => ?_
    cases result with
    | ok => exact acting.done roll
    | wait waitUntil => exact triple_pure acting.idle
  · refine triple_pure ?_
    rintro _ rfl
    exact acting.idle _ holds

theorem autoDoneRoll_after (recording : Recording env invariant) (now : UnixTime)
    (roll : RollType) : Triple invariant (autoDoneRoll env now roll) (fun _ => after) failed :=
  triple_pointwise fun ws holds =>
    autoDoneRoll_triple editing acting holds fun _ => recording now roll ws holds

end Acting

section Stepping

variable {env : Environment} {invariant : WorkSpace → Prop}
variable {failed : Fault → WorkSpace → Prop}
variable (stepping : Stepping env invariant failed)

include stepping

theorem Stepping.openings
    (start : ∀ variant, Keeps invariant failed (do
      let _ ← RollVariant.start env variant
      markStateChanged)) :
    Openings env invariant failed where
  counts := stepping.calls
  renewDnskey := keeps_bind (updateDnskeyRrset_keeps stepping.toSigning) fun _ =>
    markStateChanged_keeps stepping.toEditing
  renewCds := keeps_bind (createCdsRrset_keeps stepping.toSigning) fun _ =>
    markStateChanged_keeps stepping.toEditing
  needed := algorithmRollNeeded_keeps stepping.toTolerant
  start := start
  step := stepOnRoll_triple stepping.acting

/-- The results of checks come on top of what the other phases need. -/
theorem Stepping.phases (recording : Recording env invariant)
    (openings : Openings env invariant failed) : Phases env invariant failed where
  toOpenings := openings
  report := autoReportRoll_after stepping.toEditing stepping.acting recording
  expire := autoExpireRoll_triple stepping.acting
  done := autoDoneRoll_after stepping.toEditing stepping.acting recording

end Stepping

/-- Once the state has changed nothing but a KMIP subcommand takes that back. -/
theorem stateChanged_stable {env : Environment} :
    Stable env fun ws => ws.stateChanged = true := by
  intro ws next changed change
  cases change <;> first | exact changed | rfl

/-- Renewing signatures changes the state. -/
theorem renewPhase_changes {env : Environment} {now : UnixTime} {ws final : WorkSpace}
    (due : sigRenew ws.state.dnskeyRrset ws.config.dnskeyRemainTime now = true ∨
      sigRenew ws.state.cdsRrset ws.config.cdsRemainTime now = true)
    (run : exec (renewPhase env now) ws = (.ok ⟨⟩, final)) : final.stateChanged = true := by
  rw [renewPhase, exec_bind_of_ok (exec_get ws)] at run
  rcases exec_bind_eq_ok.mp run with ⟨value, middle, dnskey, cds⟩
  rw [exec_bind_of_ok (exec_get middle)] at cds
  have raised : ∀ {due : Bool} {renew : Run Unit} {before after : WorkSpace},
      exec (renewSignatures due renew) before = (.ok ⟨⟩, after) → due = true →
      after.stateChanged = true := by
    rintro due renew before after run rfl
    rcases exec_bind_eq_ok.mp run with ⟨_, _, _, finish⟩
    cases finish
    rfl
  cases dnskeyDue : sigRenew ws.state.dnskeyRrset ws.config.dnskeyRemainTime now with
  | true =>
      have changed := raised dnskey dnskeyDue
      have stable : Stable env fun ws => ws.stateChanged = true := stateChanged_stable
      have renewed := keeps_bind (createCdsRrset_keeps stable.routine.toSigning) fun _ =>
        markStateChanged_keeps stable.routine.toEditing
      exact (onlyIf_keeps renewed).ok changed cds
  | false =>
      have cdsDue := due.resolve_left (by rw [dnskeyDue]; decide)
      rw [dnskeyDue] at dnskey
      cases dnskey
      exact raised cds cdsDue

end Dnst.Keyset
