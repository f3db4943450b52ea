import Dnst.Keyset.CronSteps
import Dnst.Keyset.Reference

/-! # Renewed signatures and the failure of a later phase

Cron renews signatures in memory, early in its run. The state file is written at
the end of the run, and only if every step in between succeeds.
-/

namespace Dnst.Keyset

open Effect

/-! ## Records that the run has signed -/

/-- The action that builds the RRset. -/
def SignedRrset.action : SignedRrset → Action
  | dnskey => .updateDnskeyRrset
  | cds => .createCdsRrset

/-- What the key set asks for when it takes a step of a roll or starts one. -/
inductive Asks (env : Environment) (keyset : KeySet) (actions : List Action) (next : KeySet) :
    Prop
  | step {roll} : StepChange env roll actions keyset next → Asks env keyset actions next
  | start {now roll old new} :
      env.keySet.startRoll now roll old new keyset = .ok (actions, next) →
      Asks env keyset actions next

/-- Of these actions, one has built the RRset that there is after the last of them. -/
inductive BuiltBy (env : Environment) (rrset : SignedRrset) (actions : List Action)
    (begun final : WorkSpace) : Prop
  | intro {earlier remaining before built} :
      actions = earlier ++ rrset.action :: remaining →
      exec (handleActions env earlier) begun = (.ok ⟨⟩, before) →
      exec (rrset.records env before) before.calls = (.ok (rrset.of final.state), built) →
      exec (handleActions env (rrset.action :: remaining)) before = (.ok ⟨⟩, final) →
      BuiltBy env rrset actions begun final

/-- What a step does at its end: the entry of the roll, and the flag for the state. -/
def WorkSpace.booked (ws : WorkSpace) (internal : RollType → Option RollStateReports)
    (stateChanged : Bool) : WorkSpace :=
  { ws with state.internal := internal, stateChanged }

/-- A step that ends in this workspace has built the RRset: it has handled the actions that
the key set asks for, and has done its bookkeeping. -/
inductive Rebuilt (env : Environment) (rrset : SignedRrset) (final : WorkSpace) : Prop
  | intro {origin handled : WorkSpace} {actions keyset internal stateChanged} :
      Asks env origin.state.keyset actions keyset →
      BuiltBy env rrset actions { origin with state.keyset := keyset } handled →
      final = handled.booked internal stateChanged →
      Rebuilt env rrset final

/-- What a step makes of an RRset: it stays, it is removed or it is built anew. -/
inductive MadeOf (env : Environment) (rrset : SignedRrset) (known : List Record)
    (final : WorkSpace) : Prop
  | stays : rrset.of final.state = known → MadeOf env rrset known final
  | removed : rrset = .cds → rrset.of final.state = [] → MadeOf env rrset known final
  | rebuilt : Rebuilt env rrset final → MadeOf env rrset known final

/-- The records of an RRset that a cron run has signed: those of the renewal, or those
with which a later step of the same run has replaced or removed them. -/
inductive SignedBy (env : Environment) (renewed : WorkSpace) (rrset : SignedRrset) :
    List Record → Prop
  | renewal : SignedBy env renewed rrset (rrset.of renewed.state)
  | replaced {step ws next} : RollStep env renewed step ws →
      exec step ws = (.ok ⟨⟩, next) → Rebuilt env rrset next →
      SignedBy env renewed rrset (rrset.of next.state)
  | removed {step ws next} : RollStep env renewed step ws →
      exec step ws = (.ok ⟨⟩, next) → rrset = .cds → rrset.of next.state = [] →
      SignedBy env renewed rrset []

/-! ## What a step makes of the RRsets -/

section Steps

variable {env : Environment} {rrset : SignedRrset} {known : List Record}
variable {ws begun final renewed : WorkSpace}

@[simp] theorem SignedRrset.of_booked (internal : RollType → Option RollStateReports)
    (stateChanged : Bool) :
    rrset.of (ws.booked internal stateChanged).state = rrset.of ws.state := by
  cases rrset <;> rfl

theorem Rebuilt.booked (rebuilt : Rebuilt env rrset ws)
    (internal : RollType → Option RollStateReports) (stateChanged : Bool) :
    Rebuilt env rrset (ws.booked internal stateChanged) := by
  rcases rebuilt with ⟨asks, built, rfl⟩
  exact ⟨asks, built, rfl⟩

theorem MadeOf.booked (made : MadeOf env rrset known ws)
    (internal : RollType → Option RollStateReports) (stateChanged : Bool) :
    MadeOf env rrset known (ws.booked internal stateChanged) := by
  cases made with
  | stays same => exact .stays (by rw [SignedRrset.of_booked, same])
  | removed cds empty => exact .removed cds (by rw [SignedRrset.of_booked, empty])
  | rebuilt rebuilt => exact .rebuilt (rebuilt.booked internal stateChanged)

theorem rebuild_ok {records : WorkSpace → Step (List Record)}
    {store : WorkSpace → List Record → WorkSpace}
    (run : exec (do
      let known ← get
      let built ← perform (records known)
      modify fun ws => store ws built) ws = (.ok ⟨⟩, final)) :
    ∃ built calls, exec (records ws) ws.calls = (.ok built, calls) ∧
      final = store { ws with calls } built := by
  rw [exec_bind_of_ok (exec_get ws)] at run
  rcases exec_bind_eq_ok.mp run with ⟨built, middle, building, finish⟩
  rcases exec_perform_eq_ok building with ⟨calls, done, rfl⟩
  cases finish
  exact ⟨built, calls, done, rfl⟩

/-- One action builds or removes the RRset, or leaves it alone. -/
theorem handleAction_ok {action : Action}
    (run : exec (handleAction env action) ws = (.ok ⟨⟩, final)) :
    rrset.of final.state = rrset.of ws.state ∨
      (rrset = .cds ∧ rrset.of final.state = []) ∨
      (action = rrset.action ∧ ∃ built,
        exec (rrset.records env ws) ws.calls = (.ok (rrset.of final.state), built)) := by
  cases action with
  | updateDnskeyRrset =>
      rcases rebuild_ok run with ⟨built, calls, done, rfl⟩
      cases rrset with
      | dnskey => exact Or.inr (Or.inr ⟨rfl, calls, done⟩)
      | cds => exact Or.inl rfl
  | createCdsRrset =>
      rcases rebuild_ok run with ⟨built, calls, done, rfl⟩
      cases rrset with
      | dnskey => exact Or.inl rfl
      | cds => exact Or.inr (Or.inr ⟨rfl, calls, done⟩)
  | removeCdsRrset =>
      cases run
      cases rrset with
      | dnskey => exact Or.inl rfl
      | cds => exact Or.inr (Or.inl ⟨rfl, rfl⟩)
  | updateDsRrset =>
      rcases exec_bind_eq_ok.mp run with ⟨_, announced, announcing, run⟩
      cases announcing
      rcases rebuild_ok run with ⟨built, calls, _, rfl⟩
      left
      cases rrset <;> rfl
  | _ =>
      cases run
      exact Or.inl rfl

/-- The last action that builds or removes the RRset decides what it is. -/
theorem handleActions_ok {actions : List Action}
    (run : exec (handleActions env actions) begun = (.ok ⟨⟩, final)) :
    rrset.of final.state = rrset.of begun.state ∨
      (rrset = .cds ∧ rrset.of final.state = []) ∨
      BuiltBy env rrset actions begun final := by
  induction actions generalizing begun with
  | nil =>
      cases run
      exact Or.inl rfl
  | cons action actions induction =>
      rcases exec_bind_eq_ok.mp run with ⟨_, middle, one, rest⟩
      rcases induction rest with stays | removed |
        @⟨before, following, between, calls, split, earlier, built, remaining⟩
      · rcases @handleAction_ok env rrset begun middle action one with
          kept | ⟨cds, empty⟩ | ⟨rfl, calls, built⟩
        · exact Or.inl (stays.trans kept)
        · exact Or.inr (Or.inl ⟨cds, stays.trans empty⟩)
        · rw [← stays] at built
          have first : exec (handleActions env []) begun = (.ok ⟨⟩, begun) := rfl
          exact Or.inr (Or.inr (.intro rfl first built run))
      · exact Or.inr (Or.inl removed)
      · have after : exec (handleActions env (action :: before)) begun = (.ok ⟨⟩, between) :=
          (exec_bind_of_ok one).trans earlier
        refine Or.inr (Or.inr (.intro ?_ after built remaining))
        rw [split, List.cons_append]

/-- The actions of a step, followed by its bookkeeping. -/
theorem madeOf_of_actions {origin handled : WorkSpace} {actions : List Action}
    {keyset : KeySet} (before : rrset.of origin.state = known)
    (asks : Asks env origin.state.keyset actions keyset)
    (run : exec (handleActions env actions) { origin with state.keyset := keyset } =
      (.ok ⟨⟩, handled))
    (internal : RollType → Option RollStateReports) (stateChanged : Bool) :
    MadeOf env rrset known (handled.booked internal stateChanged) := by
  have begun : rrset.of { origin with state.keyset := keyset }.state = known := by
    cases rrset <;> exact before
  rcases @handleActions_ok env rrset _ _ _ run with stays | ⟨cds, empty⟩ | built
  · exact .stays (by rw [SignedRrset.of_booked, stays, begun])
  · exact .removed cds (by rw [SignedRrset.of_booked, empty])
  · exact .rebuilt ⟨asks, built, rfl⟩

/-! ### The framework of the steps -/

/-- The RRset is as it was. -/
def Same (rrset : SignedRrset) (known : List Record) (ws : WorkSpace) : Prop :=
  rrset.of ws.state = known

theorem same_storage : Storage env (Same rrset known) (fun _ _ => True) fun _ => True where
  fails := fun _ _ _ _ => trivial
  calls := fun _ _ same => same
  stateChanged := fun _ same => same
  keySet := by
    intro ws keyset same _
    cases rrset <;> exact same
  cronNext := by
    intro ws cronNext same
    cases rrset <;> exact same
  relabeled := by
    intro ws serverId same
    cases rrset <;> exact same
  entry := fun _ _ _ _ _ _ _ _ => trivial
  absent := fun _ _ _ _ => trivial
  newFile := fun _ _ _ _ _ _ _ _ => trivial
  newPair := fun _ _ _ _ _ => ⟨fun _ _ => trivial, fun _ _ => trivial⟩
  keyStore := fun _ _ _ same _ => same

theorem same_recording : Recording env (Same rrset known) := by
  intro now roll ws same before after _ _
  cases rrset <;> exact same

theorem same_acting :
    Acting env (Same rrset known) (MadeOf env rrset known) fun _ _ => True where
  fails := fun _ _ _ _ => trivial
  calls := fun _ _ same => same
  idle := fun _ same => .stays same
  act := by
    intro roll actions keyset ws same change
    refine triple_of_runs ?_ fun _ _ _ _ _ => trivial
    rintro ws value final rfl run
    rcases exec_bind_eq_ok.mp run with ⟨_, moved, moving, rest⟩
    cases moving
    rcases exec_bind_eq_ok.mp rest with ⟨_, handled, handling, marking⟩
    cases marking
    exact madeOf_of_actions same (.step change) handling handled.state.internal true
  done := by
    intro roll
    have ends : Triple (Same rrset known) (doDone env roll)
        (fun _ => MadeOf env rrset known) fun _ _ => True := by
      refine doDone_triple ⟨fun _ _ _ _ => trivial, fun _ _ same => same⟩ roll
        (fun _ _ _ _ _ _ _ => trivial) ?_
      intro ws now actions keyset same _
      cases rrset with
      | dnskey => exact .stays same
      | cds => exact .removed rfl rfl
    refine triple_bind ends fun _ => triple_modify ?_
    exact fun ws made => made.booked ws.state.internal true

theorem start_madeOf (variant : RollVariant) :
    Triple (Same rrset known) (do
      let _ ← variant.start env
      markStateChanged) (fun _ => MadeOf env rrset known) fun _ _ => True := by
  have starts : ∀ roll actions, Triple (Begun env (Same rrset known) roll actions)
      (finishStart env roll actions) (fun _ => MadeOf env rrset known) fun _ _ => True := by
    intro roll actions
    refine triple_of_runs ?_ fun _ _ _ _ _ => trivial
    rintro ws value final ⟨before, now, old, new, keyset, same, _, started, rfl⟩ run
    rcases exec_bind_eq_ok.mp run with ⟨_, handled, handling, rest⟩
    rcases exec_bind_eq_ok.mp rest with ⟨_, entered, entering, finish⟩
    cases entering
    cases finish
    exact madeOf_of_actions same (.start started) handling _ handled.stateChanged
  refine triple_bind (start_triple same_storage starts variant) fun _ => triple_modify ?_
  exact fun ws made => made.booked ws.state.internal true

/-- A step of the run leaves an RRset alone, removes it or builds it anew. -/
theorem RollStep.madeOf {step : Run Unit} (comes : RollStep env renewed step ws)
    (run : exec step ws = (.ok ⟨⟩, final)) :
    MadeOf env rrset (rrset.of ws.state) final := by
  have storage : Storage env (Same rrset (rrset.of ws.state)) (fun _ _ => True) fun _ => True :=
    same_storage
  have acting : Acting env (Same rrset (rrset.of ws.state))
      (MadeOf env rrset (rrset.of ws.state)) fun _ _ => True := same_acting
  have each : Triple (Same rrset (rrset.of ws.state)) step
      (fun _ => MadeOf env rrset (rrset.of ws.state)) fun _ _ => True := by
    cases comes with
    | start needed comes =>
        rcases List.mem_map.mp comes.mem with ⟨phase, _, rfl⟩
        exact autoStart_triple storage.calls acting.idle _ _ _ _ (start_madeOf phase.variant)
    | automate started group comes =>
        rcases comesTo_groupSteps comes with ⟨_, roll, _, _, _, _, rfl⟩ | ⟨roll, rfl | rfl⟩
        · exact autoReportRoll_after storage.toEditing acting same_recording _ roll
        · exact autoExpireRoll_triple acting roll
        · exact autoDoneRoll_after storage.toEditing acting same_recording _ roll
  exact each.ok rfl run

/-- When the first start of a roll fails, the run comes to no other step. -/
theorem RollStep.first_fails {need : Bool} {first : StartPhase} {phases : List StartPhase}
    {step : Run Unit} (comes : RollStep env renewed step ws)
    (needed : exec algorithmRollNeeded renewed = (.ok need, renewed))
    (listed : startPhases renewed.config need = first :: phases)
    (fails : ¬Completes (first.run env) renewed) : ¬Completes step ws := by
  cases comes with
  | start asked comes =>
      rw [needed] at asked
      cases asked
      rw [listed, List.map_cons] at comes
      rcases comesTo_cons.mp comes with ⟨rfl, rfl⟩ | ⟨middle, run, _⟩
      · exact fails
      · exact absurd ⟨⟨⟩, middle, run⟩ fails
  | automate started group comes =>
      rw [autoStartPhase_eq, exec_bind_of_ok needed, exec_bind_of_ok (exec_get renewed),
        listed] at started
      rcases exec_bind_eq_ok.mp started with ⟨_, middle, run, _⟩
      exact absurd ⟨⟨⟩, middle, run⟩ fails

end Steps

/-! ## The end of the run -/

/-- The phases of cron that follow the renewal of signatures. -/
def laterPhases (env : Environment) : Run Unit := do
  rollPhases env
  autoremovePhase env

/-- What is left of an invocation of cron after the renewal of signatures. -/
def afterRenewal (env : Environment) (now : UnixTime) : Run Unit := do
  laterPhases env
  updateCronNext env now
  persist env

/-- Nothing fails after the renewal: no start of a roll, no step of the automation, not the
removal of keys, not the computation of the next run and not the writing of the files. -/
structure NothingFails (env : Environment) (now : UnixTime) (renewed : WorkSpace) : Prop where
  needed : Completes algorithmRollNeeded renewed
  rolls : ∀ step ws, RollStep env renewed step ws → Completes step ws
  removal : ∀ ws, exec (rollPhases env) renewed = (.ok ⟨⟩, ws) →
    Completes (autoremovePhase env) ws
  schedule : ∀ ws, exec (laterPhases env) renewed = (.ok ⟨⟩, ws) →
    Completes (updateCronNext env now) ws
  writing : ∀ ws, exec (do laterPhases env; updateCronNext env now) renewed = (.ok ⟨⟩, ws) →
    Completes (persist env) ws

section Run

variable {env : Environment} {now : UnixTime} {rrset : SignedRrset}
variable {ws final renewed : WorkSpace}

theorem renewSignatures_ok {due : Bool} {records : WorkSpace → Step (List Record)}
    {store : WorkSpace → List Record → WorkSpace}
    (run : exec (renewSignatures due do
      let known ← get
      let built ← perform (records known)
      modify fun ws => store ws built) ws = (.ok ⟨⟩, final)) :
    (due = false ∧ final = ws) ∨
      (due = true ∧ ∃ built calls, exec (records ws) ws.calls = (.ok built, calls) ∧
        final = { store { ws with calls } built with stateChanged := true }) := by
  cases due with
  | false =>
      cases run
      exact Or.inl ⟨rfl, rfl⟩
  | true =>
      rcases exec_bind_eq_ok.mp run with ⟨_, updated, updating, marking⟩
      rcases rebuild_ok updating with ⟨built, calls, building, rfl⟩
      cases marking
      exact Or.inr ⟨rfl, built, calls, building, rfl⟩

/-- When signatures are due, the renewal builds the RRset for the keys that it finds. -/
theorem renewPhase_builds (due : rrset.due ws.config ws.state now = true)
    (run : exec (renewPhase env now) ws = (.ok ⟨⟩, final)) :
    ∃ before built, before.config = ws.config ∧ before.state.keyset = ws.state.keyset ∧
      exec (rrset.records env before) before.calls = (.ok (rrset.of final.state), built) := by
  rw [renewPhase, exec_bind_of_ok (exec_get ws)] at run
  rcases exec_bind_eq_ok.mp run with ⟨_, middle, dnskey, cds⟩
  rw [exec_bind_of_ok (exec_get middle)] at cds
  have first := renewSignatures_ok dnskey
  have second := renewSignatures_ok cds
  cases rrset with
  | dnskey =>
      rcases first with ⟨notDue, _⟩ | ⟨_, records, calls, built, rfl⟩
      · exact absurd due (by rw [SignedRrset.due, notDue]; decide)
      · refine ⟨ws, calls, rfl, rfl, ?_⟩
        rcases second with ⟨_, rfl⟩ | ⟨_, _, _, _, rfl⟩ <;> exact built
  | cds =>
      have known : middle.config = ws.config ∧ middle.state.keyset = ws.state.keyset ∧
          middle.state.cdsRrset = ws.state.cdsRrset := by
        rcases first with ⟨_, rfl⟩ | ⟨_, _, _, _, rfl⟩ <;> exact ⟨rfl, rfl, rfl⟩
      rcases known with ⟨config, keyset, rrset⟩
      rcases second with ⟨notDue, _⟩ | ⟨_, records, calls, built, rfl⟩
      · rw [config, rrset] at notDue
        exact absurd due (by rw [SignedRrset.due, notDue]; decide)
      · exact ⟨middle, calls, config, keyset, built⟩

theorem nothingFails_iff :
    Completes (afterRenewal env now) renewed ↔ NothingFails env now renewed := by
  rw [afterRenewal, completes_bind, laterPhases, completes_bind, rollPhases_completes_iff]
  constructor
  · rintro ⟨⟨⟨needed, rolls⟩, removal⟩, rest⟩
    refine ⟨needed, rolls, removal ⟨⟩, ?_, ?_⟩
    · intro ws phases
      exact (completes_bind.mp (rest ⟨⟩ ws phases)).1
    · intro ws scheduled
      rcases exec_bind_eq_ok.mp scheduled with ⟨_, phased, phases, schedule⟩
      exact (completes_bind.mp (rest ⟨⟩ phased phases)).2 ⟨⟩ ws schedule
  · rintro ⟨needed, rolls, removal, schedule, writing⟩
    refine ⟨⟨⟨needed, rolls⟩, fun _ => removal⟩, fun _ phased phases => ?_⟩
    refine completes_bind.mpr ⟨schedule phased phases, fun _ ws scheduled => ?_⟩
    exact writing ws ((exec_bind_of_ok phases).trans scheduled)

theorem laterPhases_preserves {invariant : WorkSpace → Prop}
    (lawful : Lawful env invariant fun _ => True) : Preserves invariant (laterPhases env) :=
  keeps_bind (keeps_bind (autoStartPhase_keeps lawful.phases.toOpenings) fun _ =>
    autoReportExpireDonePhase_keeps lawful.phases) fun _ =>
      autoremovePhase_keeps lawful.custody.toStorage

theorem savedState_lawful (saved : KeySetState) :
    Lawful env (fun ws => ws.savedState = saved) fun _ => True := by
  have stable : Stable env fun ws => ws.savedState = saved := by
    intro ws next same change
    rw [change.files.2.2.1]
    exact same
  exact stable.lawful (fun _ _ same => same) fun _ _ same => same

/-- When the rest of the run fails the state file stays as it was. -/
theorem afterRenewal_error {fault : Fault}
    (run : exec (afterRenewal env now) ws = (.error fault, final)) :
    final.savedState = ws.savedState := by
  have lawful : Lawful env (fun other => other.savedState = ws.savedState) fun _ => True :=
    savedState_lawful ws.savedState
  have persists : Triple (fun other => other.savedState = ws.savedState) (persist env)
      (fun _ _ => True) (fun _ other => other.savedState = ws.savedState) :=
    triple_of_runs (fun _ _ _ _ _ => trivial)
      fun other fault after same run => (persist_error run).trans same
  have whole := triple_bind (triple_weaken (laterPhases_preserves lawful) (fun _ same => same)
      (fun _ _ same => same) (fun _ _ same => same)) fun _ =>
    triple_bind (triple_weaken (updateCronNext_keeps lawful.stable.routine.toEditing now)
      (fun _ same => same) (fun _ _ same => same) (fun _ _ same => same)) fun _ => persists
  exact whole.error rfl run

/-- When it succeeds the state file holds RRsets that this run has signed. -/
theorem afterRenewal_ok (changed : renewed.stateChanged = true)
    (run : exec (afterRenewal env now) renewed = (.ok ⟨⟩, final)) :
    SignedBy env renewed rrset (rrset.of final.savedState) := by
  rcases exec_bind_eq_ok.mp run with ⟨_, phased, phases, rest⟩
  rcases exec_bind_eq_ok.mp rest with ⟨_, scheduled, schedule, saves⟩
  have flagged : scheduled.stateChanged = true :=
    (updateCronNext_keeps stateChanged_stable.routine.toEditing now).ok
      ((laterPhases_preserves stateChanged_lawful).ok changed phases) schedule
  rcases exec_bind_eq_ok.mp phases with ⟨_, automated, rolls, removal⟩
  have signed : SignedBy env renewed rrset (rrset.of automated.state) := by
    have counts : CallStable fun ws => SignedBy env renewed rrset (rrset.of ws.state) :=
      fun _ _ signed => signed
    refine rollPhases_induction counts ?_ .renewal rolls
    intro step ws next comes signed stepped
    cases comes.madeOf stepped with
    | stays same =>
        rw [same]
        exact signed
    | removed cds empty =>
        rw [empty]
        exact .removed comes stepped cds empty
    | rebuilt rebuilt => exact .replaced comes stepped rebuilt
  have storage : Storage env (Same rrset (rrset.of automated.state)) (fun _ _ => True)
      fun _ => True := same_storage
  have removed : Same rrset (rrset.of automated.state) phased :=
    (autoremovePhase_keeps storage).ok rfl removal
  have kept : rrset.of scheduled.state = rrset.of automated.state :=
    (updateCronNext_keeps storage.toEditing now).ok removed schedule
  rcases persist_ok saves with ⟨_, saved, _⟩
  rw [saved, flagged, if_pos rfl]
  have apex : rrset.of scheduled.state.withApex = rrset.of scheduled.state := by
    cases rrset <;> rfl
  rw [apex, kept]
  exact signed

/-- An invocation of cron is the renewal followed by the rest. -/
theorem invoke_cron {system : System} {loaded renewed : WorkSpace}
    (comes : ComesToSubcommand env system now loaded)
    (renews : exec (renewPhase env now) loaded = (.ok ⟨⟩, renewed))
    (changed : renewed.stateChanged = true) :
    (invoke env .cron system).2 = (exec (afterRenewal env now) renewed).2.system := by
  rcases exec_bind_eq_ok.mp comes with ⟨_, opened, loading, reading⟩
  rw [exec_bind_of_ok (exec_get opened)] at reading
  have phases : exec (cron env now) loaded = exec (laterPhases env) renewed := by
    unfold laterPhases rollPhases
    rw [bind_assoc]
    exact exec_bind_of_ok renews
  have computes : exec (do loadFiles env; compute env .cron) system.load =
      exec (do
        cron env now
        let ws ← get
        if ws.configChanged || ws.stateChanged then do
          updateCronNext env now
          return true
        else
          return false) loaded :=
    (exec_bind_of_ok loading).trans ((exec_bind_of_ok (exec_get _)).trans
      (exec_bind_of_ok reading))
  rcases phasesRun : exec (laterPhases env) renewed with ⟨fault | ⟨⟩, phased⟩
  · rw [exec_bind_of_error (phases.trans phasesRun)] at computes
    unfold afterRenewal
    rw [invoke_of_error computes, exec_bind_of_error phasesRun]
  · have phasedChanged : phased.stateChanged = true :=
      (laterPhases_preserves stateChanged_lawful).ok changed phasesRun
    rw [exec_bind_of_ok (phases.trans phasesRun), exec_bind_of_ok (exec_get phased),
      phasedChanged, Bool.or_true, if_pos rfl] at computes
    unfold afterRenewal
    rw [exec_bind_of_ok phasesRun]
    rcases scheduleRun : exec (updateCronNext env now) phased with ⟨fault | ⟨⟩, scheduled⟩
    · rw [exec_bind_of_error scheduleRun] at computes
      rw [invoke_of_error computes, exec_bind_of_error scheduleRun]
    · rw [exec_bind_of_ok scheduleRun] at computes
      rw [invoke_of_compute computes, exec_bind_of_ok scheduleRun]

/-- The state file keeps what cron has renewed exactly when nothing fails after the renewal,
or when the records were in the file before. -/
theorem renewed_rrsets_persist_iff {system : System} {loaded : WorkSpace}
    (comes : ComesToSubcommand env system now loaded)
    (renews : exec (renewPhase env now) loaded = (.ok ⟨⟩, renewed)) :
    (∀ rrset : SignedRrset, rrset.due system.config system.state now = true →
        SignedBy env renewed rrset (rrset.of (invoke env .cron system).2.state)) ↔
      NothingFails env now renewed ∨
        ∀ rrset : SignedRrset, rrset.due system.config system.state now = true →
          SignedBy env renewed rrset (rrset.of system.state) := by
  by_cases due : ∃ rrset : SignedRrset, rrset.due system.config system.state now = true
  · rcases comes.loaded with ⟨calls, rfl⟩
    have changed : renewed.stateChanged = true := by
      rcases due with ⟨rrset, isDue⟩
      refine renewPhase_changes ?_ renews
      cases rrset with
      | dnskey => exact Or.inl isDue
      | cds => exact Or.inr isDue
    rw [← nothingFails_iff, invoke_cron comes renews changed]
    rcases run : exec (afterRenewal env now) renewed with ⟨fault | ⟨⟩, final⟩
    · have saved : final.savedState = system.state :=
        (afterRenewal_error run).trans
          ((renewPhase_keeps (savedState_lawful system.state).phases.toOpenings now).ok rfl renews)
      have fails : ¬Completes (afterRenewal env now) renewed := by
        rintro ⟨value, other, same⟩
        rw [run] at same
        cases same
      have unsaved : final.system.state = system.state := saved
      rw [unsaved]
      exact ⟨Or.inr, fun either => either.resolve_left fails⟩
    · exact ⟨fun _ => Or.inl ⟨⟨⟩, final, run⟩, fun _ rrset _ => afterRenewal_ok changed run⟩
  · have nothing : ∀ {goal : SignedRrset → Prop} (rrset : SignedRrset),
        rrset.due system.config system.state now = true → goal rrset :=
      fun rrset isDue => absurd ⟨rrset, isDue⟩ due
    exact ⟨fun _ => Or.inr nothing, fun _ => nothing⟩

end Run

/-! ## The worked platform -/

namespace Reference

/-- The commands of a zone with new keys, and then automatic KSK rolls. -/
def rollingKsks : List (Environment × Commands) :=
  [day 1 .init, day 2 (.roll .algorithm (.propagation1Complete 3600)),
    day 3 (.roll .algorithm .cacheExpired1),
    day 4 (.roll .algorithm (.propagation2Complete 3600)),
    day 5 (.roll .algorithm .cacheExpired2), day 6 (.roll .algorithm .rollDone),
    day 7 (.set (.kskValidity (some oneDay))),
    day 8 (.set (.autoKsk ⟨true, false, false, false⟩))]

/-- The KSK is due to be rolled. -/
def kskExpired : System := runAll rollingKsks (create zone "/keys/state" "/keys" ⟨[]⟩ fun _ => none)

/-- When the signatures have to be renewed. -/
def renewalTime : UnixTime := fromSecs (1000000 + 86400 * 20)

def renewalDay : Environment := environment 20 renewalTime

/-- Key files cannot be created. -/
def readOnlyKeysDir : Environment :=
  { renewalDay with
    failure := fun call => if call = 14 then some "permission denied" else none }

theorem kskExpired_reachable : Reachable platform kskExpired := by
  have created : Reachable platform (create zone "/keys/state" "/keys" ⟨[]⟩ fun _ => none) :=
    .create _ _ _ _ _
  have steps : AllMeet platform (fun _ _ _ => True) rollingKsks
      (create zone "/keys/state" "/keys" ⟨[]⟩ fun _ => none) :=
    ⟨⟨rfl, trivial⟩, ⟨rfl, trivial⟩, ⟨rfl, trivial⟩, ⟨rfl, trivial⟩, ⟨rfl, trivial⟩,
      ⟨rfl, trivial⟩, ⟨rfl, trivial⟩, ⟨rfl, trivial⟩, trivial⟩
  exact created.runAll steps

/-- The workspace of cron at the start of its run. -/
def loadedBy (env : Environment) : WorkSpace :=
  (exec (do
    loadFiles env
    let ws ← get
    perform (faketimeOrNow env ws.config)) kskExpired.load).2

/-- The workspace of cron after the renewal. -/
def renewedBy (env : Environment) : WorkSpace :=
  (exec (renewPhase env renewalTime) (loadedBy env)).2

/-- The phase that starts the KSK roll. -/
def expiredPhase : StartPhase :=
  ⟨some oneDay, ⟨true, false, false, false⟩, conflictsWithKsk, matchKsk, .ksk⟩

theorem renewalDay_facts :
    (exec (do
      loadFiles renewalDay
      let ws ← get
      perform (faketimeOrNow renewalDay ws.config)) kskExpired.load).1.toOption =
        some renewalTime ∧
      (exec (renewPhase renewalDay renewalTime) (loadedBy renewalDay)).1.toOption = some ⟨⟩ ∧
      SignedRrset.dnskey.due kskExpired.config kskExpired.state renewalTime = true ∧
      (exec (afterRenewal renewalDay renewalTime) (renewedBy renewalDay)).1.toOption =
        some ⟨⟩ := by
  decide +kernel

theorem readOnlyKeysDir_facts :
    (exec (do
      loadFiles readOnlyKeysDir
      let ws ← get
      perform (faketimeOrNow readOnlyKeysDir ws.config)) kskExpired.load).1.toOption =
        some renewalTime ∧
      (exec (renewPhase readOnlyKeysDir renewalTime) (loadedBy readOnlyKeysDir)).1.toOption =
        some ⟨⟩ ∧
      errorMessage (invoke readOnlyKeysDir .cron kskExpired).1 =
        some "cannot create '/keys/Kexample.com.+013+02012.key': permission denied" ∧
      SignedRrset.dnskey.of (invoke readOnlyKeysDir .cron kskExpired).2.state ≠
        SignedRrset.dnskey.of (renewedBy readOnlyKeysDir).state := by
  decide +kernel

/-- With the start of the KSK roll the run comes to an end. -/
theorem onlyStep {step : Run Unit} {ws : WorkSpace}
    (comes : RollStep readOnlyKeysDir (renewedBy readOnlyKeysDir) step ws) :
    ¬Completes step ws := by
  have facts : (exec algorithmRollNeeded (renewedBy readOnlyKeysDir)).1.toOption =
        some false ∧
      (exec (expiredPhase.run readOnlyKeysDir) (renewedBy readOnlyKeysDir)).1.isOk = false ∧
      (renewedBy readOnlyKeysDir).config.useCsk = false ∧
      (renewedBy readOnlyKeysDir).config.kskValidity = some oneDay ∧
      (renewedBy readOnlyKeysDir).config.autoKsk = ⟨true, false, false, false⟩ := by
    decide +kernel
  generalize renewedBy readOnlyKeysDir = renewed at *
  rcases facts with ⟨needed, fails, config⟩
  have failing : ¬Completes (expiredPhase.run readOnlyKeysDir) renewed := by
    rintro ⟨value, final, run⟩
    rw [run] at fails
    cases fails
  have asked := exec_eq_of_toOption needed
  rw [(algorithmRollNeeded_ok asked).1] at asked
  have listed : startPhases renewed.config false =
      expiredPhase :: (startPhases renewed.config false).tail := by
    simp [startPhases, config, expiredPhase]
  exact comes.first_fails asked listed failing

end Reference

/-- A new KSK is created and its roll is started, so the new signatures are saved. -/
theorem renewed_rrsets_persist_with_new_ksk :
    SignedBy Reference.renewalDay (Reference.renewedBy Reference.renewalDay) .dnskey
      (SignedRrset.dnskey.of
        (invoke Reference.renewalDay .cron Reference.kskExpired).2.state) := by
  rcases Reference.renewalDay_facts with ⟨comes, renews, due, succeeds⟩
  have nothingFails : NothingFails Reference.renewalDay Reference.renewalTime
      (Reference.renewedBy Reference.renewalDay) :=
    nothingFails_iff.mp ⟨⟨⟩, _, exec_eq_of_toOption succeeds⟩
  have kept := (renewed_rrsets_persist_iff (exec_eq_of_toOption comes)
    (exec_eq_of_toOption renews)).mpr (Or.inl nothingFails)
  exact kept .dnskey due

/-- The new KSK cannot be created, so the state file keeps the old signatures. -/
theorem renewed_signatures_lost :
    Reachable Reference.platform Reference.kskExpired ∧
      ComesToSubcommand Reference.readOnlyKeysDir Reference.kskExpired Reference.renewalTime
        (Reference.loadedBy Reference.readOnlyKeysDir) ∧
      SignedRrset.dnskey.due Reference.kskExpired.config Reference.kskExpired.state
        Reference.renewalTime = true ∧
      exec (renewPhase Reference.readOnlyKeysDir Reference.renewalTime)
          (Reference.loadedBy Reference.readOnlyKeysDir) =
        (.ok ⟨⟩, Reference.renewedBy Reference.readOnlyKeysDir) ∧
      errorMessage (invoke Reference.readOnlyKeysDir .cron Reference.kskExpired).1 =
        some "cannot create '/keys/Kexample.com.+013+02012.key': permission denied" ∧
      ¬SignedBy Reference.readOnlyKeysDir (Reference.renewedBy Reference.readOnlyKeysDir)
        .dnskey (SignedRrset.dnskey.of
          (invoke Reference.readOnlyKeysDir .cron Reference.kskExpired).2.state) := by
  rcases Reference.renewalDay_facts with ⟨_, _, due, _⟩
  rcases Reference.readOnlyKeysDir_facts with ⟨comes, renews, message, saved⟩
  refine ⟨Reference.kskExpired_reachable, exec_eq_of_toOption comes, due,
    exec_eq_of_toOption renews, message, ?_⟩
  intro signed
  generalize (SignedRrset.dnskey.of
    (invoke Reference.readOnlyKeysDir .cron Reference.kskExpired).2.state) = records at *
  cases signed with
  | renewal => exact saved rfl
  | replaced comes stepped _ => exact Reference.onlyStep comes ⟨⟨⟩, _, stepped⟩
  | removed comes stepped cds _ => cases cds

end Dnst.Keyset
