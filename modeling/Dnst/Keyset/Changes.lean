import Dnst.Keyset.Faults

/-! # What a subcommand can do to the workspace

`Change` lists the elementary changes that subcommands are made of, apart from
`set`, the start of a roll and changes of the key store. An invariant that
survives each of them survives the computations that are made of them, whatever
their outcome.
-/

namespace Dnst.Keyset

open Effect

/-! ## Elementary changes -/

/-- Where the references of a key come from. -/
inductive KeyOrigin (env : Environment) : String → Option String → Prop
  | created {publicPath privatePath publicUrl privateUrl} :
      env.parseUrl ("file://" ++ publicPath) = .ok publicUrl →
      env.parseUrl ("file://" ++ privatePath) = .ok privateUrl →
      KeyOrigin env (env.showUrl publicUrl) (some (env.showUrl privateUrl))
  | generated {call params flags pair} :
      env.kmipGenerate call params flags = .ok pair →
      KeyOrigin env (env.showUrl pair.publicKeyUrl) (some (env.showUrl pair.privateKeyUrl))
  | importedFiles (publicPath privatePath) :
      KeyOrigin env ("file://" ++ publicPath) (some ("file://" ++ privatePath))
  | importedHsm (server publicId privateId) :
      KeyOrigin env (env.showUrl (.kmip server publicId))
        (some (env.showUrl (.kmip server privateId)))
  | publicOnly (publicPath) : KeyOrigin env ("file://" ++ publicPath) none

/-- The changes of a key set that neither start nor end a roll. -/
inductive PlainChange (env : Environment) : KeySet → KeySet → Prop
  | addKey {keyset next variant pubref privref algorithm keyTag now} :
      KeyOrigin env pubref privref →
      env.keySet.addKey variant pubref privref algorithm keyTag now keyset = .ok next →
      PlainChange env keyset next
  | addPublicKey {keyset next pubref algorithm keyTag now} :
      KeyOrigin env pubref none →
      env.keySet.addPublicKey pubref algorithm keyTag now keyset = .ok next →
      PlainChange env keyset next
  | deleteKey {keyset next pubref} :
      env.keySet.deleteKey pubref keyset = .ok next → PlainChange env keyset next
  | setPresent {keyset next pubref value} :
      env.keySet.setPresent pubref value keyset = .ok next → PlainChange env keyset next
  | setSigner {keyset next pubref value} :
      env.keySet.setSigner pubref value keyset = .ok next → PlainChange env keyset next
  | setAtParent {keyset next pubref value} :
      env.keySet.setAtParent pubref value keyset = .ok next → PlainChange env keyset next
  | setDecoupled {keyset next pubref value} :
      env.keySet.setDecoupled pubref value keyset = .ok next → PlainChange env keyset next
  | setVisible {keyset next pubref now} :
      env.keySet.setVisible pubref now keyset = .ok next → PlainChange env keyset next
  | setDsVisible {keyset next pubref now} :
      env.keySet.setDsVisible pubref now keyset = .ok next → PlainChange env keyset next
  | setRrsigVisible {keyset next pubref now} :
      env.keySet.setRrsigVisible pubref now keyset = .ok next → PlainChange env keyset next
  | setStale {keyset next pubref} :
      env.keySet.setStale pubref keyset = .ok next → PlainChange env keyset next
  | propagation1Complete {keyset next now roll ttl actions} :
      env.keySet.propagation1Complete now roll ttl keyset = .ok (actions, next) →
      PlainChange env keyset next
  | cacheExpired1 {keyset next now roll actions} :
      env.keySet.cacheExpired1 now roll keyset = .ok (actions, next) →
      PlainChange env keyset next
  | propagation2Complete {keyset next now roll ttl actions} :
      env.keySet.propagation2Complete now roll ttl keyset = .ok (actions, next) →
      PlainChange env keyset next
  | cacheExpired2 {keyset next now roll actions} :
      env.keySet.cacheExpired2 now roll keyset = .ok (actions, next) →
      PlainChange env keyset next

/-- The steps of a roll in progress and the actions that they ask for. -/
inductive StepChange (env : Environment) : RollType → List Action → KeySet → KeySet → Prop
  | propagation1Complete {roll actions keyset next now ttl} :
      env.keySet.propagation1Complete now roll ttl keyset = .ok (actions, next) →
      StepChange env roll actions keyset next
  | cacheExpired1 {roll actions keyset next now} :
      env.keySet.cacheExpired1 now roll keyset = .ok (actions, next) →
      StepChange env roll actions keyset next
  | propagation2Complete {roll actions keyset next now ttl} :
      env.keySet.propagation2Complete now roll ttl keyset = .ok (actions, next) →
      StepChange env roll actions keyset next
  | cacheExpired2 {roll actions keyset next now} :
      env.keySet.cacheExpired2 now roll keyset = .ok (actions, next) →
      StepChange env roll actions keyset next

theorem StepChange.plain {env : Environment} {roll : RollType} {actions : List Action}
    {keyset next : KeySet} (change : StepChange env roll actions keyset next) :
    PlainChange env keyset next := by
  cases change with
  | propagation1Complete completed => exact .propagation1Complete completed
  | cacheExpired1 expired => exact .cacheExpired1 expired
  | propagation2Complete completed => exact .propagation2Complete completed
  | cacheExpired2 expired => exact .cacheExpired2 expired

/-- The changes of a key set and the roll that they start. -/
inductive KeySetChange (env : Environment) : Option RollType → KeySet → KeySet → Prop
  | plain {keyset next} : PlainChange env keyset next → KeySetChange env none keyset next
  | startRoll {keyset next now roll old new actions} :
      env.keySet.startRoll now roll old new keyset = .ok (actions, next) →
      KeySetChange env (some roll) keyset next
  | rollDone {keyset next now roll actions} :
      env.keySet.rollDone now roll keyset = .ok (actions, next) →
      KeySetChange env none keyset next

inductive Change (env : Environment) : WorkSpace → WorkSpace → Prop
  | calls (ws calls) : Change env ws { ws with calls }
  | configChanged (ws) : Change env ws { ws with configChanged := true }
  | stateChanged (ws) : Change env ws { ws with stateChanged := true }
  | runUpdateDsCommand (ws) : Change env ws { ws with runUpdateDsCommand := true }
  | keySet {ws keyset} :
      KeySetChange env none ws.state.keyset keyset →
      Change env ws { ws with state.keyset := keyset }
  | dnskeyRrset {ws records calls final} :
      exec (dnskeyRrset env ws) calls = (.ok records, final) →
      Change env ws { ws with state.dnskeyRrset := records }
  | dsRrset {ws records calls final} :
      exec (dsRrset env ws) calls = (.ok records, final) →
      Change env ws { ws with state.dsRrset := records }
  | cdsRrset {ws records calls final} :
      exec (cdsRrset env ws) calls = (.ok records, final) →
      Change env ws { ws with state.cdsRrset := records }
  | cdsRemoved (ws) : Change env ws { ws with state.cdsRrset := [] }
  | internal (ws internal) : Change env ws { ws with state.internal := internal }
  | cronNext (ws cronNext) : Change env ws { ws with state.cronNext := cronNext }
  | kmip (ws kmip) : Change env ws { ws with state.kmip := kmip }

/-- The invariant survives every elementary change. -/
def Stable (env : Environment) (invariant : WorkSpace → Prop) : Prop :=
  ∀ ws next, invariant ws → Change env ws next → invariant next

/-- The invariant does not depend on the number of calls. -/
def CallStable (invariant : WorkSpace → Prop) : Prop :=
  ∀ ws calls, invariant ws → invariant { ws with calls }

theorem Stable.calls {env : Environment} {invariant : WorkSpace → Prop}
    (stable : Stable env invariant) : CallStable invariant :=
  fun ws calls holds => stable ws _ holds (.calls ws calls)

/-- Reading the configuration before a computation that depends on it. -/
theorem triple_readConfig {invariant after : WorkSpace → Prop}
    {failed : Fault → WorkSpace → Prop} {Value : Type} {next : WorkSpace → Run Value}
    (later : ∀ known : WorkSpace,
      Triple (fun ws => invariant ws ∧ ws.config = known.config) (next known)
        (fun _ => after) failed) :
    Triple invariant (get >>= next) (fun _ => after) failed := by
  refine triple_read fun known holds => ?_
  refine triple_weaken (later known) ?_ (fun _ _ holds => holds) (fun _ _ after => after)
  rintro ws rfl
  exact ⟨holds, rfl⟩

/-! ## Origin of imported keys -/

theorem yields_mapErr {State Value : Type} (message : String → String)
    (result : Except String Value) :
    Yields (fun value => result = .ok value) (mapErr message result : Effect State Fault Value) := by
  cases result with
  | ok value => exact yields_pure rfl
  | error reason => exact yields_throw _

theorem resolve_origin (env : Environment) (ws : WorkSpace) (subcommand : ImportKeyCommands) :
    Yields (fun key => KeyOrigin env key.publicKeyUrl (some key.privateKeyUrl))
      (subcommand.resolve env ws) := by
  cases subcommand with
  | file path coupled privateKey =>
      simp only [ImportKeyCommands.resolve, importedKeyFiles]
      split
      · exact yields_throw _
      · refine yields_next fun secretKey => yields_next fun read => ?_
        rcases read with ⟨owner, publicKey⟩
        exact yields_next fun _ => yields_next fun _ => yields_next fun publicPath =>
          yields_next fun privatePath => yields_pure (.importedFiles publicPath privatePath)
  | kmip server publicId privateId algorithm flags coupled =>
      exact yields_next fun _ => yields_next fun publicKey => yields_next fun _ =>
        yields_pure (.importedHsm server publicId privateId)

/-! ## Propagation checks -/

/-- The invariant survives a call and the record of a result, which marks the state
as changed. -/
structure CheckStable (invariant : CheckState → Prop) : Prop where
  calls : ∀ state calls, invariant state → invariant { state with calls }
  record : ∀ state report, invariant state →
    invariant { state with report, stateChanged := true }

/-- The state is marked as changed. -/
def Flagged (state : CheckState) : Prop := state.stateChanged = true

theorem flagged_stable : CheckStable Flagged where
  calls := fun _ _ flagged => flagged
  record := fun _ _ _ => rfl

/-- A check keeps the invariant and raises ordinary faults only. -/
def Checks {Value : Type} (invariant : CheckState → Prop) (check : Check Value) : Prop :=
  Keeps invariant (fun fault state => invariant state ∧ Ordinary fault) check

section Checks

variable {invariant : CheckState → Prop} (stable : CheckStable invariant)
variable (env : Environment) (kss : KeySetState) (now : UnixTime)
variable (nameservers : List NameserverConnectionDetails) (tsigStore : TsigKeyStore)

theorem unreachable_checks {Value : Type} :
    Checks invariant (panic unreachableCode : Check Value) :=
  keeps_throw fun _ holds => ⟨holds, ordinary_panic (by decide) (by decide)⟩

include stable

theorem consult_checks {Value : Type} {step : Step Value} (raises : Raises Ordinary step) :
    Checks invariant (consult step) :=
  (preserves_zoom fun state calls holds => stable.calls state calls holds).raises
    (raises_zoom raises)

theorem record_checks (change : ReportState → ReportState) :
    Checks invariant (record change) :=
  keeps_modify fun state holds => stable.record state _ holds

theorem plainAction_checks (recorded : ReportState → Option AutoReportActionsResult)
    (store : AutoReportActionsResult → ReportState → ReportState)
    {check : Step AutoReportActionsResult} (raises : Raises Ordinary check) :
    Checks invariant (plainAction recorded store check now) := by
  have performed : Checks invariant (do
      let result ← consult check
      record (store result)
      return result) :=
    keeps_bind (consult_checks stable raises) fun _ =>
      keeps_bind (record_checks stable _) fun _ => keeps_pure _
  refine keeps_bind keeps_get fun state => ?_
  rcases recorded state.report with _ | ⟨ttl⟩ | ⟨waitUntil, notice⟩
  · exact performed
  · exact keeps_pure _
  · exact keeps_ite (fun _ => keeps_pure _) fun _ => performed

theorem dnskeyAction_checks : Checks invariant (dnskeyAction env kss now) :=
  plainAction_checks stable now _ _ (reportDnskeyPropagated_ordinary env kss now)

theorem dsAction_checks : Checks invariant (dsAction env kss now) := by
  refine plainAction_checks stable now _ _ ?_
  refine raises_bind (capture_ordinary (reportDsPropagated_ordinary env kss now))
    fun result => ?_
  cases result with
  | ok result => exact raises_pure _
  | error reason => exact raises_pure _

theorem checkWholeZone_checks :
    Checks invariant (checkWholeZone env kss now nameservers tsigStore) :=
  keeps_bind (consult_checks stable
      (capture_ordinary (reportRrsigPropagated_ordinary env kss now nameservers tsigStore)))
    fun _ => keeps_bind (record_checks stable _) fun _ => keeps_pure _

/-- Trying again either records a result or goes on. -/
theorem retry_checks {Value : Type} {check : Step Unit} (raises : Raises Ordinary check)
    {failed : String → Check Value} {succeeded : Check Value}
    (fails : ∀ reason, Checks invariant (failed reason))
    (succeeds : Checks invariant succeeded) :
    Checks invariant (do
      let result ← consult (capture check)
      match result with
      | .error reason => failed reason
      | .ok _ => succeeded) := by
  refine keeps_bind (consult_checks stable (capture_ordinary raises)) fun result => ?_
  cases result with
  | error reason => exact fails reason
  | ok value => exact succeeds

theorem rrsigReportAction_checks :
    Checks invariant (rrsigReportAction env kss now nameservers tsigStore) := by
  have wholeZone : Checks invariant (do
      let result ← checkWholeZone env kss now nameservers tsigStore
      return result.toReport) :=
    keeps_bind (checkWholeZone_checks stable env kss now nameservers tsigStore) fun _ =>
      keeps_pure _
  have recorded : ∀ (change : ReportState → ReportState) (result : AutoReportActionsResult),
      Checks invariant (do record change; return result) := fun _ _ =>
    keeps_bind (record_checks stable _) fun _ => keeps_pure _
  refine keeps_bind keeps_get fun state => ?_
  rcases state.report.rrsig with _ | (_ | _ | _ | _ | _)
  · exact wholeZone
  · exact keeps_pure _
  · exact keeps_ite (fun _ => keeps_pure _) fun _ => wholeZone
  · exact keeps_ite (fun _ => keeps_pure _) fun _ =>
      retry_checks stable (checkSoa_ordinary env _ _ _) (fun _ => recorded _ _) (recorded _ _)
  · exact keeps_ite (fun _ => keeps_pure _) fun _ =>
      retry_checks stable (checkRecord_ordinary env _ _ _) (fun _ => recorded _ _) wholeZone
  · exact keeps_ite (fun _ => keeps_pure _) fun _ =>
      retry_checks stable (checkNextSerial_ordinary env _ _) (fun _ => recorded _ _) wholeZone

theorem rrsigWaitAction_checks :
    Checks invariant (rrsigWaitAction env kss now nameservers tsigStore) := by
  have wholeZone : Checks invariant (do
      let result ← checkWholeZone env kss now nameservers tsigStore
      return result.toReport.toActions) :=
    keeps_bind (checkWholeZone_checks stable env kss now nameservers tsigStore) fun _ =>
      keeps_pure _
  have recorded : ∀ (change : ReportState → ReportState) (result : AutoActionsResult),
      Checks invariant (do record change; return result) := fun _ _ =>
    keeps_bind (record_checks stable _) fun _ => keeps_pure _
  refine keeps_bind keeps_get fun state => ?_
  rcases state.report.rrsig with _ | (_ | _ | _ | _ | _)
  · exact wholeZone
  · exact keeps_pure _
  · exact keeps_ite (fun _ => keeps_pure _) fun _ => wholeZone
  · exact keeps_ite (fun _ => keeps_pure _) fun _ =>
      retry_checks stable (checkSoa_ordinary env _ _ _) (fun _ => recorded _ _) (recorded _ _)
  · exact keeps_ite (fun _ => keeps_pure _) fun _ =>
      retry_checks stable (checkRecord_ordinary env _ _ _) (fun _ => recorded _ _) wholeZone
  · exact keeps_ite (fun _ => keeps_pure _) fun _ =>
      retry_checks stable (checkNextSerial_ordinary env _ _) (fun _ => recorded _ _) wholeZone

theorem reportEach_checks (actions : List Action) (maxTtl : Ttl) :
    Checks invariant (reportEach env kss now nameservers tsigStore actions maxTtl) := by
  induction actions generalizing maxTtl with
  | nil => exact keeps_pure _
  | cons action actions induction =>
      have next : ∀ {check : Check AutoReportActionsResult}, Checks invariant check →
          Checks invariant
            (thenReport (reportEach env kss now nameservers tsigStore actions) maxTtl check) := by
        intro check checked
        refine keeps_bind checked fun result => ?_
        cases result with
        | wait waitUntil notice => exact keeps_pure _
        | report ttl => exact induction _
      cases action with
      | reportDnskeyPropagated => exact next (dnskeyAction_checks stable env kss now)
      | reportDsPropagated => exact next (dsAction_checks stable env kss now)
      | reportRrsigPropagated =>
          exact next (rrsigReportAction_checks stable env kss now nameservers tsigStore)
      | waitDnskeyPropagated => exact unreachable_checks
      | waitDsPropagated => exact unreachable_checks
      | waitRrsigPropagated => exact unreachable_checks
      | _ => exact induction maxTtl

theorem autoReportActions_checks (actions : List Action) :
    Checks invariant (autoReportActions env kss now nameservers tsigStore actions) := by
  refine keeps_bind ?_ fun _ => reportEach_checks stable env kss now nameservers tsigStore _ 0
  exact keeps_ite (fun _ => keeps_pure _) fun _ =>
    keeps_throw fun _ holds => ⟨holds, ordinary_panic (by decide) (by decide)⟩

theorem autoWaitActions_checks (actions : List Action) :
    Checks invariant (autoWaitActions env kss now nameservers tsigStore actions) := by
  induction actions with
  | nil => exact keeps_pure _
  | cons action actions induction =>
      have next : ∀ {check : Check AutoActionsResult}, Checks invariant check →
          Checks invariant
            (thenWait (autoWaitActions env kss now nameservers tsigStore actions) check) := by
        intro check checked
        refine keeps_bind checked fun result => ?_
        cases result with
        | wait waitUntil => exact keeps_pure _
        | ok => exact induction
      have plain : ∀ {check : Check AutoReportActionsResult}, Checks invariant check →
          Checks invariant (do
            let result ← check
            return result.toActions) := fun checked =>
        keeps_bind checked fun _ => keeps_pure _
      cases action with
      | waitDnskeyPropagated => exact next (plain (dnskeyAction_checks stable env kss now))
      | waitDsPropagated => exact next (plain (dsAction_checks stable env kss now))
      | waitRrsigPropagated =>
          exact next (rrsigWaitAction_checks stable env kss now nameservers tsigStore)
      | reportDnskeyPropagated => exact unreachable_checks
      | reportDsPropagated => exact unreachable_checks
      | reportRrsigPropagated => exact unreachable_checks
      | _ => exact induction

end Checks

/-! ## Computations without changes of their own -/

section Combinators

variable {invariant : WorkSpace → Prop} {failed : Fault → WorkSpace → Prop}

theorem onlyIf_keeps {condition : Bool} {action : Run Unit}
    (keeps : Keeps invariant failed action) :
    Keeps invariant failed (onlyIf condition action) :=
  keeps_ite (fun _ => keeps) fun _ => keeps_pure _

theorem eachRoll_keeps {step : RollType → Run Unit}
    (steps : ∀ roll, Keeps invariant failed (step roll)) (rolls : List RollType) :
    Keeps invariant failed (eachRoll rolls step) := by
  induction rolls with
  | nil => exact keeps_pure _
  | cons roll rolls induction => exact keeps_bind (steps roll) fun _ => induction

theorem perform_counts (counts : CallStable invariant) {Value : Type} (step : Step Value) :
    Preserves invariant (perform step) :=
  preserves_zoom fun ws calls holds => counts ws calls holds

end Combinators

section Stable

variable {env : Environment} {invariant : WorkSpace → Prop}
variable (stable : Stable env invariant)

include stable

theorem perform_preserves {Value : Type} (step : Step Value) :
    Preserves invariant (perform step) :=
  perform_counts stable.calls step

theorem onRoll_preserves (message : String → String)
    {operation : KeySet → Except KeySetError (List Action × KeySet)}
    (changes : ∀ keyset actions next, operation keyset = .ok (actions, next) →
      KeySetChange env none keyset next) :
    Preserves invariant (onRoll message operation) := by
  refine preserves_of_final fun ws holds => ?_
  unfold onRoll
  rw [exec_bind_of_ok (exec_get ws)]
  cases outcome : operation ws.state.keyset with
  | error reason => exact holds
  | ok result =>
      rcases result with ⟨actions, keyset⟩
      exact stable ws _ holds (.keySet (changes _ _ _ outcome))

theorem doDone_preserves (roll : RollType) : Preserves invariant (doDone env roll) := by
  refine keeps_bind (perform_preserves stable _) fun now => ?_
  refine keeps_bind (onRoll_preserves stable _ fun _ _ _ => .rollDone) fun actions => ?_
  refine keeps_bind (keeps_ite (fun _ => preserves_throw _) fun _ => keeps_pure _) fun _ => ?_
  refine keeps_bind (keeps_modify fun ws holds => stable ws _ holds (.cdsRemoved ws))
    fun _ => ?_
  exact keeps_modify fun ws holds => stable ws _ holds (.internal ws _)

theorem markStateChanged_preserves : Preserves invariant markStateChanged :=
  keeps_modify fun ws holds => stable ws _ holds (.stateChanged ws)

end Stable

/-! ## Routine changes -/

/-- Ordinary faults are put up with. -/
structure Tolerant (invariant : WorkSpace → Prop) (failed : Fault → WorkSpace → Prop) :
    Prop where
  fails : ∀ fault ws, Ordinary fault → invariant ws → failed fault ws
  calls : CallStable invariant

theorem CallStable.tolerant {invariant : WorkSpace → Prop} (counts : CallStable invariant) :
    Tolerant invariant fun _ => invariant :=
  ⟨fun _ _ _ holds => holds, counts⟩

/-- The signed RRsets can be rebuilt. -/
structure Signing (env : Environment) (invariant : WorkSpace → Prop)
    (failed : Fault → WorkSpace → Prop) : Prop extends Tolerant invariant failed where
  dnskeyRrset : ∀ ws records calls final, invariant ws →
    exec (dnskeyRrset env ws) calls = (.ok records, final) →
    invariant { ws with state.dnskeyRrset := records }
  cdsRrset : ∀ ws records calls final, invariant ws →
    exec (cdsRrset env ws) calls = (.ok records, final) →
    invariant { ws with state.cdsRrset := records }

/-- The actions of a roll leave an invariant alone. -/
structure Rebuilding (env : Environment) (invariant : WorkSpace → Prop)
    (failed : Fault → WorkSpace → Prop) : Prop extends Signing env invariant failed where
  runUpdateDsCommand : ∀ ws, invariant ws → invariant { ws with runUpdateDsCommand := true }
  cdsRemoved : ∀ ws, invariant ws → invariant { ws with state.cdsRrset := [] }
  /-- The update-ds command is going to announce the new DS RRset. -/
  dsRrset : ∀ ws records calls final, invariant ws → ws.runUpdateDsCommand = true →
    exec (dsRrset env ws) calls = (.ok records, final) →
    invariant { ws with state.dsRrset := records }

/-- What the checks of a roll in its current state make of its entry. -/
inductive Recorded (env : Environment) (now : UnixTime) (ws : WorkSpace) (roll : RollType)
    (before : RollStateReports) : RollStateReports → Prop
  | propagation1 :
      ws.state.keyset.rollstates roll = some .propagation1 →
      Recorded env now ws roll before (before.setPropagation1
        (exec (autoReportActions env ws.state now ws.config.nameservers ws.tsigStore
          (env.keySet.actions roll ws.state.keyset))
          ⟨before.propagation1, ws.stateChanged, ws.calls⟩).2.report)
  | propagation2 :
      ws.state.keyset.rollstates roll = some .propagation2 →
      Recorded env now ws roll before (before.setPropagation2
        (exec (autoReportActions env ws.state now ws.config.nameservers ws.tsigStore
          (env.keySet.actions roll ws.state.keyset))
          ⟨before.propagation2, ws.stateChanged, ws.calls⟩).2.report)
  | done :
      ws.state.keyset.rollstates roll = some .done →
      Recorded env now ws roll before (before.setDone
        (exec (autoWaitActions env ws.state now ws.config.nameservers ws.tsigStore
          (env.keySet.actions roll ws.state.keyset))
          ⟨before.done, ws.stateChanged, ws.calls⟩).2.report)

/-- The workspace with another entry for a roll. -/
def WorkSpace.withEntry (ws : WorkSpace) (roll : RollType) (reports : RollStateReports) :
    WorkSpace :=
  { ws with state.internal := Function.update ws.state.internal roll (some reports) }

/-- The invariant survives the results of checks in this workspace. -/
def RecordingAt (env : Environment) (invariant : WorkSpace → Prop) (now : UnixTime)
    (roll : RollType) (ws : WorkSpace) : Prop :=
  ∀ before after, ws.state.internal roll = some before →
    Recorded env now ws roll before after → invariant (ws.withEntry roll after)

/-- The results of checks leave an invariant alone. -/
def Recording (env : Environment) (invariant : WorkSpace → Prop) : Prop :=
  ∀ now roll ws, invariant ws → RecordingAt env invariant now roll ws

/-- Changes outside of the actions of a roll leave an invariant alone. -/
structure Editing (env : Environment) (invariant : WorkSpace → Prop)
    (failed : Fault → WorkSpace → Prop) : Prop extends Tolerant invariant failed where
  stateChanged : ∀ ws, invariant ws → invariant { ws with stateChanged := true }
  keySet : ∀ ws keyset, invariant ws → PlainChange env ws.state.keyset keyset →
    invariant { ws with state.keyset := keyset }
  cronNext : ∀ ws cronNext, invariant ws → invariant { ws with state.cronNext := cronNext }
  relabeled : ∀ ws serverId, invariant ws →
    invariant { ws with state.kmip := disableRelabeling serverId ws.state.kmip }
  /-- An entry is looked up and not found. -/
  entry : ∀ ws roll fault other, invariant ws →
    (ws.state.keyset.rollstates roll).isSome → ws.state.internal roll = none →
    invariant other → failed fault other

/-- The steps of a roll keep the invariant as a whole, with the actions they ask for. -/
structure Stepping (env : Environment) (invariant : WorkSpace → Prop)
    (failed : Fault → WorkSpace → Prop) : Prop
    extends Signing env invariant failed, Editing env invariant failed where
  act : ∀ roll actions keyset ws, invariant ws →
    StepChange env roll actions ws.state.keyset keyset →
    Triple (fun state => state = ws) (do
      setKeySet keyset
      handleActions env actions
      markStateChanged) (fun _ => invariant) failed
  done : ∀ roll, Keeps invariant failed (do doDone env roll; markStateChanged)

/-- What a step of a roll establishes, after an invariant that holds up to it. -/
structure Acting (env : Environment) (invariant after : WorkSpace → Prop)
    (failed : Fault → WorkSpace → Prop) : Prop extends Tolerant invariant failed where
  act : ∀ roll actions keyset ws, invariant ws →
    StepChange env roll actions ws.state.keyset keyset →
    Triple (fun state => state = ws) (do
      setKeySet keyset
      handleActions env actions
      markStateChanged) (fun _ => after) failed
  done : ∀ roll, Triple invariant (do doDone env roll; markStateChanged) (fun _ => after)
    failed
  idle : ∀ ws, invariant ws → after ws

theorem Stepping.acting {env : Environment} {invariant : WorkSpace → Prop}
    {failed : Fault → WorkSpace → Prop} (stepping : Stepping env invariant failed) :
    Acting env invariant invariant failed where
  toTolerant := stepping.toTolerant
  act := stepping.act
  done := stepping.done
  idle := fun _ holds => holds

/-- The changes that leave an invariant alone. The end of a roll only has to keep the
invariant as a whole. -/
structure Routine (env : Environment) (invariant : WorkSpace → Prop)
    (failed : Fault → WorkSpace → Prop) : Prop
    extends Rebuilding env invariant failed, Editing env invariant failed where
  done : ∀ roll, Keeps invariant failed (do doDone env roll; markStateChanged)

/-- Rebuilding the DS RRset without running the update-ds command is harmless too. -/
def SilentDs (env : Environment) (invariant : WorkSpace → Prop) : Prop :=
  ∀ ws records calls final, invariant ws →
    exec (dsRrset env ws) calls = (.ok records, final) →
    invariant { ws with state.dsRrset := records }

theorem Stable.silentDs {env : Environment} {invariant : WorkSpace → Prop}
    (stable : Stable env invariant) : SilentDs env invariant :=
  fun ws _ _ _ holds run => stable ws _ holds (.dsRrset run)

/-- An invariant that survives every elementary change. -/
theorem Stable.routine {env : Environment} {invariant : WorkSpace → Prop}
    (stable : Stable env invariant) :
    Routine env invariant fun _ => invariant where
  fails := fun _ _ _ holds => holds
  calls := stable.calls
  stateChanged := fun ws holds => stable ws _ holds (.stateChanged ws)
  runUpdateDsCommand := fun ws holds => stable ws _ holds (.runUpdateDsCommand ws)
  keySet := fun ws _ holds change => stable ws _ holds (.keySet (.plain change))
  dnskeyRrset := fun ws _ _ _ holds run => stable ws _ holds (.dnskeyRrset run)
  cdsRrset := fun ws _ _ _ holds run => stable ws _ holds (.cdsRrset run)
  cdsRemoved := fun ws holds => stable ws _ holds (.cdsRemoved ws)
  dsRrset := fun ws _ _ _ holds _ run => stable ws _ holds (.dsRrset run)
  cronNext := fun ws _ holds => stable ws _ holds (.cronNext ws _)
  relabeled := fun ws _ holds => stable ws _ holds (.kmip ws _)
  entry := fun _ _ _ _ _ _ _ after => after
  done := fun roll => keeps_bind (doDone_preserves stable roll) fun _ =>
    markStateChanged_preserves stable

theorem Stable.recording {env : Environment} {invariant : WorkSpace → Prop}
    (stable : Stable env invariant) : Recording env invariant :=
  fun _ _ ws holds _ _ _ _ => stable ws _ holds (.internal ws _)

section Tolerant

variable {invariant : WorkSpace → Prop} {failed : Fault → WorkSpace → Prop}
variable (tolerant : Tolerant invariant failed)

include tolerant

theorem bail_keeps {Value : Type} (message : String) :
    Keeps invariant failed (bail message : Run Value) :=
  keeps_throw fun ws holds => tolerant.fails _ ws (ordinary_error message) holds

theorem refuseIf_keeps (condition : Bool) (message : String) :
    Keeps invariant failed (refuseIf condition message : Run Unit) :=
  keeps_ite (fun _ => bail_keeps tolerant message) fun _ => keeps_pure _

theorem assert_keeps {message : String} (ordinary : Ordinary (.panic message))
    (condition : Bool) : Keeps invariant failed (assert condition message : Run Unit) :=
  keeps_ite (fun _ => keeps_pure _) fun _ =>
    keeps_throw fun ws holds => tolerant.fails _ ws ordinary holds

theorem mapErr_keeps {Value : Type} (message : String → String)
    (result : Except String Value) :
    Keeps invariant failed (mapErr message result : Run Value) := by
  cases result with
  | ok value => exact keeps_pure _
  | error reason => exact bail_keeps tolerant _

theorem toGenerateParams_keeps (parameters : KeyParameters) :
    Keeps invariant failed (parameters.toGenerateParams : Run GenerateParams) := by
  have tooLong : Keeps invariant failed (panic bitsDoNotFit : Run GenerateParams) :=
    keeps_throw fun ws holds =>
      tolerant.fails _ ws (ordinary_expectMessage _ (by decide) (by decide)) holds
  cases parameters with
  | rsaSha256 bits => exact keeps_ite (fun _ => keeps_pure _) fun _ => tooLong
  | rsaSha512 bits => exact keeps_ite (fun _ => keeps_pure _) fun _ => tooLong
  | ecdsaP256Sha256 => exact keeps_pure _
  | ecdsaP384Sha384 => exact keeps_pure _
  | ed25519 => exact keeps_pure _
  | ed448 => exact keeps_pure _

theorem algorithmRollNeeded_keeps : Keeps invariant failed algorithmRollNeeded :=
  keeps_bind keeps_get fun _ =>
    keeps_bind (toGenerateParams_keeps tolerant _) fun _ => keeps_pure _

theorem parseReference_keeps (env : Environment) (ending reference : String) :
    Keeps invariant failed (parseReference env ending reference : Run Url) :=
  mapErr_keeps tolerant _ _

theorem perform_keeps {Value : Type} {step : Step Value} (raises : Raises Ordinary step) :
    Keeps invariant failed (perform step) :=
  triple_weaken ((perform_counts tolerant.calls step).raises (raises_zoom raises))
    (fun _ holds => holds) (fun _ _ holds => holds)
    (fun fault ws after => tolerant.fails fault ws after.2 after.1)

/-- Rebuilding an RRset with the records for the current key set. -/
theorem rebuild_triple {known : WorkSpace → Prop}
    {records : WorkSpace → Step (List Record)} {store : WorkSpace → List Record → WorkSpace}
    (raises : ∀ ws, Raises Ordinary (records ws))
    (changes : ∀ ws calls built final, invariant ws → known ws →
      exec (records ws) calls = (.ok built, final) →
      invariant (store { ws with calls := final } built)) :
    Triple (fun ws => invariant ws ∧ known ws) (do
      let ws ← get
      let built ← perform (records ws)
      modify fun ws => store ws built) (fun _ => invariant) failed := by
  refine triple_read fun ws holds => ?_
  have building : Triple (fun state => state = ws) (perform (records ws))
      (fun built state => invariant (store state built)) failed := by
    refine triple_of_runs ?_ ?_
    · rintro state built final rfl run
      rcases exec_perform_eq_ok run with ⟨calls, returned, rfl⟩
      exact changes _ _ _ _ holds.1 holds.2 returned
    · rintro state fault final rfl run
      exact Triple.error (perform_keeps tolerant (raises _)) holds.1 run
  exact triple_bind building fun built => triple_modify fun _ after => after

theorem rebuild_keeps {records : WorkSpace → Step (List Record)}
    {store : WorkSpace → List Record → WorkSpace}
    (raises : ∀ ws, Raises Ordinary (records ws))
    (changes : ∀ ws calls built final, invariant ws →
      exec (records ws) calls = (.ok built, final) →
      invariant (store { ws with calls := final } built)) :
    Keeps invariant failed (do
      let ws ← get
      let built ← perform (records ws)
      modify fun ws => store ws built) := by
  have rebuilt := @rebuild_triple invariant failed tolerant (fun _ => True) records store
    raises fun ws calls built final holds _ run => changes ws calls built final holds run
  exact triple_weaken rebuilt (fun _ holds => ⟨holds, trivial⟩) (fun _ _ after => after)
    (fun _ _ after => after)

/-- The end of a roll, from the workspace that it leaves. -/
theorem doDone_triple {env : Environment} {after : WorkSpace → Prop} (roll : RollType)
    (refuses : ∀ ws now actions keyset message, invariant ws →
      env.keySet.rollDone now roll ws.state.keyset = .ok (actions, keyset) →
      failed (.error message) { ws with state.keyset := keyset })
    (ends : ∀ ws now actions keyset, invariant ws →
      env.keySet.rollDone now roll ws.state.keyset = .ok (actions, keyset) →
      after { ws with
        state.keyset := keyset
        state.cdsRrset := []
        state.internal := Function.update ws.state.internal roll none }) :
    Triple invariant (doDone env roll) (fun _ => after) failed := by
  refine triple_bind (perform_keeps tolerant (wallClock_ordinary env)) fun now => ?_
  unfold onRoll
  rw [bind_assoc]
  refine triple_read fun ws holds => ?_
  rcases outcome : env.keySet.rollDone now roll ws.state.keyset with reason | ⟨actions, keyset⟩
  · refine triple_throw ?_
    rintro _ rfl
    exact tolerant.fails _ _ (ordinary_error _) holds
  · rintro state rfl
    cases actions with
    | nil => exact ends state now [] keyset holds outcome
    | cons action actions => exact refuses state now _ keyset _ holds outcome

end Tolerant

section Signing

variable {env : Environment} {invariant : WorkSpace → Prop}
variable {failed : Fault → WorkSpace → Prop}
variable (signing : Signing env invariant failed)

include signing

theorem updateDnskeyRrset_keeps : Keeps invariant failed (updateDnskeyRrset env) :=
  rebuild_keeps signing.toTolerant (dnskeyRrset_ordinary env) fun ws _ built final holds run =>
    signing.dnskeyRrset { ws with calls := final } built _ _ (signing.calls ws final holds) run

theorem createCdsRrset_keeps : Keeps invariant failed (createCdsRrset env) :=
  rebuild_keeps signing.toTolerant (cdsRrset_ordinary env) fun ws _ built final holds run =>
    signing.cdsRrset { ws with calls := final } built _ _ (signing.calls ws final holds) run

/-- The DS RRset is rebuilt without running the update-ds command. -/
theorem updateDsRrset_keeps (silent : SilentDs env invariant) :
    Keeps invariant failed (updateDsRrset env) :=
  rebuild_keeps signing.toTolerant (dsRrset_ordinary env) fun ws _ built final holds run =>
    silent { ws with calls := final } built _ _ (signing.calls ws final holds) run

theorem refreshRrsets_keeps (silent : SilentDs env invariant) :
    Keeps invariant failed (refreshRrsets env) := by
  refine keeps_bind keeps_get fun ws => ?_
  refine keeps_bind (onlyIf_keeps (updateDnskeyRrset_keeps signing)) fun _ => ?_
  refine keeps_bind keeps_get fun ws => ?_
  refine keeps_bind (onlyIf_keeps (updateDsRrset_keeps signing silent)) fun _ => ?_
  refine keeps_bind keeps_get fun ws => ?_
  exact onlyIf_keeps (createCdsRrset_keeps signing)

end Signing

section Rebuilding

variable {env : Environment} {invariant : WorkSpace → Prop}
variable {failed : Fault → WorkSpace → Prop}
variable (rebuilding : Rebuilding env invariant failed)

include rebuilding

theorem removeCdsRrset_keeps : Keeps invariant failed removeCdsRrset :=
  keeps_modify rebuilding.cdsRemoved

theorem handleAction_keeps (action : Action) :
    Keeps invariant failed (handleAction env action) := by
  cases action with
  | updateDnskeyRrset => exact updateDnskeyRrset_keeps rebuilding.toSigning
  | createCdsRrset => exact createCdsRrset_keeps rebuilding.toSigning
  | removeCdsRrset => exact removeCdsRrset_keeps rebuilding
  | updateDsRrset =>
      have announced : Triple invariant
          (modify fun ws => { ws with runUpdateDsCommand := true } : Run Unit)
          (fun _ ws => invariant ws ∧ ws.runUpdateDsCommand = true) failed :=
        triple_modify fun ws holds => ⟨rebuilding.runUpdateDsCommand ws holds, rfl⟩
      refine triple_bind announced fun _ => rebuild_triple rebuilding.toTolerant (dsRrset_ordinary env) ?_
      intro ws calls built final holds announced run
      exact rebuilding.dsRrset { ws with calls := final } built _ _
        (rebuilding.calls ws final holds) announced run
  | updateRrsig => exact keeps_pure _
  | reportDnskeyPropagated => exact keeps_pure _
  | reportDsPropagated => exact keeps_pure _
  | reportRrsigPropagated => exact keeps_pure _
  | waitDnskeyPropagated => exact keeps_pure _
  | waitDsPropagated => exact keeps_pure _
  | waitRrsigPropagated => exact keeps_pure _

theorem handleActions_keeps (actions : List Action) :
    Keeps invariant failed (handleActions env actions) := by
  induction actions with
  | nil => exact keeps_pure _
  | cons action actions induction =>
      exact keeps_bind (handleAction_keeps rebuilding action) fun _ => induction

end Rebuilding

section Editing

variable {env : Environment} {invariant : WorkSpace → Prop}
variable {failed : Fault → WorkSpace → Prop}
variable (editing : Editing env invariant failed)

include editing

theorem markStateChanged_keeps : Keeps invariant failed markStateChanged :=
  keeps_modify editing.stateChanged

/-! ### The key set -/

theorem onKeySet_keeps (message : String → String)
    {operation : KeySet → Except KeySetError KeySet}
    (changes : ∀ keyset next, operation keyset = .ok next → PlainChange env keyset next) :
    Keeps invariant failed (onKeySet message operation) := by
  refine triple_read fun ws holds => ?_
  cases outcome : operation ws.state.keyset with
  | error reason =>
      refine triple_throw ?_
      rintro state rfl
      exact editing.fails _ _ (ordinary_error _) holds
  | ok keyset =>
      refine triple_modify ?_
      rintro state rfl
      exact editing.keySet _ _ holds (changes _ _ outcome)

theorem expectKeySet_keeps {message : String}
    (ordinary : ∀ reason, Ordinary (.panic (expectMessage message reason)))
    {operation : KeySet → Except KeySetError KeySet}
    (changes : ∀ keyset next, operation keyset = .ok next → PlainChange env keyset next) :
    Keeps invariant failed (expectKeySet message operation) := by
  refine triple_read fun ws holds => ?_
  cases outcome : operation ws.state.keyset with
  | error reason =>
      refine triple_throw ?_
      rintro state rfl
      exact editing.fails _ _ (ordinary _) holds
  | ok keyset =>
      refine triple_modify ?_
      rintro state rfl
      exact editing.keySet _ _ holds (changes _ _ outcome)

/-! ### Keys -/

omit editing in
theorem shouldNotHappen_ordinary (reason : String) :
    Ordinary (.panic (expectMessage "should not happen" reason)) :=
  ordinary_expectMessage reason (by decide) (by decide)

omit editing in
theorem shouldNotFail_ordinary (reason : String) :
    Ordinary (.panic (expectMessage "should not fail" reason)) :=
  ordinary_expectMessage reason (by decide) (by decide)

theorem importKeyCommand_keeps (subcommand : ImportKeyCommands) (keyVariant : KeyVariant) :
    Keeps invariant failed (importKeyCommand env subcommand keyVariant) := by
  have changed := @expectKeySet_keeps env invariant failed editing "should not happen"
    shouldNotHappen_ordinary
  refine keeps_bind keeps_get fun ws => ?_
  refine keeps_bind (perform_keeps editing.toTolerant (faketimeOrNow_ordinary env _)) fun now => ?_
  refine keeps_bind_yields (perform_keeps editing.toTolerant (resolve_ordinary env ws subcommand))
    (yields_zoom (resolve_origin env ws subcommand)) fun key origin => ?_
  refine keeps_bind (onKeySet_keeps editing _ fun _ _ => .addKey origin) fun _ => ?_
  refine keeps_bind (changed fun _ _ => .setPresent) fun _ => ?_
  refine keeps_bind (changed fun _ _ => .setVisible) fun _ => ?_
  refine keeps_bind (changed fun _ _ => .setSigner) fun _ => ?_
  refine keeps_bind (changed fun _ _ => .setDecoupled) fun _ => ?_
  refine keeps_bind (onlyIf_keeps ?_) fun _ => ?_
  · exact keeps_bind (changed fun _ _ => .setAtParent) fun _ => changed fun _ _ => .setDsVisible
  · exact onlyIf_keeps (changed fun _ _ => .setRrsigVisible)

theorem importPublicKey_keeps (path : String) (now : UnixTime) :
    Keeps invariant failed (importPublicKey env path now) := by
  have changed := @expectKeySet_keeps env invariant failed editing "should not happen"
    shouldNotHappen_ordinary
  refine keeps_bind keeps_get fun ws => ?_
  refine keeps_bind (perform_keeps editing.toTolerant (readPublicKeyFile_ordinary env _ _)) fun read => ?_
  refine keeps_bind (perform_keeps editing.toTolerant (makeAbsolute_ordinary env _)) fun publicPath => ?_
  refine keeps_bind (onKeySet_keeps editing _ fun _ _ =>
    .addPublicKey (.publicOnly publicPath)) fun _ => ?_
  exact keeps_bind (changed fun _ _ => .setPresent) fun _ => changed fun _ _ => .setVisible

theorem forgetKey_keeps (key : String) (force : Bool) :
    Keeps invariant failed (forgetKey env key force) :=
  keeps_bind (onlyIf_keeps (expectKeySet_keeps editing shouldNotFail_ordinary fun _ _ =>
    .setStale)) fun _ => onKeySet_keeps editing _ fun _ _ => .deleteKey

theorem importCommand_keeps (signing : Signing env invariant failed)
    (silent : SilentDs env invariant) (subcommand : ImportCommands) :
    Keeps invariant failed (importCommand env subcommand) := by
  refine keeps_bind keeps_get fun ws => ?_
  refine keeps_bind (perform_keeps editing.toTolerant (faketimeOrNow_ordinary env _)) fun now => ?_
  have rest : ∀ _ : PUnit, Keeps invariant failed (do
      markStateChanged
      refreshRrsets env) := fun _ =>
    keeps_bind (markStateChanged_keeps editing) fun _ => refreshRrsets_keeps signing silent
  cases subcommand with
  | publicKey path => exact keeps_bind (importPublicKey_keeps editing path now) rest
  | ksk subcommand => exact keeps_bind (importKeyCommand_keeps editing _ _) rest
  | zsk subcommand => exact keeps_bind (importKeyCommand_keeps editing _ _) rest
  | csk subcommand => exact keeps_bind (importKeyCommand_keeps editing _ _) rest

/-! ### Automatic steps -/

omit editing in
/-- The flag is raised or left alone. -/
theorem raiseFlag (raises : ∀ ws, invariant ws → invariant { ws with stateChanged := true })
    {ws : WorkSpace} {flag : Bool} (holds : invariant ws)
    (keeps : ws.stateChanged = true → flag = true) :
    invariant { ws with stateChanged := flag } := by
  cases flag with
  | true => exact raises ws holds
  | false =>
      have lowered : ws.stateChanged = false := by
        cases flag : ws.stateChanged with
        | false => rfl
        | true => exact absurd (keeps flag) (by decide)
      rw [← lowered]
      exact holds

/-- Checks are performed on the entry of a roll in progress. -/
theorem withReport_triple {Value : Type} (roll : RollType)
    (select : RollStateReports → ReportState)
    (put : RollStateReports → ReportState → RollStateReports)
    {check : WorkSpace → Check Value} {ws : WorkSpace} (holds : invariant ws)
    (inProgress : (ws.state.keyset.rollstates roll).isSome)
    (checks : ∀ {invariant : CheckState → Prop}, CheckStable invariant →
      Checks invariant (check ws))
    (records : ∀ before, ws.state.internal roll = some before →
      invariant (ws.withEntry roll (put before
        (exec (check ws) ⟨select before, ws.stateChanged, ws.calls⟩).2.report))) :
    Triple (fun state => state = ws) (withReport roll select put check) (fun _ => invariant)
      failed := by
  rintro state rfl
  cases entry : state.state.internal roll with
  | none =>
      have missing : exec (withReport roll select put check) state =
          (.error (.panic noEntry), state) := by
        unfold withReport
        rw [exec_bind_of_ok (exec_get state)]
        simp only [entry]
        rfl
      rw [missing]
      exact editing.entry state roll _ state holds inProgress entry holds
  | some reports =>
      rw [exec_withReport roll select put check state reports entry]
      let start : CheckState := ⟨select reports, state.stateChanged, state.calls⟩
      have keepsFlag : state.stateChanged = true →
          (exec (check state) start).2.stateChanged = true := by
        intro before
        have flagged : Preserves Flagged (check state) :=
          triple_weaken (checks flagged_stable) (fun _ holds => holds)
            (fun _ _ holds => holds) (fun _ _ after => after.1)
        exact flagged.final before
      have counted := editing.calls _ (exec (check state) start).2.calls (records reports entry)
      have after := raiseFlag editing.stateChanged counted keepsFlag
      have always : CheckStable fun _ => True := ⟨fun _ _ _ => trivial, fun _ _ _ => trivial⟩
      rcases run : exec (check state) start with ⟨fault | value, final⟩
      · rw [run] at after
        have ordinary := (Triple.error (checks always) trivial run).2
        exact editing.fails fault _ ordinary after
      · rw [run] at after
        exact after

end Editing

section Routine

variable {env : Environment} {invariant : WorkSpace → Prop}
variable {failed : Fault → WorkSpace → Prop}
variable (routine : Routine env invariant failed)

include routine

theorem Routine.stepping : Stepping env invariant failed where
  toEditing := routine.toEditing
  dnskeyRrset := routine.dnskeyRrset
  cdsRrset := routine.cdsRrset
  act := by
    intro roll actions keyset ws holds change
    have moved : Triple (fun state => state = ws) (setKeySet keyset) (fun _ => invariant)
        failed := by
      refine triple_modify ?_
      rintro _ rfl
      exact routine.keySet _ keyset holds change.plain
    exact triple_bind moved fun _ =>
      keeps_bind (handleActions_keeps routine.toRebuilding actions) fun _ =>
        markStateChanged_keeps routine.toEditing
  done := routine.done

end Routine

/-! ### Steps of a roll -/

section Acting

variable {env : Environment} {invariant after : WorkSpace → Prop}
variable {failed : Fault → WorkSpace → Prop}
variable (acting : Acting env invariant after failed)

include acting

theorem rollStep_triple (message : String → String) (roll : RollType)
    {operation : UnixTime → KeySet → Except KeySetError (List Action × KeySet)}
    (changes : ∀ now keyset actions next, operation now keyset = .ok (actions, next) →
      StepChange env roll actions keyset next) :
    Triple invariant (rollStep env message operation) (fun _ => after) failed := by
  refine triple_bind (perform_keeps acting.toTolerant (wallClock_ordinary env)) fun now => ?_
  unfold onRoll
  rw [bind_assoc]
  refine triple_read fun ws holds => ?_
  rcases outcome : operation now ws.state.keyset with reason | ⟨actions, keyset⟩
  · refine triple_throw ?_
    rintro _ rfl
    exact acting.fails _ _ (ordinary_error _) holds
  · exact acting.act roll actions keyset ws holds (changes now _ _ _ outcome)

theorem stepOnRoll_triple (roll : RollType) (command : RollCommands) :
    Triple invariant (stepOnRoll env roll command) (fun _ => after) failed := by
  cases command with
  | startRoll => exact triple_pure acting.idle
  | propagation1Complete ttl =>
      exact rollStep_triple acting _ roll fun _ _ _ _ => .propagation1Complete
  | cacheExpired1 => exact rollStep_triple acting _ roll fun _ _ _ _ => .cacheExpired1
  | propagation2Complete ttl =>
      exact rollStep_triple acting _ roll fun _ _ _ _ => .propagation2Complete
  | cacheExpired2 => exact rollStep_triple acting _ roll fun _ _ _ _ => .cacheExpired2
  | rollDone => exact acting.done roll

end Acting

end Dnst.Keyset
