import Dnst.Keyset.Reference
import Dnst.Keyset.Runs

/-! # Cron before `cron_next`

`Dormant` says of a configuration and a state that no test of cron fires. The
entries from which `cron_next` is computed are later than the present only if
the state is dormant, and cron leaves a dormant state alone. The signatures are
the exception: the two sides read their expiration differently.
-/

namespace Dnst.Keyset

open Effect

/-! ## Checks whose result is known -/

def Action.isReport : Action → Bool
  | .reportDnskeyPropagated => true
  | .reportDsPropagated => true
  | .reportRrsigPropagated => true
  | _ => false

def Action.isWait : Action → Bool
  | .waitDnskeyPropagated => true
  | .waitDsPropagated => true
  | .waitRrsigPropagated => true
  | _ => false

/-- A recorded result that does not have to be checked again. -/
def AutoReportActionsResult.Current (now : UnixTime) : AutoReportActionsResult → Prop
  | .report _ => True
  | .wait waitUntil _ => now < waitUntil

section Known

variable {env : Environment} {kss : KeySetState} {now : UnixTime}
variable {nameservers : List NameserverConnectionDetails} {tsigStore : TsigKeyStore}
variable {state : CheckState} {result : AutoReportActionsResult}

theorem exec_plainAction_current {recorded : ReportState → Option AutoReportActionsResult}
    {store : AutoReportActionsResult → ReportState → ReportState}
    {check : Step AutoReportActionsResult} (known : recorded state.report = some result)
    (current : result.Current now) :
    exec (plainAction recorded store check now) state = (.ok result, state) := by
  unfold plainAction
  rw [exec_bind_of_ok (exec_get state)]
  simp only [known]
  cases result with
  | report ttl => rfl
  | wait waitUntil notice =>
      have waits : now < waitUntil := current
      simp only [waits, if_true]
      rfl

theorem exec_rrsigReportAction_current
    (known : state.report.rrsig.map AutoReportRrsigResult.toReport = some result)
    (current : result.Current now) :
    exec (rrsigReportAction env kss now nameservers tsigStore) state =
      (.ok result, state) := by
  unfold rrsigReportAction
  rw [exec_bind_of_ok (exec_get state)]
  rcases recorded : state.report.rrsig with _ | found
  · rw [recorded] at known
    cases known
  · rw [recorded] at known
    cases known
    cases found with
    | report ttl => rfl
    | _ =>
        have waits : now < _ := current
        simp only [waits, if_true]
        rfl

theorem exec_rrsigWaitAction_current
    (known : state.report.rrsig.map AutoReportRrsigResult.toReport = some result)
    (current : result.Current now) :
    exec (rrsigWaitAction env kss now nameservers tsigStore) state =
      (.ok result.toActions, state) := by
  unfold rrsigWaitAction
  rw [exec_bind_of_ok (exec_get state)]
  rcases recorded : state.report.rrsig with _ | found
  · rw [recorded] at known
    cases known
  · rw [recorded] at known
    cases known
    cases found with
    | report ttl => rfl
    | _ =>
        have waits : now < _ := current
        simp only [waits, if_true]
        rfl

end Known

/-! ## A check that waits -/

/-- The first action without a report waits for a later time. -/
def Pending (now : UnixTime) (report : ReportState) : List Action → Prop
  | [] => False
  | action :: actions =>
      match action.status report with
      | none => Pending now report actions
      | some (some (.report _)) => Pending now report actions
      | some (some (.wait waitUntil _)) => now < waitUntil
      | some none => False

/-- What `cron_next` records of the checks is later than the present only when a
check waits. -/
theorem pending_of_nextCheck {start now : UnixTime} (later : start ≤ now)
    {report : ReportState} {actions : List Action}
    (waits : now < nextCheck start (checkAutoActions start report actions)) :
    Pending now report actions := by
  induction actions with
  | nil =>
      have ready : now < start := waits
      exact absurd later (Nat.not_le.mpr ready)
  | cons action actions induction =>
      unfold Pending
      unfold checkAutoActions at waits
      rcases status : action.status report with _ | _ | ⟨ttl⟩ | ⟨waitUntil, notice⟩
      · rw [status] at waits
        exact induction waits
      · rw [status] at waits
        have unchecked : now < start := waits
        exact absurd later (Nat.not_le.mpr unchecked)
      · rw [status] at waits
        exact induction waits
      · rw [status] at waits
        exact waits

section Waiting

variable {env : Environment} {kss : KeySetState} {now : UnixTime}
variable {nameservers : List NameserverConnectionDetails} {tsigStore : TsigKeyStore}

/-- While a check waits `auto_report_actions` only reads what is recorded. -/
theorem reportEach_pending {actions : List Action} {state : CheckState}
    (noWaits : ∀ action, action ∈ actions → action.isWait = false)
    (pending : Pending now state.report actions) (maxTtl : Ttl) :
    ∃ waitUntil notice,
      exec (reportEach env kss now nameservers tsigStore actions maxTtl) state =
        (.ok (.wait waitUntil notice), state) := by
  induction actions generalizing maxTtl with
  | nil => exact absurd pending (by simp [Pending])
  | cons action actions induction =>
      have rest := induction fun other member => noWaits other (by simp [member])
      -- An action with a recorded result either goes on or ends the loop.
      have next : ∀ {check : Check AutoReportActionsResult},
          (∀ result, action.status state.report = some (some result) → result.Current now →
            exec check state = (.ok result, state)) →
          (action.status state.report).isSome →
          ∃ waitUntil notice,
            exec (thenReport (reportEach env kss now nameservers tsigStore actions) maxTtl check)
                state =
              (.ok (.wait waitUntil notice), state) := by
        intro check known checks
        unfold Pending at pending
        unfold thenReport
        rcases status : action.status state.report with _ | _ | ⟨ttl⟩ | ⟨waitUntil, notice⟩
        · rw [status] at checks
          cases checks
        · rw [status] at pending
          exact pending.elim
        · rw [status] at pending
          rw [exec_bind_of_ok (known _ status trivial)]
          exact rest pending _
        · rw [status] at pending
          rw [exec_bind_of_ok (known _ status pending)]
          exact ⟨waitUntil, notice, rfl⟩
      have skip : action.status state.report = none →
          Pending now state.report actions := by
        intro status
        unfold Pending at pending
        rw [status] at pending
        exact pending
      cases action with
      | reportDnskeyPropagated =>
          refine next (fun result status current => ?_) rfl
          exact exec_plainAction_current (Option.some.inj status) current
      | reportDsPropagated =>
          refine next (fun result status current => ?_) rfl
          exact exec_plainAction_current (Option.some.inj status) current
      | reportRrsigPropagated =>
          refine next (fun result status current => ?_) rfl
          exact exec_rrsigReportAction_current (Option.some.inj status) current
      | waitDnskeyPropagated => exact absurd (noWaits .waitDnskeyPropagated (by simp)) (by decide)
      | waitDsPropagated => exact absurd (noWaits .waitDsPropagated (by simp)) (by decide)
      | waitRrsigPropagated => exact absurd (noWaits .waitRrsigPropagated (by simp)) (by decide)
      | _ => exact rest (skip rfl) maxTtl

theorem autoReportActions_pending {actions : List Action} {state : CheckState}
    (noWaits : ∀ action, action ∈ actions → action.isWait = false)
    (pending : Pending now state.report actions) :
    ∃ waitUntil notice,
      exec (autoReportActions env kss now nameservers tsigStore actions) state =
        (.ok (.wait waitUntil notice), state) := by
  cases actions with
  | nil => exact absurd pending (by simp [Pending])
  | cons action actions => exact reportEach_pending noWaits pending 0

/-- While a check waits `auto_wait_actions` only reads what is recorded. -/
theorem autoWaitActions_pending {actions : List Action} {state : CheckState}
    (noReports : ∀ action, action ∈ actions → action.isReport = false)
    (pending : Pending now state.report actions) :
    ∃ waitUntil,
      exec (autoWaitActions env kss now nameservers tsigStore actions) state =
        (.ok (.wait waitUntil), state) := by
  induction actions with
  | nil => exact absurd pending (by simp [Pending])
  | cons action actions induction =>
      have rest := induction fun other member => noReports other (by simp [member])
      have next : ∀ {check : Check AutoActionsResult},
          (∀ result, action.status state.report = some (some result) → result.Current now →
            exec check state = (.ok result.toActions, state)) →
          (action.status state.report).isSome →
          ∃ waitUntil,
            exec (thenWait (autoWaitActions env kss now nameservers tsigStore actions) check)
                state =
              (.ok (.wait waitUntil), state) := by
        intro check known checks
        unfold Pending at pending
        unfold thenWait
        rcases status : action.status state.report with _ | _ | ⟨ttl⟩ | ⟨waitUntil, notice⟩
        · rw [status] at checks
          cases checks
        · rw [status] at pending
          exact pending.elim
        · rw [status] at pending
          rw [exec_bind_of_ok (known _ status trivial)]
          exact rest pending
        · rw [status] at pending
          rw [exec_bind_of_ok (known _ status pending)]
          exact ⟨waitUntil, rfl⟩
      have plain : ∀ {check : Check AutoReportActionsResult} {result : AutoReportActionsResult},
          exec check state = (.ok result, state) →
          exec (do
            let result ← check
            return result.toActions) state = (.ok result.toActions, state) := by
        intro check result run
        rw [exec_bind_of_ok run]
        rfl
      have skip : action.status state.report = none →
          Pending now state.report actions := by
        intro status
        unfold Pending at pending
        rw [status] at pending
        exact pending
      cases action with
      | waitDnskeyPropagated =>
          refine next (fun result status current => plain ?_) rfl
          exact exec_plainAction_current (Option.some.inj status) current
      | waitDsPropagated =>
          refine next (fun result status current => plain ?_) rfl
          exact exec_plainAction_current (Option.some.inj status) current
      | waitRrsigPropagated =>
          refine next (fun result status current => ?_) rfl
          exact exec_rrsigWaitAction_current (Option.some.inj status) current
      | reportDnskeyPropagated =>
          exact absurd (noReports .reportDnskeyPropagated (by simp)) (by decide)
      | reportDsPropagated => exact absurd (noReports .reportDsPropagated (by simp)) (by decide)
      | reportRrsigPropagated =>
          exact absurd (noReports .reportRrsigPropagated (by simp)) (by decide)
      | _ => exact rest (skip rfl)

end Waiting

/-! ## Computations that leave everything alone -/

/-- Every clock of the invocation shows this time. -/
structure ConsistentClock (env : Environment) (config : KeySetConfig) (now : UnixTime) :
    Prop where
  clock : ∀ call, env.clock call = now
  faketime : ∀ time, config.faketime = some time → time = now

/-- The computation only reads the clock: it changes nothing and does not depend
on what name servers would answer. -/
def Idle (env : Environment) (action : Environment → Run Unit) (ws : WorkSpace) : Prop :=
  ∃ readings, ∀ network calls,
    exec (action { env with network }) { ws with calls } =
      (.ok ⟨⟩, { ws with calls := calls + readings })

section Idle

variable {env : Environment} {ws : WorkSpace} {now : UnixTime}

theorem idle_pure : Idle env (fun _ => pure ⟨⟩) ws := ⟨0, fun _ _ => rfl⟩

theorem idle_bind {first second : Environment → Run Unit} (firstIdle : Idle env first ws)
    (secondIdle : Idle env second ws) :
    Idle env (fun env => do first env; second env) ws := by
  rcases firstIdle with ⟨readings, runs⟩
  rcases secondIdle with ⟨others, rest⟩
  refine ⟨readings + others, fun network calls => ?_⟩
  rw [exec_bind_of_ok (runs network calls), rest network, Nat.add_assoc]

theorem idle_get {next : Environment → WorkSpace → Run Unit}
    (ignoresCalls : ∀ env calls, next env { ws with calls } = next env ws)
    (idle : Idle env (fun env => next env ws) ws) :
    Idle env (fun env => get >>= next env) ws := by
  rcases idle with ⟨readings, runs⟩
  refine ⟨readings, fun network calls => ?_⟩
  rw [exec_bind_of_ok (exec_get _), ignoresCalls]
  exact runs network calls

/-- One more reading of the clock. -/
theorem idle_reading {step : Environment → Step UnixTime}
    {next : Environment → UnixTime → Run Unit}
    (shows : ∀ network calls, exec (step { env with network }) calls = (.ok now, calls + 1))
    (idle : Idle env (fun env => next env now) ws) :
    Idle env (fun env => perform (step env) >>= next env) ws := by
  rcases idle with ⟨readings, runs⟩
  refine ⟨1 + readings, fun network calls => ?_⟩
  have reads : exec (perform (step { env with network })) { ws with calls } =
      (.ok now, { ws with calls := calls + 1 }) := by
    rw [exec_perform, shows network calls]
  rw [exec_bind_of_ok reads, runs network, Nat.add_assoc]

theorem exec_faketimeOrNow {config : KeySetConfig} (clock : ConsistentClock env config now)
    (network : Network) (calls : Nat) :
    exec (faketimeOrNow { env with network } config) calls = (.ok now, calls + 1) := by
  have shown : config.faketime.getD (env.clock calls) = now := by
    cases faked : config.faketime with
    | none => exact clock.clock calls
    | some time => exact clock.faketime time faked
  rw [← shown]
  rfl

theorem exec_wallClock {config : KeySetConfig} (clock : ConsistentClock env config now)
    (network : Network) (calls : Nat) :
    exec (wallClock { env with network }) calls = (.ok now, calls + 1) := by
  rw [← clock.clock calls]
  rfl

theorem idle_onlyIf {condition : Bool} {action : Environment → Run Unit}
    (idle : condition = true → Idle env action ws) :
    Idle env (fun env => onlyIf condition (action env)) ws := by
  cases condition with
  | true => exact idle rfl
  | false => exact idle_pure

theorem idle_eachRoll {step : Environment → RollType → Run Unit} {rolls : List RollType}
    (idle : ∀ roll, roll ∈ rolls → Idle env (fun env => step env roll) ws) :
    Idle env (fun env => eachRoll rolls (step env)) ws := by
  induction rolls with
  | nil => exact idle_pure
  | cons roll rolls induction =>
      exact idle_bind (idle roll (by simp)) (induction fun other member => idle other (by simp [member]))

end Idle

/-! ## States in which no test of cron fires -/

/-- No entry of the schedule is due. -/
def Later (now : UnixTime) (entries : List (Option UnixTime)) : Prop :=
  ∀ time, some time ∈ entries → now < time

theorem later_append {now : UnixTime} {left right : List (Option UnixTime)} :
    Later now (left ++ right) ↔ Later now left ∧ Later now right := by
  constructor
  · intro later
    exact ⟨fun time member => later time (List.mem_append_left right member),
      fun time member => later time (List.mem_append_right left member)⟩
  · rintro ⟨leftLater, rightLater⟩ time member
    rcases List.mem_append.mp member with inLeft | inRight
    · exact leftLater time inLeft
    · exact rightLater time inRight

theorem Later.mono {now : UnixTime} {part whole : List (Option UnixTime)}
    (later : Later now whole) (sub : part ⊆ whole) : Later now part :=
  fun time member => later time (sub member)

/-- No propagation step of the roll has to be checked. -/
def ReportDormant (platform : Platform) (state : KeySetState) (now : UnixTime)
    (roll : RollType) : Prop :=
  ∀ step, state.keyset.rollstates roll = some step →
    ∃ reports, state.internal roll = some reports ∧
      (step = .propagation1 → Pending now reports.propagation1
        (platform.keySet.actions roll state.keyset)) ∧
      (step = .propagation2 → Pending now reports.propagation2
        (platform.keySet.actions roll state.keyset))

/-- The caches that the roll waits for have not expired. -/
structure ExpireDormant (platform : Platform) (keyset : KeySet) (now : UnixTime)
    (roll : RollType) : Prop where
  first : ∀ ttl, keyset.rollstates roll = some (.cacheExpire1 ttl) →
    ∃ remaining, platform.keySet.cacheExpired1 now roll keyset = .error (.wait remaining)
  second : ∀ ttl, keyset.rollstates roll = some (.cacheExpire2 ttl) →
    ∃ remaining, platform.keySet.cacheExpired2 now roll keyset = .error (.wait remaining)

/-- The end of the roll has to wait. -/
def DoneDormant (platform : Platform) (state : KeySetState) (now : UnixTime)
    (roll : RollType) : Prop :=
  state.keyset.rollstates roll = some .done →
    ∃ reports, state.internal roll = some reports ∧
      Pending now reports.done (platform.keySet.actions roll state.keyset)

structure RollsDormant (platform : Platform) (state : KeySetState) (now : UnixTime)
    (auto : AutoConfig) (rolls : List RollType) : Prop where
  report : auto.report = true → ∀ roll, roll ∈ rolls → ReportDormant platform state now roll
  expire : auto.expire = true → ∀ roll, roll ∈ rolls →
    ExpireDormant platform state.keyset now roll
  done : auto.done = true → ∀ roll, roll ∈ rolls → DoneDormant platform state now roll

/-- No stale key can be removed yet. -/
def RemovalsDormant (keyset : KeySet) (delay : Duration) (now : UnixTime) : Prop :=
  ∀ pubref key, (pubref, key) ∈ keyset.keys → key.keytype.mainState.stale = true →
    ∃ withdrawn, key.timestamps.withdrawn = some withdrawn ∧ now < withdrawn + delay

/-- Whether `algorithmRollNeeded` returns this. -/
def NeedIs (config : KeySetConfig) (keyset : KeySet) (need : Bool) : Prop :=
  ∀ ws : WorkSpace, ws.config = config → ws.state.keyset = keyset →
    exec algorithmRollNeeded ws = (.ok need, ws)

/-- No test of cron fires, those of the signatures apart. -/
structure Dormant (platform : Platform) (config : KeySetConfig) (state : KeySetState)
    (now : UnixTime) : Prop where
  starts : ∃ need, NeedIs config state.keyset need ∧
    Later now (cronNextStarts state config need)
  ksk : RollsDormant platform state now config.autoKsk kskRolls
  zsk : RollsDormant platform state now config.autoZsk zskRolls
  csk : RollsDormant platform state now config.autoCsk [.cskRoll]
  algorithm : RollsDormant platform state now config.autoAlgorithm [.algorithmRoll]
  removals : config.autoremove = true →
    RemovalsDormant state.keyset config.autoremoveDelay now

/-- What keyset relies on: a roll that has to wait for caches says for how long,
a propagation step is not mixed with actions that only wait, and the Done state
does not report. -/
structure ScheduleLaws (platform : Platform) : Prop where
  cacheExpired1 : ∀ start now roll keyset remaining,
    platform.keySet.cacheExpired1 start roll keyset = .error (.wait remaining) →
    start ≤ now → now < start + remaining →
    ∃ others, platform.keySet.cacheExpired1 now roll keyset = .error (.wait others)
  cacheExpired2 : ∀ start now roll keyset remaining,
    platform.keySet.cacheExpired2 start roll keyset = .error (.wait remaining) →
    start ≤ now → now < start + remaining →
    ∃ others, platform.keySet.cacheExpired2 now roll keyset = .error (.wait others)
  reports : ∀ roll keyset, keyset.rollstates roll = some .propagation1 ∨
      keyset.rollstates roll = some .propagation2 →
    ∀ action, action ∈ platform.keySet.actions roll keyset → action.isWait = false
  waits : ∀ roll keyset, keyset.rollstates roll = some .done →
    ∀ action, action ∈ platform.keySet.actions roll keyset → action.isReport = false
  /-- `to_system_time` returns the instant that is closest to the reference. -/
  toSystemTime : ∀ timestamp reference, ∃ era : Int,
    platform.toSystemTime timestamp reference =
        ((timestamp : Int) + era * 2 ^ 32) * (nanosPerSec : Int) ∧
      platform.toSystemTime timestamp reference ≤
        ((asSecs reference : Int) + 2 ^ 31) * (nanosPerSec : Int)

/-! ## The schedule is later only for a dormant state -/

section Schedule

variable {platform : Platform} {start now : UnixTime}

theorem reportDormant_of_cronNext {state : KeySetState} {roll : RollType}
    (since : start ≤ now) {ws final : WorkSpace} {entries : List (Option UnixTime)}
    (run : exec (cronNextReport platform state start roll) ws = (.ok entries, final))
    (later : Later now entries) : ReportDormant platform state now roll := by
  intro step running
  unfold cronNextReport at run
  rw [running] at run
  rcases known : state.internal roll with _ | reports
  · simp only [known] at run
    cases run
  · simp only [known] at run
    refine ⟨reports, rfl, ?_, ?_⟩
    · rintro rfl
      cases run
      exact pending_of_nextCheck since (later _ (by simp))
    · rintro rfl
      cases run
      exact pending_of_nextCheck since (later _ (by simp))

theorem doneDormant_of_cronNext {state : KeySetState} {roll : RollType}
    (since : start ≤ now) {ws final : WorkSpace} {entries : List (Option UnixTime)}
    (run : exec (cronNextDone platform state start roll) ws = (.ok entries, final))
    (later : Later now entries) : DoneDormant platform state now roll := by
  intro running
  unfold cronNextDone at run
  rw [running] at run
  rcases known : state.internal roll with _ | reports
  · simp only [known] at run
    cases run
  · simp only [known] at run
    cases run
    exact ⟨reports, rfl, pending_of_nextCheck since (later _ (by simp))⟩

/-- Each roll contributes its own entries. -/
theorem entriesOfRolls_spec {entries : RollType → Run (List (Option UnixTime))}
    {rolls : List RollType} {ws final : WorkSpace} {all : List (Option UnixTime)}
    (run : exec (entriesOfRolls entries rolls) ws = (.ok all, final)) {roll : RollType}
    (member : roll ∈ rolls) :
    ∃ before own after, exec (entries roll) before = (.ok own, after) ∧ own ⊆ all := by
  induction rolls generalizing ws all with
  | nil => cases member
  | cons other rolls induction =>
      rcases exec_bind_eq_ok.mp run with ⟨own, middle, first, rest⟩
      rcases exec_bind_eq_ok.mp rest with ⟨others, last, later, finish⟩
      cases finish
      rcases List.mem_cons.mp member with rfl | inRest
      · exact ⟨ws, own, middle, first, List.subset_append_left own others⟩
      · rcases induction later inRest with ⟨before, own', after, run', sub⟩
        exact ⟨before, own', after, run', fun _ found => List.mem_append_right own (sub found)⟩

theorem entriesIf_spec {condition : Bool} {entries : Run (List (Option UnixTime))}
    {ws final : WorkSpace} {all : List (Option UnixTime)}
    (run : exec (entriesIf condition entries) ws = (.ok all, final))
    (enabled : condition = true) : exec entries ws = (.ok all, final) := by
  subst enabled
  exact run

/-- A roll whose caches have expired puts the present into the schedule, so the
key set that is passed on stays the same. -/
theorem expireDormant_of_cronNext (laws : ScheduleLaws platform) (since : start ≤ now)
    {roll : RollType} {keyset moved : KeySet} {ws final : WorkSpace}
    {entries : List (Option UnixTime)}
    (run : exec (cronNextExpire platform start start roll keyset) ws =
      (.ok (entries, moved), final))
    (later : Later now entries) :
    moved = keyset ∧ ExpireDormant platform keyset now roll := by
  unfold cronNextExpire at run
  dsimp only at run
  split at run
  · next ttl state =>
      have other : ∀ {value}, keyset.rollstates roll = some (.cacheExpire2 value) → False := by
        intro value same
        rw [state] at same
        cases same
      rcases outcome : platform.keySet.cacheExpired1 start roll keyset with
        ⟨remaining | message⟩ | ⟨actions, next⟩
      · rw [outcome] at run
        cases run
        refine ⟨rfl, fun _ _ => ?_, fun _ same => (other same).elim⟩
        exact laws.cacheExpired1 start now roll keyset remaining outcome since
          (later _ (by simp))
      · rw [outcome] at run
        cases run
      · rw [outcome] at run
        cases run
        exact absurd since (Nat.not_le.mpr (later _ (by simp)))
  · next ttl state =>
      have other : ∀ {value}, keyset.rollstates roll = some (.cacheExpire1 value) → False := by
        intro value same
        rw [state] at same
        cases same
      rcases outcome : platform.keySet.cacheExpired2 start roll keyset with
        ⟨remaining | message⟩ | ⟨actions, next⟩
      · rw [outcome] at run
        cases run
        refine ⟨rfl, fun _ same => (other same).elim, fun _ _ => ?_⟩
        exact laws.cacheExpired2 start now roll keyset remaining outcome since
          (later _ (by simp))
      · rw [outcome] at run
        cases run
      · rw [outcome] at run
        cases run
        exact absurd since (Nat.not_le.mpr (later _ (by simp)))
  · next first second =>
      cases run
      exact ⟨rfl, fun ttl same => absurd same (first ttl), fun ttl same => absurd same (second ttl)⟩

end Schedule

section Entries

variable {env : Environment} {start now : UnixTime}

theorem expireDormant_of_cronNexts (laws : ScheduleLaws env.toPlatform) (since : start ≤ now)
    (clock : ∀ call, env.clock call = start) {rolls : List RollType} {keyset : KeySet}
    {ws final : WorkSpace} {all : List (Option UnixTime)}
    (run : exec (cronNextExpires env start rolls keyset) ws = (.ok all, final))
    (later : Later now all) {roll : RollType} (member : roll ∈ rolls) :
    ExpireDormant env.toPlatform keyset now roll := by
  induction rolls generalizing keyset ws all with
  | nil => cases member
  | cons other rolls induction =>
      have reads : exec (perform (wallClock env)) ws =
          (.ok start, { ws with calls := ws.calls + 1 }) := by
        rw [← clock ws.calls]
        rfl
      unfold cronNextExpires at run
      rw [exec_bind_of_ok reads] at run
      rcases exec_bind_eq_ok.mp run with ⟨⟨own, moved⟩, middle, first, rest⟩
      rcases exec_bind_eq_ok.mp rest with ⟨others, last, following, finish⟩
      cases finish
      rcases later_append.mp later with ⟨ownLater, othersLater⟩
      have dormant := expireDormant_of_cronNext laws since first ownLater
      rcases List.mem_cons.mp member with rfl | inRest
      · exact dormant.2
      · have rest := induction following othersLater inRest
        rw [dormant.1] at rest
        exact rest

/-- All clocks that the schedule is computed with. -/
theorem rollsDormant_of_cronNext (laws : ScheduleLaws env.toPlatform) (since : start ≤ now)
    {state : KeySetState} {auto : AutoConfig} {rolls : List RollType} {ws final : WorkSpace}
    (clock : ConsistentClock env ws.config start) {all : List (Option UnixTime)}
    (run : exec (cronNextAutoReportExpireDone env state auto rolls) ws = (.ok all, final))
    (later : Later now all) : RollsDormant env.toPlatform state now auto rolls := by
  unfold cronNextAutoReportExpireDone at run
  rw [exec_bind_of_ok (exec_get ws)] at run
  rcases exec_bind_eq_ok.mp run with ⟨time, ticked, read, rest⟩
  rw [exec_perform, exec_faketimeOrNow clock env.network] at read
  cases read
  rcases exec_bind_eq_ok.mp rest with ⟨reports, reported, reporting, rest⟩
  rcases exec_bind_eq_ok.mp rest with ⟨expires, expired, expiring, rest⟩
  rcases exec_bind_eq_ok.mp rest with ⟨dones, ended, ending, finish⟩
  cases finish
  simp only [later_append] at later
  rcases later with ⟨⟨reportsLater, expiresLater⟩, donesLater⟩
  refine ⟨fun enabled roll member => ?_, fun enabled roll member => ?_,
    fun enabled roll member => ?_⟩
  · rcases entriesOfRolls_spec (entriesIf_spec reporting enabled) member with
      ⟨before, own, after, own_run, sub⟩
    exact reportDormant_of_cronNext since own_run (reportsLater.mono sub)
  · exact expireDormant_of_cronNexts laws since clock.clock (entriesIf_spec expiring enabled)
      expiresLater member
  · rcases entriesOfRolls_spec (entriesIf_spec ending enabled) member with
      ⟨before, own, after, own_run, sub⟩
    exact doneDormant_of_cronNext since own_run (donesLater.mono sub)

theorem removalsDormant_of_cronNext {keyset : KeySet} {delay : Duration}
    {ws final : WorkSpace} {all : List (Option UnixTime)}
    (run : exec (removalTimes delay keyset.keys : Run _) ws = (.ok all, final))
    (later : Later now all) : RemovalsDormant keyset delay now := by
  intro pubref key member stale
  generalize keyset.keys = keys at run member
  induction keys generalizing all ws with
  | nil => cases member
  | cons entry keys induction =>
      unfold removalTimes at run
      by_cases isStale : entry.2.keytype.mainState.stale = true
      · rw [if_pos isStale] at run
        rcases known : entry.2.timestamps.withdrawn with _ | withdrawn
        · simp only [known] at run
          cases run
        · simp only [known] at run
          rcases exec_bind_eq_ok.mp run with ⟨others, middle, rest, finish⟩
          cases finish
          rcases List.mem_cons.mp member with rfl | inRest
          · exact ⟨withdrawn, known, later _ (by simp)⟩
          · exact induction (later.mono (List.subset_cons_self _ _)) rest inRest
      · rw [if_neg isStale] at run
        rcases List.mem_cons.mp member with rfl | inRest
        · exact absurd stale isStale
        · exact induction later run inRest

end Entries

/-! ## The whole schedule -/

/-- Key parameters are converted in the same way in every state. -/
theorem toGenerateParams_ok {State : Type} {parameters : KeyParameters} {state final : State}
    {params : GenerateParams}
    (run : exec (parameters.toGenerateParams : Effect State Fault GenerateParams) state =
      (.ok params, final)) :
    final = state ∧ ∀ other : State,
      exec (parameters.toGenerateParams : Effect State Fault GenerateParams) other =
        (.ok params, other) := by
  cases parameters with
  | rsaSha256 bits =>
      unfold KeyParameters.toGenerateParams at run ⊢
      by_cases fits : bits < 2 ^ 32
      · simp only [fits, if_true] at run ⊢
        cases run
        exact ⟨rfl, fun _ => rfl⟩
      · simp only [fits, if_false] at run
        cases run
  | rsaSha512 bits =>
      unfold KeyParameters.toGenerateParams at run ⊢
      by_cases fits : bits < 2 ^ 32
      · simp only [fits, if_true] at run ⊢
        cases run
        exact ⟨rfl, fun _ => rfl⟩
      · simp only [fits, if_false] at run
        cases run
  | _ =>
      cases run
      exact ⟨rfl, fun _ => rfl⟩

/-- The answer depends on the algorithm and the keys only. -/
theorem need_of_run {ws final : WorkSpace} {need : Bool}
    (run : exec algorithmRollNeeded ws = (.ok need, final)) :
    final = ws ∧ NeedIs ws.config ws.state.keyset need := by
  unfold algorithmRollNeeded at run
  rw [exec_bind_of_ok (exec_get ws)] at run
  rcases exec_bind_eq_ok.mp run with ⟨params, middle, converted, finish⟩
  rcases toGenerateParams_ok converted with ⟨rfl, always⟩
  cases finish
  refine ⟨rfl, fun other sameConfig sameKeys => ?_⟩
  unfold algorithmRollNeeded
  rw [exec_bind_of_ok (exec_get other)]
  dsimp only
  rw [sameConfig, exec_bind_of_ok (always other), sameKeys]
  rfl

section Entries

variable {env : Environment} {start now : UnixTime}

theorem cronNextAutoReportExpireDone_config {state : KeySetState} {auto : AutoConfig}
    {rolls : List RollType} (config : KeySetConfig) :
    Preserves (fun ws => ws.config = config)
      (cronNextAutoReportExpireDone env state auto rolls) := by
  have counts : CallStable fun ws => ws.config = config := fun _ _ same => same
  exact cronNextAutoReportExpireDone_keeps counts.tolerant (fun _ _ _ _ _ after => after)
    auto rolls

/-- When no entry of the schedule is due, no test of cron fires. -/
theorem dormant_of_cronNextEntries (laws : ScheduleLaws env.toPlatform) (since : start ≤ now)
    {ws final : WorkSpace} (clock : ConsistentClock env ws.config start)
    {entries : List (Option UnixTime)}
    (run : exec (cronNextEntries env start) ws = (.ok entries, final))
    (later : Later now entries) :
    Dormant env.toPlatform ws.config ws.state now ∧
      Later now (cronNextSignatures env.toPlatform ws.state ws.config start) := by
  unfold cronNextEntries at run
  rw [exec_bind_of_ok (exec_get ws)] at run
  rcases exec_bind_eq_ok.mp run with ⟨need, needed, needRun, rest⟩
  rcases need_of_run needRun with ⟨rfl, needIs⟩
  rcases exec_bind_eq_ok.mp rest with ⟨ksk, afterKsk, kskRun, rest⟩
  rcases exec_bind_eq_ok.mp rest with ⟨zsk, afterZsk, zskRun, rest⟩
  rcases exec_bind_eq_ok.mp rest with ⟨csk, afterCsk, cskRun, rest⟩
  rcases exec_bind_eq_ok.mp rest with ⟨algorithm, afterAlgorithm, algorithmRun, rest⟩
  rcases exec_bind_eq_ok.mp rest with ⟨removals, afterRemovals, removalsRun, finish⟩
  cases finish
  have kskConfig := (cronNextAutoReportExpireDone_config needed.config).ok rfl kskRun
  have zskConfig := (cronNextAutoReportExpireDone_config needed.config).ok kskConfig zskRun
  have cskConfig := (cronNextAutoReportExpireDone_config needed.config).ok zskConfig cskRun
  simp only [later_append] at later
  rcases later with ⟨⟨⟨⟨⟨⟨signaturesLater, startsLater⟩, kskLater⟩, zskLater⟩, cskLater⟩,
    algorithmLater⟩, removalsLater⟩
  refine ⟨⟨⟨need, needIs, startsLater⟩, ?_, ?_, ?_, ?_, ?_⟩, signaturesLater⟩
  · exact rollsDormant_of_cronNext laws since clock kskRun kskLater
  · exact rollsDormant_of_cronNext laws since (kskConfig ▸ clock) zskRun zskLater
  · exact rollsDormant_of_cronNext laws since (zskConfig ▸ clock) cskRun cskLater
  · exact rollsDormant_of_cronNext laws since (cskConfig ▸ clock) algorithmRun algorithmLater
  · intro enabled
    exact removalsDormant_of_cronNext (entriesIf_spec removalsRun enabled) removalsLater

end Entries

/-! ## Cron leaves a dormant state alone -/

section Cron

variable {env : Environment} {ws : WorkSpace} {now : UnixTime}

theorem renewSignatures_idle {due : Bool} {renew : Environment → Run Unit}
    (notDue : due = false) : Idle env (fun env => renewSignatures due (renew env)) ws := by
  subst notDue
  exact idle_pure

theorem autoStart_idle (clock : ConsistentClock env ws.config now)
    {validity : Option Duration} {auto : AutoConfig} {conflictingRoll : RollType → Bool}
    {matchKeytype : KeyType → Option KeyState} {start : Environment → Run (List Action)}
    (later : Later now
      (cronNextAutoStart ws.state validity auto conflictingRoll matchKeytype)) :
    Idle env
      (fun env => autoStart env validity auto conflictingRoll matchKeytype (start env)) ws := by
  refine idle_get (fun _ _ => rfl) ?_
  refine idle_reading (exec_faketimeOrNow clock) ?_
  cases validity with
  | none => exact idle_pure
  | some validity =>
      unfold cronNextAutoStart at later
      dsimp only at later ⊢
      split at later
      · next enabled =>
          simp only [enabled, if_true]
          rcases expiry : earliestExpiry ws.state.keyset matchKeytype validity with _ | next
          · exact idle_pure
          · have notExpired : ¬next < now := by
              have waits : now < next := later next (by simp [expiry])
              exact Nat.not_lt.mpr (Nat.le_of_lt waits)
            simp only [notExpired, if_false]
            exact idle_pure
      · next disabled =>
          simp only [disabled]
          exact idle_pure

/-- Checks that record nothing leave the workspace as it was. -/
theorem exec_withReport_unchanged {Value : Type} {roll : RollType}
    {select : RollStateReports → ReportState}
    {put : RollStateReports → ReportState → RollStateReports}
    (same : ∀ reports, put reports (select reports) = reports)
    {check : WorkSpace → Check Value} {reports : RollStateReports} {value : Value}
    (entry : ws.state.internal roll = some reports)
    (run : exec (check ws) ⟨select reports, ws.stateChanged, ws.calls⟩ =
      (.ok value, ⟨select reports, ws.stateChanged, ws.calls⟩)) :
    exec (withReport roll select put check) ws = (.ok value, ws) := by
  rw [exec_withReport roll select put check ws reports entry, run]
  have unchanged : Function.update ws.state.internal roll (some reports) =
      ws.state.internal := by
    rw [← entry]
    exact Function.update_eq_self roll ws.state.internal
  simp only [same, unchanged]

theorem autoReport_idle (laws : ScheduleLaws env.toPlatform) {roll : RollType}
    (propagating : ws.state.keyset.rollstates roll = some .propagation1 ∨
      ws.state.keyset.rollstates roll = some .propagation2)
    {select : RollStateReports → ReportState}
    {put : RollStateReports → ReportState → RollStateReports}
    (same : ∀ reports, put reports (select reports) = reports)
    {complete : Environment → UnixTime → RollType → Ttl → KeySet →
      Except KeySetError (List Action × KeySet)} {reports : RollStateReports}
    (entry : ws.state.internal roll = some reports)
    (pending : Pending now (select reports) (env.keySet.actions roll ws.state.keyset)) :
    Idle env (fun env => autoReport env now roll select put (complete env)) ws := by
  refine ⟨0, fun network calls => ?_⟩
  have waits : ∃ waitUntil notice,
      exec (autoReportActions { env with network } ws.state now ws.config.nameservers
          ws.tsigStore (env.keySet.actions roll ws.state.keyset))
        ⟨select reports, ws.stateChanged, calls⟩ =
      (.ok (.wait waitUntil notice), ⟨select reports, ws.stateChanged, calls⟩) :=
    autoReportActions_pending (laws.reports roll ws.state.keyset propagating) pending
  rcases waits with ⟨waitUntil, notice, checked⟩
  have unchanged : exec (withReport roll select put fun ws =>
      autoReportActions { env with network } ws.state now ws.config.nameservers ws.tsigStore
        (env.keySet.actions roll ws.state.keyset)) { ws with calls } =
      (.ok (.wait waitUntil notice), { ws with calls }) :=
    exec_withReport_unchanged same entry checked
  unfold autoReport
  dsimp only
  rw [exec_bind_of_ok unchanged]
  rfl

theorem autoReportRoll_idle (laws : ScheduleLaws env.toPlatform) {roll : RollType}
    (dormant : ReportDormant env.toPlatform ws.state now roll) :
    Idle env (fun env => autoReportRoll env now roll) ws := by
  refine idle_get (fun _ _ => rfl) ?_
  rcases running : ws.state.keyset.rollstates roll with _ | step
  · exact idle_pure
  · rcases dormant step running with ⟨reports, entry, first, second⟩
    have present : (ws.state.internal roll).isSome = true := by
      rw [entry]
      rfl
    cases step with
    | propagation1 =>
        exact autoReport_idle laws (Or.inl running) (fun _ => rfl) entry (first rfl)
    | propagation2 =>
        exact autoReport_idle laws (Or.inr running) (fun _ => rfl) entry (second rfl)
    | _ =>
        simp only [present, if_true]
        exact idle_pure

theorem autoExpire_idle {config : KeySetConfig} (clock : ConsistentClock env config now)
    {roll : RollType} {message : String → String}
    {expired : Environment → UnixTime → RollType → KeySet →
      Except KeySetError (List Action × KeySet)} {remaining : Duration}
    (waits : ∀ network, expired { env with network } now roll ws.state.keyset =
      .error (.wait remaining)) :
    Idle env (fun env => autoExpire env roll message (expired env)) ws := by
  refine ⟨1, fun network calls => ?_⟩
  have reads : exec (perform (wallClock { env with network })) { ws with calls } =
      (.ok now, { ws with calls := calls + 1 }) := by
    rw [exec_perform, exec_wallClock clock network calls]
  unfold autoExpire
  dsimp only
  rw [exec_bind_of_ok reads, exec_bind_of_ok (exec_get _)]
  simp only [waits network]
  rfl

theorem autoExpireRoll_idle {config : KeySetConfig} (clock : ConsistentClock env config now)
    {roll : RollType} (dormant : ExpireDormant env.toPlatform ws.state.keyset now roll) :
    Idle env (fun env => autoExpireRoll env roll) ws := by
  refine idle_get (fun _ _ => rfl) ?_
  rcases running : ws.state.keyset.rollstates roll with _ | step
  · exact idle_pure
  · cases step with
    | cacheExpire1 ttl =>
        rcases dormant.first ttl running with ⟨remaining, waits⟩
        exact autoExpire_idle clock fun _ => waits
    | cacheExpire2 ttl =>
        rcases dormant.second ttl running with ⟨remaining, waits⟩
        exact autoExpire_idle clock fun _ => waits
    | _ => exact idle_pure

theorem autoDoneRoll_idle (laws : ScheduleLaws env.toPlatform) {roll : RollType}
    (dormant : DoneDormant env.toPlatform ws.state now roll) :
    Idle env (fun env => autoDoneRoll env now roll) ws := by
  refine idle_get (fun _ _ => rfl) ?_
  rcases running : ws.state.keyset.rollstates roll with _ | step
  · exact idle_pure
  · cases step with
    | done =>
        rcases dormant running with ⟨reports, entry, pending⟩
        refine ⟨0, fun network calls => ?_⟩
        have waits : ∃ waitUntil,
            exec (autoWaitActions { env with network } ws.state now ws.config.nameservers
                ws.tsigStore (env.keySet.actions roll ws.state.keyset))
              ⟨reports.done, ws.stateChanged, calls⟩ =
            (.ok (.wait waitUntil), ⟨reports.done, ws.stateChanged, calls⟩) :=
          autoWaitActions_pending (laws.waits roll ws.state.keyset running) pending
        rcases waits with ⟨waitUntil, checked⟩
        have unchanged : exec (withReport roll RollStateReports.done RollStateReports.setDone
            fun ws => autoWaitActions { env with network } ws.state now ws.config.nameservers
              ws.tsigStore (env.keySet.actions roll ws.state.keyset)) { ws with calls } =
            (.ok (.wait waitUntil), { ws with calls }) :=
          exec_withReport_unchanged (fun _ => rfl) entry checked
        dsimp only
        rw [exec_bind_of_ok unchanged]
        rfl
    | _ => exact idle_pure

theorem autoReportExpireDone_idle (laws : ScheduleLaws env.toPlatform)
    (clock : ConsistentClock env ws.config now) {auto : AutoConfig} {rolls : List RollType}
    (dormant : RollsDormant env.toPlatform ws.state now auto rolls) :
    Idle env (fun env => autoReportExpireDone env auto rolls) ws := by
  refine idle_get (fun _ _ => rfl) ?_
  refine idle_reading (exec_faketimeOrNow clock) ?_
  refine idle_bind (idle_onlyIf fun enabled => ?_)
    (idle_bind (idle_onlyIf fun enabled => ?_) (idle_onlyIf fun enabled => ?_))
  · exact idle_eachRoll fun roll member =>
      autoReportRoll_idle laws (dormant.report enabled roll member)
  · exact idle_eachRoll fun roll member =>
      autoExpireRoll_idle clock (dormant.expire enabled roll member)
  · exact idle_eachRoll fun roll member =>
      autoDoneRoll_idle laws (dormant.done enabled roll member)

theorem autoStartPhase_idle (clock : ConsistentClock env ws.config now) {need : Bool}
    (needIs : NeedIs ws.config ws.state.keyset need)
    (later : Later now (cronNextStarts ws.state ws.config need)) :
    Idle env (fun env => autoStartPhase env) ws := by
  have starts : Idle env (fun env => do
      let ws ← get
      let config := ws.config
      if config.useCsk || need then do
        autoStart env config.kskValidity (autoFull config need) anyRoll matchKsk
          (startFull env need)
        autoStart env config.zskValidity (autoFull config need) anyRoll matchZsk
          (startFull env need)
      else do
        autoStart env config.kskValidity config.autoKsk conflictsWithKsk matchKsk
          (startKskRoll env)
        autoStart env config.zskValidity config.autoZsk conflictsWithZsk matchZsk
          (startZskRoll env)
      autoStart env config.cskValidity (autoFull config need) anyRoll matchCsk
        (startFull env need)) ws := by
    rcases later_append.mp later with ⟨others, csk⟩
    refine idle_get (fun _ _ => rfl) ?_
    by_cases full : (ws.config.useCsk || need) = true
    · simp only [full, if_true] at others ⊢
      rcases later_append.mp others with ⟨ksk, zsk⟩
      exact idle_bind (autoStart_idle clock ksk)
        (idle_bind (autoStart_idle clock zsk) (autoStart_idle clock csk))
    · simp only [full] at others ⊢
      rcases later_append.mp others with ⟨ksk, zsk⟩
      exact idle_bind (autoStart_idle clock ksk)
        (idle_bind (autoStart_idle clock zsk) (autoStart_idle clock csk))
  rcases starts with ⟨readings, runs⟩
  refine ⟨readings, fun network calls => ?_⟩
  have needed : exec algorithmRollNeeded { ws with calls } = (.ok need, { ws with calls }) :=
    needIs _ rfl rfl
  unfold autoStartPhase
  dsimp only
  rw [exec_bind_of_ok needed]
  exact runs network calls

theorem autoReportExpireDonePhase_idle (laws : ScheduleLaws env.toPlatform)
    (clock : ConsistentClock env ws.config now)
    (dormant : Dormant env.toPlatform ws.config ws.state now) :
    Idle env (fun env => autoReportExpireDonePhase env) ws :=
  idle_get (fun _ _ => rfl) (idle_bind (autoReportExpireDone_idle laws clock dormant.ksk)
    (idle_bind (autoReportExpireDone_idle laws clock dormant.zsk)
      (idle_bind (autoReportExpireDone_idle laws clock dormant.csk)
        (autoReportExpireDone_idle laws clock dormant.algorithm))))

theorem exec_removableKeys_dormant {delay : Duration} {keyset : KeySet}
    (dormant : RemovalsDormant keyset delay now) (state : WorkSpace) :
    exec (removableKeys now delay keyset.keys) state = (.ok [], state) := by
  have each : ∀ pubref key, (pubref, key) ∈ keyset.keys →
      key.keytype.mainState.stale = true →
      ∃ withdrawn, key.timestamps.withdrawn = some withdrawn ∧ now < withdrawn + delay :=
    dormant
  generalize keyset.keys = keys at each ⊢
  induction keys with
  | nil => rfl
  | cons entry keys induction =>
      have rest := induction fun pubref key member => each pubref key (by simp [member])
      unfold removableKeys
      by_cases stale : entry.2.keytype.mainState.stale = true
      · rcases each entry.1 entry.2 (by simp) stale with ⟨withdrawn, known, waits⟩
        rw [if_pos stale]
        simp only [known]
        rw [exec_bind_of_ok rest, if_neg (Nat.not_le.mpr waits)]
        rfl
      · rw [if_neg stale]
        exact rest

theorem autoremovePhase_idle (clock : ConsistentClock env ws.config now)
    (dormant : ws.config.autoremove = true →
      RemovalsDormant ws.state.keyset ws.config.autoremoveDelay now) :
    Idle env (fun env => autoremovePhase env) ws := by
  refine idle_get (fun _ _ => rfl) ?_
  refine idle_reading (exec_faketimeOrNow clock) ?_
  refine idle_onlyIf fun enabled => ?_
  refine ⟨0, fun network calls => ?_⟩
  dsimp only
  rw [exec_bind_of_ok (exec_removableKeys_dormant (dormant enabled) _)]
  rfl

/-- Cron leaves a dormant state with valid signatures alone. -/
theorem cron_idle (laws : ScheduleLaws env.toPlatform)
    (clock : ConsistentClock env ws.config now)
    (dormant : Dormant env.toPlatform ws.config ws.state now)
    (dnskeyValid : sigRenew ws.state.dnskeyRrset ws.config.dnskeyRemainTime now = false)
    (cdsValid : sigRenew ws.state.cdsRrset ws.config.cdsRemainTime now = false) :
    Idle env (fun env => cron env now) ws := by
  rcases dormant.starts with ⟨need, needIs, later⟩
  have renewed : Idle env (fun env => renewPhase env now) ws :=
    idle_get (fun _ _ => rfl) (idle_bind (renewSignatures_idle dnskeyValid)
      (idle_get (fun _ _ => rfl) (renewSignatures_idle cdsValid)))
  exact idle_bind renewed (idle_bind (autoStartPhase_idle clock needIs later)
    (idle_bind (autoReportExpireDonePhase_idle laws clock dormant)
      (autoremovePhase_idle clock dormant.removals)))

end Cron

/-! ## Expiration times -/

def signatures (rrset : List Record) : List Rrsig := rrset.filterMap Record.rrsig?

/-- The expiration field of the signature has not wrapped around: read as seconds
since the epoch it is not before the time that it stands for. -/
def NotWrapped (platform : Platform) (now : UnixTime) (signature : Rrsig) : Prop :=
  platform.toSystemTime signature.expiration now ≤
    (signature.expiration : Int) * (nanosPerSec : Int)

/-- No signature that cron renews has an expiration field that has wrapped around. -/
def NoneWrapped (platform : Platform) (now : UnixTime) (state : KeySetState) : Prop :=
  ∀ signature, signature ∈ signatures state.dnskeyRrset ++ signatures state.cdsRrset →
    NotWrapped platform now signature

instance (platform : Platform) (now : UnixTime) (signature : Rrsig) :
    Decidable (NotWrapped platform now signature) :=
  inferInstanceAs (Decidable (_ ≤ _))

instance (platform : Platform) (now : UnixTime) (state : KeySetState) :
    Decidable (NoneWrapped platform now state) :=
  inferInstanceAs (Decidable (∀ signature, signature ∈ _ → NotWrapped platform now signature))

theorem sigRenew_eq_false {rrset : List Record} {remainTime : Duration} {now : UnixTime} :
    sigRenew rrset remainTime now = false ↔
      ∀ signature, signature ∈ signatures rrset →
        asSecs now + asSecs remainTime ≤ signature.expiration := by
  unfold sigRenew signatures
  simp only [List.any_eq_false, decide_eq_true_eq, Nat.not_lt]

theorem asSecs_add_le {now remainTime : Duration} {seconds : Nat}
    (before : now + remainTime < seconds * nanosPerSec) :
    asSecs now + asSecs remainTime ≤ seconds := by
  have nowSecs : asSecs now * nanosPerSec ≤ now := Nat.div_mul_le_self now nanosPerSec
  have remainSecs : asSecs remainTime * nanosPerSec ≤ remainTime :=
    Nat.div_mul_le_self remainTime nanosPerSec
  have whole : (asSecs now + asSecs remainTime) * nanosPerSec < seconds * nanosPerSec := by
    rw [Nat.add_mul]
    exact Nat.lt_of_le_of_lt (Nat.add_le_add nowSecs remainSecs) before
  exact Nat.le_of_lt (Nat.lt_of_mul_lt_mul_right whole)

/-- The schedule reaches every signature in time when no field has wrapped. -/
theorem sigRenew_of_computeCronNext {platform : Platform} {rrset : List Record}
    {remainTime : Duration} {start now : UnixTime}
    (notWrapped : ∀ signature, signature ∈ signatures rrset →
      NotWrapped platform start signature)
    (later : Later now [computeCronNext platform rrset remainTime start]) :
    sigRenew rrset remainTime now = false := by
  apply sigRenew_eq_false.mpr
  intro signature member
  let times := (signatures rrset).map fun signature =>
    platform.toSystemTime signature.expiration start
  have inTimes : platform.toSystemTime signature.expiration start ∈ times :=
    List.mem_map_of_mem member
  rcases earliest : times.min? with _ | time
  · rw [List.min?_eq_none_iff.mp earliest] at inTimes
    cases inTimes
  · have first : time ≤ platform.toSystemTime signature.expiration start :=
      (List.min?_eq_some_iff.mp earliest).2 _ inTimes
    have entry : computeCronNext platform rrset remainTime start =
        some (time - (remainTime : Int)).toNat := by
      change times.min?.map _ = _
      rw [earliest]
      rfl
    have waits : now < (time - (remainTime : Int)).toNat := later _ (by simp [entry])
    have raw := notWrapped signature member
    unfold NotWrapped at raw
    apply asSecs_add_le
    have whole : ((now + remainTime : Nat) : Int) <
        ((signature.expiration * nanosPerSec : Nat) : Int) := by
      push_cast
      have reached : (now : Int) < time - (remainTime : Int) := Int.lt_toNat.mp waits
      exact Int.lt_of_lt_of_le (Int.add_lt_of_lt_sub_right reached) (Int.le_trans first raw)
    exact_mod_cast whole

/-- A signature whose expiration field has wrapped is renewed at once. -/
theorem due_of_wrapped {platform : Platform} (laws : ScheduleLaws platform) {now : UnixTime}
    {signature : Rrsig} (wrapped : ¬NotWrapped platform now signature) :
    signature.expiration < asSecs now := by
  unfold NotWrapped at wrapped
  rcases laws.toSystemTime signature.expiration now with ⟨era, instant, closest⟩
  rw [instant] at wrapped closest
  have positive : (0 : Int) < nanosPerSec := by decide
  have afterRaw : (signature.expiration : Int) <
      (signature.expiration : Int) + era * 2 ^ 32 :=
    Int.lt_of_mul_lt_mul_right (Int.not_le.mp wrapped) (Int.le_of_lt positive)
  have beforeLimit : (signature.expiration : Int) + era * 2 ^ 32 ≤ asSecs now + 2 ^ 31 :=
    Int.le_of_mul_le_mul_right closest positive
  omega

/-! ## State files and later runs of cron -/

/-- `cron_next` asks for cron to be run at this time. -/
def Scheduled (state : KeySetState) (now : UnixTime) : Prop :=
  ∃ time, state.cronNext = some time ∧ time ≤ now

theorem later_of_not_scheduled {state : KeySetState} {now : UnixTime}
    {entries : List (Option UnixTime)} (computed : state.cronNext = (entries.filterMap id).min?)
    (notScheduled : ¬Scheduled state now) : Later now entries := by
  intro time member
  have inTimes : time ∈ entries.filterMap id := by simpa using member
  rcases earliest : (entries.filterMap id).min? with _ | first
  · rw [List.min?_eq_none_iff.mp earliest] at inTimes
    cases inTimes
  · have notAfter : first ≤ time := (List.min?_eq_some_iff.mp earliest).2 time inTimes
    have waits : now < first := by
      apply Nat.not_le.mp
      intro due
      exact notScheduled ⟨first, computed.trans earliest, due⟩
    exact Nat.lt_of_lt_of_le waits notAfter

/-- The invocation writes the state file, and all clocks agree on the time. -/
structure WritesStateAt (env : Environment) (command : Commands) (now : UnixTime)
    (system written : System) : Prop where
  before : ConsistentClock env system.config now
  after : ConsistentClock env written.config now
  writes : ∃ computed saved,
    exec (do loadFiles env; compute env command) system.load = (.ok true, computed) ∧
      computed.stateChanged = true ∧
      exec (persist env) computed = (.ok ⟨⟩, saved) ∧ written = saved.system

/-- From this time on cron has nothing to do before `cron_next`. -/
def AgreesFrom (platform : Platform) (now : UnixTime) (system : System) : Prop :=
  ∀ env later, env.toPlatform = platform → now ≤ later →
    ConsistentClock env system.config later → ¬Scheduled system.state later →
    Idle env (fun env => cron env later) system.load ∧ (invoke env .cron system).2 = system

/-- When cron does nothing the invocation leaves both files alone. -/
theorem invoke_cron_idle {env : Environment} {system : System} {now : UnixTime}
    (clock : ConsistentClock env system.config now)
    (idle : Idle env (fun env => cron env now) system.load) :
    (invoke env .cron system).2 = system := by
  rcases idle with ⟨readings, runs⟩
  unfold invoke loadFiles
  rw [exec_bind, exec_perform]
  rcases exec (attempt env id) system.load.calls with ⟨fault | value, calls⟩
  · rfl
  · have reads : exec (perform (faketimeOrNow env system.config)) { system.load with calls } =
        (.ok now, { system.load with calls := calls + 1 }) := by
      rw [exec_perform]
      dsimp only
      rw [exec_faketimeOrNow clock env.network calls]
    have computes : exec (compute env .cron) { system.load with calls } =
        (.ok false, { system.load with calls := calls + 1 + readings }) :=
      (exec_bind_of_ok (exec_get _)).trans <| (exec_bind_of_ok reads).trans <|
        (exec_bind_of_ok (runs env.network (calls + 1))).trans <|
          exec_bind_of_ok (exec_get _)
    dsimp only
    unfold run
    rw [exec_bind_of_ok computes]
    rfl

section Written

variable {env : Environment} {command : Commands} {now : UnixTime} {system written : System}

/-- What was scheduled and saved, from the same configuration and state. -/
theorem WritesStateAt.schedule (writes : WritesStateAt env command now system written) :
    ∃ ws final entries, exec (cronNextEntries env now) ws = (.ok entries, final) ∧
      written.config = ws.config ∧
      written.state = { ws.state with cronNext := (entries.filterMap id).min? }.withApex := by
  rcases writes.writes with ⟨computed, saved, computing, changed, persisting, rfl⟩
  rcases exec_bind_eq_ok.mp computing with ⟨value, loaded, loading, computing⟩
  rcases exec_perform_eq_ok loading with ⟨calls, _, rfl⟩
  have nothing : Lasting env fun _ _ => True :=
    ⟨fun _ _ _ _ => trivial, fun _ _ _ _ _ _ _ => trivial, fun _ _ _ => trivial⟩
  have consistent := (compute_consistent nothing command system
    (fun _ _ _ _ _ _ _ _ _ _ _ => trivial)).ok
    ⟨⟨trivial, trivial, trivial, fun _ => rfl⟩, rfl, rfl, rfl⟩ computing
  unfold compute at computing
  rw [exec_bind_of_ok (exec_get _)] at computing
  rcases exec_bind_eq_ok.mp computing with ⟨time, ticked, reading, rest⟩
  rcases exec_perform_eq_ok reading with ⟨calls', shows, rfl⟩
  have read := shows.symm.trans (exec_faketimeOrNow writes.before env.network calls)
  cases read
  rcases exec_bind_eq_ok.mp rest with ⟨done, executed, executing, rest⟩
  rw [exec_bind_of_ok (exec_get executed)] at rest
  split at rest
  · rcases exec_bind_eq_ok.mp rest with ⟨updated, between, updating, finish⟩
    cases finish
    rcases updateCronNext_ok updating with ⟨entries, middle, entriesRun, config, flag, _, state⟩
    rcases persist_ok persisting with ⟨savedConfig, savedState, _⟩
    refine ⟨executed, middle, entries, entriesRun, ?_, ?_⟩
    · have kept : saved.savedConfig = computed.config := by
        rw [savedConfig]
        cases configChanged : computed.configChanged with
        | true => rfl
        | false => exact (consistent.unchanged configChanged).symm
      exact kept.trans config
    · have kept : saved.savedState = computed.state.withApex := by
        rw [savedState, changed]
        rfl
      rw [state] at kept
      exact kept
  · cases rest

/-- Before `cron_next` a state file is dormant and its signatures are scheduled. -/
theorem WritesStateAt.dormant (laws : ScheduleLaws env.toPlatform)
    (writes : WritesStateAt env command now system written) {later : UnixTime}
    (since : now ≤ later) (notScheduled : ¬Scheduled written.state later) :
    Dormant env.toPlatform written.config written.state later ∧
      Later later (cronNextSignatures env.toPlatform written.state written.config now) := by
  rcases writes.schedule with ⟨ws, final, entries, scheduling, config, state⟩
  have clock := writes.after
  rw [config] at clock ⊢
  have notDue : Later later entries := by
    apply later_of_not_scheduled _ notScheduled
    rw [state]
    rfl
  rw [state]
  rcases dormant_of_cronNextEntries laws since clock scheduling notDue with
    ⟨dormant, signaturesLater⟩
  refine ⟨⟨dormant.starts, ?_, ?_, ?_, ?_, dormant.removals⟩, signaturesLater⟩
  · exact ⟨dormant.ksk.report, dormant.ksk.expire, dormant.ksk.done⟩
  · exact ⟨dormant.zsk.report, dormant.zsk.expire, dormant.zsk.done⟩
  · exact ⟨dormant.csk.report, dormant.csk.expire, dormant.csk.done⟩
  · exact ⟨dormant.algorithm.report, dormant.algorithm.expire, dormant.algorithm.done⟩

/-- Cron that renews signatures is not idle. -/
theorem not_idle_of_sigRenew {time : UnixTime}
    (due : sigRenew written.state.dnskeyRrset written.config.dnskeyRemainTime time = true ∨
      sigRenew written.state.cdsRrset written.config.cdsRemainTime time = true) :
    ¬Idle env (fun env => cron env time) written.load := by
  rintro ⟨readings, runs⟩
  have run := runs env.network 0
  rcases exec_bind_eq_ok.mp run with ⟨value, renewed, renewing, rest⟩
  have changed : renewed.stateChanged = true := renewPhase_changes due renewing
  have kept : (exec (do
      autoStartPhase env
      autoReportExpireDonePhase env
      autoremovePhase env) renewed).2.stateChanged = true :=
    Preserves.final (keeps_bind (autoStartPhase_keeps stateChanged_lawful.custody.openings)
      fun _ => keeps_bind (autoReportExpireDonePhase_keeps stateChanged_lawful.phases) fun _ =>
        autoremovePhase_keeps stateChanged_lawful.custody.toStorage) changed
  have final : true = false :=
    kept.symm.trans (congrArg (fun result => result.2.stateChanged) rest)
  cases final

/-- Cron has nothing to do before the `cron_next` of a state file, unless the
expiration field of a signature has wrapped around. -/
theorem cron_agrees_with_cronNext_iff (laws : ScheduleLaws env.toPlatform)
    (writes : WritesStateAt env command now system written) :
    AgreesFrom env.toPlatform now written ↔
      NoneWrapped env.toPlatform now written.state ∨ Scheduled written.state now := by
  constructor
  · intro agrees
    by_cases scheduled : Scheduled written.state now
    · exact Or.inr scheduled
    left
    intro signature member
    by_contra wrapped
    have expired := due_of_wrapped laws wrapped
    have due : ∀ {rrset : List Record} (remainTime : Duration),
        signature ∈ signatures rrset → sigRenew rrset remainTime now = true := by
      intro rrset remainTime inRrset
      by_contra notDue
      have valid := sigRenew_eq_false.mp (Bool.not_eq_true _ ▸ notDue) signature inRrset
      omega
    have idle := (agrees env now rfl (Nat.le_refl now) writes.after scheduled).1
    apply not_idle_of_sigRenew _ idle
    rcases List.mem_append.mp member with inDnskey | inCds
    · exact Or.inl (due _ inDnskey)
    · exact Or.inr (due _ inCds)
  · rintro condition other later same since clock notScheduled
    have noneWrapped : NoneWrapped env.toPlatform now written.state := by
      rcases condition with noneWrapped | ⟨time, next, past⟩
      · exact noneWrapped
      · exact absurd ⟨time, next, Nat.le_trans past since⟩ notScheduled
    rcases writes.dormant laws since notScheduled with ⟨dormant, signaturesLater⟩
    have dnskeyValid : sigRenew written.state.dnskeyRrset written.config.dnskeyRemainTime
        later = false :=
      sigRenew_of_computeCronNext
        (fun signature member => noneWrapped signature (List.mem_append_left _ member))
        (signaturesLater.mono (by simp [cronNextSignatures]))
    have cdsValid : sigRenew written.state.cdsRrset written.config.cdsRemainTime
        later = false :=
      sigRenew_of_computeCronNext
        (fun signature member => noneWrapped signature (List.mem_append_right _ member))
        (signaturesLater.mono (by simp [cronNextSignatures]))
    have idle : Idle other (fun env => cron env later) written.load := by
      apply cron_idle
      · rw [same]
        exact laws
      · exact clock
      · rw [same]
        exact dormant
      · exact dnskeyValid
      · exact cdsValid
    exact ⟨idle, invoke_cron_idle clock idle⟩

end Written

/-! ## The worked platform -/

namespace Reference

theorem scheduleLaws : ScheduleLaws platform := by
  have noWaits : ∀ roll state, state = RollState.propagation1 ∨ state = .propagation2 →
      (actions roll state).all (fun action => !action.isWait) = true := by
    rintro roll state (rfl | rfl) <;> cases roll <;> rfl
  have noReports : ∀ roll, (actions roll .done).all (fun action => !action.isReport) = true := by
    intro roll
    cases roll <;> rfl
  constructor
  · intro start now roll keyset remaining waits since before
    simp only [platform, keySet, cacheExpired1] at waits ⊢
    split at waits
    · next ttl state =>
        split at waits
        · next early =>
            cases waits
            have late : now < lastSeen roll false keyset + fromSecs ttl := by
              rwa [Nat.add_sub_cancel' (Nat.le_of_lt early)] at before
            rw [if_pos late]
            exact ⟨_, rfl⟩
        · cases waits
    · cases waits
  · intro start now roll keyset remaining waits since before
    simp only [platform, keySet, cacheExpired2] at waits ⊢
    split at waits
    · next ttl state =>
        split at waits
        · next early =>
            cases waits
            have late : now < lastSeen roll true keyset + fromSecs ttl := by
              rwa [Nat.add_sub_cancel' (Nat.le_of_lt early)] at before
            rw [if_pos late]
            exact ⟨_, rfl⟩
        · cases waits
    · cases waits
  · intro roll keyset running action member
    have inActions : ∃ state, (state = RollState.propagation1 ∨ state = .propagation2) ∧
        action ∈ actions roll state := by
      rcases running with running | running
      · simp only [platform, keySet, running] at member
        exact ⟨_, Or.inl rfl, member⟩
      · simp only [platform, keySet, running] at member
        exact ⟨_, Or.inr rfl, member⟩
    rcases inActions with ⟨state, propagating, inActions⟩
    simpa using List.all_eq_true.mp (noWaits roll state propagating) action inActions
  · intro roll keyset running action member
    simp only [platform, keySet, running] at member
    simpa using List.all_eq_true.mp (noReports roll) action member
  · intro timestamp reference
    refine ⟨-(((timestamp : Int) - asSecs reference + 2 ^ 31) / 2 ^ 32), ?_, ?_⟩
    · simp only [platform, toSystemTime]
      congr 1
      omega
    · simp only [platform, toSystemTime]
      apply Int.mul_le_mul_of_nonneg_right
      · omega
      · decide

theorem consistentClock {seed : Nat} {now : UnixTime} {config : KeySetConfig}
    (noFaketime : config.faketime = none) : ConsistentClock (environment seed now) config now :=
  ⟨fun _ => rfl, fun time faked => by rw [noFaketime] at faked; cases faked⟩

/-- An invocation of the worked platform that writes the state file. -/
theorem writesStateAt {seed : Nat} {now : UnixTime} {command : Commands}
    {system written : System} (before : system.config.faketime = none)
    (after : written.config.faketime = none)
    (computes : (exec (do
      loadFiles (environment seed now)
      compute (environment seed now) command) system.load).1.toOption = some true)
    (changes : (exec (do
      loadFiles (environment seed now)
      compute (environment seed now) command) system.load).2.stateChanged = true)
    (persists : (exec (persist (environment seed now)) (exec (do
      loadFiles (environment seed now)
      compute (environment seed now) command) system.load).2).1.toOption = some ⟨⟩)
    (leaves : (invoke (environment seed now) command system).2 = written) :
    WritesStateAt (environment seed now) command now system written := by
  have computing := exec_eq_of_toOption computes
  have persisting := exec_eq_of_toOption persists
  refine ⟨consistentClock before, consistentClock after, _, _, computing, changes, persisting, ?_⟩
  have saves := invoke_of_compute computing
  rw [persisting] at saves
  exact leaves.symm.trans saves

theorem initialised_written :
    WritesStateAt (environment 3 (fromSecs 1259200)) .init (fromSecs 1259200)
      (runAll [day 1 (.importKey (.ksk (.file "/keys/ksk.key" true none))),
        day 2 (.importKey (.zsk (.file "/keys/zsk.key" true none)))] created)
      (initialised true) :=
  writesStateAt (by decide +kernel) (by decide +kernel) (by decide +kernel) (by decide +kernel)
    (by decide +kernel) rfl

/-- A day before the time in seconds wraps around 32 bits. -/
def lateSecond (number : Nat) (command : Commands) : Environment × Commands :=
  (environment number (fromSecs (2 ^ 32 - 86400 + number)), command)

def lateImported : System :=
  runAll [lateSecond 1 (.importKey (.ksk (.file "/keys/ksk.key" true none))),
    lateSecond 2 (.importKey (.zsk (.file "/keys/zsk.key" true none)))] created

def lateInitialised : System := runAll [lateSecond 3 .init] lateImported

theorem lateInitialised_written :
    WritesStateAt (environment 3 (fromSecs (2 ^ 32 - 86397))) .init
      (fromSecs (2 ^ 32 - 86397)) lateImported lateInitialised :=
  writesStateAt (by decide +kernel) (by decide +kernel) (by decide +kernel) (by decide +kernel)
    (by decide +kernel) rfl

end Reference

theorem cron_agrees_after_init :
    AgreesFrom Reference.platform (fromSecs 1259200) (Reference.initialised true) :=
  (cron_agrees_with_cronNext_iff Reference.scheduleLaws Reference.initialised_written).mpr
    (Or.inl (by decide +kernel))

/-- An hour after `init` cron renews signatures that are to be valid for four weeks:
their expiration field has wrapped around. -/
theorem cron_renews_wrapped_signatures :
    WritesStateAt (Reference.environment 3 (fromSecs (2 ^ 32 - 86397))) .init
        (fromSecs (2 ^ 32 - 86397)) Reference.lateImported Reference.lateInitialised ∧
      ¬Scheduled Reference.lateInitialised.state (fromSecs (2 ^ 32 - 82797)) ∧
      (invoke (Reference.environment 4 (fromSecs (2 ^ 32 - 82797))) .cron
          Reference.lateInitialised).2.state.dnskeyRrset ≠
        Reference.lateInitialised.state.dnskeyRrset := by
  refine ⟨Reference.lateInitialised_written, ?_, by decide +kernel⟩
  rintro ⟨time, next, past⟩
  have scheduled : Reference.lateInitialised.state.cronNext =
      some (fromSecs (2 ^ 32 - 86397 + 1209600)) := by decide +kernel
  rw [scheduled] at next
  cases next
  exact absurd past (by decide)

end Dnst.Keyset
