import Dnst.Keyset.Propagation
import Dnst.Keyset.Rolls

/-! # Automation of key rolls

`autoReportActions` and `autoWaitActions` perform the propagation checks of a
roll and record their results; `autoStart` and `autoReportExpireDone` drive the
rolls from what has been recorded.
-/

namespace Dnst.Keyset

/-- The result of an automatic action check that does not need to report a
TTL. -/
inductive AutoActionsResult where
  | ok
  | wait (waitUntil : UnixTime)
  deriving DecidableEq, Repr

/-- What a check changes: the report state and the `state_changed` flag. -/
structure CheckState where
  report : ReportState
  stateChanged : Bool
  calls : Nat
  deriving DecidableEq, Repr

abbrev Check (Value : Type) := Effect CheckState Fault Value

def consult {Value : Type} (step : Step Value) : Check Value :=
  Effect.zoom CheckState.calls (fun state calls => { state with calls }) step

/-- Record a result in the report state. -/
def record (change : ReportState → ReportState) : Check Unit :=
  modify fun state =>
    { state with report := change state.report, stateChanged := true }

def recordDnskey (result : AutoReportActionsResult) (report : ReportState) : ReportState :=
  { report with dnskey := some result }

def recordDs (result : AutoReportActionsResult) (report : ReportState) : ReportState :=
  { report with ds := some result }

def recordRrsig (result : AutoReportRrsigResult) (report : ReportState) : ReportState :=
  { report with rrsig := some result }

/-! ## Checks of the DNSKEY and the DS RRset -/

/-- An `Err` of a check becomes a wait. -/
def orDefaultWait (now : UnixTime) (label : String)
    (check : Step AutoReportActionsResult) : Step AutoReportActionsResult := do
  let result ← capture check
  match result with
  | .ok result => return result
  | .error reason => return .wait (now + defaultWait) s!"{label}: {reason}"

/-- Perform a check unless its result is known or the wait is not over. -/
def plainAction (recorded : ReportState → Option AutoReportActionsResult)
    (store : AutoReportActionsResult → ReportState → ReportState)
    (check : Step AutoReportActionsResult) (now : UnixTime) :
    Check AutoReportActionsResult := do
  let state ← get
  let perform : Check AutoReportActionsResult := do
    let result ← consult check
    record (store result)
    return result
  match recorded state.report with
  | some (.wait waitUntil notice) =>
      if now < waitUntil then return .wait waitUntil notice else perform
  | some (.report ttl) => return .report ttl
  | none => perform

def dnskeyAction (env : Environment) (kss : KeySetState) (now : UnixTime) :
    Check AutoReportActionsResult :=
  plainAction ReportState.dnskey recordDnskey (reportDnskeyPropagated env kss now) now

def dsAction (env : Environment) (kss : KeySetState) (now : UnixTime) :
    Check AutoReportActionsResult :=
  plainAction ReportState.ds recordDs
    (orDefaultWait now "Check DS propagation failed" (reportDsPropagated env kss now)) now

/-! ## Checks of the signatures in the zone -/

/-- Check the whole zone and record the result. -/
def checkWholeZone (env : Environment) (kss : KeySetState) (now : UnixTime)
    (nameservers : List NameserverConnectionDetails) (tsigStore : TsigKeyStore) :
    Check AutoReportRrsigResult := do
  let result ← consult (capture (reportRrsigPropagated env kss now nameservers tsigStore))
  let result :=
    match result with
    | .ok result => result
    | .error reason =>
        .wait (now + defaultWait) s!"Check RRSIG propagation failed: {reason}"
  record (recordRrsig result)
  return result

/-- The wait for the user of `auto_report_actions`. -/
def AutoReportRrsigResult.toReport : AutoReportRrsigResult → AutoReportActionsResult
  | .report ttl => .report ttl
  | .wait waitUntil notice => .wait waitUntil notice
  | .waitSoa waitUntil _ _ _ notice => .wait waitUntil notice
  | .waitRecord waitUntil _ _ _ notice => .wait waitUntil notice
  | .waitNextSerial waitUntil _ _ notice => .wait waitUntil notice

def AutoReportActionsResult.toActions : AutoReportActionsResult → AutoActionsResult
  | .report _ => .ok
  | .wait waitUntil _ => .wait waitUntil

/-- `ReportRrsigPropagated` in `auto_report_actions`. -/
def rrsigReportAction (env : Environment) (kss : KeySetState) (now : UnixTime)
    (nameservers : List NameserverConnectionDetails) (tsigStore : TsigKeyStore) :
    Check AutoReportActionsResult := do
  let state ← get
  let wholeZone : Check AutoReportActionsResult := do
    let result ← checkWholeZone env kss now nameservers tsigStore
    return result.toReport
  match state.report.rrsig with
  | none => wholeZone
  | some (.report ttl) => return .report ttl
  | some (.wait waitUntil notice) =>
      if now < waitUntil then return .wait waitUntil notice else wholeZone
  | some (.waitSoa waitUntil serial ttl reportTtl notice) =>
      if now < waitUntil then
        return .wait waitUntil notice
      else do
        let served ← consult (capture (checkSoa env serial kss now))
        match served with
        | .error reason => do
            let next := now + fromSecs ttl
            record (recordRrsig (.waitSoa next serial ttl reportTtl reason))
            return .wait next reason
        | .ok _ => do
            record (recordRrsig (.report reportTtl))
            return .report reportTtl
  | some (.waitRecord waitUntil name rtype ttl notice) =>
      if now < waitUntil then
        return .wait waitUntil notice
      else do
        let signed ← consult (capture (checkRecord env name rtype kss))
        match signed with
        | .error reason => do
            let next := now + fromSecs ttl
            record (recordRrsig (.waitRecord next name rtype ttl reason))
            return .wait next reason
        -- This record has the right signatures. Check the zone.
        | .ok _ => wholeZone
  | some (.waitNextSerial waitUntil serial ttl notice) =>
      if now < waitUntil then
        return .wait waitUntil notice
      else do
        let moved ← consult (capture (checkNextSerial env serial kss))
        match moved with
        | .error reason => do
            let next := now + fromSecs ttl
            -- The old wait is stored, not the next one.
            record (recordRrsig (.waitNextSerial waitUntil serial ttl reason))
            return .wait next reason
        -- A new serial. Check the zone.
        | .ok _ => wholeZone

/-- `WaitRrsigPropagated` in `auto_wait_actions`. -/
def rrsigWaitAction (env : Environment) (kss : KeySetState) (now : UnixTime)
    (nameservers : List NameserverConnectionDetails) (tsigStore : TsigKeyStore) :
    Check AutoActionsResult := do
  let state ← get
  let wholeZone : Check AutoActionsResult := do
    let result ← checkWholeZone env kss now nameservers tsigStore
    return result.toReport.toActions
  match state.report.rrsig with
  | none => wholeZone
  | some (.report _) => return .ok
  | some (.wait waitUntil _) =>
      if now < waitUntil then return .wait waitUntil else wholeZone
  | some (.waitSoa waitUntil serial ttl reportTtl _) =>
      if now < waitUntil then
        return .wait waitUntil
      else do
        let served ← consult (capture (checkSoa env serial kss now))
        match served with
        | .error reason => do
            let next := now + fromSecs ttl
            -- The old wait is stored, not the next one.
            record (recordRrsig (.waitSoa waitUntil serial ttl reportTtl reason))
            return .wait next
        | .ok _ => do
            record (recordRrsig (.report reportTtl))
            return .ok
  | some (.waitRecord waitUntil name rtype ttl _) =>
      if now < waitUntil then
        return .wait waitUntil
      else do
        let signed ← consult (capture (checkRecord env name rtype kss))
        match signed with
        | .error reason => do
            let next := now + fromSecs ttl
            record (recordRrsig (.waitRecord next name rtype ttl reason))
            return .wait next
        -- This record has the right signatures. Check the zone.
        | .ok _ => wholeZone
  | some (.waitNextSerial waitUntil serial ttl _) =>
      if now < waitUntil then
        return .wait waitUntil
      else do
        let moved ← consult (capture (checkNextSerial env serial kss))
        match moved with
        | .error reason => do
            let next := now + fromSecs ttl
            -- The old wait is stored, not the next one.
            record (recordRrsig (.waitNextSerial waitUntil serial ttl reason))
            return .wait next
        -- A new serial. Check the zone.
        | .ok _ => wholeZone

/-! ## The actions of a roll -/

def unreachableCode : String := "internal error: entered unreachable code"

/-- The loop of `auto_report_actions`. -/
def reportEach (env : Environment) (kss : KeySetState) (now : UnixTime)
    (nameservers : List NameserverConnectionDetails) (tsigStore : TsigKeyStore) :
    List Action → Ttl → Check AutoReportActionsResult
  | [], maxTtl => return .report maxTtl
  | action :: actions, maxTtl => do
      let next : Check AutoReportActionsResult → Check AutoReportActionsResult :=
        fun check => do
          let result ← check
          match result with
          | .wait waitUntil notice => return .wait waitUntil notice
          | .report ttl =>
              reportEach env kss now nameservers tsigStore actions (max maxTtl ttl)
      match action with
      | .reportDnskeyPropagated => next (dnskeyAction env kss now)
      | .reportDsPropagated => next (dsAction env kss now)
      | .reportRrsigPropagated =>
          next (rrsigReportAction env kss now nameservers tsigStore)
      | .updateDnskeyRrset => reportEach env kss now nameservers tsigStore actions maxTtl
      | .createCdsRrset => reportEach env kss now nameservers tsigStore actions maxTtl
      | .removeCdsRrset => reportEach env kss now nameservers tsigStore actions maxTtl
      | .updateDsRrset => reportEach env kss now nameservers tsigStore actions maxTtl
      | .updateRrsig => reportEach env kss now nameservers tsigStore actions maxTtl
      -- Wait actions are not compatible with a step that reports a TTL.
      | .waitDnskeyPropagated => panic unreachableCode
      | .waitDsPropagated => panic unreachableCode
      | .waitRrsigPropagated => panic unreachableCode

/-- What the loop does with the result of one check. -/
def thenReport (rest : Ttl → Check AutoReportActionsResult) (maxTtl : Ttl)
    (check : Check AutoReportActionsResult) : Check AutoReportActionsResult := do
  let result ← check
  match result with
  | .wait waitUntil notice => return .wait waitUntil notice
  | .report ttl => rest (max maxTtl ttl)

/-- Handle automatic report actions. -/
def autoReportActions (env : Environment) (kss : KeySetState) (now : UnixTime)
    (nameservers : List NameserverConnectionDetails) (tsigStore : TsigKeyStore)
    (actions : List Action) : Check AutoReportActionsResult := do
  assert (!actions.isEmpty) "assertion failed: !actions.is_empty()"
  reportEach env kss now nameservers tsigStore actions 0

/-- Handle the actions for the Done state automatically. -/
def autoWaitActions (env : Environment) (kss : KeySetState) (now : UnixTime)
    (nameservers : List NameserverConnectionDetails) (tsigStore : TsigKeyStore) :
    List Action → Check AutoActionsResult
  | [] => return .ok
  | action :: actions => do
      let next : Check AutoActionsResult → Check AutoActionsResult := fun check => do
        let result ← check
        match result with
        | .wait waitUntil => return .wait waitUntil
        | .ok => autoWaitActions env kss now nameservers tsigStore actions
      let plain : Check AutoReportActionsResult → Check AutoActionsResult := fun check => do
        let result ← check
        return result.toActions
      match action with
      | .waitDnskeyPropagated => next (plain (dnskeyAction env kss now))
      | .waitDsPropagated => next (plain (dsAction env kss now))
      | .waitRrsigPropagated => next (rrsigWaitAction env kss now nameservers tsigStore)
      | .createCdsRrset => autoWaitActions env kss now nameservers tsigStore actions
      | .removeCdsRrset => autoWaitActions env kss now nameservers tsigStore actions
      | .updateDnskeyRrset => autoWaitActions env kss now nameservers tsigStore actions
      | .updateDsRrset => autoWaitActions env kss now nameservers tsigStore actions
      | .updateRrsig => autoWaitActions env kss now nameservers tsigStore actions
      -- The Done state does not report anything, it can only wait.
      | .reportDnskeyPropagated => panic unreachableCode
      | .reportDsPropagated => panic unreachableCode
      | .reportRrsigPropagated => panic unreachableCode

/-- What `auto_wait_actions` does with the result of one check. -/
def thenWait (rest : Check AutoActionsResult) (check : Check AutoActionsResult) :
    Check AutoActionsResult := do
  let result ← check
  match result with
  | .wait waitUntil => return .wait waitUntil
  | .ok => rest

/-! ## When to try again -/

/-- Which recorded result an action waits for. -/
def Action.status (report : ReportState) : Action → Option (Option AutoReportActionsResult)
  | .reportDnskeyPropagated => some report.dnskey
  | .waitDnskeyPropagated => some report.dnskey
  | .reportDsPropagated => some report.ds
  | .waitDsPropagated => some report.ds
  | .reportRrsigPropagated => some (report.rrsig.map AutoReportRrsigResult.toReport)
  | .waitRrsigPropagated => some (report.rrsig.map AutoReportRrsigResult.toReport)
  | .updateDnskeyRrset => none
  | .createCdsRrset => none
  | .removeCdsRrset => none
  | .updateDsRrset => none
  | .updateRrsig => none

/-- Check whether automatic actions are done or not. If not, return until when
to wait to try again. -/
def checkAutoActions (now : UnixTime) (report : ReportState) :
    List Action → AutoActionsResult
  | [] => .ok
  | action :: actions =>
      match action.status report with
      | none => checkAutoActions now report actions
      | some (some (.wait waitUntil _)) => .wait waitUntil
      | some (some (.report _)) => checkAutoActions now report actions
      -- No status, request cron.
      | some none => .wait now

/-! ## Driving the rolls -/

/-- Perform checks on one of the report states of a roll. -/
def withReport {Value : Type} (roll : RollType)
    (select : RollStateReports → ReportState)
    (put : RollStateReports → ReportState → RollStateReports)
    (check : WorkSpace → Check Value) : Run Value := do
  let ws ← get
  match ws.state.internal roll with
  | none => panic noEntry
  | some reports => do
      let result := Effect.exec (check ws) ⟨select reports, ws.stateChanged, ws.calls⟩
      set { ws with
        state.internal :=
          Function.update ws.state.internal roll (some (put reports result.2.report))
        stateChanged := result.2.stateChanged
        calls := result.2.calls }
      match result.1 with
      | .ok value => return value
      | .error fault => throw fault

theorem exec_withReport {Value : Type} (roll : RollType)
    (select : RollStateReports → ReportState)
    (put : RollStateReports → ReportState → RollStateReports)
    (check : WorkSpace → Check Value) (ws : WorkSpace) (reports : RollStateReports)
    (entry : ws.state.internal roll = some reports) :
    Effect.exec (withReport roll select put check) ws =
      let result := Effect.exec (check ws) ⟨select reports, ws.stateChanged, ws.calls⟩
      (result.1, { ws with
        state.internal :=
          Function.update ws.state.internal roll (some (put reports result.2.report))
        stateChanged := result.2.stateChanged
        calls := result.2.calls }) := by
  unfold withReport
  rw [Effect.exec_bind_of_ok (Effect.exec_get ws)]
  simp only [entry]
  cases (Effect.exec (check ws) ⟨select reports, ws.stateChanged, ws.calls⟩).1 <;> rfl

def RollStateReports.setPropagation1 (reports : RollStateReports) (report : ReportState) :
    RollStateReports :=
  { reports with propagation1 := report }

def RollStateReports.setPropagation2 (reports : RollStateReports) (report : ReportState) :
    RollStateReports :=
  { reports with propagation2 := report }

def RollStateReports.setDone (reports : RollStateReports) (report : ReportState) :
    RollStateReports :=
  { reports with done := report }

/-- When the oldest key that takes part reaches the end of its validity. -/
def earliestExpiry (keyset : KeySet) (matchKeytype : KeyType → Option KeyState)
    (validity : Duration) : Option UnixTime :=
  (keyset.keys.filterMap fun (_, key) =>
    match matchKeytype key.keytype with
    | some state =>
        if state.stale then none else key.timestamps.published.map (· + validity)
    | none => none).min?

def RollType.all : List RollType :=
  [.kskRoll, .kskDoubleDsRoll, .zskRoll, .zskDoubleSignatureRoll, .cskRoll, .algorithmRoll]

def rollInProgress (keyset : KeySet) (conflictingRoll : RollType → Bool) : Bool :=
  RollType.all.any fun roll => (keyset.rollstates roll).isSome && conflictingRoll roll

/-- This function automatically starts a key roll when the conditions are
right. -/
def autoStart (env : Environment) (validity : Option Duration) (auto : AutoConfig)
    (conflictingRoll : RollType → Bool) (matchKeytype : KeyType → Option KeyState)
    (startRoll : Run (List Action)) : Run Unit := do
  let ws ← get
  let now ← perform (faketimeOrNow env ws.config)
  match validity with
  | none => return ()
  | some validity =>
      if auto.start && !rollInProgress ws.state.keyset conflictingRoll then
        match earliestExpiry ws.state.keyset matchKeytype validity with
        | none => return ()
        | some next =>
            if next < now then do
              let _ ← startRoll
              markStateChanged
            else
              return ()
      else
        return ()

/-- Complete a propagation step when all its checks have reported. -/
def autoReport (env : Environment) (now : UnixTime) (roll : RollType)
    (select : RollStateReports → ReportState)
    (put : RollStateReports → ReportState → RollStateReports)
    (complete : UnixTime → RollType → Ttl → KeySet →
      Except KeySetError (List Action × KeySet)) : Run Unit := do
  let result ← withReport roll select put fun ws =>
    autoReportActions env ws.state now ws.config.nameservers ws.tsigStore
      (env.keySet.actions roll ws.state.keyset)
  match result with
  | .wait _ _ => return ()
  | .report ttl => do
      let clock ← perform (wallClock env)
      let actions ← onRoll propagationError (complete clock roll ttl)
      handleActions env actions
      markStateChanged

def autoReportRoll (env : Environment) (now : UnixTime) (roll : RollType) : Run Unit := do
  let ws ← get
  match ws.state.keyset.rollstates roll with
  | none => return ()
  | some state =>
      match state with
      | .propagation1 =>
          autoReport env now roll RollStateReports.propagation1
            RollStateReports.setPropagation1 env.keySet.propagation1Complete
      | .propagation2 =>
          autoReport env now roll RollStateReports.propagation2
            RollStateReports.setPropagation2 env.keySet.propagation2Complete
      -- Only the bookkeeping entry has to be there.
      | _ =>
          if (ws.state.internal roll).isSome then return () else panic noEntry

/-- Move on when caches have expired; continue when it is too early. -/
def autoExpire (env : Environment) (roll : RollType) (message : String → String)
    (expired : UnixTime → RollType → KeySet →
      Except KeySetError (List Action × KeySet)) : Run Unit := do
  let clock ← perform (wallClock env)
  let ws ← get
  match expired clock roll ws.state.keyset with
  | .error (.wait _) => return ()
  | .error reason => bail (message reason.display)
  | .ok (actions, keyset) => do
      setKeySet keyset
      handleActions env actions
      markStateChanged

def expireError (roll : RollType) (reason : String) : String :=
  s!"cache_expired[12] failed for state {roll.debug}: {reason}"

def autoExpireRoll (env : Environment) (roll : RollType) : Run Unit := do
  let ws ← get
  match ws.state.keyset.rollstates roll with
  | some (.cacheExpire1 _) =>
      autoExpire env roll (expireError roll) env.keySet.cacheExpired1
  | some (.cacheExpire2 _) =>
      autoExpire env roll (expireError roll) env.keySet.cacheExpired2
  | _ => return ()

def autoDoneRoll (env : Environment) (now : UnixTime) (roll : RollType) : Run Unit := do
  let ws ← get
  match ws.state.keyset.rollstates roll with
  | some .done => do
      let result ← withReport roll RollStateReports.done RollStateReports.setDone fun ws =>
        autoWaitActions env ws.state now ws.config.nameservers ws.tsigStore
          (env.keySet.actions roll ws.state.keyset)
      match result with
      | .ok => do
          doDone env roll
          markStateChanged
      | .wait _ => return ()
  | _ => return ()

def eachRoll (rolls : List RollType) (step : RollType → Run Unit) : Run Unit :=
  match rolls with
  | [] => return ()
  | roll :: rolls => do
      step roll
      eachRoll rolls step

/-- Handle automation for the report, expire and done steps. -/
def autoReportExpireDone (env : Environment) (auto : AutoConfig)
    (rollList : List RollType) : Run Unit := do
  let ws ← get
  let now ← perform (faketimeOrNow env ws.config)
  onlyIf auto.report (eachRoll rollList (autoReportRoll env now))
  onlyIf auto.expire (eachRoll rollList (autoExpireRoll env))
  onlyIf auto.done (eachRoll rollList (autoDoneRoll env now))

end Dnst.Keyset
