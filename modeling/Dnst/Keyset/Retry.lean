import Dnst.Keyset.Waits
import Dnst.Keyset.Reference

/-! # Failed propagation checks and the next try

The wait that is recorded is the one that is returned, except where a retry
stores the old wait back.
-/

namespace Dnst.Keyset

open Effect

/-! ## What an action leaves recorded -/

/-- The action needs no further check. -/
def Settled (report : ReportState) (action : Action) : Prop :=
  ∀ status, action.status report = some status → ∃ ttl, status = some (.report ttl)

def WaitsUntil (report : ReportState) (action : Action) (waitUntil : UnixTime) : Prop :=
  ∃ notice, action.status report = some (some (.wait waitUntil notice))

/-- Settled actions stay settled; an action that is done is settled, and one
that has to wait has its new wait recorded. -/
def Follows (now : UnixTime) (action : Action) (report final : ReportState) :
    AutoActionsResult → Prop
  | .ok => Settled final action ∧ ∀ other, Settled report other → Settled final other
  | .wait waitUntil => WaitsUntil final action waitUntil ∧ now ≤ waitUntil ∧
      ∀ other, Settled report other → Settled final other

theorem settled_recordDnskey {report : ReportState} {other : Action}
    (result : AutoReportActionsResult) (settled : Settled report other)
    (pending : ¬Settled report .reportDnskeyPropagated) :
    Settled (recordDnskey result report) other := by
  cases other <;> first | exact absurd settled pending | exact settled

theorem settled_recordDs {report : ReportState} {other : Action}
    (result : AutoReportActionsResult) (settled : Settled report other)
    (pending : ¬Settled report .reportDsPropagated) :
    Settled (recordDs result report) other := by
  cases other <;> first | exact absurd settled pending | exact settled

theorem settled_recordRrsig {report : ReportState} {other : Action}
    (result : AutoReportRrsigResult) (settled : Settled report other)
    (pending : ¬Settled report .reportRrsigPropagated) :
    Settled (recordRrsig result report) other := by
  cases other <;> first | exact absurd settled pending | exact settled

/-- A result that has just been recorded. -/
theorem follows_recorded {now : UnixTime} {action : Action} {report final : ReportState}
    {result : AutoReportActionsResult}
    (status : action.status final = some (some result)) (waits : result.NotBefore now)
    (frame : ∀ other, Settled report other → Settled final other) :
    Follows now action report final result.toActions := by
  cases result with
  | report ttl =>
      refine ⟨?_, frame⟩
      intro recorded same
      rw [status] at same
      cases same
      exact ⟨ttl, rfl⟩
  | wait waitUntil notice => exact ⟨⟨notice, status⟩, waits, frame⟩

/-- The parts of an RRset check that `plainAction` puts together. -/
structure PlainCheck (action : Action)
    (recorded : ReportState → Option AutoReportActionsResult)
    (store : AutoReportActionsResult → ReportState → ReportState) : Prop where
  status : ∀ report, action.status report = some (recorded report)
  stored : ∀ result report, recorded (store result report) = some result
  frame : ∀ result report other, Settled report other → ¬Settled report action →
    Settled (store result report) other

theorem plainAction_follows {action : Action}
    {recorded : ReportState → Option AutoReportActionsResult}
    {store : AutoReportActionsResult → ReportState → ReportState}
    (parts : PlainCheck action recorded store) {check : Step AutoReportActionsResult}
    {now : UnixTime} (waits : Yields (AutoReportActionsResult.NotBefore now) check)
    {state final : CheckState} {result : AutoReportActionsResult}
    (run : exec (plainAction recorded store check now) state = (.ok result, final)) :
    Follows now action state.report final.report result.toActions := by
  have performed : ∀ result final, ¬Settled state.report action →
      exec (do
        let result ← consult check
        record (store result)
        return result) state = (.ok result, final) →
      Follows now action state.report final.report result.toActions := by
    intro result final pending run
    rcases exec_bind_eq_ok.mp run with ⟨found, middle, checked, rest⟩
    cases rest
    simp only [consult, exec_zoom, Prod.mk.injEq] at checked
    rcases checked with ⟨returned, rfl⟩
    have resultWaits : result.NotBefore now :=
      waits.ok (Prod.ext returned rfl : exec check state.calls = (.ok result, _))
    refine follows_recorded ?_ resultWaits ?_
    · rw [parts.status]
      exact congrArg some (parts.stored result state.report)
    · intro other settled
      exact parts.frame result state.report other settled pending
  have notSettled : (∀ ttl, recorded state.report ≠ some (.report ttl)) →
      ¬Settled state.report action := by
    intro unreported settled
    rcases settled _ (parts.status state.report) with ⟨ttl, same⟩
    exact unreported ttl same
  unfold plainAction at run
  rw [exec_bind_of_ok (exec_get state)] at run
  cases known : recorded state.report with
  | none =>
      simp only [known] at run
      exact performed _ _ (notSettled (by simp [known])) run
  | some recordedResult =>
      cases recordedResult with
      | report ttl =>
          simp only [known] at run
          cases run
          refine follows_recorded ?_ trivial fun _ settled => settled
          rw [parts.status, known]
      | wait waitUntil notice =>
          simp only [known] at run
          split at run
          case isTrue future =>
            cases run
            refine follows_recorded ?_ (Nat.le_of_lt future) fun _ settled => settled
            rw [parts.status, known]
          case isFalse past =>
            exact performed _ _ (notSettled (by simp [known])) run

theorem dnskeyAction_follows {env : Environment} {kss : KeySetState} {now : UnixTime}
    {state final : CheckState} {result : AutoReportActionsResult}
    (run : exec (dnskeyAction env kss now) state = (.ok result, final)) :
    Follows now .reportDnskeyPropagated state.report final.report result.toActions := by
  refine plainAction_follows ⟨fun _ => rfl, fun _ _ => rfl, ?_⟩
    (reportDnskeyPropagated_notBefore env kss now) run
  intro result report other settled pending
  exact settled_recordDnskey result settled pending

theorem dsAction_follows {env : Environment} {kss : KeySetState} {now : UnixTime}
    {state final : CheckState} {result : AutoReportActionsResult}
    (run : exec (dsAction env kss now) state = (.ok result, final)) :
    Follows now .reportDsPropagated state.report final.report result.toActions := by
  have waits : Yields (AutoReportActionsResult.NotBefore now)
      (orDefaultWait now "Check DS propagation failed" (reportDsPropagated env kss now)) := by
    refine yields_bind (yields_capture (reportDsPropagated_notBefore env kss now)) ?_
    intro captured capturedWaits
    cases captured with
    | ok result => exact yields_pure (capturedWaits result rfl)
    | error reason => exact yields_pure (Nat.le_add_right _ _)
  refine plainAction_follows ⟨fun _ => rfl, fun _ _ => rfl, ?_⟩ waits run
  intro result report other settled pending
  exact settled_recordDs result settled pending

/-! ## Checks of the signatures -/

theorem checkWholeZone_follows {env : Environment} {kss : KeySetState} {now : UnixTime}
    {nameservers : List NameserverConnectionDetails} {tsigStore : TsigKeyStore}
    {state final : CheckState} {result : AutoReportRrsigResult}
    (pending : ¬Settled state.report .reportRrsigPropagated)
    (run : exec (checkWholeZone env kss now nameservers tsigStore) state =
      (.ok result, final)) :
    Follows now .reportRrsigPropagated state.report final.report
      result.toReport.toActions := by
  rcases exec_bind_eq_ok.mp run with ⟨checked, middle, consulted, rest⟩
  cases rest
  simp only [consult, exec_zoom, Prod.mk.injEq] at consulted
  rcases consulted with ⟨returned, rfl⟩
  have captured := (yields_capture
    (reportRrsigPropagated_notBefore env kss now nameservers tsigStore)).ok
      (Prod.ext returned rfl)
  refine follows_recorded rfl ?_ fun other settled =>
    settled_recordRrsig _ settled pending
  cases checked with
  | ok result => exact captured result rfl
  | error reason => exact Nat.le_add_right _ _

/-- A retry changes nothing but the number of calls until it records a result. -/
theorem exec_retry {Value : Type} {step : Step Value} {state middle : CheckState}
    {outcome : Except String Value}
    (run : exec (consult (capture step)) state = (.ok outcome, middle)) :
    middle.report = state.report ∧
      ∀ reason, outcome = .error reason →
        (exec step state.calls).1 = .error (.error reason) := by
  simp only [consult, exec_zoom, exec_capture, Prod.mk.injEq] at run
  rcases run with ⟨returned, rfl⟩
  refine ⟨rfl, ?_⟩
  rintro reason rfl
  rcases inner : exec step state.calls with ⟨⟨message | message⟩ | value, after⟩ <;>
    rw [inner] at returned <;> cases returned
  rfl

def Fails {Value : Type} (step : Step Value) (calls : Nat) : Prop :=
  ∃ reason, (exec step calls).1 = .error (.error reason)

/-- A wait for the next serial is over, the retry fails, and the wait that is
stored back is not the one that is returned. -/
def StoresOldNextSerial (env : Environment) (kss : KeySetState) (now : UnixTime)
    (state : CheckState) : Prop :=
  ∃ waitUntil serial ttl notice,
    state.report.rrsig = some (.waitNextSerial waitUntil serial ttl notice) ∧
      waitUntil ≤ now ∧ Fails (checkNextSerial env serial kss) state.calls ∧
      waitUntil ≠ now + fromSecs ttl

/-- The same for a wait for the SOA record in `auto_wait_actions`. -/
def StoresOldSoa (env : Environment) (kss : KeySetState) (now : UnixTime)
    (state : CheckState) : Prop :=
  ∃ waitUntil serial ttl reportTtl notice,
    state.report.rrsig = some (.waitSoa waitUntil serial ttl reportTtl notice) ∧
      waitUntil ≤ now ∧ Fails (checkSoa env serial kss now) state.calls ∧
      waitUntil ≠ now + fromSecs ttl

section Rrsig

variable {env : Environment} {kss : KeySetState} {now : UnixTime}
variable {nameservers : List NameserverConnectionDetails} {tsigStore : TsigKeyStore}
variable {state final : CheckState}

theorem not_settled_rrsig {result : AutoReportRrsigResult}
    (known : state.report.rrsig = some result) (waits : ∀ ttl, result.toReport ≠ .report ttl) :
    ¬Settled state.report .reportRrsigPropagated := by
  intro settled
  have status : Action.status state.report .reportRrsigPropagated =
      some (some result.toReport) := by simp [Action.status, known]
  rcases settled _ status with ⟨ttl, same⟩
  exact waits ttl (by simpa using same)

/-- A recorded wait that is not over is returned. -/
theorem follows_known {result : AutoReportRrsigResult}
    (known : state.report.rrsig = some result) (waits : result.NotBefore now) :
    Follows now .reportRrsigPropagated state.report state.report
      result.toReport.toActions :=
  follows_recorded (by simp [Action.status, known]) waits fun _ settled => settled

/-- The result of a retry that has been recorded. -/
theorem follows_retry {old : AutoReportRrsigResult} (new : AutoReportRrsigResult)
    (known : state.report.rrsig = some old) (waits : ∀ ttl, old.toReport ≠ .report ttl)
    (newWaits : new.NotBefore now) (same : final.report = state.report) :
    Follows now .reportRrsigPropagated state.report (recordRrsig new final.report)
      new.toReport.toActions := by
  rw [same]
  exact follows_recorded rfl newWaits fun other settled =>
    settled_recordRrsig new settled (not_settled_rrsig known waits)

theorem follows_wholeZone {result : AutoReportActionsResult} {middle : CheckState}
    (pending : ¬Settled state.report .reportRrsigPropagated)
    (same : middle.report = state.report)
    (run : exec (do
        let result ← checkWholeZone env kss now nameservers tsigStore
        return result.toReport) middle = (.ok result, final)) :
    Follows now .reportRrsigPropagated state.report final.report result.toActions := by
  rcases exec_bind_eq_ok.mp run with ⟨checked, after, whole, rest⟩
  cases rest
  rw [← same] at pending ⊢
  exact checkWholeZone_follows pending whole

theorem rrsigReportAction_follows {result : AutoReportActionsResult}
    (fresh : ¬StoresOldNextSerial env kss now state)
    (run : exec (rrsigReportAction env kss now nameservers tsigStore) state =
      (.ok result, final)) :
    Follows now .reportRrsigPropagated state.report final.report result.toActions := by
  unfold rrsigReportAction at run
  rw [exec_bind_of_ok (exec_get state)] at run
  cases known : state.report.rrsig with
  | none =>
      simp only [known] at run
      refine follows_wholeZone ?_ rfl run
      intro settled
      rcases settled none (by simp [Action.status, known]) with ⟨ttl, same⟩
      cases same
  | some recorded =>
      cases recorded with
      | report ttl =>
          simp only [known] at run
          cases run
          exact follows_known known trivial
      | wait waitUntil notice =>
          have pending := not_settled_rrsig known (by simp [AutoReportRrsigResult.toReport])
          simp only [known] at run
          split at run
          case isTrue future =>
            cases run
            exact follows_known known (Nat.le_of_lt future)
          case isFalse past => exact follows_wholeZone pending rfl run
      | waitSoa waitUntil serial ttl reportTtl notice =>
          have waits := (by simp [AutoReportRrsigResult.toReport] :
            ∀ other, (AutoReportRrsigResult.waitSoa waitUntil serial ttl reportTtl
              notice).toReport ≠ .report other)
          simp only [known] at run
          split at run
          case isTrue future =>
            cases run
            exact follows_known known (Nat.le_of_lt future)
          case isFalse past =>
            rcases exec_bind_eq_ok.mp run with ⟨served, middle, retry, rest⟩
            rcases exec_retry retry with ⟨same, _⟩
            cases served with
            | error reason =>
                cases rest
                exact follows_retry (.waitSoa (now + fromSecs ttl) serial ttl reportTtl reason)
                  known waits (Nat.le_add_right _ _) same
            | ok _ =>
                cases rest
                exact follows_retry (.report reportTtl) known waits trivial same
      | waitRecord waitUntil name rtype ttl notice =>
          have waits := (by simp [AutoReportRrsigResult.toReport] :
            ∀ other, (AutoReportRrsigResult.waitRecord waitUntil name rtype ttl
              notice).toReport ≠ .report other)
          simp only [known] at run
          split at run
          case isTrue future =>
            cases run
            exact follows_known known (Nat.le_of_lt future)
          case isFalse past =>
            rcases exec_bind_eq_ok.mp run with ⟨signed, middle, retry, rest⟩
            rcases exec_retry retry with ⟨same, _⟩
            cases signed with
            | error reason =>
                cases rest
                exact follows_retry (.waitRecord (now + fromSecs ttl) name rtype ttl reason)
                  known waits (Nat.le_add_right _ _) same
            | ok _ => exact follows_wholeZone (not_settled_rrsig known waits) same rest
      | waitNextSerial waitUntil serial ttl notice =>
          have waits := (by simp [AutoReportRrsigResult.toReport] :
            ∀ other, (AutoReportRrsigResult.waitNextSerial waitUntil serial ttl
              notice).toReport ≠ .report other)
          simp only [known] at run
          split at run
          case isTrue future =>
            cases run
            exact follows_known known (Nat.le_of_lt future)
          case isFalse past =>
            rcases exec_bind_eq_ok.mp run with ⟨moved, middle, retry, rest⟩
            rcases exec_retry retry with ⟨same, failed⟩
            cases moved with
            | error reason =>
                -- The old wait is as good as the new one only if they agree.
                have agrees : waitUntil = now + fromSecs ttl := by
                  by_contra differs
                  exact fresh ⟨waitUntil, serial, ttl, notice, known, Nat.le_of_not_lt past,
                    ⟨reason, failed reason rfl⟩, differs⟩
                cases rest
                rw [← agrees]
                exact follows_retry (.waitNextSerial waitUntil serial ttl reason)
                  known waits (by simp [AutoReportRrsigResult.NotBefore,
                    AutoReportRrsigResult.toReport, AutoReportActionsResult.NotBefore,
                    agrees]) same
            | ok _ => exact follows_wholeZone (not_settled_rrsig known waits) same rest

theorem exec_wholeZone (state : CheckState) :
    exec (do
        let result ← checkWholeZone env kss now nameservers tsigStore
        return result.toReport.toActions) state =
      Prod.map (Except.map AutoReportActionsResult.toActions) id
        (exec (do
          let result ← checkWholeZone env kss now nameservers tsigStore
          return result.toReport) state) := by
  rw [exec_bind, exec_bind]
  rcases exec (checkWholeZone env kss now nameservers tsigStore) state with ⟨_ | _, _⟩ <;> rfl

/-- The two functions treat an RRSIG action alike, but for a wait for the SOA
record. -/
theorem exec_rrsigWaitAction
    (notSoa : ∀ waitUntil serial ttl reportTtl notice,
      state.report.rrsig ≠ some (.waitSoa waitUntil serial ttl reportTtl notice)) :
    exec (rrsigWaitAction env kss now nameservers tsigStore) state =
      Prod.map (Except.map AutoReportActionsResult.toActions) id
        (exec (rrsigReportAction env kss now nameservers tsigStore) state) := by
  unfold rrsigWaitAction rrsigReportAction
  rw [exec_bind_of_ok (exec_get state), exec_bind_of_ok (exec_get state)]
  cases known : state.report.rrsig with
  | none => exact exec_wholeZone state
  | some recorded =>
      cases recorded with
      | report ttl => rfl
      | wait waitUntil notice =>
          by_cases future : now < waitUntil
          · simp only [if_pos future]
            rfl
          · simp only [if_neg future]
            exact exec_wholeZone state
      | waitSoa waitUntil serial ttl reportTtl notice => exact absurd known (notSoa _ _ _ _ _)
      | waitRecord waitUntil name rtype ttl notice =>
          by_cases future : now < waitUntil
          · simp only [if_pos future]
            rfl
          · simp only [if_neg future, exec_bind]
            rcases exec (consult (capture (checkRecord env name rtype kss))) state with
              ⟨_ | _ | _, middle⟩
            · rfl
            · rfl
            · simpa only [exec_bind] using exec_wholeZone middle
      | waitNextSerial waitUntil serial ttl notice =>
          by_cases future : now < waitUntil
          · simp only [if_pos future]
            rfl
          · simp only [if_neg future, exec_bind]
            rcases exec (consult (capture (checkNextSerial env serial kss))) state with
              ⟨_ | _ | _, middle⟩
            · rfl
            · rfl
            · simpa only [exec_bind] using exec_wholeZone middle

theorem rrsigWaitAction_follows {result : AutoActionsResult}
    (freshSerial : ¬StoresOldNextSerial env kss now state)
    (freshSoa : ¬StoresOldSoa env kss now state)
    (run : exec (rrsigWaitAction env kss now nameservers tsigStore) state =
      (.ok result, final)) :
    Follows now .reportRrsigPropagated state.report final.report result := by
  by_cases soa : ∃ waitUntil serial ttl reportTtl notice,
      state.report.rrsig = some (.waitSoa waitUntil serial ttl reportTtl notice)
  · rcases soa with ⟨waitUntil, serial, ttl, reportTtl, notice, known⟩
    have waits := (by simp [AutoReportRrsigResult.toReport] :
      ∀ other, (AutoReportRrsigResult.waitSoa waitUntil serial ttl reportTtl
        notice).toReport ≠ .report other)
    unfold rrsigWaitAction at run
    rw [exec_bind_of_ok (exec_get state)] at run
    simp only [known] at run
    split at run
    case isTrue future =>
      cases run
      exact follows_known known (Nat.le_of_lt future)
    case isFalse past =>
      rcases exec_bind_eq_ok.mp run with ⟨served, middle, retry, rest⟩
      rcases exec_retry retry with ⟨same, failed⟩
      cases served with
      | error reason =>
          have agrees : waitUntil = now + fromSecs ttl := by
            by_contra differs
            exact freshSoa ⟨waitUntil, serial, ttl, reportTtl, notice, known,
              Nat.le_of_not_lt past, ⟨reason, failed reason rfl⟩, differs⟩
          cases rest
          rw [← agrees]
          exact follows_retry (.waitSoa waitUntil serial ttl reportTtl reason) known waits
            (by simp [AutoReportRrsigResult.NotBefore, AutoReportRrsigResult.toReport,
              AutoReportActionsResult.NotBefore, agrees]) same
      | ok _ =>
          cases rest
          exact follows_retry (.report reportTtl) known waits trivial same
  · have notSoa : ∀ waitUntil serial ttl reportTtl notice,
        state.report.rrsig ≠ some (.waitSoa waitUntil serial ttl reportTtl notice) := by
      intro waitUntil serial ttl reportTtl notice known
      exact soa ⟨waitUntil, serial, ttl, reportTtl, notice, known⟩
    rw [exec_rrsigWaitAction notSoa] at run
    rcases report : exec (rrsigReportAction env kss now nameservers tsigStore) state with
      ⟨_ | reported, after⟩
    · rw [report] at run
      cases run
    · rw [report] at run
      cases run
      exact rrsigReportAction_follows freshSerial report

/-! ### Retries that store the old wait -/

/-- The wait that is recorded is not the wait that is returned. -/
def KeepsOld (action : Action) (report final : ReportState) (waitUntil : UnixTime) : Prop :=
  (∃ old, old ≠ waitUntil ∧ WaitsUntil final action old) ∧
    ∀ other, Settled report other → Settled final other

theorem exec_failing_retry {Value : Type} {step : Step Value}
    (fails : Fails step state.calls) :
    ∃ reason middle, exec (consult (capture step)) state = (.ok (.error reason), middle) ∧
      middle.report = state.report := by
  rcases fails with ⟨reason, failed⟩
  rcases inner : exec step state.calls with ⟨outcome, calls⟩
  rw [inner] at failed
  cases failed
  refine ⟨reason, { state with calls }, ?_, rfl⟩
  simp [consult, exec_zoom, exec_capture, inner]

theorem rrsigReportAction_keepsOld (stalls : StoresOldNextSerial env kss now state) :
    ∃ waitUntil notice final,
      exec (rrsigReportAction env kss now nameservers tsigStore) state =
        (.ok (.wait waitUntil notice), final) ∧
      KeepsOld .reportRrsigPropagated state.report final.report waitUntil := by
  rcases stalls with ⟨old, serial, ttl, notice, known, past, fails, differs⟩
  rcases exec_failing_retry fails with ⟨reason, middle, retry, same⟩
  have pending := not_settled_rrsig known (by simp [AutoReportRrsigResult.toReport])
  let stored := recordRrsig (.waitNextSerial old serial ttl reason) middle.report
  refine ⟨now + fromSecs ttl, reason, { middle with report := stored, stateChanged := true },
    ?_, ⟨old, differs, reason, rfl⟩, ?_⟩
  · unfold rrsigReportAction
    rw [exec_bind_of_ok (exec_get state)]
    simp only [known, if_neg (Nat.not_lt.mpr past)]
    rw [exec_bind_of_ok retry]
    rfl
  · intro other settled
    exact settled_recordRrsig _ (same ▸ settled) (same ▸ pending)

theorem rrsigWaitAction_keepsOld
    (stalls : StoresOldNextSerial env kss now state ∨ StoresOldSoa env kss now state) :
    ∃ waitUntil final,
      exec (rrsigWaitAction env kss now nameservers tsigStore) state =
        (.ok (.wait waitUntil), final) ∧
      KeepsOld .reportRrsigPropagated state.report final.report waitUntil := by
  rcases stalls with serial | soa
  · have keepsOld := @rrsigReportAction_keepsOld env kss now nameservers tsigStore state serial
    rcases keepsOld with ⟨waitUntil, notice, final, run, keeps⟩
    rcases serial with ⟨_, _, _, _, known, _⟩
    refine ⟨waitUntil, final, ?_, keeps⟩
    rw [exec_rrsigWaitAction (by simp [known]), run]
    rfl
  · rcases soa with ⟨old, serial, ttl, reportTtl, notice, known, past, fails, differs⟩
    rcases exec_failing_retry fails with ⟨reason, middle, retry, same⟩
    have pending := not_settled_rrsig known (by simp [AutoReportRrsigResult.toReport])
    let stored := recordRrsig (.waitSoa old serial ttl reportTtl reason) middle.report
    refine ⟨now + fromSecs ttl, { middle with report := stored, stateChanged := true },
      ?_, ⟨old, differs, reason, rfl⟩, ?_⟩
    · unfold rrsigWaitAction
      rw [exec_bind_of_ok (exec_get state)]
      simp only [known, if_neg (Nat.not_lt.mpr past)]
      rw [exec_bind_of_ok retry]
      rfl
    · intro other settled
      exact settled_recordRrsig _ (same ▸ settled) (same ▸ pending)

end Rrsig

/-! ## The loops over the actions -/

/-- The loop gets past the check and comes to `rest`. -/
def Passes (check : Check AutoReportActionsResult) (rest : CheckState → Prop)
    (state : CheckState) : Prop :=
  ∃ ttl middle, exec check state = (.ok (.report ttl), middle) ∧ rest middle

/-- `auto_report_actions` comes to an RRSIG action whose retry stores the old
wait. -/
def ReportStalls (env : Environment) (kss : KeySetState) (now : UnixTime) :
    List Action → CheckState → Prop
  | [], _ => False
  | action :: actions, state =>
      match action with
      | .reportDnskeyPropagated =>
          Passes (dnskeyAction env kss now) (ReportStalls env kss now actions) state
      | .reportDsPropagated =>
          Passes (dsAction env kss now) (ReportStalls env kss now actions) state
      | .reportRrsigPropagated => StoresOldNextSerial env kss now state
      | .updateDnskeyRrset => ReportStalls env kss now actions state
      | .createCdsRrset => ReportStalls env kss now actions state
      | .removeCdsRrset => ReportStalls env kss now actions state
      | .updateDsRrset => ReportStalls env kss now actions state
      | .updateRrsig => ReportStalls env kss now actions state
      | _ => False

/-- `auto_wait_actions` comes to an RRSIG action whose retry stores the old
wait. -/
def WaitStalls (env : Environment) (kss : KeySetState) (now : UnixTime) :
    List Action → CheckState → Prop
  | [], _ => False
  | action :: actions, state =>
      match action with
      | .waitDnskeyPropagated =>
          Passes (dnskeyAction env kss now) (WaitStalls env kss now actions) state
      | .waitDsPropagated =>
          Passes (dsAction env kss now) (WaitStalls env kss now actions) state
      | .waitRrsigPropagated =>
          StoresOldNextSerial env kss now state ∨ StoresOldSoa env kss now state
      | .updateDnskeyRrset => WaitStalls env kss now actions state
      | .createCdsRrset => WaitStalls env kss now actions state
      | .removeCdsRrset => WaitStalls env kss now actions state
      | .updateDsRrset => WaitStalls env kss now actions state
      | .updateRrsig => WaitStalls env kss now actions state
      | _ => False

/-- What holds after a whole action list. -/
def ListFollows (now : UnixTime) (actions : List Action) (report final : ReportState)
    (result : AutoActionsResult) : Prop :=
  (∀ waitUntil, result = .wait waitUntil →
    (∀ later, checkAutoActions later final actions = .wait waitUntil) ∧ now ≤ waitUntil) ∧
  ∀ other, Settled report other → Settled final other

def ListKeepsOld (actions : List Action) (report final : ReportState)
    (waitUntil : UnixTime) : Prop :=
  (∃ old, old ≠ waitUntil ∧ ∀ later, checkAutoActions later final actions = .wait old) ∧
    ∀ other, Settled report other → Settled final other

/-- Which record an action waits for does not depend on whether it reports. -/
def Action.SameStatus (left right : Action) : Prop :=
  ∀ report, left.status report = right.status report

theorem sameStatus_dnskey :
    Action.SameStatus .reportDnskeyPropagated .waitDnskeyPropagated := fun _ => rfl

theorem sameStatus_ds : Action.SameStatus .reportDsPropagated .waitDsPropagated := fun _ => rfl

theorem sameStatus_rrsig :
    Action.SameStatus .reportRrsigPropagated .waitRrsigPropagated := fun _ => rfl

theorem settled_congr {left right : Action} {report : ReportState}
    (same : left.SameStatus right) (settled : Settled report left) : Settled report right := by
  intro status found
  exact settled status ((same report).trans found)

theorem checkAutoActions_cons_settled (later : UnixTime) {report : ReportState}
    {action : Action} (actions : List Action) (settled : Settled report action) :
    checkAutoActions later report (action :: actions) =
      checkAutoActions later report actions := by
  cases status : action.status report with
  | none => simp [checkAutoActions, status]
  | some recorded =>
      rcases settled recorded status with ⟨ttl, rfl⟩
      simp [checkAutoActions, status]

theorem checkAutoActions_cons_waits (later : UnixTime) {report : ReportState}
    {action : Action} (actions : List Action) {waitUntil : UnixTime}
    (waits : WaitsUntil report action waitUntil) :
    checkAutoActions later report (action :: actions) = .wait waitUntil := by
  rcases waits with ⟨notice, status⟩
  simp [checkAutoActions, status]

section Lists

variable {now : UnixTime} {action checked : Action} {actions : List Action}
variable {report middle final : ReportState}

theorem listFollows_nil : ListFollows now [] report report .ok :=
  ⟨fun _ same => AutoActionsResult.noConfusion same, fun _ settled => settled⟩

theorem listFollows_skip {result : AutoActionsResult} (skipped : ∀ report, Settled report action)
    (rest : ListFollows now actions report final result) :
    ListFollows now (action :: actions) report final result := by
  refine ⟨?_, rest.2⟩
  intro waitUntil same
  rcases rest.1 waitUntil same with ⟨recorded, future⟩
  refine ⟨fun later => ?_, future⟩
  rw [checkAutoActions_cons_settled later actions (skipped final)]
  exact recorded later

theorem listFollows_wait {waitUntil : UnixTime} (same : checked.SameStatus action)
    (first : Follows now checked report final (.wait waitUntil)) :
    ListFollows now (action :: actions) report final (.wait waitUntil) := by
  rcases first with ⟨⟨notice, status⟩, future, frame⟩
  refine ⟨?_, frame⟩
  intro returned equal
  cases equal
  exact ⟨fun later => checkAutoActions_cons_waits later actions
    ⟨notice, (same final).symm.trans status⟩, future⟩

theorem listFollows_next {result : AutoActionsResult} (same : checked.SameStatus action)
    (first : Follows now checked report middle .ok)
    (rest : ListFollows now actions middle final result) :
    ListFollows now (action :: actions) report final result := by
  rcases first with ⟨settled, frame⟩
  refine ⟨?_, fun other before => rest.2 other (frame other before)⟩
  intro waitUntil equal
  rcases rest.1 waitUntil equal with ⟨recorded, future⟩
  refine ⟨fun later => ?_, future⟩
  rw [checkAutoActions_cons_settled later actions
    (settled_congr same (rest.2 checked settled))]
  exact recorded later

theorem listKeepsOld_skip {waitUntil : UnixTime} (skipped : ∀ report, Settled report action)
    (rest : ListKeepsOld actions report final waitUntil) :
    ListKeepsOld (action :: actions) report final waitUntil := by
  rcases rest with ⟨⟨old, differs, recorded⟩, frame⟩
  refine ⟨⟨old, differs, fun later => ?_⟩, frame⟩
  rw [checkAutoActions_cons_settled later actions (skipped final)]
  exact recorded later

theorem listKeepsOld_here {waitUntil : UnixTime} (same : checked.SameStatus action)
    (keeps : KeepsOld checked report final waitUntil) :
    ListKeepsOld (action :: actions) report final waitUntil := by
  rcases keeps with ⟨⟨old, differs, notice, status⟩, frame⟩
  exact ⟨⟨old, differs, fun later => checkAutoActions_cons_waits later actions
    ⟨notice, (same final).symm.trans status⟩⟩, frame⟩

theorem listKeepsOld_next {waitUntil : UnixTime} (same : checked.SameStatus action)
    (first : Follows now checked report middle .ok)
    (rest : ListKeepsOld actions middle final waitUntil) :
    ListKeepsOld (action :: actions) report final waitUntil := by
  rcases first with ⟨settled, frame⟩
  rcases rest with ⟨⟨old, differs, recorded⟩, restFrame⟩
  refine ⟨⟨old, differs, fun later => ?_⟩, fun other before =>
    restFrame other (frame other before)⟩
  rw [checkAutoActions_cons_settled later actions
    (settled_congr same (restFrame checked settled))]
  exact recorded later

end Lists

theorem settled_update {action : Action} (report : ReportState)
    (noStatus : action.status report = none) : Settled report action := by
  intro status found
  rw [noStatus] at found
  cases found

section Loops

variable {env : Environment} {kss : KeySetState} {now : UnixTime}
variable {nameservers : List NameserverConnectionDetails} {tsigStore : TsigKeyStore}

theorem not_storesOldNextSerial {state : CheckState}
    (settled : Settled state.report .reportRrsigPropagated) :
    ¬StoresOldNextSerial env kss now state := by
  rintro ⟨waitUntil, serial, ttl, notice, known, _⟩
  exact not_settled_rrsig known (by simp [AutoReportRrsigResult.toReport]) settled

theorem not_storesOldSoa {state : CheckState}
    (settled : Settled state.report .reportRrsigPropagated) :
    ¬StoresOldSoa env kss now state := by
  rintro ⟨waitUntil, serial, ttl, reportTtl, notice, known, _⟩
  exact not_settled_rrsig known (by simp [AutoReportRrsigResult.toReport]) settled

/-- A settled RRSIG action does not stall the rest of the list. -/
theorem not_reportStalls (actions : List Action) (state : CheckState)
    (settled : Settled state.report .reportRrsigPropagated) :
    ¬ReportStalls env kss now actions state := by
  induction actions generalizing state with
  | nil => exact id
  | cons action actions induction =>
      cases action with
      | reportDnskeyPropagated =>
          rintro ⟨ttl, middle, first, rest⟩
          exact induction middle ((dnskeyAction_follows first).2 _ settled) rest
      | reportDsPropagated =>
          rintro ⟨ttl, middle, first, rest⟩
          exact induction middle ((dsAction_follows first).2 _ settled) rest
      | reportRrsigPropagated => exact not_storesOldNextSerial settled
      | updateDnskeyRrset => exact induction state settled
      | createCdsRrset => exact induction state settled
      | removeCdsRrset => exact induction state settled
      | updateDsRrset => exact induction state settled
      | updateRrsig => exact induction state settled
      | waitDnskeyPropagated => exact id
      | waitDsPropagated => exact id
      | waitRrsigPropagated => exact id

theorem not_waitStalls (actions : List Action) (state : CheckState)
    (settled : Settled state.report .reportRrsigPropagated) :
    ¬WaitStalls env kss now actions state := by
  induction actions generalizing state with
  | nil => exact id
  | cons action actions induction =>
      cases action with
      | waitDnskeyPropagated =>
          rintro ⟨ttl, middle, first, rest⟩
          exact induction middle ((dnskeyAction_follows first).2 _ settled) rest
      | waitDsPropagated =>
          rintro ⟨ttl, middle, first, rest⟩
          exact induction middle ((dsAction_follows first).2 _ settled) rest
      | waitRrsigPropagated =>
          rintro (serial | soa)
          · exact not_storesOldNextSerial settled serial
          · exact not_storesOldSoa settled soa
      | updateDnskeyRrset => exact induction state settled
      | createCdsRrset => exact induction state settled
      | removeCdsRrset => exact induction state settled
      | updateDsRrset => exact induction state settled
      | updateRrsig => exact induction state settled
      | reportDnskeyPropagated => exact id
      | reportDsPropagated => exact id
      | reportRrsigPropagated => exact id

/-- One check of `auto_report_actions` followed by the rest of the list. -/
theorem reportEach_cons {checked : Action} {actions : List Action} {maxTtl : Ttl}
    {check : Check AutoReportActionsResult} {state final : CheckState}
    {result : AutoReportActionsResult}
    (follows : ∀ result middle, exec check state = (.ok result, middle) →
      Follows now checked state.report middle.report result.toActions)
    (rest : ∀ maxTtl middle result final,
      exec (reportEach env kss now nameservers tsigStore actions maxTtl) middle =
        (.ok result, final) →
      (∃ ttl, exec check state = (.ok (.report ttl), middle)) →
      ListFollows now actions middle.report final.report result.toActions)
    {action : Action} (same : checked.SameStatus action)
    (run : exec (do
        let result ← check
        match result with
        | .wait waitUntil notice => return .wait waitUntil notice
        | .report ttl =>
            reportEach env kss now nameservers tsigStore actions (max maxTtl ttl)) state =
      (.ok result, final)) :
    ListFollows now (action :: actions) state.report final.report result.toActions := by
  rcases exec_bind_eq_ok.mp run with ⟨found, middle, first, later⟩
  have followed := follows found middle first
  cases found with
  | wait waitUntil notice =>
      cases later
      exact listFollows_wait same followed
  | report ttl => exact listFollows_next same followed (rest _ _ _ _ later ⟨ttl, first⟩)

theorem reportEach_follows (actions : List Action) (maxTtl : Ttl) (state : CheckState)
    (result : AutoReportActionsResult) (final : CheckState)
    (fresh : ¬ReportStalls env kss now actions state)
    (run : exec (reportEach env kss now nameservers tsigStore actions maxTtl) state =
      (.ok result, final)) :
    ListFollows now actions state.report final.report result.toActions := by
  induction actions generalizing maxTtl state result final with
  | nil =>
      cases run
      exact listFollows_nil
  | cons action actions induction =>
      cases action with
      | reportDnskeyPropagated =>
          refine reportEach_cons (fun _ _ first => dnskeyAction_follows first) ?_
            (fun _ => rfl) run
          rintro maxTtl middle result final later ⟨ttl, first⟩
          exact induction maxTtl middle result final
            (fun stalls => fresh ⟨ttl, middle, first, stalls⟩) later
      | reportDsPropagated =>
          refine reportEach_cons (fun _ _ first => dsAction_follows first) ?_
            (fun _ => rfl) run
          rintro maxTtl middle result final later ⟨ttl, first⟩
          exact induction maxTtl middle result final
            (fun stalls => fresh ⟨ttl, middle, first, stalls⟩) later
      | reportRrsigPropagated =>
          refine reportEach_cons (fun _ _ first => rrsigReportAction_follows fresh first) ?_
            (fun _ => rfl) run
          rintro maxTtl middle result final later ⟨ttl, first⟩
          have settled := (rrsigReportAction_follows fresh first).1
          exact induction maxTtl middle result final (not_reportStalls actions middle settled)
            later
      | updateDnskeyRrset =>
          exact listFollows_skip (settled_update · rfl) (induction _ _ _ _ fresh run)
      | createCdsRrset =>
          exact listFollows_skip (settled_update · rfl) (induction _ _ _ _ fresh run)
      | removeCdsRrset =>
          exact listFollows_skip (settled_update · rfl) (induction _ _ _ _ fresh run)
      | updateDsRrset =>
          exact listFollows_skip (settled_update · rfl) (induction _ _ _ _ fresh run)
      | updateRrsig =>
          exact listFollows_skip (settled_update · rfl) (induction _ _ _ _ fresh run)
      | waitDnskeyPropagated => cases run
      | waitDsPropagated => cases run
      | waitRrsigPropagated => cases run

theorem reportEach_keepsOld (actions : List Action) (maxTtl : Ttl) (state : CheckState)
    (stalls : ReportStalls env kss now actions state) :
    ∃ waitUntil notice final,
      exec (reportEach env kss now nameservers tsigStore actions maxTtl) state =
        (.ok (.wait waitUntil notice), final) ∧
      ListKeepsOld actions state.report final.report waitUntil := by
  induction actions generalizing maxTtl state with
  | nil => exact stalls.elim
  | cons action actions induction =>
      cases action with
      | reportDnskeyPropagated =>
          rcases stalls with ⟨ttl, middle, first, rest⟩
          rcases induction (max maxTtl ttl) middle rest with
            ⟨waitUntil, notice, final, later, keeps⟩
          exact ⟨waitUntil, notice, final, (exec_bind_of_ok first).trans later,
            listKeepsOld_next (fun _ => rfl) (dnskeyAction_follows first) keeps⟩
      | reportDsPropagated =>
          rcases stalls with ⟨ttl, middle, first, rest⟩
          rcases induction (max maxTtl ttl) middle rest with
            ⟨waitUntil, notice, final, later, keeps⟩
          exact ⟨waitUntil, notice, final, (exec_bind_of_ok first).trans later,
            listKeepsOld_next (fun _ => rfl) (dsAction_follows first) keeps⟩
      | reportRrsigPropagated =>
          rcases rrsigReportAction_keepsOld (show StoresOldNextSerial env kss now state from
            stalls) with ⟨waitUntil, notice, final, first, keeps⟩
          exact ⟨waitUntil, notice, final, exec_bind_of_ok first,
            listKeepsOld_here (fun _ => rfl) keeps⟩
      | updateDnskeyRrset =>
          rcases induction maxTtl state stalls with ⟨waitUntil, notice, final, run, keeps⟩
          exact ⟨waitUntil, notice, final, run, listKeepsOld_skip (settled_update · rfl) keeps⟩
      | createCdsRrset =>
          rcases induction maxTtl state stalls with ⟨waitUntil, notice, final, run, keeps⟩
          exact ⟨waitUntil, notice, final, run, listKeepsOld_skip (settled_update · rfl) keeps⟩
      | removeCdsRrset =>
          rcases induction maxTtl state stalls with ⟨waitUntil, notice, final, run, keeps⟩
          exact ⟨waitUntil, notice, final, run, listKeepsOld_skip (settled_update · rfl) keeps⟩
      | updateDsRrset =>
          rcases induction maxTtl state stalls with ⟨waitUntil, notice, final, run, keeps⟩
          exact ⟨waitUntil, notice, final, run, listKeepsOld_skip (settled_update · rfl) keeps⟩
      | updateRrsig =>
          rcases induction maxTtl state stalls with ⟨waitUntil, notice, final, run, keeps⟩
          exact ⟨waitUntil, notice, final, run, listKeepsOld_skip (settled_update · rfl) keeps⟩
      | waitDnskeyPropagated => exact stalls.elim
      | waitDsPropagated => exact stalls.elim
      | waitRrsigPropagated => exact stalls.elim

/-- One check of `auto_wait_actions` followed by the rest of the list. -/
theorem autoWaitActions_cons {checked : Action} {actions : List Action}
    {check : Check AutoActionsResult} {state final : CheckState}
    {result : AutoActionsResult}
    (follows : ∀ result middle, exec check state = (.ok result, middle) →
      Follows now checked state.report middle.report result)
    (rest : ∀ middle result final,
      exec (autoWaitActions env kss now nameservers tsigStore actions) middle =
        (.ok result, final) →
      exec check state = (.ok .ok, middle) →
      ListFollows now actions middle.report final.report result)
    {action : Action} (same : checked.SameStatus action)
    (run : exec (do
        let result ← check
        match result with
        | .wait waitUntil => return .wait waitUntil
        | .ok => autoWaitActions env kss now nameservers tsigStore actions) state =
      (.ok result, final)) :
    ListFollows now (action :: actions) state.report final.report result := by
  rcases exec_bind_eq_ok.mp run with ⟨found, middle, first, later⟩
  have followed := follows found middle first
  cases found with
  | wait waitUntil =>
      cases later
      exact listFollows_wait same followed
  | ok => exact listFollows_next same followed (rest _ _ _ later first)

theorem plain_ok {check : Check AutoReportActionsResult} {state middle : CheckState}
    {result : AutoActionsResult}
    (run : exec (do
        let result ← check
        return result.toActions) state = (.ok result, middle)) :
    ∃ reported, exec check state = (.ok reported, middle) ∧ reported.toActions = result := by
  rcases exec_bind_eq_ok.mp run with ⟨reported, after, first, later⟩
  cases later
  exact ⟨reported, first, rfl⟩

theorem toActions_eq_ok {reported : AutoReportActionsResult}
    (done : reported.toActions = .ok) : ∃ ttl, reported = .report ttl := by
  cases reported with
  | report ttl => exact ⟨ttl, rfl⟩
  | wait waitUntil notice => cases done

theorem autoWaitActions_follows (actions : List Action) (state : CheckState)
    (result : AutoActionsResult) (final : CheckState)
    (fresh : ¬WaitStalls env kss now actions state)
    (run : exec (autoWaitActions env kss now nameservers tsigStore actions) state =
      (.ok result, final)) :
    ListFollows now actions state.report final.report result := by
  induction actions generalizing state result final with
  | nil =>
      cases run
      exact listFollows_nil
  | cons action actions induction =>
      cases action with
      | waitDnskeyPropagated =>
          refine autoWaitActions_cons ?_ ?_ sameStatus_dnskey run
          · intro result middle first
            rcases plain_ok first with ⟨reported, check, rfl⟩
            exact dnskeyAction_follows check
          · intro middle result final later first
            rcases plain_ok first with ⟨reported, check, done⟩
            rcases toActions_eq_ok done with ⟨ttl, rfl⟩
            exact induction middle result final
              (fun stalls => fresh ⟨ttl, middle, check, stalls⟩) later
      | waitDsPropagated =>
          refine autoWaitActions_cons ?_ ?_ sameStatus_ds run
          · intro result middle first
            rcases plain_ok first with ⟨reported, check, rfl⟩
            exact dsAction_follows check
          · intro middle result final later first
            rcases plain_ok first with ⟨reported, check, done⟩
            rcases toActions_eq_ok done with ⟨ttl, rfl⟩
            exact induction middle result final
              (fun stalls => fresh ⟨ttl, middle, check, stalls⟩) later
      | waitRrsigPropagated =>
          have fresh := not_or.mp (show ¬(StoresOldNextSerial env kss now state ∨
            StoresOldSoa env kss now state) from fresh)
          refine autoWaitActions_cons
            (fun _ _ first => rrsigWaitAction_follows fresh.1 fresh.2 first) ?_
            sameStatus_rrsig run
          intro middle result final later first
          have settled := (rrsigWaitAction_follows fresh.1 fresh.2 first).1
          exact induction middle result final (not_waitStalls actions middle settled) later
      | updateDnskeyRrset =>
          exact listFollows_skip (settled_update · rfl) (induction _ _ _ fresh run)
      | createCdsRrset =>
          exact listFollows_skip (settled_update · rfl) (induction _ _ _ fresh run)
      | removeCdsRrset =>
          exact listFollows_skip (settled_update · rfl) (induction _ _ _ fresh run)
      | updateDsRrset =>
          exact listFollows_skip (settled_update · rfl) (induction _ _ _ fresh run)
      | updateRrsig =>
          exact listFollows_skip (settled_update · rfl) (induction _ _ _ fresh run)
      | reportDnskeyPropagated => cases run
      | reportDsPropagated => cases run
      | reportRrsigPropagated => cases run

theorem exec_plain {check : Check AutoReportActionsResult} {state middle : CheckState}
    {reported : AutoReportActionsResult}
    (first : exec check state = (.ok reported, middle)) :
    exec (do
        let result ← check
        return result.toActions) state = (.ok reported.toActions, middle) := by
  rw [exec_bind_of_ok first]
  rfl

theorem autoWaitActions_keepsOld (actions : List Action) (state : CheckState)
    (stalls : WaitStalls env kss now actions state) :
    ∃ waitUntil final,
      exec (autoWaitActions env kss now nameservers tsigStore actions) state =
        (.ok (.wait waitUntil), final) ∧
      ListKeepsOld actions state.report final.report waitUntil := by
  induction actions generalizing state with
  | nil => exact stalls.elim
  | cons action actions induction =>
      cases action with
      | waitDnskeyPropagated =>
          rcases stalls with ⟨ttl, middle, first, rest⟩
          rcases induction middle rest with ⟨waitUntil, final, later, keeps⟩
          exact ⟨waitUntil, final, (exec_bind_of_ok (exec_plain first)).trans later,
            listKeepsOld_next sameStatus_dnskey (dnskeyAction_follows first) keeps⟩
      | waitDsPropagated =>
          rcases stalls with ⟨ttl, middle, first, rest⟩
          rcases induction middle rest with ⟨waitUntil, final, later, keeps⟩
          exact ⟨waitUntil, final, (exec_bind_of_ok (exec_plain first)).trans later,
            listKeepsOld_next sameStatus_ds (dsAction_follows first) keeps⟩
      | waitRrsigPropagated =>
          rcases rrsigWaitAction_keepsOld (show StoresOldNextSerial env kss now state ∨
            StoresOldSoa env kss now state from stalls) with
            ⟨waitUntil, final, first, keeps⟩
          exact ⟨waitUntil, final, exec_bind_of_ok first,
            listKeepsOld_here sameStatus_rrsig keeps⟩
      | updateDnskeyRrset =>
          rcases induction state stalls with ⟨waitUntil, final, run, keeps⟩
          exact ⟨waitUntil, final, run, listKeepsOld_skip (settled_update · rfl) keeps⟩
      | createCdsRrset =>
          rcases induction state stalls with ⟨waitUntil, final, run, keeps⟩
          exact ⟨waitUntil, final, run, listKeepsOld_skip (settled_update · rfl) keeps⟩
      | removeCdsRrset =>
          rcases induction state stalls with ⟨waitUntil, final, run, keeps⟩
          exact ⟨waitUntil, final, run, listKeepsOld_skip (settled_update · rfl) keeps⟩
      | updateDsRrset =>
          rcases induction state stalls with ⟨waitUntil, final, run, keeps⟩
          exact ⟨waitUntil, final, run, listKeepsOld_skip (settled_update · rfl) keeps⟩
      | updateRrsig =>
          rcases induction state stalls with ⟨waitUntil, final, run, keeps⟩
          exact ⟨waitUntil, final, run, listKeepsOld_skip (settled_update · rfl) keeps⟩
      | reportDnskeyPropagated => exact stalls.elim
      | reportDsPropagated => exact stalls.elim
      | reportRrsigPropagated => exact stalls.elim

end Loops

/-! ## Retries move forward -/

/-- A wait that is returned is recorded for the action that waits, and it does
not end before now. -/
def MovesForward (now : UnixTime) (actions : List Action) (result : AutoActionsResult)
    (final : ReportState) : Prop :=
  ∀ waitUntil, result = .wait waitUntil →
    (∀ later, checkAutoActions later final actions = .wait waitUntil) ∧ now ≤ waitUntil

def ReportMovesForward (env : Environment) (kss : KeySetState) (now : UnixTime)
    (nameservers : List NameserverConnectionDetails) (tsigStore : TsigKeyStore)
    (actions : List Action) (state : CheckState) : Prop :=
  ∀ result final,
    exec (autoReportActions env kss now nameservers tsigStore actions) state =
      (.ok result, final) →
    MovesForward now actions result.toActions final.report

def WaitMovesForward (env : Environment) (kss : KeySetState) (now : UnixTime)
    (nameservers : List NameserverConnectionDetails) (tsigStore : TsigKeyStore)
    (actions : List Action) (state : CheckState) : Prop :=
  ∀ result final,
    exec (autoWaitActions env kss now nameservers tsigStore actions) state =
      (.ok result, final) →
    MovesForward now actions result final.report

theorem not_movesForward {now : UnixTime} {actions : List Action}
    {report final : ReportState} {waitUntil : UnixTime}
    (keeps : ListKeepsOld actions report final waitUntil) :
    ¬MovesForward now actions (.wait waitUntil) final := by
  intro forward
  rcases keeps with ⟨⟨old, differs, recorded⟩, _⟩
  have returned := (forward waitUntil rfl).1 now
  rw [recorded now] at returned
  cases returned
  exact differs rfl

theorem reportMovesForward_iff (env : Environment) (kss : KeySetState) (now : UnixTime)
    (nameservers : List NameserverConnectionDetails) (tsigStore : TsigKeyStore)
    (actions : List Action) (state : CheckState) :
    ReportMovesForward env kss now nameservers tsigStore actions state ↔
      ¬ReportStalls env kss now actions state := by
  constructor
  · intro forward stalls
    rcases @reportEach_keepsOld env kss now nameservers tsigStore actions 0 state stalls with
      ⟨waitUntil, notice, final, run, keeps⟩
    have nonempty : actions.isEmpty = false := by
      cases actions with
      | nil => exact stalls.elim
      | cons action actions => rfl
    refine not_movesForward keeps (forward (.wait waitUntil notice) final ?_)
    unfold autoReportActions
    simp only [nonempty]
    exact (exec_bind_of_ok rfl).trans run
  · intro fresh result final run
    rcases exec_bind_eq_ok.mp run with ⟨_, middle, asserted, loop⟩
    have unchanged : middle = state := by
      unfold assert at asserted
      split at asserted <;> cases asserted
      rfl
    subst unchanged
    exact (reportEach_follows actions 0 middle result final fresh loop).1

theorem waitMovesForward_iff (env : Environment) (kss : KeySetState) (now : UnixTime)
    (nameservers : List NameserverConnectionDetails) (tsigStore : TsigKeyStore)
    (actions : List Action) (state : CheckState) :
    WaitMovesForward env kss now nameservers tsigStore actions state ↔
      ¬WaitStalls env kss now actions state := by
  constructor
  · intro forward stalls
    rcases @autoWaitActions_keepsOld env kss now nameservers tsigStore actions state stalls
      with ⟨waitUntil, final, run, keeps⟩
    exact not_movesForward keeps (forward (.wait waitUntil) final run)
  · intro fresh result final run
    exact (autoWaitActions_follows actions state result final fresh run).1

/-- Both functions move the retry time forward exactly when they do not store
an old wait back. -/
theorem retries_move_forward_iff (env : Environment) (kss : KeySetState) (now : UnixTime)
    (nameservers : List NameserverConnectionDetails) (tsigStore : TsigKeyStore)
    (actions : List Action) (state : CheckState) :
    (ReportMovesForward env kss now nameservers tsigStore actions state ↔
        ¬ReportStalls env kss now actions state) ∧
      (WaitMovesForward env kss now nameservers tsigStore actions state ↔
        ¬WaitStalls env kss now actions state) :=
  ⟨reportMovesForward_iff env kss now nameservers tsigStore actions state,
    waitMovesForward_iff env kss now nameservers tsigStore actions state⟩

def nextSerialReport : ReportState :=
  ⟨none, none, some (.waitNextSerial 5 1 60 "wait for a new serial")⟩

def soaReport : ReportState :=
  ⟨none, none, some (.waitSoa 5 1 60 3600 "wait for the nameservers")⟩

/-- Without network the wait that ended at 5 is still recorded after the checks
at 10. -/
theorem old_wait_survives :
    ¬ReportMovesForward (Reference.environment 1 10) (createState ["example", "com"]) 10 []
        ⟨[]⟩ [.reportRrsigPropagated] ⟨nextSerialReport, false, 0⟩ ∧
      ¬WaitMovesForward (Reference.environment 1 10) (createState ["example", "com"]) 10 []
        ⟨[]⟩ [.waitRrsigPropagated] ⟨nextSerialReport, false, 0⟩ ∧
      ¬WaitMovesForward (Reference.environment 1 10) (createState ["example", "com"]) 10 []
        ⟨[]⟩ [.waitRrsigPropagated] ⟨soaReport, false, 0⟩ := by
  have serial : StoresOldNextSerial (Reference.environment 1 10)
      (createState ["example", "com"]) 10 ⟨nextSerialReport, false, 0⟩ :=
    ⟨5, 1, 60, _, rfl, by decide, ⟨_, rfl⟩, by decide⟩
  have soa : StoresOldSoa (Reference.environment 1 10)
      (createState ["example", "com"]) 10 ⟨soaReport, false, 0⟩ :=
    ⟨5, 1, 60, 3600, _, rfl, by decide, ⟨_, rfl⟩, by decide⟩
  refine ⟨?_, ?_, ?_⟩
  · rw [reportMovesForward_iff, not_not]
    exact serial
  · rw [waitMovesForward_iff, not_not]
    exact Or.inl serial
  · rw [waitMovesForward_iff, not_not]
    exact Or.inr soa

end Dnst.Keyset
