import Dnst.Keyset.Bookkeeping
import Dnst.Keyset.CronNext
import Dnst.Keyset.CronSteps

/-! # Automatic reports

A roll reports the end of a propagation step when all its checks have succeeded. Results
are kept from one cron run to the next, so they have to come from runs since the step began.
-/

namespace Dnst.Keyset

open Effect

/-! ## Propagation steps -/

/-- The two propagation steps of a roll. -/
inductive Stage where
  | first
  | second
  deriving DecidableEq, Repr

namespace Stage

def state : Stage → RollState
  | first => .propagation1
  | second => .propagation2

def report : Stage → RollStateReports → ReportState
  | first => RollStateReports.propagation1
  | second => RollStateReports.propagation2

def complete (ops : KeySetOps) : Stage → UnixTime → RollType → Ttl → KeySet →
    Except KeySetError (List Action × KeySet)
  | first => ops.propagation1Complete
  | second => ops.propagation2Complete

/-- The states from which the step is still to come. -/
def Ahead : Stage → RollState → Prop
  | second, .propagation1 => True
  | second, .cacheExpire1 _ => True
  | _, _ => False

end Stage

/-! ## Results that have been obtained -/

/-- A cron run in the workspace in which it comes to the report of a roll. -/
structure Visit where
  env : Environment
  system : System
  now : UnixTime
  ws : WorkSpace

namespace Visit

/-- The checks of these actions, in the order of the list. -/
def checks (visit : Visit) (actions : List Action) (maxTtl : Ttl) :
    Check AutoReportActionsResult :=
  reportEach visit.env visit.ws.state visit.now visit.ws.config.nameservers
    visit.ws.tsigStore actions maxTtl

def checkZone (visit : Visit) : Step AutoReportRrsigResult :=
  reportRrsigPropagated visit.env visit.ws.state visit.now visit.ws.config.nameservers
    visit.ws.tsigStore

/-- The checks begin with what is recorded for the step. -/
def begin (visit : Visit) (recorded : ReportState) : CheckState :=
  ⟨recorded, visit.ws.stateChanged, visit.ws.calls⟩

end Visit

/-- The checks of a roll come to this action: those of all actions before it report. -/
def ComesToAction (roll : RollType) (stage : Stage) (visit : Visit) (action : Action)
    (state : CheckState) : Prop :=
  ∃ reports earlier later ttl, visit.ws.state.internal roll = some reports ∧
    visit.env.keySet.actions roll visit.ws.state.keyset = earlier ++ action :: later ∧
    exec (visit.checks earlier 0) (visit.begin (stage.report reports)) =
      (.ok (.report ttl), state)

/-- No result is known, or a wait is over. -/
def Unsettled (now : UnixTime) (recorded : Option AutoReportActionsResult) : Prop :=
  recorded = none ∨
    ∃ waitUntil notice, recorded = some (.wait waitUntil notice) ∧ ¬now < waitUntil

/-- The whole zone is checked at this call: at once, or when the record or the next serial
that the roll waits for has been found. -/
inductive ChecksZone (roll : RollType) (stage : Stage) (visit : Visit) (calls : Nat) : Prop
  | atOnce {state} :
      ComesToAction roll stage visit .reportRrsigPropagated state →
      (state.report.rrsig = none ∨ ∃ waitUntil notice,
        state.report.rrsig = some (.wait waitUntil notice) ∧ ¬visit.now < waitUntil) →
      state.calls = calls → ChecksZone roll stage visit calls
  | record {state waitUntil name rtype ttl notice} :
      ComesToAction roll stage visit .reportRrsigPropagated state →
      state.report.rrsig = some (.waitRecord waitUntil name rtype ttl notice) →
      ¬visit.now < waitUntil →
      exec (checkRecord visit.env name rtype visit.ws.state) state.calls = (.ok ⟨⟩, calls) →
      ChecksZone roll stage visit calls
  | nextSerial {state waitUntil serial ttl notice} :
      ComesToAction roll stage visit .reportRrsigPropagated state →
      state.report.rrsig = some (.waitNextSerial waitUntil serial ttl notice) →
      ¬visit.now < waitUntil →
      exec (checkNextSerial visit.env serial visit.ws.state) state.calls = (.ok ⟨⟩, calls) →
      ChecksZone roll stage visit calls

/-- At one of these visits of the roll the check of a report action has succeeded with this
TTL. A wait for a serial carries the TTL to report when a later visit finds the serial. -/
inductive Succeeded (roll : RollType) (stage : Stage) (visits : Visit → Prop) :
    Action → Ttl → Prop
  | dnskey {visit state ttl after} (among : visits visit)
      (comes : ComesToAction roll stage visit .reportDnskeyPropagated state)
      (unsettled : Unsettled visit.now state.report.dnskey)
      (run : exec (reportDnskeyPropagated visit.env visit.ws.state visit.now) state.calls =
        (.ok (.report ttl), after)) :
      Succeeded roll stage visits .reportDnskeyPropagated ttl
  | ds {visit state ttl after} (among : visits visit)
      (comes : ComesToAction roll stage visit .reportDsPropagated state)
      (unsettled : Unsettled visit.now state.report.ds)
      (run : exec (reportDsPropagated visit.env visit.ws.state visit.now) state.calls =
        (.ok (.report ttl), after)) :
      Succeeded roll stage visits .reportDsPropagated ttl
  | rrsig {visit calls ttl after} (among : visits visit)
      (checks : ChecksZone roll stage visit calls)
      (run : exec visit.checkZone calls = (.ok (.report ttl), after)) :
      Succeeded roll stage visits .reportRrsigPropagated ttl
  | soa {visit calls waitUntil serial soaTtl ttl notice after} (among : visits visit)
      (checks : ChecksZone roll stage visit calls)
      (run : exec visit.checkZone calls =
        (.ok (.waitSoa waitUntil serial soaTtl ttl notice), after))
      {later state laterUntil message laterAfter} (laterAmong : visits later)
      (comes : ComesToAction roll stage later .reportRrsigPropagated state)
      (waits : state.report.rrsig = some (.waitSoa laterUntil serial soaTtl ttl message))
      (isOver : ¬later.now < laterUntil)
      (served : exec (checkSoa later.env serial later.ws.state later.now) state.calls =
        (.ok ⟨⟩, laterAfter)) :
      Succeeded roll stage visits .reportRrsigPropagated ttl

section Results

variable {roll : RollType} {stage : Stage} {visits others : Visit → Prop}

theorem Succeeded.mono {action : Action} {ttl : Ttl}
    (succeeded : Succeeded roll stage visits action ttl)
    (more : ∀ visit, visits visit → others visit) : Succeeded roll stage others action ttl := by
  cases succeeded with
  | dnskey among comes unsettled run => exact .dnskey (more _ among) comes unsettled run
  | ds among comes unsettled run => exact .ds (more _ among) comes unsettled run
  | rrsig among checks run => exact .rrsig (more _ among) checks run
  | soa among checks run laterAmong comes waits isOver served =>
      exact .soa (more _ among) checks run (more _ laterAmong) comes waits isOver served

/-- The TTL that is recorded for an action. -/
def Action.reported (report : ReportState) (action : Action) : Option Ttl :=
  match action.status report with
  | some (some (.report ttl)) => some ttl
  | _ => none

theorem reported_dnskey {report : ReportState} {ttl : Ttl} :
    Action.reported report .reportDnskeyPropagated = some ttl ↔
      report.dnskey = some (.report ttl) := by
  unfold Action.reported Action.status
  rcases report.dnskey with _ | _ | _ <;> simp

theorem reported_ds {report : ReportState} {ttl : Ttl} :
    Action.reported report .reportDsPropagated = some ttl ↔
      report.ds = some (.report ttl) := by
  unfold Action.reported Action.status
  rcases report.ds with _ | _ | _ <;> simp

theorem reported_rrsig {report : ReportState} {ttl : Ttl} :
    Action.reported report .reportRrsigPropagated = some ttl ↔
      report.rrsig = some (.report ttl) := by
  unfold Action.reported Action.status
  rcases report.rrsig with _ | result
  · simp
  · cases result <;> simp [AutoReportRrsigResult.toReport]

/-- All recorded successes come from these visits. -/
structure Obtained (roll : RollType) (stage : Stage) (visits : Visit → Prop)
    (report : ReportState) : Prop where
  dnskey : ∀ ttl, report.dnskey = some (.report ttl) →
    Succeeded roll stage visits .reportDnskeyPropagated ttl
  ds : ∀ ttl, report.ds = some (.report ttl) →
    Succeeded roll stage visits .reportDsPropagated ttl
  rrsig : ∀ ttl, report.rrsig = some (.report ttl) →
    Succeeded roll stage visits .reportRrsigPropagated ttl
  soa : ∀ waitUntil serial soaTtl ttl notice,
    report.rrsig = some (.waitSoa waitUntil serial soaTtl ttl notice) →
    ∃ visit calls before message after, visits visit ∧ ChecksZone roll stage visit calls ∧
      exec visit.checkZone calls = (.ok (.waitSoa before serial soaTtl ttl message), after)

theorem Obtained.mono {report : ReportState} (obtained : Obtained roll stage visits report)
    (more : ∀ visit, visits visit → others visit) : Obtained roll stage others report where
  dnskey := fun ttl same => (obtained.dnskey ttl same).mono more
  ds := fun ttl same => (obtained.ds ttl same).mono more
  rrsig := fun ttl same => (obtained.rrsig ttl same).mono more
  soa := by
    intro waitUntil serial soaTtl ttl notice same
    obtain ⟨visit, calls, before, message, after, among, checks, run⟩ :=
      obtained.soa _ _ _ _ _ same
    exact ⟨visit, calls, before, message, after, more visit among, checks, run⟩

theorem obtained_default : Obtained roll stage visits .default where
  dnskey := by
    intro ttl same
    cases same
  ds := by
    intro ttl same
    cases same
  rrsig := by
    intro ttl same
    cases same
  soa := by
    intro waitUntil serial soaTtl ttl notice same
    cases same

theorem Obtained.succeeded {report : ReportState}
    (obtained : Obtained roll stage visits report) {action : Action} {ttl : Ttl}
    (isReport : action.isReport = true) (reported : action.reported report = some ttl) :
    Succeeded roll stage visits action ttl := by
  cases action with
  | reportDnskeyPropagated => exact obtained.dnskey ttl (reported_dnskey.mp reported)
  | reportDsPropagated => exact obtained.ds ttl (reported_ds.mp reported)
  | reportRrsigPropagated => exact obtained.rrsig ttl (reported_rrsig.mp reported)
  | _ => cases isReport

/-! ## What the checks record -/

/-- The checks of one run lead from one report state to the other: what is recorded has
been obtained, and what has been reported stays. -/
structure Advances (roll : RollType) (stage : Stage) (visits : Visit → Prop)
    (before after : ReportState) : Prop where
  obtained : Obtained roll stage visits before → Obtained roll stage visits after
  dnskey : ∀ ttl, before.dnskey = some (.report ttl) → after.dnskey = some (.report ttl)
  ds : ∀ ttl, before.ds = some (.report ttl) → after.ds = some (.report ttl)
  rrsig : ∀ ttl, before.rrsig = some (.report ttl) → after.rrsig = some (.report ttl)

theorem Advances.refl (report : ReportState) : Advances roll stage visits report report :=
  ⟨fun obtained => obtained, fun _ same => same, fun _ same => same, fun _ same => same⟩

theorem Advances.trans {first second third : ReportState}
    (one : Advances roll stage visits first second)
    (two : Advances roll stage visits second third) :
    Advances roll stage visits first third where
  obtained := fun obtained => two.obtained (one.obtained obtained)
  dnskey := fun ttl same => two.dnskey ttl (one.dnskey ttl same)
  ds := fun ttl same => two.ds ttl (one.ds ttl same)
  rrsig := fun ttl same => two.rrsig ttl (one.rrsig ttl same)

theorem Advances.reported {before after : ReportState}
    (advances : Advances roll stage visits before after) {action : Action} {ttl : Ttl}
    (isReport : action.isReport = true) (same : action.reported before = some ttl) :
    action.reported after = some ttl := by
  cases action with
  | reportDnskeyPropagated =>
      exact reported_dnskey.mpr (advances.dnskey ttl (reported_dnskey.mp same))
  | reportDsPropagated => exact reported_ds.mpr (advances.ds ttl (reported_ds.mp same))
  | reportRrsigPropagated =>
      exact reported_rrsig.mpr (advances.rrsig ttl (reported_rrsig.mp same))
  | _ => cases isReport

/-- A check of an action: when it reports, the TTL is recorded. -/
structure Reports (roll : RollType) (stage : Stage) (visits : Visit → Prop) (action : Action)
    (before : ReportState) (outcome : Except Fault AutoReportActionsResult)
    (after : ReportState) : Prop where
  advances : Advances roll stage visits before after
  recorded : ∀ ttl, outcome = .ok (.report ttl) → action.reported after = some ttl

/-- A step that reports has a TTL for each of its report actions, and its result is the
largest of them. -/
structure AllReported (roll : RollType) (stage : Stage) (visits : Visit → Prop)
    (actions : List Action) (maxTtl : Ttl) (before : ReportState)
    (outcome : Except Fault AutoReportActionsResult) (after : ReportState) : Prop where
  advances : Advances roll stage visits before after
  recorded : ∀ ttl, outcome = .ok (.report ttl) → ∀ action ∈ actions,
    action.isReport = true → (action.reported after).isSome
  largest : ∀ ttl, outcome = .ok (.report ttl) →
    ttl = ((actions.filter Action.isReport).filterMap
      (Action.reported after)).foldl max maxTtl

theorem AllReported.of_silent {actions : List Action} {maxTtl : Ttl}
    {before after : ReportState} {outcome : Except Fault AutoReportActionsResult}
    (advances : Advances roll stage visits before after)
    (silent : ∀ ttl, outcome ≠ .ok (.report ttl)) :
    AllReported roll stage visits actions maxTtl before outcome after :=
  ⟨advances, fun ttl reports => absurd reports (silent ttl),
    fun ttl reports => absurd reports (silent ttl)⟩

/-- The actions go on behind one that has reported. -/
theorem AllReported.cons_report {action : Action} {actions : List Action} {maxTtl ttl : Ttl}
    {before middle after : ReportState} {outcome : Except Fault AutoReportActionsResult}
    (isReport : action.isReport = true)
    (one : Reports roll stage visits action before (.ok (.report ttl)) middle)
    (others : AllReported roll stage visits actions (max maxTtl ttl) middle outcome after) :
    AllReported roll stage visits (action :: actions) maxTtl before outcome after := by
  have known := others.advances.reported isReport (one.recorded ttl rfl)
  refine ⟨one.advances.trans others.advances, ?_, ?_⟩
  · intro total reported other member otherReports
    rcases List.mem_cons.mp member with rfl | member
    · rw [known]
      rfl
    · exact others.recorded total reported other member otherReports
  · intro total reported
    rw [List.filter_cons_of_pos isReport, List.filterMap_cons, known]
    exact others.largest total reported

/-- The actions go on behind one that has nothing to report. -/
theorem AllReported.cons_update {action : Action} {actions : List Action} {maxTtl : Ttl}
    {before after : ReportState} {outcome : Except Fault AutoReportActionsResult}
    (update : action.isReport = false)
    (others : AllReported roll stage visits actions maxTtl before outcome after) :
    AllReported roll stage visits (action :: actions) maxTtl before outcome after := by
  refine ⟨others.advances, ?_, ?_⟩
  · intro total reported other member otherReports
    rcases List.mem_cons.mp member with rfl | member
    · rw [update] at otherReports
      cases otherReports
    · exact others.recorded total reported other member otherReports
  · intro total reported
    rw [List.filter_cons_of_neg (by simp [update])]
    exact others.largest total reported

end Results

theorem Unsettled.unknown {now : UnixTime} {recorded : Option AutoReportActionsResult}
    (unsettled : Unsettled now recorded) (ttl : Ttl) : recorded ≠ some (.report ttl) := by
  rcases unsettled with rfl | ⟨waitUntil, notice, rfl, _⟩ <;> simp

/-- A check whose result is not known is performed, and its result is recorded. -/
theorem exec_plainAction {recorded : ReportState → Option AutoReportActionsResult}
    {store : AutoReportActionsResult → ReportState → ReportState}
    {check : Step AutoReportActionsResult} {now : UnixTime} {state final : CheckState}
    {outcome : Except Fault AutoReportActionsResult}
    (run : exec (plainAction recorded store check now) state = (outcome, final)) :
    (final.report = state.report ∧
        ∀ ttl, outcome = .ok (.report ttl) → recorded state.report = some (.report ttl)) ∨
      Unsettled now (recorded state.report) ∧
        ∃ result calls, exec check state.calls = (.ok result, calls) ∧
          outcome = .ok result ∧ final.report = store result state.report := by
  have performed : ∀ {outcome final},
      exec (do
        let result ← consult check
        record (store result)
        return result) state = (outcome, final) →
      (final.report = state.report ∧ ∀ ttl, outcome ≠ .ok (.report ttl)) ∨
        ∃ result calls, exec check state.calls = (.ok result, calls) ∧
          outcome = .ok result ∧ final.report = store result state.report := by
    intro outcome final run
    rw [exec_bind, consult, exec_zoom] at run
    rcases checked : exec check state.calls with ⟨fault | result, calls⟩
    · rw [checked] at run
      cases run
      exact Or.inl ⟨rfl, by simp⟩
    · rw [checked] at run
      cases run
      exact Or.inr ⟨result, calls, rfl, rfl, rfl⟩
  unfold plainAction at run
  rw [exec_bind_of_ok (exec_get state)] at run
  dsimp only at run
  cases known : recorded state.report with
  | none =>
      rw [known] at run
      rcases performed run with ⟨same, silent⟩ | checked
      · exact Or.inl ⟨same, fun ttl reports => absurd reports (silent ttl)⟩
      · exact Or.inr ⟨Or.inl rfl, checked⟩
  | some result =>
      rw [known] at run
      cases result with
      | report ttl =>
          cases run
          exact Or.inl ⟨rfl, by simp⟩
      | wait waitUntil notice =>
          dsimp only at run
          split at run
          · cases run
            exact Or.inl ⟨rfl, by simp⟩
          · rcases performed run with ⟨same, silent⟩ | checked
            · exact Or.inl ⟨same, fun ttl reports => absurd reports (silent ttl)⟩
            · next isOver => exact Or.inr ⟨Or.inr ⟨waitUntil, notice, rfl, isOver⟩, checked⟩

theorem orDefaultWait_report {now : UnixTime} {label : String}
    {check : Step AutoReportActionsResult} {ttl : Ttl} {calls after : Nat}
    (run : exec (orDefaultWait now label check) calls = (.ok (.report ttl), after)) :
    exec check calls = (.ok (.report ttl), after) := by
  unfold orDefaultWait at run
  rw [exec_bind, exec_capture] at run
  rcases checked : exec check calls with ⟨⟨message | message⟩ | result, final⟩
  · rw [checked] at run
    cases run
  · rw [checked] at run
    cases run
  · rw [checked] at run
    cases run
    rfl

section Checks

variable {roll : RollType} {stage : Stage} {visits : Visit → Prop}
variable {visit : Visit} (among : visits visit) {state final : CheckState}
variable {outcome : Except Fault AutoReportActionsResult}

include among

theorem dnskeyAction_reports
    (comes : ComesToAction roll stage visit .reportDnskeyPropagated state)
    (run : exec (dnskeyAction visit.env visit.ws.state visit.now) state = (outcome, final)) :
    Reports roll stage visits .reportDnskeyPropagated state.report outcome final.report := by
  rcases exec_plainAction run with ⟨same, known⟩ | ⟨unsettled, result, calls, checked, rfl, same⟩
  · rw [same]
    exact ⟨.refl _, fun ttl reports => reported_dnskey.mpr (known ttl reports)⟩
  · rw [same]
    constructor
    · constructor
      · intro obtained
        refine { obtained with dnskey := ?_ }
        intro ttl stored
        cases stored
        exact .dnskey among comes unsettled checked
      · exact fun ttl stored => absurd stored (unsettled.unknown ttl)
      · exact fun _ stored => stored
      · exact fun _ stored => stored
    · intro ttl reports
      cases reports
      exact reported_dnskey.mpr rfl

theorem dsAction_reports
    (comes : ComesToAction roll stage visit .reportDsPropagated state)
    (run : exec (dsAction visit.env visit.ws.state visit.now) state = (outcome, final)) :
    Reports roll stage visits .reportDsPropagated state.report outcome final.report := by
  rcases exec_plainAction run with ⟨same, known⟩ | ⟨unsettled, result, calls, checked, rfl, same⟩
  · rw [same]
    exact ⟨.refl _, fun ttl reports => reported_ds.mpr (known ttl reports)⟩
  · rw [same]
    constructor
    · constructor
      · intro obtained
        refine { obtained with ds := ?_ }
        intro ttl stored
        cases stored
        exact .ds among comes unsettled (orDefaultWait_report checked)
      · exact fun _ stored => stored
      · exact fun ttl stored => absurd stored (unsettled.unknown ttl)
      · exact fun _ stored => stored
    · intro ttl reports
      cases reports
      exact reported_ds.mpr rfl

omit among in
/-- A new result of the signature check is recorded. -/
theorem recordRrsig_reports {report : ReportState} {result : AutoReportRrsigResult}
    (unknown : ∀ ttl, report.rrsig ≠ some (.report ttl))
    (loud : ∀ ttl, outcome = .ok (.report ttl) → result = .report ttl)
    (obtained : Obtained roll stage visits report →
      Obtained roll stage visits (recordRrsig result report)) :
    Reports roll stage visits .reportRrsigPropagated report outcome
      (recordRrsig result report) where
  advances :=
    { obtained
      dnskey := fun _ stored => stored
      ds := fun _ stored => stored
      rrsig := fun ttl stored => absurd stored (unknown ttl) }
  recorded := by
    intro ttl reports
    exact reported_rrsig.mpr (congrArg some (loud ttl reports))

omit among in
/-- A result that neither reports nor carries a TTL to report is obtained anyway. -/
theorem Obtained.recordWait {report : ReportState} {result : AutoReportRrsigResult}
    (silent : ∀ ttl, result ≠ .report ttl)
    (noSoa : ∀ waitUntil serial soaTtl ttl notice,
      result ≠ .waitSoa waitUntil serial soaTtl ttl notice)
    (obtained : Obtained roll stage visits report) :
    Obtained roll stage visits (recordRrsig result report) where
  dnskey := obtained.dnskey
  ds := obtained.ds
  rrsig := fun ttl stored => absurd (Option.some.inj stored) (silent ttl)
  soa := fun _ _ _ _ _ stored => absurd (Option.some.inj stored) (noSoa _ _ _ _ _)

theorem Obtained.recordZone {report : ReportState} {result : AutoReportRrsigResult}
    {calls after : Nat} (checks : ChecksZone roll stage visit calls)
    (run : exec visit.checkZone calls = (.ok result, after))
    (obtained : Obtained roll stage visits report) :
    Obtained roll stage visits (recordRrsig result report) where
  dnskey := obtained.dnskey
  ds := obtained.ds
  rrsig := by
    intro ttl stored
    cases stored
    exact .rrsig among checks run
  soa := by
    intro waitUntil serial soaTtl ttl notice stored
    cases stored
    exact ⟨_, _, _, _, _, among, checks, run⟩

theorem wholeZone_reports (checks : ChecksZone roll stage visit state.calls)
    (unknown : ∀ ttl, state.report.rrsig ≠ some (.report ttl))
    (run : exec (do
      let result ← checkWholeZone visit.env visit.ws.state visit.now
        visit.ws.config.nameservers visit.ws.tsigStore
      return result.toReport) state = (outcome, final)) :
    Reports roll stage visits .reportRrsigPropagated state.report outcome final.report := by
  unfold checkWholeZone at run
  rw [bind_assoc, exec_bind, consult, exec_zoom, exec_capture] at run
  rcases checked : exec visit.checkZone state.calls with ⟨⟨message | message⟩ | result, calls⟩
  · rw [Visit.checkZone] at checked
    rw [checked] at run
    cases run
    apply recordRrsig_reports unknown
    · intro ttl reports
      cases reports
    · exact Obtained.recordWait (by simp) (by simp)
  · rw [Visit.checkZone] at checked
    rw [checked] at run
    cases run
    refine ⟨.refl _, ?_⟩
    intro ttl reports
    cases reports
  · have performed := checked
    rw [Visit.checkZone] at performed
    rw [performed] at run
    cases run
    apply recordRrsig_reports unknown
    · intro ttl reports
      cases result <;> cases reports
      rfl
    · exact Obtained.recordZone among checks checked

omit among in
/-- A wait is recorded in place of a result that has not been reported yet. -/
theorem recordedWait_reports {result : AutoReportRrsigResult} {waitUntil : UnixTime}
    {notice : String} {calls : Nat} (unknown : ∀ ttl, state.report.rrsig ≠ some (.report ttl))
    (obtained : Obtained roll stage visits state.report →
      Obtained roll stage visits (recordRrsig result state.report))
    (run : exec (do
      record (recordRrsig result)
      return AutoReportActionsResult.wait waitUntil notice) { state with calls } =
        (outcome, final)) :
    Reports roll stage visits .reportRrsigPropagated state.report outcome final.report := by
  cases run
  refine recordRrsig_reports unknown ?_ obtained
  intro ttl reports
  cases reports

omit among in
/-- A check behind a wait that is over: it fails, or it passes, or it ends the run. -/
theorem consulted_reports {check : Step Unit}
    {handle : Except String Unit → Check AutoReportActionsResult}
    (run : exec (do
      let result ← consult (capture check)
      handle result) state = (outcome, final))
    (refused : ∀ calls message,
      exec (handle (.error message)) { state with calls } = (outcome, final) →
        Reports roll stage visits .reportRrsigPropagated state.report outcome final.report)
    (passed : ∀ calls, exec check state.calls = (.ok ⟨⟩, calls) →
      exec (handle (.ok ⟨⟩)) { state with calls } = (outcome, final) →
        Reports roll stage visits .reportRrsigPropagated state.report outcome final.report) :
    Reports roll stage visits .reportRrsigPropagated state.report outcome final.report := by
  rw [exec_bind, consult, exec_zoom, exec_capture] at run
  rcases checked : exec check state.calls with ⟨⟨message | message⟩ | served, calls⟩
  · rw [checked] at run
    exact refused calls message run
  · rw [checked] at run
    cases run
    refine ⟨.refl _, ?_⟩
    intro ttl reports
    cases reports
  · rw [checked] at run
    exact passed calls checked run

theorem rrsigReportAction_reports
    (comes : ComesToAction roll stage visit .reportRrsigPropagated state)
    (run : exec (rrsigReportAction visit.env visit.ws.state visit.now
      visit.ws.config.nameservers visit.ws.tsigStore) state = (outcome, final)) :
    Reports roll stage visits .reportRrsigPropagated state.report outcome final.report := by
  have waiting : ∀ waitUntil notice, (outcome, final) =
      (.ok (AutoReportActionsResult.wait waitUntil notice), state) →
      Reports roll stage visits .reportRrsigPropagated state.report outcome final.report := by
    intro waitUntil notice same
    cases same
    refine ⟨.refl _, ?_⟩
    intro ttl reports
    cases reports
  unfold rrsigReportAction at run
  rw [exec_bind_of_ok (exec_get state)] at run
  dsimp only at run
  cases known : state.report.rrsig with
  | none =>
      rw [known] at run
      exact wholeZone_reports among (.atOnce comes (Or.inl known) rfl) (by simp [known]) run
  | some result =>
      have unknown : (∀ ttl, result ≠ .report ttl) →
          ∀ ttl, state.report.rrsig ≠ some (.report ttl) := by
        intro silent ttl stored
        rw [known] at stored
        exact silent ttl (Option.some.inj stored)
      rw [known] at run
      cases result with
      | report ttl =>
          cases run
          refine ⟨.refl _, ?_⟩
          intro other reports
          cases reports
          exact reported_rrsig.mpr known
      | wait waitUntil notice =>
          dsimp only at run
          split at run
          · exact waiting _ _ run.symm
          · next isOver =>
              have checks : ChecksZone roll stage visit state.calls :=
                .atOnce comes (Or.inr ⟨waitUntil, notice, known, isOver⟩) rfl
              exact wholeZone_reports among checks (unknown (by simp)) run
      | waitSoa waitUntil serial ttl reportTtl notice =>
          dsimp only at run
          split at run
          · exact waiting _ _ run.symm
          · next isOver =>
              refine consulted_reports run (fun calls message rest => ?_)
                fun calls served rest => ?_
              · refine recordedWait_reports (unknown (by simp)) (fun obtained => ?_) rest
                refine { obtained with rrsig := ?_, soa := ?_ }
                · intro other stored
                  cases stored
                · intro _ _ _ _ _ stored
                  cases stored
                  exact obtained.soa _ _ _ _ _ known
              · cases rest
                apply recordRrsig_reports (unknown (by simp))
                · intro other reports
                  cases reports
                  rfl
                · intro obtained
                  obtain ⟨earlier, _, _, _, _, amongEarlier, checks, carried⟩ :=
                    obtained.soa _ _ _ _ _ known
                  refine { obtained with rrsig := ?_, soa := ?_ }
                  · intro other stored
                    cases stored
                    exact .soa amongEarlier checks carried among comes known isOver served
                  · intro _ _ _ _ _ stored
                    cases stored
      | waitRecord waitUntil name rtype ttl notice =>
          dsimp only at run
          split at run
          · exact waiting _ _ run.symm
          · next isOver =>
              refine consulted_reports run (fun calls message rest => ?_)
                fun calls signed rest => ?_
              · exact recordedWait_reports (unknown (by simp))
                  (Obtained.recordWait (by simp) (by simp)) rest
              · have checks : ChecksZone roll stage visit calls :=
                  .record comes known isOver signed
                exact @wholeZone_reports roll stage visits visit among { state with calls } final
                  outcome checks (unknown (by simp)) rest
      | waitNextSerial waitUntil serial ttl notice =>
          dsimp only at run
          split at run
          · exact waiting _ _ run.symm
          · next isOver =>
              refine consulted_reports run (fun calls message rest => ?_)
                fun calls moved rest => ?_
              · exact recordedWait_reports (unknown (by simp))
                  (Obtained.recordWait (by simp) (by simp)) rest
              · have checks : ChecksZone roll stage visit calls :=
                  .nextSerial comes known isOver moved
                exact @wholeZone_reports roll stage visits visit among { state with calls } final
                  outcome checks (unknown (by simp)) rest

omit among in
/-- The loop goes on after actions that have all reported. -/
theorem exec_checks_append {earlier later : List Action} {maxTtl total : Ttl}
    (run : exec (visit.checks earlier maxTtl) state = (.ok (.report total), final)) :
    exec (visit.checks (earlier ++ later) maxTtl) state =
      exec (visit.checks later total) final := by
  induction earlier generalizing maxTtl state with
  | nil =>
      cases run
      rfl
  | cons action earlier induction =>
      have next : ∀ check : Check AutoReportActionsResult,
          exec (thenReport (visit.checks earlier) maxTtl check) state =
            (.ok (.report total), final) →
          exec (thenReport (visit.checks (earlier ++ later)) maxTtl check) state =
            exec (visit.checks later total) final := by
        intro check run
        rcases exec_bind_eq_ok.mp run with ⟨result, middle, checked, rest⟩
        unfold thenReport
        rw [exec_bind_of_ok checked]
        cases result with
        | wait waitUntil notice => cases rest
        | report ttl => exact induction rest
      cases action with
      | reportDnskeyPropagated => exact next _ run
      | reportDsPropagated => exact next _ run
      | reportRrsigPropagated => exact next _ run
      | waitDnskeyPropagated => cases run
      | waitDsPropagated => cases run
      | waitRrsigPropagated => cases run
      | _ => exact induction run

/-- The loop goes on from the actions before, which have all reported. -/
theorem checks_report {reports : RollStateReports}
    (entry : visit.ws.state.internal roll = some reports) {earlier actions : List Action}
    (split : visit.env.keySet.actions roll visit.ws.state.keyset = earlier ++ actions)
    {maxTtl : Ttl}
    (reached : exec (visit.checks earlier 0) (visit.begin (stage.report reports)) =
      (.ok (.report maxTtl), state))
    (run : exec (visit.checks actions maxTtl) state = (outcome, final)) :
    AllReported roll stage visits actions maxTtl state.report outcome final.report := by
  induction actions generalizing earlier maxTtl state with
  | nil =>
      cases run
      refine ⟨.refl _, by simp, ?_⟩
      intro ttl reports
      cases reports
      rfl
  | cons action actions induction =>
      have comes : ComesToAction roll stage visit action state :=
        ⟨reports, earlier, actions, maxTtl, entry, split, reached⟩
      have split : visit.env.keySet.actions roll visit.ws.state.keyset =
          (earlier ++ [action]) ++ actions := by
        rw [split, List.append_assoc, List.singleton_append]
      -- An action that reports goes on with the larger of the two TTLs.
      have next : ∀ (check : Check AutoReportActionsResult), action.isReport = true →
          (∀ rest, visit.checks (action :: rest) maxTtl =
            thenReport (visit.checks rest) maxTtl check) →
          (∀ {outcome : Except Fault AutoReportActionsResult} {final : CheckState},
            exec check state = (outcome, final) →
              Reports roll stage visits action state.report outcome final.report) →
          AllReported roll stage visits (action :: actions) maxTtl state.report outcome
            final.report := by
        intro check isReport unfolds reported
        rw [unfolds actions] at run
        unfold thenReport at run
        rw [exec_bind] at run
        rcases checked : exec check state with ⟨fault | result, middle⟩
        · rw [checked] at run
          cases run
          exact .of_silent (reported checked).advances (by simp)
        · rw [checked] at run
          cases result with
          | wait waitUntil notice =>
              cases run
              exact .of_silent (reported checked).advances (by simp)
          | report ttl =>
              have further : exec (visit.checks (earlier ++ [action]) 0)
                  (visit.begin (stage.report reports)) =
                    (.ok (.report (max maxTtl ttl)), middle) := by
                rw [exec_checks_append reached, unfolds []]
                exact exec_bind_of_ok checked
              exact .cons_report isReport (reported checked) (induction split further run)
      have skip : action.isReport = false →
          (∀ rest, visit.checks (action :: rest) maxTtl = visit.checks rest maxTtl) →
          AllReported roll stage visits (action :: actions) maxTtl state.report outcome
            final.report := by
        intro update unfolds
        rw [unfolds actions] at run
        have further : exec (visit.checks (earlier ++ [action]) 0)
            (visit.begin (stage.report reports)) = (.ok (.report maxTtl), state) := by
          rw [exec_checks_append reached, unfolds []]
          rfl
        exact .cons_update update (induction split further run)
      have stops : exec (panic unreachableCode : Check AutoReportActionsResult) state =
            (outcome, final) →
          AllReported roll stage visits (action :: actions) maxTtl state.report outcome
            final.report := by
        intro run
        cases run
        exact .of_silent (.refl _) (by simp)
      cases action with
      | reportDnskeyPropagated =>
          exact next _ rfl (fun _ => rfl) (dnskeyAction_reports among comes)
      | reportDsPropagated => exact next _ rfl (fun _ => rfl) (dsAction_reports among comes)
      | reportRrsigPropagated =>
          exact next _ rfl (fun _ => rfl) (rrsigReportAction_reports among comes)
      | updateDnskeyRrset => exact skip rfl fun _ => rfl
      | createCdsRrset => exact skip rfl fun _ => rfl
      | removeCdsRrset => exact skip rfl fun _ => rfl
      | updateDsRrset => exact skip rfl fun _ => rfl
      | updateRrsig => exact skip rfl fun _ => rfl
      | waitDnskeyPropagated => exact stops run
      | waitDsPropagated => exact stops run
      | waitRrsigPropagated => exact stops run

/-- A visit of the roll performs the checks of its actions. -/
theorem autoReportActions_reports {reports : RollStateReports}
    (entry : visit.ws.state.internal roll = some reports)
    (run : exec (autoReportActions visit.env visit.ws.state visit.now
      visit.ws.config.nameservers visit.ws.tsigStore
      (visit.env.keySet.actions roll visit.ws.state.keyset))
        (visit.begin (stage.report reports)) = (outcome, final)) :
    AllReported roll stage visits (visit.env.keySet.actions roll visit.ws.state.keyset) 0
      (stage.report reports) outcome final.report := by
  have all : exec (visit.checks (visit.env.keySet.actions roll visit.ws.state.keyset) 0)
      (visit.begin (stage.report reports)) = (outcome, final) →
      AllReported roll stage visits (visit.env.keySet.actions roll visit.ws.state.keyset) 0
        (stage.report reports) outcome final.report := fun run =>
    @checks_report roll stage visits visit among (visit.begin (stage.report reports)) final
      outcome reports entry [] _ rfl 0 rfl run
  generalize visit.env.keySet.actions roll visit.ws.state.keyset = actions at all run ⊢
  cases actions with
  | nil =>
      cases run
      exact ⟨.refl _, by simp, by simp⟩
  | cons action actions => exact all run

end Checks

/-! ## States of a roll -/

/-- How the state of a roll changes while the roll goes on. -/
inductive Moves : Option RollState → Option RollState → Prop
  | stays (state : Option RollState) : Moves state state
  | complete1 (ttl : Ttl) : Moves (some .propagation1) (some (.cacheExpire1 ttl))
  | expire1 (ttl : Ttl) : Moves (some (.cacheExpire1 ttl)) (some .propagation2)
  | complete2 (ttl : Ttl) : Moves (some .propagation2) (some (.cacheExpire2 ttl))
  | expire2 (ttl : Ttl) : Moves (some (.cacheExpire2 ttl)) (some .done)

/-- What `KeySet` promises about the states of rolls. -/
structure MoveLaws (platform : Platform) : Prop where
  plain : ∀ env : Environment, env.toPlatform = platform →
    ∀ keyset next, PlainChange env keyset next →
      ∀ roll, Moves (keyset.rollstates roll) (next.rollstates roll)
  starts : ∀ now roll old new keyset actions next,
    platform.keySet.startRoll now roll old new keyset = .ok (actions, next) →
    ∀ other, other ≠ roll → next.rollstates other = keyset.rollstates other
  ends : ∀ now roll keyset actions next,
    platform.keySet.rollDone now roll keyset = .ok (actions, next) →
    next.rollstates roll = none ∧
      ∀ other, other ≠ roll → next.rollstates other = keyset.rollstates other

/-- The entry of a roll records what has been obtained in the current step, and nothing
for a step that is still to come. -/
def Attested (roll : RollType) (stage : Stage) (visits : Visit → Prop)
    (state : KeySetState) : Prop :=
  ∀ reports current, state.internal roll = some reports →
    state.keyset.rollstates roll = some current →
    (stage.Ahead current → stage.report reports = .default) ∧
      (current = stage.state → Obtained roll stage visits (stage.report reports))

section Attested

variable {roll : RollType} {stage : Stage} {visits others : Visit → Prop}
variable {state : KeySetState}

theorem Attested.mono (attested : Attested roll stage visits state)
    (more : ∀ visit, visits visit → others visit) : Attested roll stage others state := by
  intro reports current entry isCurrent
  obtain ⟨ahead, obtained⟩ := attested reports current entry isCurrent
  exact ⟨ahead, fun same => (obtained same).mono more⟩

/-- Before the step begins it does not matter which visits are counted. -/
theorem Attested.outside (attested : Attested roll stage visits state)
    (outside : state.keyset.rollstates roll ≠ some stage.state) :
    Attested roll stage others state := by
  intro reports current entry isCurrent
  obtain ⟨ahead, _⟩ := attested reports current entry isCurrent
  refine ⟨ahead, ?_⟩
  rintro rfl
  exact absurd isCurrent outside

theorem Attested.moves {keyset : KeySet} (attested : Attested roll stage visits state)
    (moves : Moves (state.keyset.rollstates roll) (keyset.rollstates roll)) :
    Attested roll stage visits { state with keyset } := by
  intro reports current entry isCurrent
  have isCurrent : keyset.rollstates roll = some current := isCurrent
  generalize before : state.keyset.rollstates roll = was at moves
  rw [isCurrent] at moves
  cases moves with
  | stays => exact attested reports current entry before
  | complete1 ttl =>
      have known := (attested reports _ entry before).1
      cases stage with
      | first => exact ⟨nofun, nofun⟩
      | second => exact ⟨fun _ => known trivial, nofun⟩
  | expire1 ttl =>
      have known := (attested reports _ entry before).1
      cases stage with
      | first => exact ⟨nofun, nofun⟩
      | second =>
          refine ⟨nofun, fun _ => ?_⟩
          rw [known trivial]
          exact obtained_default
  | complete2 ttl => cases stage <;> exact ⟨nofun, nofun⟩
  | expire2 ttl => cases stage <;> exact ⟨nofun, nofun⟩

/-- A new entry is empty. -/
theorem attested_of_default (entry : state.internal roll = some .default) :
    Attested roll stage visits state := by
  intro reports current found _
  rw [entry] at found
  cases found
  have empty : stage.report .default = .default := by cases stage <;> rfl
  rw [empty]
  exact ⟨fun _ => rfl, fun _ => obtained_default⟩

/-- Nothing is asked of another roll. -/
theorem Attested.of_same {other : KeySetState} (attested : Attested roll stage visits state)
    (internal : other.internal roll = state.internal roll)
    (rollstates : other.keyset.rollstates roll = state.keyset.rollstates roll) :
    Attested roll stage visits other := by
  intro reports current entry isCurrent
  rw [internal] at entry
  rw [rollstates] at isCurrent
  exact attested reports current entry isCurrent

end Attested

/-! ## Cron runs -/

/-- A cron run comes to the report of a roll in this workspace. -/
def ComesToReport (env : Environment) (system : System) (roll : RollType) (now : UnixTime)
    (ws : WorkSpace) : Prop :=
  ∃ renewed begun auto earlier later start, ComesToAutoStart env system renewed ∧
    exec (autoStartPhase env) renewed = (.ok ⟨⟩, begun) ∧
    ComesToGroup env begun auto (earlier ++ roll :: later) start ∧ auto.report = true ∧
    now = start.now env ∧
    exec (eachRoll earlier (autoReportRoll env now)) start.ticked = (.ok ⟨⟩, ws)

section Comes

variable {env : Environment} {system : System} {roll : RollType} {now : UnixTime}
variable {ws : WorkSpace}

/-- The report of a roll is one of the steps of the run. -/
theorem ComesToReport.rollStep (comes : ComesToReport env system roll now ws) :
    ∃ renewed, ComesToAutoStart env system renewed ∧
      RollStep env renewed (autoReportRoll env now roll) ws := by
  obtain ⟨renewed, begun, auto, earlier, later, start, renews, starts, group, enabled, rfl,
    before⟩ := comes
  rw [eachRoll_eq] at before
  have reports : ComesTo ((earlier ++ roll :: later).map (autoReportRoll env (start.now env)))
      start.ticked (autoReportRoll env (start.now env) roll) ws :=
    comesTo_map.mpr ⟨earlier, roll, later, rfl, rfl, before⟩
  refine ⟨renewed, renews, .automate starts group ?_⟩
  unfold groupSteps
  rw [enabled, if_pos rfl]
  exact comesTo_append.mpr (Or.inl (comesTo_append.mpr (Or.inl reports)))

/-- Cron goes on with the report of the roll. -/
theorem ComesToReport.continues (comes : ComesToReport env system roll now ws) :
    ∃ rest : Run Bool, exec (do loadFiles env; compute env .cron) system.load =
      exec (do autoReportRoll env now roll; rest) ws := by
  obtain ⟨renewed, begun, auto, earlier, later, start, renews, starts, group, enabled, rfl,
    before⟩ := comes
  obtain ⟨groups, others, listed, along⟩ := group
  obtain ⟨_, loaded, loads, renews⟩ := exec_bind_eq_ok.mp renews
  rw [exec_bind_of_ok (exec_get loaded)] at renews
  obtain ⟨present, counted, reading, renewing⟩ := exec_bind_eq_ok.mp renews
  have automates : ∀ rest : Run Bool,
      exec (do autoReportExpireDonePhase env; rest) begun =
        exec (do
          autoReportExpireDone env auto (earlier ++ roll :: later)
          automateEach env others
          rest) start := by
    intro rest
    rw [automateEach_eq] at along
    rw [exec_bind, exec_autoReportExpireDonePhase, ← exec_bind, listed, automateEach_eq,
      List.map_append, inSequence_append, bind_assoc, exec_bind_of_ok along, List.map_cons,
      inSequence, bind_assoc, ← automateEach_eq]
  have reports : ∀ rest : Run Bool,
      exec (do
        eachRoll (earlier ++ roll :: later) (autoReportRoll env (start.now env))
        rest) start.ticked =
        exec (do
          autoReportRoll env (start.now env) roll
          eachRoll later (autoReportRoll env (start.now env))
          rest) ws := by
    intro rest
    rw [eachRoll_eq] at before
    rw [eachRoll_eq, List.map_append, inSequence_append, bind_assoc, exec_bind_of_ok before,
      List.map_cons, inSequence, bind_assoc, ← eachRoll_eq]
  refine ⟨?_, ?_⟩
  · exact do
      eachRoll later (autoReportRoll env (start.now env))
      onlyIf auto.expire (eachRoll (earlier ++ roll :: later) (autoExpireRoll env))
      onlyIf auto.done (eachRoll (earlier ++ roll :: later) (autoDoneRoll env (start.now env)))
      automateEach env others
      autoremovePhase env
      let ws ← get
      if ws.configChanged || ws.stateChanged then do
        updateCronNext env present
        return true
      else
        return false
  rw [exec_bind_of_ok loads]
  unfold compute
  rw [exec_bind_of_ok (exec_get loaded), exec_bind_of_ok reading]
  unfold subcommand cron
  simp only [bind_assoc]
  rw [exec_bind_of_ok renewing, exec_bind_of_ok starts, automates]
  unfold autoReportExpireDone
  simp only [bind_assoc]
  rw [exec_bind_of_ok (exec_get start), exec_bind_of_ok (exec_now env start), enabled, onlyIf,
    if_pos rfl]
  exact reports _

end Comes

/-- A cron run that counts: it is one of these visits when it comes to the roll while the
roll is in the step. -/
def Counted (roll : RollType) (stage : Stage) (visits : Visit → Prop) (env : Environment)
    (system : System) : Prop :=
  ∀ now ws, ComesToReport env system roll now ws →
    ws.state.keyset.rollstates roll = some stage.state → visits ⟨env, system, now, ws⟩

section Custody

variable {env : Environment} {roll : RollType} {stage : Stage} {visits : Visit → Prop}
variable {system : System}

theorem attested_rebuilding :
    Rebuilding env (fun ws => Attested roll stage visits ws.state) fun _ _ => True where
  fails := fun _ _ _ _ => trivial
  calls := fun _ _ attested => attested
  runUpdateDsCommand := fun _ attested => attested
  dnskeyRrset := fun _ _ _ _ attested _ => attested
  cdsRrset := fun _ _ _ _ attested _ => attested
  cdsRemoved := fun _ attested => attested
  dsRrset := fun _ _ _ _ attested _ _ => attested

/-- The results of a check are obtained at its visit and belong to the current step. -/
theorem attested_recorded {now : UnixTime} {ws : WorkSpace} {other : RollType}
    (attested : Attested roll stage visits ws.state)
    (among : other = roll → ws.state.keyset.rollstates roll = some stage.state →
      visits ⟨env, system, now, ws⟩) :
    RecordingAt env (fun ws => Attested roll stage visits ws.state) now other ws := by
  intro before after entry recorded
  by_cases same : other = roll
  · subst same
    intro reports current found isCurrent
    have inStep : ws.state.keyset.rollstates other = some current := isCurrent
    obtain ⟨ahead, obtained⟩ := attested before current entry inStep
    have stored : after = reports := by simpa [WorkSpace.withEntry] using found
    rw [← stored]
    have checked : current = stage.state → Obtained other stage visits (stage.report before) →
        Obtained other stage visits
          (exec (autoReportActions env ws.state now ws.config.nameservers ws.tsigStore
            (env.keySet.actions other ws.state.keyset))
            ⟨stage.report before, ws.stateChanged, ws.calls⟩).2.report := by
      rintro rfl known
      let visit : Visit := ⟨env, system, now, ws⟩
      rcases run : exec (autoReportActions env ws.state now ws.config.nameservers ws.tsigStore
        (env.keySet.actions other ws.state.keyset))
          ⟨stage.report before, ws.stateChanged, ws.calls⟩ with ⟨outcome, final⟩
      have all := @autoReportActions_reports other stage visits visit (among rfl inStep)
        final outcome before entry run
      exact all.advances.obtained known
    cases recorded with
    | propagation1 inState =>
        rw [inState] at inStep
        cases inStep
        cases stage with
        | first => exact ⟨nofun, fun _ => checked rfl (obtained rfl)⟩
        | second => exact ⟨fun _ => ahead trivial, nofun⟩
    | propagation2 inState =>
        rw [inState] at inStep
        cases inStep
        cases stage with
        | first => exact ⟨nofun, nofun⟩
        | second => exact ⟨nofun, fun _ => checked rfl (obtained rfl)⟩
    | done inState =>
        rw [inState] at inStep
        cases inStep
        cases stage <;> exact ⟨nofun, nofun⟩
  · apply attested.of_same
    · exact Function.update_of_ne (fun equal => same equal.symm) _ _
    · rfl

theorem finishStart_attested (laws : MoveLaws env.toPlatform) (other : RollType)
    (actions : List Action) :
    Triple (Begun env (fun ws => Attested roll stage visits ws.state) other actions)
      (finishStart env other actions) (fun _ ws => Attested roll stage visits ws.state)
      fun _ _ => True := by
  by_cases same : other = roll
  · rw [same]
    apply triple_of_runs
    · intro ws value final _ run
      exact attested_of_default (finishStart_leaves actions ws value final run)
    · exact fun _ _ _ _ _ => trivial
  · have kept : Keeps (fun ws => Attested roll stage visits ws.state) (fun _ _ => True)
        (finishStart env other actions) := by
      apply keeps_bind (handleActions_keeps attested_rebuilding actions)
      intro _
      apply keeps_bind
      · apply keeps_modify
        intro ws attested
        apply attested.of_same
        · exact Function.update_of_ne (fun equal => same equal.symm) _ _
        · rfl
      · exact fun _ => keeps_pure _
    apply triple_weaken kept
    · rintro ws ⟨before, now, old, new, keyset, attested, _, started, rfl⟩
      apply attested.of_same
      · rfl
      · exact laws.starts _ _ _ _ _ _ _ started roll (fun equal => same equal.symm)
    · exact fun _ _ after => after
    · exact fun _ _ after => after

theorem doDone_attested (laws : MoveLaws env.toPlatform) (other : RollType) :
    Keeps (fun ws => Attested roll stage visits ws.state) (fun _ _ => True)
      (doDone env other) := by
  have tolerant : Tolerant (fun ws => Attested roll stage visits ws.state) fun _ _ => True :=
    ⟨fun _ _ _ _ => trivial, fun _ _ attested => attested⟩
  apply doDone_triple tolerant other
  · exact fun _ _ _ _ _ _ _ => trivial
  · intro ws now actions keyset attested ended
    by_cases same : other = roll
    · intro reports current found _
      simp [same] at found
    · apply attested.of_same
      · exact Function.update_of_ne (fun equal => same equal.symm) _ _
      · exact (laws.ends _ _ _ _ _ ended).2 roll (fun equal => same equal.symm)

theorem attested_custody (laws : MoveLaws env.toPlatform) :
    Custody env (fun ws => Attested roll stage visits ws.state) (fun _ _ => True)
      fun _ => True where
  fails := fun _ _ _ _ => trivial
  calls := fun _ _ attested => attested
  runUpdateDsCommand := fun _ attested => attested
  dnskeyRrset := fun _ _ _ _ attested _ => attested
  cdsRrset := fun _ _ _ _ attested _ => attested
  cdsRemoved := fun _ attested => attested
  dsRrset := fun _ _ _ _ attested _ _ => attested
  stateChanged := fun _ attested => attested
  keySet := fun _ _ attested change => attested.moves (laws.plain env rfl _ _ change roll)
  cronNext := fun _ _ attested => attested
  relabeled := fun _ _ attested => attested
  entry := fun _ _ _ _ _ _ _ _ => trivial
  done := fun other => keeps_bind (doDone_attested laws other) fun _ =>
    keeps_modify fun _ attested => attested
  starts := finishStart_attested laws
  absent := fun _ _ _ _ => trivial
  newFile := fun _ _ _ _ _ _ _ _ => trivial
  newPair := fun _ _ _ _ _ => ⟨fun _ _ => trivial, fun _ _ => trivial⟩
  keyStore := fun _ _ _ attested _ => attested

/-- The renewal of signatures does not touch what is recorded. -/
theorem ComesToAutoStart.attested (laws : MoveLaws env.toPlatform) {renewed : WorkSpace}
    (attested : Attested roll stage visits system.state)
    (comes : ComesToAutoStart env system renewed) : Attested roll stage visits renewed.state := by
  have custody := @attested_custody env roll stage visits laws
  have renewal : Keeps (fun ws => Attested roll stage visits ws.state) (fun _ _ => True)
      (beforeAutoStart env) :=
    keeps_bind (perform_keeps custody.toTolerant (attempt_ordinary env id)) fun _ =>
      keeps_bind keeps_get fun ws =>
        keeps_bind (faketimeOrNow_keeps custody.calls _) fun now =>
          renewPhase_keeps custody.openings now
  exact Keeps.ok renewal attested comes

/-- A step of a cron run that counts leaves only what has been obtained. -/
theorem rollStep_attested (laws : MoveLaws env.toPlatform)
    (counted : Counted roll stage visits env system) {renewed : WorkSpace}
    (renews : ComesToAutoStart env system renewed) (step : Run Unit) (ws next : WorkSpace)
    (comes : RollStep env renewed step ws) (attested : Attested roll stage visits ws.state)
    (run : exec step ws = (.ok ⟨⟩, next)) : Attested roll stage visits next.state := by
  have custody := @attested_custody env roll stage visits laws
  have acting := custody.stepping.acting
  cases comes with
  | start needed comes =>
      rcases List.mem_map.mp comes.mem with ⟨phase, _, rfl⟩
      have started := @autoStart_triple env _ _ _ custody.calls (fun _ holds => holds)
        phase.validity phase.auto phase.conflictingRoll phase.matchKeytype _
        (custody.openings.start phase.variant)
      exact Triple.ok started attested run
  | @automate begun auto rolls start _ _ starts group comes =>
      rcases comesTo_groupSteps comes with
        ⟨earlier, other, later, enabled, rfl, before, rfl⟩ | ⟨other, rfl | rfl⟩
      · have among : other = roll → ws.state.keyset.rollstates roll = some stage.state →
            visits ⟨env, system, start.now env, ws⟩ := by
          intro same isCurrent
          subst same
          exact counted _ ws ⟨renewed, _, _, earlier, later, _, renews, starts, group, enabled,
            rfl, before⟩ isCurrent
        exact Triple.ok (autoReportRoll_triple custody.toEditing acting attested
          (attested_recorded attested among)) rfl run
      · exact Triple.ok (autoExpireRoll_triple acting other) attested run
      · refine Triple.ok (autoDoneRoll_triple custody.toEditing acting attested ?_) rfl run
        intro isDone
        -- The entry for the end of a roll belongs to no propagation step.
        have outside : other = roll → ws.state.keyset.rollstates roll = some stage.state →
            visits ⟨env, system, start.now env, ws⟩ := by
          intro same isCurrent
          rw [← same, isDone] at isCurrent
          cases stage <;> cases isCurrent
        exact attested_recorded attested outside

/-- What cron computes from what has been obtained. -/
theorem cron_attested (laws : MoveLaws env.toPlatform)
    (counted : Counted roll stage visits env system) {changed : Bool} {computed : WorkSpace}
    (attested : Attested roll stage visits system.state)
    (run : exec (do loadFiles env; compute env .cron) system.load = (.ok changed, computed)) :
    Attested roll stage visits computed.state := by
  have custody := @attested_custody env roll stage visits laws
  obtain ⟨_, loaded, loads, computes⟩ := exec_bind_eq_ok.mp run
  obtain ⟨known, other, read, computes⟩ := exec_bind_eq_ok.mp computes
  cases read
  obtain ⟨now, counts, reading, computes⟩ := exec_bind_eq_ok.mp computes
  obtain ⟨_, phased, phases, schedules⟩ := exec_bind_eq_ok.mp computes
  obtain ⟨_, renewed, renewing, phases⟩ := exec_bind_eq_ok.mp phases
  obtain ⟨_, begun, starts, phases⟩ := exec_bind_eq_ok.mp phases
  obtain ⟨_, automated, automates, removes⟩ := exec_bind_eq_ok.mp phases
  have renews : ComesToAutoStart env system renewed := by
    unfold ComesToAutoStart beforeAutoStart
    rw [exec_bind_of_ok loads, exec_bind_of_ok (exec_get loaded), exec_bind_of_ok reading]
    exact renewing
  have rolls : exec (rollPhases env) renewed = (.ok ⟨⟩, automated) :=
    (exec_bind_of_ok starts).trans automates
  have atEnd : Attested roll stage visits automated.state :=
    rollPhases_induction custody.calls (rollStep_attested laws counted renews)
      (renews.attested laws attested) rolls
  have removed : Attested roll stage visits phased.state :=
    (autoremovePhase_keeps custody.toStorage).ok atEnd removes
  exact (scheduled_keeps custody.toEditing now).ok removed schedules

theorem compute_attested (laws : MoveLaws env.toPlatform) {command : Commands}
    (notCron : command ≠ .cron) :
    Keeps (fun ws => Attested roll stage visits ws.state) (fun _ _ => True)
      (compute env command) :=
  anyCompute_keeps (attested_custody laws) (fun _ _ _ _ attested _ => attested)
    (fun _ _ attested => attested) command (fun same => absurd same notCron)
    fun _ _ _ _ _ attested => attested

/-- What is recorded after an invocation has been obtained then or before. -/
theorem invoke_attested (laws : MoveLaws env.toPlatform) (command : Commands)
    (counted : command = .cron → Counted roll stage visits env system)
    (attested : Attested roll stage visits system.state) :
    Attested roll stage visits (invoke env command system).2.state := by
  rcases invoke_state env command system with kept | ⟨computed, run, written⟩
  · rw [kept]
    exact attested
  · rw [written]
    have after : Attested roll stage visits computed.state := by
      by_cases isCron : command = .cron
      · subst isCron
        exact cron_attested laws (counted rfl) attested run
      · have loading : Keeps (fun ws => Attested roll stage visits ws.state) (fun _ _ => True)
            (loadFiles env) :=
          perform_keeps (attested_custody laws).toTolerant (attempt_ordinary env id)
        exact Keeps.ok (keeps_bind loading fun _ => compute_attested laws isCron) attested run
    exact after

end Custody

/-! ## Since a step began -/

structure Invocation where
  env : Environment
  command : Commands
  system : System

/-- A reachable system, and the invocations since the roll came into its present
propagation step, the last one first. What leaves the state as it was need not be listed. -/
inductive Since (platform : Platform) (roll : RollType) (stage : Stage) :
    List Invocation → System → Prop
  | outside {system : System} : Reachable platform system →
      system.state.keyset.rollstates roll ≠ some stage.state →
      Since platform roll stage [] system
  | addKeyFile {invocations : List Invocation} {system : System} {path : String}
      (material : KeyMaterial) :
      Since platform roll stage invocations system →
      system.keyStore (.file path) = none →
      Since platform roll stage invocations
        { system with
          keyStore := Function.update system.keyStore (.file path) (some material) }
  | invoke {invocations : List Invocation} {system : System} (env : Environment)
      (command : Commands) :
      Since platform roll stage invocations system → env.toPlatform = platform →
      (invoke env command system).2.state.keyset.rollstates roll = some stage.state →
      Since platform roll stage (⟨env, command, system⟩ :: invocations)
        (invoke env command system).2
  | unchanged {invocations : List Invocation} {system : System} (env : Environment)
      (command : Commands) :
      Since platform roll stage invocations system → env.toPlatform = platform →
      (invoke env command system).2.state = system.state →
      Since platform roll stage invocations (invoke env command system).2

/-- The visit of the roll in one of these cron runs, with the roll in this step. -/
structure Visited (roll : RollType) (stage : Stage) (invocations : List Invocation)
    (visit : Visit) : Prop where
  among : ⟨visit.env, .cron, visit.system⟩ ∈ invocations
  comes : ComesToReport visit.env visit.system roll visit.now visit.ws
  inStep : visit.ws.state.keyset.rollstates roll = some stage.state

section Since

variable {platform : Platform} {roll : RollType} {stage : Stage}

theorem visited_cons {invocations : List Invocation} {invocation : Invocation} (visit : Visit)
    (visited : Visited roll stage invocations visit) :
    Visited roll stage (invocation :: invocations) visit :=
  ⟨List.mem_cons_of_mem _ visited.among, visited.comes, visited.inStep⟩

theorem counted_visited {invocations : List Invocation} {env : Environment}
    {system : System} (among : ⟨env, .cron, system⟩ ∈ invocations) :
    Counted roll stage (Visited roll stage invocations) env system :=
  fun _ _ comes inStep => ⟨among, comes, inStep⟩

theorem Since.reachable {invocations : List Invocation} {system : System}
    (since : Since platform roll stage invocations system) : Reachable platform system := by
  induction since with
  | outside reachable _ => exact reachable
  | addKeyFile material _ absent induction => exact .addKeyFile material induction absent
  | invoke env command _ same _ induction => exact .invoke env command induction same trivial
  | unchanged env command _ same _ induction =>
      exact .invoke env command induction same trivial

/-- There is such a history for every reachable system. -/
theorem exists_since {system : System} (reachable : Reachable platform system) :
    ∃ invocations, Since platform roll stage invocations system := by
  induction reachable with
  | create domainName stateFile keysDir tsigStore keyStore =>
      exact ⟨[], .outside (.create _ _ _ _ _) nofun⟩
  | addKeyFile material _ absent induction =>
      obtain ⟨invocations, since⟩ := induction
      exact ⟨invocations, .addKeyFile material since absent⟩
  | @invoke system env command reachable same _ induction =>
      obtain ⟨invocations, since⟩ := induction
      by_cases inside : (invoke env command system).2.state.keyset.rollstates roll =
          some stage.state
      · exact ⟨_, .invoke env command since same inside⟩
      · exact ⟨[], .outside (.invoke env command reachable same trivial) inside⟩

theorem reachable_attested (laws : MoveLaws platform) {system : System}
    (reachable : Reachable platform system) :
    Attested roll stage (fun _ => True) system.state := by
  induction reachable with
  | create domainName stateFile keysDir tsigStore keyStore =>
      intro reports current entry _
      cases entry
  | addKeyFile material _ absent induction => exact induction
  | invoke env command _ same _ induction =>
      subst same
      exact invoke_attested laws command (fun _ _ _ _ _ => trivial) induction

theorem Since.attested (laws : MoveLaws platform) {invocations : List Invocation}
    {system : System} (since : Since platform roll stage invocations system) :
    Attested roll stage (Visited roll stage invocations) system.state := by
  induction since with
  | outside reachable outside => exact (reachable_attested laws reachable).outside outside
  | addKeyFile material _ absent induction => exact induction
  | invoke env command _ same _ induction =>
      subst same
      refine invoke_attested laws command ?_ (induction.mono visited_cons)
      rintro rfl
      exact counted_visited List.mem_cons_self
  | unchanged env command _ same kept induction =>
      rw [kept]
      exact induction

end Since

/-! ## Only what has succeeded is reported -/

/-- Every report action has succeeded, and this is the largest of the TTLs. -/
def Justified (roll : RollType) (stage : Stage) (visits : Visit → Prop)
    (actions : List Action) (ttl : Ttl) : Prop :=
  ∃ results : Action → Option Ttl,
    (∀ action ∈ actions, action.isReport = true →
      ∃ obtained, results action = some obtained ∧ Succeeded roll stage visits action obtained) ∧
    ttl = ((actions.filter Action.isReport).filterMap results).foldl max 0

theorem AllReported.justified {roll : RollType} {stage : Stage} {visits : Visit → Prop}
    {actions : List Action} {ttl : Ttl} {before after : ReportState}
    (obtained : Obtained roll stage visits before)
    (all : AllReported roll stage visits actions 0 before (.ok (.report ttl)) after) :
    Justified roll stage visits actions ttl := by
  refine ⟨Action.reported after, ?_, all.largest ttl rfl⟩
  intro action member isReport
  obtain ⟨result, reported⟩ := Option.isSome_iff_exists.mp
    (all.recorded ttl rfl action member isReport)
  exact ⟨result, reported, (all.advances.obtained obtained).succeeded isReport reported⟩

section Report

variable {env : Environment} {roll : RollType} {now : UnixTime} {ws final : WorkSpace}
variable {outcome : Except Fault Unit}

theorem handleActions_keyset (keyset : KeySet) (actions : List Action) :
    Preserves (fun ws => ws.state.keyset = keyset) (handleActions env actions) := by
  have rebuilding : Rebuilding env (fun ws => ws.state.keyset = keyset)
      fun _ ws => ws.state.keyset = keyset :=
    { fails := fun _ _ _ same => same
      calls := fun _ _ same => same
      runUpdateDsCommand := fun _ same => same
      dnskeyRrset := fun _ _ _ _ same _ => same
      cdsRrset := fun _ _ _ _ same _ => same
      cdsRemoved := fun _ same => same
      dsRrset := fun _ _ _ _ same _ _ => same }
  exact handleActions_keeps rebuilding actions

/-- The key set only changes by a report of the TTL that the checks have come up with. -/
theorem autoReport_completes {select : RollStateReports → ReportState}
    {put : RollStateReports → ReportState → RollStateReports}
    {complete : UnixTime → RollType → Ttl → KeySet →
      Except KeySetError (List Action × KeySet)}
    (run : exec (autoReport env now roll select put complete) ws = (outcome, final))
    (reported : final.state.keyset ≠ ws.state.keyset) :
    ∃ reports ttl checked clock actions, ws.state.internal roll = some reports ∧
      exec (autoReportActions env ws.state now ws.config.nameservers ws.tsigStore
          (env.keySet.actions roll ws.state.keyset))
        ⟨select reports, ws.stateChanged, ws.calls⟩ = (.ok (.report ttl), checked) ∧
      complete clock roll ttl ws.state.keyset = .ok (actions, final.state.keyset) := by
  unfold autoReport at run
  cases entry : ws.state.internal roll with
  | none =>
      unfold withReport at run
      rw [bind_assoc, exec_bind_of_ok (exec_get ws)] at run
      simp only [entry] at run
      cases run
      exact absurd rfl reported
  | some reports =>
      rw [exec_bind, exec_withReport _ _ _ _ ws reports entry] at run
      dsimp only at run
      rcases checking : exec (autoReportActions env ws.state now ws.config.nameservers
          ws.tsigStore (env.keySet.actions roll ws.state.keyset))
          ⟨select reports, ws.stateChanged, ws.calls⟩ with ⟨fault | result, checked⟩
      · rw [checking] at run
        cases run
        exact absurd rfl reported
      · rw [checking] at run
        cases result with
        | wait waitUntil notice =>
            cases run
            exact absurd rfl reported
        | report ttl =>
            dsimp only at run
            have reading : ∀ known : WorkSpace, exec (perform (wallClock env)) known =
                (.ok (env.clock known.calls), { known with calls := known.calls + 1 }) :=
              fun _ => rfl
            rw [exec_bind_of_ok (reading _)] at run
            unfold onRoll at run
            rw [bind_assoc, exec_bind_of_ok (exec_get _)] at run
            dsimp only at run
            cases completed : complete (env.clock checked.calls) roll ttl ws.state.keyset with
            | error reason =>
                rw [completed] at run
                cases run
                exact absurd rfl reported
            | ok result =>
                obtain ⟨actions, keyset⟩ := result
                rw [completed] at run
                refine ⟨reports, ttl, checked, env.clock checked.calls, actions, rfl, checking, ?_⟩
                have kept : final.state.keyset = keyset := by
                  have marks : Preserves (fun ws => ws.state.keyset = keyset) (do
                      handleActions env actions
                      markStateChanged) :=
                    keeps_bind (handleActions_keyset keyset actions) fun _ =>
                      keeps_modify fun _ same => same
                  have after : ∀ known : WorkSpace, known.state.keyset = keyset →
                      (exec (do
                        handleActions env actions
                        markStateChanged) known).2.state.keyset = keyset :=
                    fun _ same => marks.final same
                  have ended := congrArg (fun result => result.2.state.keyset) run
                  dsimp only at ended
                  rw [← ended]
                  apply after
                  rfl
                rw [kept, completed]

end Report

/-- What has been obtained before the run and in it, when the run comes to the roll. -/
theorem ComesToReport.attested {env : Environment} (laws : MoveLaws env.toPlatform)
    {roll : RollType} {stage : Stage} {visits : Visit → Prop} {system : System}
    {now : UnixTime} {ws : WorkSpace} (counted : Counted roll stage visits env system)
    (attested : Attested roll stage visits system.state)
    (comes : ComesToReport env system roll now ws) : Attested roll stage visits ws.state := by
  have custody := @attested_custody env roll stage visits laws
  obtain ⟨renewed, renews, step⟩ := comes.rollStep
  exact step.induction custody.calls (rollStep_attested laws counted renews)
    (renews.attested laws attested)

/-- A report of cron changes the key set only by completing the propagation step that the
roll is in, with the largest of the TTLs of all report actions, which have all succeeded
at visits of the roll since it came into that step. -/
theorem cron_reports_successes {platform : Platform} (laws : MoveLaws platform)
    {system : System} (reachable : Reachable platform system) (env : Environment)
    (same : env.toPlatform = platform) (roll : RollType) (now : UnixTime) (ws : WorkSpace)
    (comes : ComesToReport env system roll now ws)
    (reported : (exec (autoReportRoll env now roll) ws).2.state.keyset ≠ ws.state.keyset) :
    ∃ stage ttl clock actions, ws.state.keyset.rollstates roll = some stage.state ∧
      stage.complete env.keySet clock roll ttl ws.state.keyset =
        .ok (actions, (exec (autoReportRoll env now roll) ws).2.state.keyset) ∧
      (∃ invocations, Since platform roll stage invocations system) ∧
      ∀ invocations, Since platform roll stage invocations system →
        Justified roll stage (Visited roll stage (⟨env, .cron, system⟩ :: invocations))
          (env.keySet.actions roll ws.state.keyset) ttl := by
  subst same
  rcases run : exec (autoReportRoll env now roll) ws with ⟨outcome, final⟩
  rw [run] at reported
  dsimp only at reported ⊢
  unfold autoReportRoll at run
  rw [exec_bind_of_ok (exec_get ws)] at run
  -- The checks of a step justify the TTL.
  have justified : ∀ (stage : Stage) reports ttl checked,
      ws.state.keyset.rollstates roll = some stage.state →
      ws.state.internal roll = some reports →
      exec (autoReportActions env ws.state now ws.config.nameservers ws.tsigStore
          (env.keySet.actions roll ws.state.keyset))
        ⟨stage.report reports, ws.stateChanged, ws.calls⟩ = (.ok (.report ttl), checked) →
      ∀ invocations, Since env.toPlatform roll stage invocations system →
        Justified roll stage (Visited roll stage (⟨env, .cron, system⟩ :: invocations))
          (env.keySet.actions roll ws.state.keyset) ttl := by
    intro stage reports ttl checked current entry checking invocations since
    have counted : Counted roll stage
        (Visited roll stage (⟨env, .cron, system⟩ :: invocations)) env system :=
      counted_visited List.mem_cons_self
    have attested := comes.attested laws counted ((since.attested laws).mono visited_cons)
    have obtained := (attested reports stage.state entry current).2 rfl
    let visit : Visit := ⟨env, system, now, ws⟩
    have all := @autoReportActions_reports roll stage _ visit (counted now ws comes current)
      checked _ reports entry checking
    exact all.justified obtained
  cases current : ws.state.keyset.rollstates roll with
  | none =>
      rw [current] at run
      cases run
      exact absurd rfl reported
  | some state =>
      rw [current] at run
      have idle : exec (if (ws.state.internal roll).isSome then return ()
          else panic noEntry : Run Unit) ws = (outcome, final) → False := by
        intro run
        split at run
        · cases run
          exact reported rfl
        · cases run
          exact reported rfl
      cases state with
      | propagation1 =>
          obtain ⟨reports, ttl, checked, clock, actions, entry, checking, completed⟩ :=
            autoReport_completes run reported
          exact ⟨.first, ttl, clock, actions, rfl, completed, exists_since reachable,
            justified .first reports ttl checked current entry checking⟩
      | propagation2 =>
          obtain ⟨reports, ttl, checked, clock, actions, entry, checking, completed⟩ :=
            autoReport_completes run reported
          exact ⟨.second, ttl, clock, actions, rfl, completed, exists_since reachable,
            justified .second reports ttl checked current entry checking⟩
      | cacheExpire1 ttl => exact (idle run).elim
      | cacheExpire2 ttl => exact (idle run).elim
      | done => exact (idle run).elim

/-! ## A KSK roll whose DNSKEY RRset is served -/

namespace Reference

theorem moves_setRoll {roll other : RollType} {keyset : KeySet} {before after : RollState}
    (state : keyset.rollstates roll = some before) (moves : Moves (some before) (some after))
    (change : Key → Key) :
    Moves (keyset.rollstates other)
      ((setRoll roll (some after) (mapKeys change keyset)).rollstates other) := by
  by_cases same : other = roll
  · rw [same, state]
    simpa [setRoll] using moves
  · have kept : (setRoll roll (some after) (mapKeys change keyset)).rollstates other =
        keyset.rollstates other := by
      simp [setRoll, same, mapKeys]
    rw [kept]
    exact .stays _

theorem moveLaws : MoveLaws platform where
  plain := by
    intro env same keyset next change roll
    have ops : env.keySet = keySet := congrArg Platform.keySet same
    have stays : next.rollstates = keyset.rollstates →
        Moves (keyset.rollstates roll) (next.rollstates roll) := by
      intro kept
      rw [kept]
      exact .stays _
    cases change with
    | addKey origin result =>
        rw [ops] at result
        exact stays (rollstates_insertKey result)
    | addPublicKey origin result =>
        rw [ops] at result
        exact stays (rollstates_insertKey result)
    | deleteKey result =>
        rw [ops] at result
        exact stays (rollstates_deleteKey result)
    | propagation1Complete result =>
        rw [ops] at result
        simp only [keySet, propagation1Complete] at result
        split at result
        · next state =>
            cases result
            exact moves_setRoll state (.complete1 _) _
        · cases result
    | propagation2Complete result =>
        rw [ops] at result
        simp only [keySet, propagation2Complete] at result
        split at result
        · next state =>
            cases result
            exact moves_setRoll state (.complete2 _) _
        · cases result
    | cacheExpired1 result =>
        rw [ops] at result
        simp only [keySet, cacheExpired1] at result
        split at result
        · next state =>
            split at result <;> cases result
            exact moves_setRoll state (.expire1 _) _
        · cases result
    | cacheExpired2 result =>
        rw [ops] at result
        simp only [keySet, cacheExpired2] at result
        split at result
        · next state =>
            split at result <;> cases result
            exact moves_setRoll state (.expire2 _) _
        · cases result
    | _ result =>
        rw [ops] at result
        simp only [keySet] at result
        exact stays (rollstates_changeKey result)
  starts := by
    intro now roll old new keyset actions next result other differ
    simp only [platform, keySet, startRoll] at result
    split at result
    · cases result
    · split at result <;> cases result
      simp [setRoll, differ]
  ends := by
    intro now roll keyset actions next result
    simp only [platform, keySet, rollDone] at result
    split at result <;> cases result
    refine ⟨by simp [setRoll], ?_⟩
    intro other differ
    simp [setRoll, differ]

def answerOf (zone : Name) : Record → Answer
  | .dnskey ttl key => ⟨zone, ttl, .dnskey key⟩
  | .rrsig ttl signature => ⟨zone, ttl, .rrsig signature⟩
  | _ => ⟨zone, 0, .other .dnskey⟩

/-- A name server with one address that serves these records. -/
def serving (records : List Record) : Network :=
  { offline with
    queryNs := fun _ _ => .ok [["ns", "example", "com"]]
    lookupHost := fun _ _ => .ok ["192.0.2.1"]
    queryAt := fun _ _ name _ => .ok (records.map fun record => .ok (answerOf name record)) }

/-- The KSK roll of the initialised zone, with automatic reports. -/
def kskRollReporting : System :=
  runAll [day 5 (.set (.autoKsk ⟨false, true, false, false⟩))] kskRollBegun

/-- A cron run that finds the DNSKEY RRset at the name server. -/
def nextCron : Environment :=
  { environment 6 (fromSecs (1000000 + 86400 * 6)) with
    network := serving kskRollReporting.state.dnskeyRrset }

theorem kskRollReporting_reachable : Reachable platform kskRollReporting := by
  have begun : Reachable platform kskRollBegun :=
    kskRollBegun_reachable.mono fun _ _ _ _ => trivial
  exact begun.runAll ⟨⟨rfl, trivial⟩, trivial⟩

/-- What cron does before the rolls are automated. -/
def beforeReports (env : Environment) : Run Unit := do
  beforeAutoStart env
  autoStartPhase env

/-- The workspace in which the cron run comes to the KSK roll. -/
def atReport : WorkSpace := (exec (beforeReports nextCron) kskRollReporting.load).2.ticked

theorem comesToReport : ComesToReport nextCron kskRollReporting .kskRoll
    (fromSecs (1000000 + 86400 * 6)) atReport := by
  have facts : (exec (beforeReports nextCron) kskRollReporting.load).1.toOption = some ⟨⟩ ∧
      (exec (beforeReports nextCron) kskRollReporting.load).2.config.autoKsk.report = true ∧
      (exec (beforeReports nextCron) kskRollReporting.load).2.now nextCron =
        fromSecs (1000000 + 86400 * 6) := by decide +kernel
  rcases facts with ⟨succeeds, reports, now⟩
  rcases run : exec (beforeReports nextCron) kskRollReporting.load with ⟨fault | ⟨⟩, begun⟩
  · rw [run] at succeeds
    cases succeeds
  · rw [run] at reports now
    rcases exec_bind_eq_ok.mp run with ⟨_, renewed, renews, starts⟩
    refine ⟨renewed, begun, begun.config.autoKsk, [], [.kskDoubleDsRoll], begun, renews, starts,
      ⟨[], (automatedRolls begun.config).tail, rfl, rfl⟩, reports, now.symm, ?_⟩
    unfold atReport
    rw [run]
    rfl

end Reference

theorem cron_reports_served_dnskeys :
    ∃ stage ttl clock actions,
      Reference.atReport.state.keyset.rollstates .kskRoll = some stage.state ∧
      stage.complete Reference.nextCron.keySet clock .kskRoll ttl
          Reference.atReport.state.keyset =
        .ok (actions, (exec (autoReportRoll Reference.nextCron
          (fromSecs (1000000 + 86400 * 6)) .kskRoll) Reference.atReport).2.state.keyset) ∧
      (∃ invocations,
        Since Reference.platform .kskRoll stage invocations Reference.kskRollReporting) ∧
      ∀ invocations,
        Since Reference.platform .kskRoll stage invocations Reference.kskRollReporting →
        Justified .kskRoll stage
          (Visited .kskRoll stage
            (⟨Reference.nextCron, .cron, Reference.kskRollReporting⟩ :: invocations))
          (Reference.nextCron.keySet.actions .kskRoll Reference.atReport.state.keyset) ttl := by
  apply cron_reports_successes Reference.moveLaws Reference.kskRollReporting_reachable _ rfl
    .kskRoll _ _ Reference.comesToReport
  intro same
  have moved : ((exec (autoReportRoll Reference.nextCron (fromSecs (1000000 + 86400 * 6))
      .kskRoll) Reference.atReport).2.state.keyset.rollstates .kskRoll) ≠
        Reference.atReport.state.keyset.rollstates .kskRoll := by decide +kernel
  rw [same] at moved
  exact moved rfl

end Dnst.Keyset
