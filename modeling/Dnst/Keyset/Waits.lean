import Dnst.Foundation.Triple
import Dnst.Keyset.Automation

/-! # Waits that propagation checks ask for

No check asks for a wait that ends before now, whatever the name servers answer.
-/

namespace Dnst.Keyset

open Effect

/-- A wait does not end before `now`. -/
def AutoReportActionsResult.NotBefore (now : UnixTime) : AutoReportActionsResult → Prop
  | .report _ => True
  | .wait waitUntil _ => now ≤ waitUntil

def AutoReportRrsigResult.NotBefore (now : UnixTime) (result : AutoReportRrsigResult) : Prop :=
  result.toReport.NotBefore now

theorem yields_capture {State Value : Type} {post : Value → Prop}
    {action : Effect State Fault Value} (yields : Yields post action) :
    Yields (fun result => ∀ value, result = .ok value → post value) (capture action) := by
  refine yields_of_runs ?_
  intro state result final run
  rw [exec_capture] at run
  rcases inner : exec action state with ⟨⟨message | message⟩ | value, after⟩
  · rw [inner] at run
    cases run
    intro returned same
    cases same
  · rw [inner] at run
    cases run
  · rw [inner] at run
    cases run
    intro returned same
    cases same
    exact yields.ok inner

theorem combineReports_notBefore (now : UnixTime) (maxTtl : Option Ttl)
    (results : List (Except String AutoReportActionsResult))
    (each : ∀ result, result ∈ results → ∀ value, result = .ok value → value.NotBefore now) :
    Yields (AutoReportActionsResult.NotBefore now) (combineReports maxTtl results) := by
  induction results generalizing maxTtl with
  | nil =>
      cases maxTtl with
      | none => exact yields_throw _
      | some ttl => exact yields_pure trivial
  | cons result results induction =>
      cases result with
      | error reason => exact yields_throw _
      | ok value =>
          cases value with
          | wait waitUntil notice =>
              have waits := each (.ok (.wait waitUntil notice)) (by simp) _ rfl
              exact yields_pure waits
          | report ttl =>
              refine induction _ ?_
              intro other member
              exact each other (by simp [member])

theorem checkEachAddress_notBefore (now : UnixTime) (addresses : List IpAddr)
    (check : IpAddr → Step AutoReportActionsResult)
    (each : ∀ address, Yields (AutoReportActionsResult.NotBefore now) (check address)) :
    Yields (fun results => ∀ result, result ∈ results →
        ∀ value, result = .ok value → value.NotBefore now)
      (checkEachAddress addresses check) := by
  refine yields_collect addresses ?_
  intro address _
  refine yields_bind (yields_capture (each address)) ?_
  intro result waits
  refine yields_pure ?_
  intro returned same
  cases same
  exact waits

theorem compareDnskeyAnswers_notBefore (zone : Name) (address : IpAddr) (now : UnixTime)
    (answers : List Answer) (target : List Record) (maxTtl : Ttl) :
    (compareDnskeyAnswers zone address now answers target maxTtl).NotBefore now := by
  induction answers generalizing target maxTtl with
  | nil =>
      cases target with
      | nil => trivial
      | cons record target => exact Nat.le_add_right _ _
  | cons answer answers induction =>
      unfold compareDnskeyAnswers
      split
      · split
        · exact induction _ _
        · split
          · exact induction _ _
          · exact Nat.le_add_right _ _
      · split
        · exact induction _ _
        · split
          · exact induction _ _
          · exact Nat.le_add_right _ _
      · exact induction _ _

theorem reportDnskeyPropagated_notBefore (env : Environment) (kss : KeySetState)
    (now : UnixTime) :
    Yields (AutoReportActionsResult.NotBefore now) (reportDnskeyPropagated env kss now) := by
  refine yields_next fun lookup => ?_
  cases lookup with
  | error reason => exact yields_pure (Nat.le_add_right _ _)
  | ok addresses =>
      refine yields_next fun _ => ?_
      have each : ∀ address, Yields (AutoReportActionsResult.NotBefore now)
          (checkDnskeyForAddress env kss.keyset.name
            (Consumption.distinctBy Record.withoutTtl kss.dnskeyRrset) now address) :=
        fun address => yields_next fun answers =>
          yields_pure (compareDnskeyAnswers_notBefore _ _ now answers _ _)
      refine yields_bind (checkEachAddress_notBefore now addresses _ each) ?_
      intro results waits
      refine yields_bind (yields_capture (combineReports_notBefore now none results waits)) ?_
      intro combined combinedWaits
      cases combined with
      | error reason => exact yields_pure (Nat.le_add_right _ _)
      | ok result => exact yields_pure (combinedWaits result rfl)

theorem compareDsAnswers_notBefore (env : Environment) (zone : Name) (address : IpAddr)
    (now : UnixTime) (answers : List Answer) (targets : List (Ttl × Dnskey)) (maxTtl : Ttl) :
    Yields (AutoReportActionsResult.NotBefore now)
      (compareDsAnswers env zone address now answers targets maxTtl) := by
  induction answers generalizing targets maxTtl with
  | nil =>
      cases targets with
      | nil => exact yields_pure trivial
      | cons target targets => exact yields_pure (Nat.le_add_right _ _)
  | cons answer answers induction =>
      unfold compareDsAnswers
      split
      · split
        · exact induction _ _
        · refine yields_next fun found => ?_
          cases found with
          | some target => exact induction _ _
          | none => exact yields_pure (Nat.le_add_right _ _)
      · exact induction _ _

theorem reportDsPropagated_notBefore (env : Environment) (kss : KeySetState)
    (now : UnixTime) :
    Yields (AutoReportActionsResult.NotBefore now) (reportDsPropagated env kss now) := by
  refine yields_next fun parent => yields_next fun addresses => yields_next fun _ => ?_
  have each : ∀ address, Yields (AutoReportActionsResult.NotBefore now)
      (checkDsForAddress env kss.keyset.name (targetDnskeys kss) now address) :=
    fun address => yields_next fun answers => compareDsAnswers_notBefore env _ _ now answers _ _
  refine yields_bind (checkEachAddress_notBefore now addresses _ each) ?_
  intro results waits
  exact combineReports_notBefore now none results waits

theorem zoneVerdict_notBefore (env : Environment) (kss : KeySetState) (now : UnixTime)
    (transfer : Transfer) (ttl : Ttl) :
    Yields (AutoReportRrsigResult.NotBefore now) (zoneVerdict env kss now transfer ttl) := by
  unfold zoneVerdict
  split
  · refine yields_next fun served => ?_
    cases served with
    | error reason => exact yields_pure (Nat.le_add_right _ _)
    | ok _ => exact yields_pure trivial
  · exact yields_pure (Nat.le_add_right _ _)
  · exact yields_pure (Nat.le_add_right _ _)

theorem transferAnswers_notBefore (env : Environment) (kss : KeySetState) (now : UnixTime)
    (answers : List (Except String Answer)) (transfer : Transfer) :
    Yields (fun result => ∀ verdict, result.1 = some verdict → verdict.NotBefore now)
      (transferAnswers env kss now answers transfer) := by
  induction answers generalizing transfer with
  | nil =>
      refine yields_pure ?_
      intro verdict same
      cases same
  | cons answer answers induction =>
      cases answer with
      | error reason => exact yields_throw _
      | ok answer =>
          simp only [transferAnswers]
          split
          · exact induction _
          · exact yields_throw _
          · refine yields_bind (zoneVerdict_notBefore env kss now transfer _) ?_
            intro verdict waits
            refine yields_pure ?_
            intro returned same
            cases same
            exact waits
          · exact induction _

theorem transferReplies_notBefore (env : Environment) (kss : KeySetState) (now : UnixTime)
    (replies : List AxfrReply) (transfer : Transfer) :
    Yields (fun result => ∀ verdict, result = some verdict → verdict.NotBefore now)
      (transferReplies env kss now replies transfer) := by
  induction replies generalizing transfer with
  | nil => exact yields_throw _
  | cons reply replies induction =>
      cases reply with
      | failed message =>
          refine yields_pure ?_
          intro verdict same
          cases same
      | rcode code =>
          refine yields_pure ?_
          intro verdict same
          cases same
      | answer records =>
          refine yields_bind (transferAnswers_notBefore env kss now records transfer) ?_
          rintro ⟨found, rest⟩ waits
          cases found with
          | none => exact induction rest
          | some verdict =>
              refine yields_pure ?_
              intro returned same
              cases same
              exact waits verdict rfl

theorem checkZoneAt_notBefore (env : Environment) (kss : KeySetState) (now : UnixTime)
    (tsigStore : TsigKeyStore) (serial : Serial)
    (nameservers : List NameserverConnectionDetails) :
    Yields (AutoReportRrsigResult.NotBefore now)
      (checkZoneAt env kss now tsigStore serial nameservers) := by
  induction nameservers with
  | nil => exact yields_throw _
  | cons nameserver nameservers induction =>
      refine yields_next fun call => ?_
      dsimp only
      split
      · refine yields_bind (transferReplies_notBefore env kss now _ _) ?_
        intro found waits
        cases found with
        | none => exact induction
        | some verdict => exact yields_pure (waits verdict rfl)
      · exact induction

theorem reportRrsigPropagated_notBefore (env : Environment) (kss : KeySetState)
    (now : UnixTime) (nameservers : List NameserverConnectionDetails)
    (tsigStore : TsigKeyStore) :
    Yields (AutoReportRrsigResult.NotBefore now)
      (reportRrsigPropagated env kss now nameservers tsigStore) := by
  have zone : Yields (AutoReportRrsigResult.NotBefore now)
      (checkZone env kss now nameservers tsigStore) := by
    refine yields_next fun call => yields_next fun primary => ?_
    rcases primary with ⟨mname, serial⟩
    dsimp only
    split
    · exact yields_next fun addresses => checkZoneAt_notBefore env kss now tsigStore _ _
    · exact checkZoneAt_notBefore env kss now tsigStore _ _
  refine yields_bind zone fun result waits => ?_
  cases result with
  | report ttl => exact yields_throw _
  | wait waitUntil notice => exact yields_throw _
  | waitRecord waitUntil name rtype ttl notice => exact yields_pure waits
  | waitNextSerial waitUntil serial ttl notice => exact yields_pure waits
  | waitSoa waitUntil serial ttl reportTtl notice =>
      refine yields_next fun served => ?_
      cases served with
      | error reason => exact yields_pure (Nat.le_add_right _ _)
      | ok _ => exact yields_pure trivial

end Dnst.Keyset
