import Dnst.Foundation.Triple
import Dnst.Keyset.Propagation

/-! # Asking every address

The checks of RRsets and serials ask each address of a zone one question and combine the
results. What an address answers depends on the number of the call alone.
-/

namespace Dnst.Keyset

open Effect Consumption

/-! ## One address -/

/-- The records of an answer, when none is malformed. -/
def allWellFormed : List (Except String Answer) → Option (List Answer)
  | [] => some []
  | .error _ :: _ => none
  | .ok answer :: answers => (allWellFormed answers).map (answer :: ·)

/-- What an address answers to this call. -/
def answersAt (env : Environment) (call : Nat) (name : Name) (rtype : Rtype)
    (address : IpAddr) : Option (List Answer) :=
  match env.network.queryAt call address name rtype with
  | .error _ => none
  | .ok records => allWellFormed records

theorem allWellFormed_map_ok (answers : List Answer) :
    allWellFormed (answers.map .ok) = some answers := by
  induction answers with
  | nil => rfl
  | cons answer answers induction => simp [allWellFormed, induction]

theorem exec_wellFormed (records : List (Except String Answer)) (calls : Nat) :
    (∃ answers, allWellFormed records = some answers ∧
        exec (wellFormed records) calls = (.ok answers, calls)) ∨
      allWellFormed records = none ∧
        ∃ reason, exec (wellFormed records) calls = (.error (.error reason), calls) := by
  induction records with
  | nil => exact Or.inl ⟨[], rfl, rfl⟩
  | cons record records induction =>
      cases record with
      | error reason => exact Or.inr ⟨rfl, reason, rfl⟩
      | ok answer =>
          rcases induction with ⟨answers, complete, run⟩ | ⟨malformed, reason, run⟩
          · left
            refine ⟨answer :: answers, by simp [allWellFormed, complete], ?_⟩
            rw [wellFormed, exec_bind_of_ok run]
            rfl
          · right
            refine ⟨by simp [allWellFormed, malformed], reason, ?_⟩
            rw [wellFormed, exec_bind_of_error run]

section Lookup

variable {env : Environment} {name : Name} {rtype : Rtype} {address : IpAddr} {calls : Nat}

theorem exec_lookup_of_answersAt {answers : List Answer}
    (answered : answersAt env calls name rtype address = some answers) :
    exec (lookupNameRtypeAtAddress env name rtype address) calls =
      (.ok answers, calls + 1) := by
  have call : exec nextCall calls = (.ok calls, calls + 1) := rfl
  unfold answersAt at answered
  unfold lookupNameRtypeAtAddress
  rw [exec_bind_of_ok call]
  cases asked : env.network.queryAt calls address name rtype with
  | error reason =>
      rw [asked] at answered
      cases answered
  | ok records =>
      rw [asked] at answered
      dsimp only at answered
      rcases exec_wellFormed records (calls + 1) with ⟨others, complete, run⟩ | ⟨malformed, _⟩
      · rw [answered] at complete
        cases complete
        exact run
      · rw [answered] at malformed
        cases malformed

theorem exec_lookup_of_no_answer (unanswered : answersAt env calls name rtype address = none) :
    ∃ reason, exec (lookupNameRtypeAtAddress env name rtype address) calls =
      (.error (.error reason), calls + 1) := by
  have call : exec nextCall calls = (.ok calls, calls + 1) := rfl
  unfold answersAt at unanswered
  unfold lookupNameRtypeAtAddress
  rw [exec_bind_of_ok call]
  cases asked : env.network.queryAt calls address name rtype with
  | error reason =>
      exact ⟨s!"{name.display}/{rtype.display} request to {address} failed: {reason}", rfl⟩
  | ok records =>
      rw [asked] at unanswered
      dsimp only at unanswered
      rcases exec_wellFormed records (calls + 1) with ⟨others, complete, _⟩ | ⟨_, failed⟩
      · rw [unanswered] at complete
        cases complete
      · exact failed

end Lookup

/-! ## Lookups -/

theorem nextCall_raises : Raises (fun fault => fault.isPanic = false) nextCall :=
  raises_bind raises_get fun _ => raises_bind (raises_modify _) fun _ => raises_pure _

theorem mapErr_raises {State Value : Type} (message : String → String)
    (result : Except String Value) :
    Raises (fun fault => fault.isPanic = false)
      (mapErr message result : Effect State Fault Value) := by
  cases result with
  | ok value => exact raises_pure value
  | error reason => exact raises_throw rfl

theorem refuseIf_raises {State : Type} (condition : Bool) (message : String) :
    Raises (fun fault => fault.isPanic = false)
      (refuseIf condition message : Effect State Fault Unit) :=
  raises_ite (raises_throw rfl) (raises_pure _)

/-- Lookups fail without a panic. -/
theorem addressesForName_raises (env : Environment) (name : Name) :
    Raises (fun fault => fault.isPanic = false) (addressesForName env name) := by
  apply raises_bind nextCall_raises
  intro call
  apply raises_bind (mapErr_raises _ _)
  intro addresses
  apply raises_bind (refuseIf_raises _ _)
  intro _
  exact raises_pure addresses

theorem addressesForZone_raises (env : Environment) (zone : Name) :
    Raises (fun fault => fault.isPanic = false) (addressesForZone env zone) := by
  apply raises_bind nextCall_raises
  intro call
  apply raises_bind (mapErr_raises _ _)
  intro nameservers
  apply raises_bind (refuseIf_raises _ _)
  intro _
  have visits : ∀ name, Raises (fun fault => fault.isPanic = false)
      (do
        let addresses ← addressesForName env name
        return some addresses) := by
    intro name
    apply raises_bind (addressesForName_raises env name)
    intro addresses
    exact raises_pure _
  apply raises_bind (raises_collect nameservers visits)
  intro addresses
  exact raises_pure _

/-! ## All addresses -/

/-- What the addresses answer when they are asked one after the other. -/
def responses (env : Environment) (calls : Nat) (name : Name) (rtype : Rtype)
    (addresses : List IpAddr) : List (Option (List Answer)) :=
  addresses.mapIdx fun index address => answersAt env (calls + index) name rtype address

theorem responses_cons (env : Environment) (calls : Nat) (name : Name) (rtype : Rtype)
    (address : IpAddr) (addresses : List IpAddr) :
    responses env calls name rtype (address :: addresses) =
      answersAt env calls name rtype address ::
        responses env (calls + 1) name rtype addresses := by
  have shift : ∀ index, calls + (index + 1) = calls + 1 + index := by
    intro index
    omega
  unfold responses
  rw [List.mapIdx_cons]
  congr 2
  funext index other
  rw [shift]

/-- Checks that take one call each and do not panic give one result for each response. -/
theorem exec_checkEachAddress {env : Environment} {name : Name} {rtype : Rtype}
    {check : IpAddr → Step AutoReportActionsResult}
    {Allowed : Option (List Answer) → Except String AutoReportActionsResult → Prop}
    (each : ∀ call address, ∃ result,
      exec (check address) call = (result.mapError .error, call + 1) ∧
        Allowed (answersAt env call name rtype address) result)
    (addresses : List IpAddr) (calls : Nat) :
    ∃ results,
      exec (checkEachAddress addresses check) calls =
          (.ok results, calls + addresses.length) ∧
        List.Forall₂ Allowed (responses env calls name rtype addresses) results := by
  induction addresses generalizing calls with
  | nil => exact ⟨[], rfl, List.Forall₂.nil⟩
  | cons address addresses induction =>
      obtain ⟨result, checked, allowed⟩ := each calls address
      obtain ⟨results, run, others⟩ := induction (calls + 1)
      have captured : exec (capture (check address)) calls = (.ok result, calls + 1) := by
        rw [exec_capture, checked]
        cases result <;> rfl
      have visited : exec (do
          let result ← capture (check address)
          return some result) calls = (.ok (some result), calls + 1) := by
        rw [exec_bind_of_ok captured]
        rfl
      refine ⟨result :: results, ?_, ?_⟩
      · unfold checkEachAddress at run ⊢
        unfold collect
        rw [exec_bind_of_ok visited, exec_bind_of_ok run, exec_pure, List.length_cons]
        have count : calls + 1 + addresses.length = calls + (addresses.length + 1) := by
          omega
        rw [count]
        rfl
      · rw [responses_cons]
        exact List.Forall₂.cons allowed others

/-- The result of several addresses is a report when each of them reports. -/
theorem combineReports_eq_report_iff {results : List (Except String AutoReportActionsResult)}
    {maxTtl ttl : Ttl} {calls : Nat} :
    (exec (combineReports (some maxTtl) results) calls).1 = .ok (.report ttl) ↔
      ∃ ttls : List Ttl, results = ttls.map (fun ttl => .ok (.report ttl)) ∧
        ttl = ttls.foldl max maxTtl := by
  induction results generalizing maxTtl with
  | nil =>
      constructor
      · intro same
        cases same
        exact ⟨[], rfl, rfl⟩
      · rintro ⟨ttls, same, rfl⟩
        obtain rfl : ttls = [] := by simpa using same.symm
        rfl
  | cons result results induction =>
      rcases result with reason | (reported | ⟨waitUntil, notice⟩)
      · constructor
        · intro same
          cases same
        · rintro ⟨ttls, same, _⟩
          cases ttls <;> simp at same
      · rw [combineReports, Option.getD_some, induction]
        constructor
        · rintro ⟨ttls, rfl, rfl⟩
          exact ⟨reported :: ttls, rfl, rfl⟩
        · rintro ⟨ttls, same, rfl⟩
          cases ttls with
          | nil => simp at same
          | cons head ttls =>
              simp only [List.map_cons, List.cons.injEq, Except.ok.injEq,
                AutoReportActionsResult.report.injEq] at same
              obtain ⟨rfl, rfl⟩ := same
              exact ⟨ttls, rfl, rfl⟩
      · constructor
        · intro same
          cases same
        · rintro ⟨ttls, same, _⟩
          cases ttls <;> simp at same

theorem combineReports_none {results : List (Except String AutoReportActionsResult)}
    (nonempty : results ≠ []) :
    combineReports none results = combineReports (some 0) results := by
  cases results with
  | nil => exact absurd rfl nonempty
  | cons result results => rcases result with reason | (reported | ⟨waitUntil, notice⟩) <;> rfl

/-- Once something has been reported, combining reports does not panic. -/
theorem combineReports_raises (maxTtl : Ttl)
    (results : List (Except String AutoReportActionsResult)) :
    Raises (fun fault => fault.isPanic = false) (combineReports (some maxTtl) results) := by
  induction results generalizing maxTtl with
  | nil => exact raises_pure _
  | cons result results induction =>
      rcases result with reason | (reported | ⟨waitUntil, notice⟩)
      · exact raises_throw rfl
      · exact induction _
      · exact raises_pure _

/-! ## What a walk over records concludes -/

/-- How a walk over records ends: what is left of the targets decides. -/
inductive Concludes {Item Target : Type} (ttl : Ttl) :
    Outcome Item Target → Except Fault AutoReportActionsResult → Prop where
  | report : Concludes ttl (.left []) (.ok (.report ttl))
  | missing (target : Target) (targets : List Target) (waitUntil : UnixTime)
      (notice : String) :
      Concludes ttl (.left (target :: targets)) (.ok (.wait waitUntil notice))
  | unexpected (item : Item) (waitUntil : UnixTime) (notice : String) :
      Concludes ttl (.unmatched item) (.ok (.wait waitUntil notice))
  | stuck (item : Item) (message : String) :
      Concludes ttl (.undefined item) (.error (.panic message))

section Concludes

variable {Item Target : Type} {ttl : Ttl} {outcome : Outcome Item Target}
  {result : Except Fault AutoReportActionsResult}

theorem Concludes.report_iff (concludes : Concludes ttl outcome result) {reported : Ttl} :
    result = .ok (.report reported) ↔ outcome = .left [] ∧ reported = ttl := by
  cases concludes <;> simp [eq_comm]

theorem Concludes.panics_iff (concludes : Concludes ttl outcome result) :
    panics result = true ↔ ∃ item, outcome = .undefined item := by
  cases concludes <;> simp [panics, Fault.isPanic]

end Concludes

end Dnst.Keyset
