import Dnst.Keyset.Transferred
import Dnst.Keyset.Reference

/-! # What the RRSIG check decides

`checkZone` asks the name servers for their serials when the transferred zone is completely
signed, and `reportRrsigPropagated` takes it for granted that they were not up to date.
-/

namespace Dnst.Keyset

open Effect

/-! ## Serials -/

/-- The response has SOA records, and all of their serials are acceptable. -/
def ServesSerial (acceptable : Serial → Prop) (response : Option (List Answer)) : Prop :=
  ∃ answers, response = some answers ∧ soaSerials answers ≠ [] ∧
    ∀ soa ∈ soaSerials answers, acceptable soa.2

/-- The name servers of the zone are found, and all of their addresses serve acceptable
serials. -/
def AllServeSerial (env : Environment) (zone : Name) (acceptable : Serial → Prop)
    (calls : Nat) : Prop :=
  ∃ addresses after, exec (addressesForZone env zone) calls = (.ok addresses, after) ∧
    ∀ response ∈ responses env after zone .soa addresses, ServesSerial acceptable response

/-- Equal to the transferred serial or newer. -/
def UpToDate (serial current : Serial) : Prop := SerialNumber.le serial current = true

/-- Not older; serials that cannot be compared are included. -/
def NotOlder (serial current : Serial) : Prop := SerialNumber.lt current serial = false

theorem UpToDate.notOlder {serial current : Serial} (upToDate : UpToDate serial current) :
    NotOlder serial current :=
  SerialNumber.lt_eq_false_of_le upToDate

theorem AllServeSerial.imp {env : Environment} {zone : Name} {calls : Nat}
    {acceptable weaker : Serial → Prop} (serve : AllServeSerial env zone acceptable calls)
    (implied : ∀ serial, acceptable serial → weaker serial) :
    AllServeSerial env zone weaker calls := by
  obtain ⟨addresses, after, found, all⟩ := serve
  refine ⟨addresses, after, found, ?_⟩
  intro response member
  obtain ⟨answers, same, some, serials⟩ := all response member
  exact ⟨answers, same, some, fun soa soaMember => implied soa.2 (serials soa soaMember)⟩

section Serials

variable {env : Environment} {kss : KeySetState} {zone : Name} {serial : Serial}
  {now : UnixTime} {calls : Nat}

/-- How an address is judged by its response. -/
inductive SoaJudged (serial : Serial) (response : Option (List Answer)) :
    Except String AutoReportActionsResult → Prop where
  | report (ttl : Ttl) (serves : ServesSerial (NotOlder serial) response) :
      SoaJudged serial response (.ok (.report ttl))
  | wait (waitUntil : UnixTime) (notice : String)
      (fails : ¬ ServesSerial (NotOlder serial) response) :
      SoaJudged serial response (.ok (.wait waitUntil notice))
  | error (reason : String) (fails : ¬ ServesSerial (NotOlder serial) response) :
      SoaJudged serial response (.error reason)

theorem exec_checkSoaForAddress (call : Nat) (address : IpAddr) :
    ∃ result, exec (checkSoaForAddress env zone serial now address) call =
        (result.mapError .error, call + 1) ∧
      SoaJudged serial (answersAt env call zone .soa address) result := by
  unfold checkSoaForAddress
  cases asked : answersAt env call zone .soa address with
  | none =>
      obtain ⟨reason, run⟩ := exec_lookup_of_no_answer asked
      refine ⟨.error reason, ?_, ?_⟩
      · rw [exec_bind_of_error run]
        rfl
      · apply SoaJudged.error
        rintro ⟨answers, same, _⟩
        cases same
  | some answers =>
      rw [exec_bind_of_ok (exec_lookup_of_answersAt asked)]
      dsimp only
      split
      · rename_i empty
        refine ⟨.ok (.wait (now + defaultWait)
          s!"no SOA record found for zone {zone.display} at server{address}"), rfl, ?_⟩
        apply SoaJudged.wait
        rintro ⟨others, same, some, _⟩
        cases same
        exact some (List.isEmpty_iff.mp empty)
      · rename_i nonempty
        cases older : (soaSerials answers).find? fun record =>
            SerialNumber.lt record.2 serial with
        | some found =>
            obtain ⟨ttl, current⟩ := found
            refine ⟨.ok (.wait (now + fromSecs ttl)
              s!"server {address} has serial {current}"), rfl, ?_⟩
            apply SoaJudged.wait
            rintro ⟨others, same, _, serials⟩
            cases same
            have notOlder := serials _ (List.mem_of_find?_eq_some older)
            have isOlder := List.find?_some older
            unfold NotOlder at notOlder
            rw [notOlder] at isOlder
            cases isOlder
        | none =>
            refine ⟨.ok (.report 0), rfl, ?_⟩
            apply SoaJudged.report
            refine ⟨answers, rfl, ?_, ?_⟩
            · simpa using nonempty
            · intro soa member
              simpa [NotOlder] using List.find?_eq_none.mp older soa member

theorem exec_allReport {responses : List (Option (List Answer))}
    {results : List (Except String AutoReportActionsResult)}
    (judged : List.Forall₂ (SoaJudged serial) responses results) :
    ((∀ response ∈ responses, ServesSerial (NotOlder serial) response) ∧
        exec (allReport results) calls = (.ok (), calls)) ∨
      (¬ ∀ response ∈ responses, ServesSerial (NotOlder serial) response) ∧
        ∃ reason, exec (allReport results) calls = (.error (.error reason), calls) := by
  induction judged with
  | nil => exact Or.inl ⟨by simp, rfl⟩
  | cons first others induction =>
      rw [List.forall_mem_cons]
      cases first with
      | report ttl serves =>
          rcases induction with ⟨all, run⟩ | ⟨fails, reason, run⟩
          · exact Or.inl ⟨⟨serves, all⟩, run⟩
          · exact Or.inr ⟨fun both => fails both.2, reason, run⟩
      | wait waitUntil notice fails => exact Or.inr ⟨fun both => fails both.1, notice, rfl⟩
      | error reason fails => exact Or.inr ⟨fun both => fails both.1, reason, rfl⟩

/-- The serials are checked against being older, and no failure is a panic. -/
theorem exec_checkSoa (env : Environment) (serial : Serial) (kss : KeySetState)
    (now : UnixTime) (calls : Nat) :
    (AllServeSerial env kss.keyset.name (NotOlder serial) calls ∧
        (exec (checkSoa env serial kss now) calls).1 = .ok ()) ∨
      ¬ AllServeSerial env kss.keyset.name (NotOlder serial) calls ∧
        ∃ reason, (exec (checkSoa env serial kss now) calls).1 = .error (.error reason) := by
  unfold checkSoa AllServeSerial
  dsimp only
  rcases found : exec (addressesForZone env kss.keyset.name) calls with
    ⟨fault | addresses, after⟩
  · have ordinary := (addressesForZone_raises env kss.keyset.name).error found
    rw [exec_bind_of_error found]
    right
    constructor
    · rintro ⟨_, _, same, _⟩
      cases same
    · cases fault with
      | error reason => exact ⟨reason, rfl⟩
      | panic message => cases ordinary
  · obtain ⟨results, checked, judged⟩ := exec_checkEachAddress
      (@exec_checkSoaForAddress env kss.keyset.name serial now) addresses after
    rw [exec_bind_of_ok found, exec_bind_of_ok checked]
    rcases @exec_allReport serial (after + addresses.length) _ _ judged with
      ⟨all, run⟩ | ⟨fails, reason, run⟩
    · rw [run]
      exact Or.inl ⟨⟨addresses, after, rfl, all⟩, rfl⟩
    · rw [run]
      right
      refine ⟨?_, reason, rfl⟩
      rintro ⟨_, _, same, all⟩
      cases same
      exact fails all

end Serials

/-! ## The verdict -/

/-- Every authoritative RRset of the transferred zone has the expected signatures. -/
def ZoneTransfer.Complete (kss : KeySetState) (transfer : ZoneTransfer) : Prop :=
  CompletelySigned (rrsetsOf transfer.records) (tagsOf transfer.records) kss.keyset.name
    (getExpectedZskKeyTags kss)

/-- The largest TTL of a signature in the transfer. -/
def ZoneTransfer.maxTtl (transfer : ZoneTransfer) : Ttl :=
  (collected transfer.serial transfer.records).maxTtl

theorem ZoneTransfer.complete_iff (kss : KeySetState) (transfer : ZoneTransfer) :
    checkRrsigs (collected transfer.serial transfer.records).treemap
        (collected transfer.serial transfer.records).sigmap kss.keyset.name
        (getExpectedZskKeyTags kss) = .done ↔ transfer.Complete kss := by
  have collects := collects_collected transfer.serial transfer.records
  rw [checkRrsigs_eq_done_iff _ _ _ Function.injective_id collects.ordered,
    collects.treemap, collects.sigmap]
  rfl

section Verdict

variable {env : Environment} {kss : KeySetState} {now : UnixTime}
  {nameservers : List NameserverConnectionDetails} {tsigStore : TsigKeyStore} {calls : Nat}

/-- What `checkZone` makes of a transferred zone. -/
inductive ZoneJudged (env : Environment) (kss : KeySetState) (now : UnixTime)
    (transfer : ZoneTransfer) (after : Nat) :
    Except Fault AutoReportRrsigResult × Nat → Prop where
  | report (final : Nat) (complete : transfer.Complete kss)
      (serve : AllServeSerial env kss.keyset.name (NotOlder transfer.serial) after) :
      ZoneJudged env kss now transfer after (.ok (.report transfer.maxTtl), final)
  | waitSoa (waitUntil : UnixTime) (ttl : Ttl) (notice : String)
      (complete : transfer.Complete kss)
      (behind : ¬ AllServeSerial env kss.keyset.name (NotOlder transfer.serial) after) :
      ZoneJudged env kss now transfer after
        (.ok (.waitSoa waitUntil transfer.serial ttl transfer.maxTtl notice),
          (exec (checkSoa env transfer.serial kss now) after).2)
  | waitRecord (final : Nat) (waitUntil : UnixTime) (name : Name) (rtype : Rtype) (ttl : Ttl)
      (notice : String) (incomplete : ¬ transfer.Complete kss) :
      ZoneJudged env kss now transfer after
        (.ok (.waitRecord waitUntil name rtype ttl notice), final)
  | waitNextSerial (final : Nat) (waitUntil : UnixTime) (serial : Serial) (ttl : Ttl)
      (notice : String) (incomplete : ¬ transfer.Complete kss) :
      ZoneJudged env kss now transfer after
        (.ok (.waitNextSerial waitUntil serial ttl notice), final)

theorem zoneJudged (env : Environment) (kss : KeySetState) (now : UnixTime)
    (transfer : ZoneTransfer) (after : Nat) :
    ZoneJudged env kss now transfer after
      (exec (zoneVerdict env kss now (collected transfer.serial transfer.records)
        transfer.soaTtl) after) := by
  have serial := (collected_firstSoa transfer.serial transfer.records).2
  unfold zoneVerdict
  cases checked : checkRrsigs (collected transfer.serial transfer.records).treemap
      (collected transfer.serial transfer.records).sigmap kss.keyset.name
      (getExpectedZskKeyTags kss) with
  | done =>
      have complete := (transfer.complete_iff kss).mp checked
      dsimp only
      rw [serial]
      rcases run : exec (checkSoa env transfer.serial kss now) after with ⟨outcome, final⟩
      rcases exec_checkSoa env transfer.serial kss now after with
        ⟨serve, returned⟩ | ⟨behind, reason, failed⟩
      · rw [run] at returned
        dsimp only at returned
        subst returned
        have captured : exec (capture (checkSoa env transfer.serial kss now)) after =
            (.ok (.ok ()), final) := by
          rw [exec_capture, run]
        rw [exec_bind_of_ok captured]
        exact .report final complete serve
      · rw [run] at failed
        dsimp only at failed
        subst failed
        have captured : exec (capture (checkSoa env transfer.serial kss now)) after =
            (.ok (.error reason), final) := by
          rw [exec_capture, run]
        rw [exec_bind_of_ok captured]
        have judged : ZoneJudged env kss now transfer after
            (.ok (.waitSoa (now + fromSecs transfer.soaTtl) transfer.serial transfer.soaTtl
                transfer.maxTtl reason),
              (exec (checkSoa env transfer.serial kss now) after).2) :=
          .waitSoa _ _ reason complete behind
        rw [run] at judged
        exact judged
  | waitRecord name rtype notice =>
      have incomplete : ¬ transfer.Complete kss := by
        intro complete
        rw [(transfer.complete_iff kss).mpr complete] at checked
        cases checked
      exact .waitRecord after _ name rtype _ notice incomplete
  | waitNextSerial notice =>
      have incomplete : ¬ transfer.Complete kss := by
        intro complete
        rw [(transfer.complete_iff kss).mpr complete] at checked
        cases checked
      exact .waitNextSerial after _ _ _ notice incomplete

theorem reportRrsigPropagated_eq (env : Environment) (kss : KeySetState) (now : UnixTime)
    (nameservers : List NameserverConnectionDetails) (tsigStore : TsigKeyStore)
    (calls : Nat) {result : AutoReportRrsigResult} {middle : Nat}
    (checked : exec (checkZone env kss now nameservers tsigStore) calls =
      (.ok result, middle)) :
    exec (reportRrsigPropagated env kss now nameservers tsigStore) calls =
      exec (match result with
        | .report _ => panic "internal error: entered unreachable code"
        | .wait _ _ => panic "internal error: entered unreachable code"
        | .waitRecord _ _ _ _ _ => return result
        | .waitNextSerial _ _ _ _ => return result
        | .waitSoa _ serial ttl reportTtl _ => do
            let served ← capture (checkSoa env serial kss now)
            match served with
            | .error reason =>
                return .waitSoa (now + fromSecs ttl) serial ttl reportTtl reason
            | .ok _ => return .report reportTtl) middle := by
  unfold reportRrsigPropagated
  apply (exec_bind_of_ok checked).trans
  cases result <;> rfl

/-- Total and sound: no panic, a report exactly for a completely signed zone that every
name server serves, and a TTL that covers every signature. Servers are up to date when
they are found so at one of the two times they are asked. -/
structure SoundReport (env : Environment) (kss : KeySetState) (now : UnixTime)
    (nameservers : List NameserverConnectionDetails) (tsigStore : TsigKeyStore)
    (calls : Nat) : Prop where
  total : panics
    (exec (reportRrsigPropagated env kss now nameservers tsigStore) calls).1 = false
  sound : (∃ ttl, (exec (reportRrsigPropagated env kss now nameservers tsigStore) calls).1 =
      .ok (.report ttl)) ↔
    ∃ transfer after, transferredZone env kss.keyset.name nameservers tsigStore calls =
        some (transfer, after) ∧
      transfer.Complete kss ∧
      (AllServeSerial env kss.keyset.name (UpToDate transfer.serial) after ∨
        AllServeSerial env kss.keyset.name (UpToDate transfer.serial)
          (exec (checkSoa env transfer.serial kss now) after).2)
  covers : ∀ ttl, (exec (reportRrsigPropagated env kss now nameservers tsigStore) calls).1 =
      .ok (.report ttl) →
    ∀ transfer after, transferredZone env kss.keyset.name nameservers tsigStore calls =
        some (transfer, after) →
      ∀ record ∈ transfer.records, record.tag?.isSome → record.ttl ≤ ttl

/-- A zone that is not completely signed is waited for. -/
theorem soundReport_of_incomplete {transfer : ZoneTransfer} {after : Nat}
    (received : transferredZone env kss.keyset.name nameservers tsigStore calls =
      some (transfer, after))
    (incomplete : ¬ transfer.Complete kss) {result : AutoReportRrsigResult}
    (outcome : (exec (reportRrsigPropagated env kss now nameservers tsigStore) calls).1 =
      .ok result)
    (waits : ∀ ttl, result ≠ .report ttl) :
    SoundReport env kss now nameservers tsigStore calls := by
  have silent : ∀ ttl, (exec (reportRrsigPropagated env kss now nameservers tsigStore)
      calls).1 ≠ .ok (.report ttl) := by
    intro ttl same
    rw [outcome] at same
    exact waits ttl (Except.ok.inj same)
  constructor
  · rw [outcome]
    rfl
  · constructor
    · rintro ⟨ttl, same⟩
      exact absurd same (silent ttl)
    · rintro ⟨other, otherAfter, same, complete, _⟩
      rw [received] at same
      cases same
      exact absurd complete incomplete
  · intro ttl same
    exact absurd same (silent ttl)

theorem ZoneTransfer.le_maxTtl {transfer : ZoneTransfer} {record : Answer}
    (member : record ∈ transfer.records) (isTag : record.tag?.isSome) :
    record.ttl ≤ transfer.maxTtl :=
  (collects_collected transfer.serial transfer.records).maxTtl record member isTag

/-- The servers are asked again when they were not up to date. -/
theorem exec_report_of_waitSoa {transfer : ZoneTransfer} {middle : Nat}
    {waitUntil : UnixTime} {ttl : Ttl} {notice : String}
    (checked : exec (checkZone env kss now nameservers tsigStore) calls =
      (.ok (.waitSoa waitUntil transfer.serial ttl transfer.maxTtl notice), middle)) :
    (AllServeSerial env kss.keyset.name (NotOlder transfer.serial) middle ∧
        (exec (reportRrsigPropagated env kss now nameservers tsigStore) calls).1 =
          .ok (.report transfer.maxTtl)) ∨
      ¬ AllServeSerial env kss.keyset.name (NotOlder transfer.serial) middle ∧
        ∃ reason, (exec (reportRrsigPropagated env kss now nameservers tsigStore) calls).1 =
          .ok (.waitSoa (now + fromSecs ttl) transfer.serial ttl transfer.maxTtl reason) := by
  rw [reportRrsigPropagated_eq env kss now nameservers tsigStore calls checked]
  dsimp only
  rcases run : exec (checkSoa env transfer.serial kss now) middle with ⟨outcome, final⟩
  rcases exec_checkSoa env transfer.serial kss now middle with
    ⟨serve, returned⟩ | ⟨behind, reason, failed⟩
  · rw [run] at returned
    dsimp only at returned
    subst returned
    have captured : exec (capture (checkSoa env transfer.serial kss now)) middle =
        (.ok (.ok ()), final) := by
      rw [exec_capture, run]
    rw [exec_bind_of_ok captured]
    exact Or.inl ⟨serve, rfl⟩
  · rw [run] at failed
    dsimp only at failed
    subst failed
    have captured : exec (capture (checkSoa env transfer.serial kss now)) middle =
        (.ok (.error reason), final) := by
      rw [exec_capture, run]
    rw [exec_bind_of_ok captured]
    exact Or.inr ⟨behind, reason, rfl⟩

/-- The check is sound exactly when no completely signed zone finds its name servers up to
date at once, and servers that are then found not to be older can be compared. -/
theorem reportRrsigPropagated_sound_iff (env : Environment) (kss : KeySetState)
    (now : UnixTime) (nameservers : List NameserverConnectionDetails)
    (tsigStore : TsigKeyStore) (calls : Nat) :
    SoundReport env kss now nameservers tsigStore calls ↔
      ∀ transfer after, transferredZone env kss.keyset.name nameservers tsigStore calls =
          some (transfer, after) →
        transfer.Complete kss →
        ¬ AllServeSerial env kss.keyset.name (NotOlder transfer.serial) after ∧
          (AllServeSerial env kss.keyset.name (NotOlder transfer.serial)
              (exec (checkSoa env transfer.serial kss now) after).2 →
            AllServeSerial env kss.keyset.name (UpToDate transfer.serial)
              (exec (checkSoa env transfer.serial kss now) after).2) := by
  have goesOn := @goesOn_checkZone env kss now tsigStore nameservers calls
  rcases received : transferredZone env kss.keyset.name nameservers tsigStore calls with
    _ | ⟨transfer, after⟩
  · rw [received] at goesOn
    obtain ⟨reason, failed⟩ := goesOn
    have outcome : (exec (reportRrsigPropagated env kss now nameservers tsigStore) calls).1 =
        .error (.error reason) := by
      unfold reportRrsigPropagated
      rw [exec_bind_of_error (Prod.ext failed rfl)]
    constructor
    · intro _ transfer after same
      cases same
    · intro _
      constructor
      · rw [outcome]
        rfl
      · rw [outcome, received]
        simp
      · rw [outcome]
        intro ttl same
        cases same
  · rw [received] at goesOn
    dsimp only [GoesOn] at goesOn
    have judged := zoneJudged env kss now transfer after
    rw [← goesOn] at judged
    rcases checked : exec (checkZone env kss now nameservers tsigStore) calls with
      ⟨result, middle⟩
    rw [checked] at judged
    have step := @reportRrsigPropagated_eq env kss now nameservers tsigStore calls
    cases judged with
    | report final complete serve =>
        have stops : panics
            (exec (reportRrsigPropagated env kss now nameservers tsigStore) calls).1 = true := by
          rw [step checked]
          rfl
        constructor
        · intro sound
          rw [sound.total] at stops
          cases stops
        · intro condition
          exact absurd serve (condition transfer after rfl complete).1
    | waitRecord final waitUntil name rtype ttl notice incomplete =>
        constructor
        · intro _ other otherAfter same complete
          cases same
          exact absurd complete incomplete
        · intro _
          exact soundReport_of_incomplete received incomplete
            (congrArg Prod.fst (step checked)) (by simp)
    | waitNextSerial final waitUntil serial ttl notice incomplete =>
        constructor
        · intro _ other otherAfter same complete
          cases same
          exact absurd complete incomplete
        · intro _
          exact soundReport_of_incomplete received incomplete
            (congrArg Prod.fst (step checked)) (by simp)
    | waitSoa waitUntil ttl notice complete behind =>
        have notAtOnce : ¬ AllServeSerial env kss.keyset.name (UpToDate transfer.serial)
            after :=
          fun serve => behind (serve.imp fun _ => UpToDate.notOlder)
        rcases exec_report_of_waitSoa checked with ⟨serve, outcome⟩ | ⟨fails, reason, outcome⟩
        · constructor
          · intro sound other otherAfter same _
            cases same
            refine ⟨behind, fun _ => ?_⟩
            obtain ⟨_, _, same, _, served⟩ := sound.sound.mp ⟨transfer.maxTtl, outcome⟩
            rw [received] at same
            cases same
            exact served.resolve_left notAtOnce
          · intro condition
            have served := (condition transfer after rfl complete).2 serve
            constructor
            · rw [outcome]
              rfl
            · constructor
              · intro _
                exact ⟨transfer, after, received, complete, Or.inr served⟩
              · intro _
                exact ⟨transfer.maxTtl, outcome⟩
            · intro reported same other otherAfter sameTransfer record member isTag
              rw [received] at sameTransfer
              cases sameTransfer
              rw [outcome] at same
              cases same
              exact ZoneTransfer.le_maxTtl member isTag
        · constructor
          · intro _ other otherAfter same _
            cases same
            exact ⟨behind, fun serve => absurd serve fails⟩
          · intro _
            constructor
            · rw [outcome]
              rfl
            · constructor
              · rintro ⟨reported, same⟩
                rw [outcome] at same
                cases same
              · rintro ⟨other, otherAfter, same, _, served⟩
                rw [received] at same
                cases same
                rcases served with atOnce | again
                · exact absurd atOnce notAtOnce
                · exact absurd (again.imp fun _ => UpToDate.notOlder) fails
            · intro reported same
              rw [outcome] at same
              cases same

end Verdict

/-! ## A zone that is served everywhere -/

namespace ServedEverywhere

def zskState : KeyState := ⟨false, true, true, false⟩

/-- A zone that is signed with the imported ZSK. -/
def state : KeySetState :=
  let created := createState Reference.zone
  { created with
    keyset := { created.keyset with
      keys := [("file:///keys/zsk.key",
        { privref := none
          decoupled := false
          keytype := .zsk zskState
          algorithm := Reference.importedZsk.algorithm
          keyTag := Reference.importedZsk.keyTag
          timestamps := Reference.newTimestamps 0 })] } }

def soa : Answer := ⟨Reference.zone, 300, .soa 7⟩

def signature : Answer :=
  ⟨Reference.zone, 3600, .rrsig ⟨.soa, Reference.importedZsk, [], 0, 0⟩⟩

def environment : Environment :=
  { Reference.environment 1 0 with
    network := {
      queryNs := fun _ _ => .ok [["ns", "example", "com"]]
      querySoaOwner := fun _ _ => .ok ["com"]
      querySoa := fun _ _ => .ok (["ns", "example", "com"], 7)
      lookupHost := fun _ _ => .ok ["192.0.2.1"]
      queryAt := fun _ _ _ _ => .ok [.ok soa]
      connect := fun _ _ => .ok ()
      axfr := fun _ _ => [.answer [.ok soa, .ok signature], .answer [.ok soa]] } }

end ServedEverywhere

/-- The zone is completely signed and up to date at its only name server. -/
theorem reportRrsigPropagated_unreachable :
    ¬ SoundReport ServedEverywhere.environment ServedEverywhere.state 0 [] ⟨[]⟩ 0 := by
  intro sound
  have stops : panics (exec (reportRrsigPropagated ServedEverywhere.environment
      ServedEverywhere.state 0 [] ⟨[]⟩) 0).1 = true := by
    decide +kernel
  have total := sound.total
  rw [stops] at total
  cases total

end Dnst.Keyset
