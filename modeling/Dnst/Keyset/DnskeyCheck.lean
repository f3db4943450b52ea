import Dnst.Keyset.AddressCheck
import Dnst.Keyset.Waits
import Dnst.Keyset.Reference

/-! # What the DNSKEY check decides

Every address has to serve the DNSKEY RRset of the state and its signatures, and nothing
else of these types. What one address serves cannot make up for another one.
-/

namespace Dnst.Keyset

open Effect Consumption

/-! ## Answers -/

/-- A DNSKEY record of the zone, or a signature over its DNSKEY RRset. -/
def apexDnskeyRecord? (zone : Name) (answer : Answer) : Option Record :=
  match answer.data with
  | .dnskey key => if answer.owner = zone then some (.dnskey answer.ttl key) else none
  | .rrsig signature =>
      if answer.owner = zone ∧ signature.typeCovered = .dnskey then
        some (.rrsig answer.ttl signature)
      else none
  | _ => none

def apexDnskeyRecords (zone : Name) (answers : List Answer) : List Record :=
  answers.filterMap (apexDnskeyRecord? zone)

def sameData (record target : Record) : Bool := record.withoutTtl == target.withoutTtl

/-- The largest of these TTLs. -/
def largestOf (records : List Record) : Ttl := (records.map Record.ttl).foldl max 0

/-- The records have the data of the stored ones, no more and no less. -/
def SameRecordData (records stored : List Record) : Prop :=
  ∀ data, data ∈ records.map Record.withoutTtl ↔ data ∈ stored.map Record.withoutTtl

section Walk

variable {zone : Name} {address : IpAddr} {now : UnixTime} {answer : Answer}
  {answers : List Answer} {target : List Record} {maxTtl : Ttl}

theorem sameData_dnskey (ttl : Ttl) (key : Dnskey) :
    sameData (.dnskey ttl key) = isDnskeyRecord key := by
  funext record
  cases record <;> simp [sameData, isDnskeyRecord, Record.withoutTtl, Bool.beq_comm]

theorem sameData_rrsig (ttl : Ttl) (signature : Rrsig) :
    sameData (.rrsig ttl signature) = isRrsigRecord signature := by
  funext record
  cases record <;> simp [sameData, isRrsigRecord, Record.withoutTtl, Bool.beq_comm]

theorem compareDnskeyAnswers_skip (unrelated : apexDnskeyRecord? zone answer = none) :
    compareDnskeyAnswers zone address now (answer :: answers) target maxTtl =
      compareDnskeyAnswers zone address now answers target maxTtl := by
  unfold apexDnskeyRecord? at unrelated
  rw [compareDnskeyAnswers.eq_def]
  dsimp only
  cases data : answer.data with
  | dnskey key =>
      rw [data] at unrelated
      have elsewhere : answer.owner ≠ zone := by
        intro same
        simp [same] at unrelated
      simp only [elsewhere, ne_eq, not_false_eq_true, if_true]
  | rrsig signature =>
      rw [data] at unrelated
      have elsewhere : (decide (answer.owner ≠ zone) ||
          decide (signature.typeCovered ≠ .dnskey)) = true := by
        by_contra both
        simp_all
      simp only [elsewhere, if_true]
  | ds keyTag algorithm digestType digest => rfl
  | soa serial => rfl
  | other rtype => rfl

theorem compareDnskeyAnswers_step {record : Record}
    (related : apexDnskeyRecord? zone answer = some record) :
    ∃ notice, ∀ target maxTtl,
      compareDnskeyAnswers zone address now (answer :: answers) target maxTtl =
        match target.find? (sameData record) with
        | some found =>
            compareDnskeyAnswers zone address now answers (target.erase found)
              (max maxTtl record.ttl)
        | none => .wait (now + fromSecs record.ttl) notice := by
  unfold apexDnskeyRecord? at related
  split at related
  · rename_i key data
    split at related
    · rename_i owned
      cases related
      refine ⟨s!"Check DNSKEY RRset: a DNSKEY record found on server {address} that is not part of the target RRset", ?_⟩
      intro target maxTtl
      rw [compareDnskeyAnswers, data, sameData_dnskey]
      exact if_neg (not_not_intro owned)
    · cases related
  · rename_i signature data
    split at related
    · rename_i owned
      cases related
      refine ⟨s!"Check DNSKEY RRset: RRSIG record found on server {address} that is not part of the target RRset", ?_⟩
      intro target maxTtl
      rw [compareDnskeyAnswers, data, sameData_rrsig]
      apply if_neg
      simp [owned]
    · cases related
  · cases related

/-- The walk over the answers is a walk over the DNSKEY records and their signatures. -/
theorem compareDnskeyAnswers_concludes (zone : Name) (address : IpAddr) (now : UnixTime)
    (answers : List Answer) (target : List Record) (maxTtl : Ttl) :
    Concludes (((apexDnskeyRecords zone answers).map Record.ttl).foldl max maxTtl)
      (consume (fun _ => true) sameData (apexDnskeyRecords zone answers) target)
      (.ok (compareDnskeyAnswers zone address now answers target maxTtl)) := by
  unfold apexDnskeyRecords
  induction answers generalizing target maxTtl with
  | nil =>
      cases target with
      | nil => exact .report
      | cons record target => exact .missing record target _ _
  | cons answer answers induction =>
      rw [List.filterMap_cons]
      cases related : apexDnskeyRecord? zone answer with
      | none =>
          rw [compareDnskeyAnswers_skip related]
          exact induction target maxTtl
      | some record =>
          obtain ⟨notice, step⟩ := compareDnskeyAnswers_step related
          rw [step, consume, if_neg (by simp)]
          cases target.find? (sameData record) with
          | some found => exact induction (target.erase found) (max maxTtl record.ttl)
          | none => exact .unexpected record _ notice

end Walk

/-! ## One address -/

section Address

variable {zone : Name} {address : IpAddr} {now : UnixTime} {records stored : List Record}

theorem unambiguous_sameData :
    Unambiguous sameData (distinctBy Record.withoutTtl stored) := by
  intro record one oneMember other otherMember oneSame otherSame
  apply List.inj_on_of_nodup_map distinctBy_nodup oneMember otherMember
  have first : record.withoutTtl = one.withoutTtl := by simpa [sameData] using oneSame
  have second : record.withoutTtl = other.withoutTtl := by simpa [sameData] using otherSame
  rw [← first, second]

/-- The walk uses up the stored records when the answer has the same ones. -/
theorem consume_sameData_iff (distinct : (records.map Record.withoutTtl).Nodup) :
    consume (fun _ => true) sameData records (distinctBy Record.withoutTtl stored) =
        .left [] ↔
      SameRecordData records stored := by
  have nodup : (distinctBy Record.withoutTtl stored).Nodup :=
    List.Nodup.of_map Record.withoutTtl distinctBy_nodup
  rw [consume_eq_left_iff (fun _ _ _ => rfl) nodup unambiguous_sameData]
  constructor
  · rintro ⟨⟨each, _⟩, used⟩ data
    rw [← @mem_map_distinctBy _ _ _ Record.withoutTtl stored]
    constructor
    · intro served
      obtain ⟨record, member, rfl⟩ := List.mem_map.mp served
      obtain ⟨target, targetMember, same⟩ := each record member
      have equal : record.withoutTtl = target.withoutTtl := by simpa [sameData] using same
      rw [equal]
      exact List.mem_map_of_mem targetMember
    · intro expected
      obtain ⟨target, targetMember, rfl⟩ := List.mem_map.mp expected
      have notUnused := List.filter_eq_nil_iff.mp used.symm target targetMember
      obtain ⟨record, member, same⟩ : ∃ record ∈ records, sameData record target = true := by
        simpa using notUnused
      have equal : record.withoutTtl = target.withoutTtl := by simpa [sameData] using same
      rw [← equal]
      exact List.mem_map_of_mem member
  · intro same
    have expected : ∀ data, data ∈ records.map Record.withoutTtl ↔
        data ∈ (distinctBy Record.withoutTtl stored).map Record.withoutTtl := by
      intro data
      rw [same data, mem_map_distinctBy]
    refine ⟨⟨?_, ?_⟩, ?_⟩
    · intro record member
      have served := (expected record.withoutTtl).mp (List.mem_map_of_mem member)
      obtain ⟨target, targetMember, equal⟩ := List.mem_map.mp served
      exact ⟨target, targetMember, by simp [sameData, equal]⟩
    · apply List.Pairwise.imp _ (List.pairwise_map.mp distinct)
      intro one other different target _ oneSame
      have equal : one.withoutTtl = target.withoutTtl := by simpa [sameData] using oneSame
      rw [equal] at different
      simpa [sameData] using different.symm
    · symm
      apply List.filter_eq_nil_iff.mpr
      intro target targetMember
      have served := (expected target.withoutTtl).mpr (List.mem_map_of_mem targetMember)
      obtain ⟨record, member, equal⟩ := List.mem_map.mp served
      have used : records.any (fun record => sameData record target) = true :=
        List.any_eq_true.mpr ⟨record, member, by simp [sameData, equal]⟩
      simp [used]

/-- How an address is judged by its response. -/
structure Judged (zone : Name) (now : UnixTime) (target : List Record)
    (response : Option (List Answer)) (result : Except String AutoReportActionsResult) :
    Prop where
  unanswered : response = none → ∃ reason, result = .error reason
  answered : ∀ answers, response = some answers →
    ∃ address, result = .ok (compareDnskeyAnswers zone address now answers target 0)

theorem exec_checkDnskeyForAddress (env : Environment) (zone : Name) (target : List Record)
    (now : UnixTime) (call : Nat) (address : IpAddr) :
    ∃ result, exec (checkDnskeyForAddress env zone target now address) call =
        (result.mapError .error, call + 1) ∧
      Judged zone now target (answersAt env call zone .dnskey address) result := by
  unfold checkDnskeyForAddress
  cases asked : answersAt env call zone .dnskey address with
  | none =>
      obtain ⟨reason, run⟩ := exec_lookup_of_no_answer asked
      refine ⟨.error reason, ?_, ?_⟩
      · rw [exec_bind_of_error run]
        rfl
      · exact ⟨fun _ => ⟨reason, rfl⟩, by simp⟩
  | some answers =>
      refine ⟨.ok (compareDnskeyAnswers zone address now answers target 0), ?_, ?_⟩
      · rw [exec_bind_of_ok (exec_lookup_of_answersAt asked)]
        rfl
      · refine ⟨by simp, ?_⟩
        intro others same
        cases same
        exact ⟨address, rfl⟩

/-- The address serves the stored records. -/
def Serves (zone : Name) (stored : List Record) (response : Option (List Answer)) : Prop :=
  ∃ answers, response = some answers ∧ SameRecordData (apexDnskeyRecords zone answers) stored

/-- No record is repeated in the answer. -/
def NotRepeated (zone : Name) (response : Option (List Answer)) : Prop :=
  ∀ answers, response = some answers →
    ((apexDnskeyRecords zone answers).map Record.withoutTtl).Nodup

/-- The records that a response contributes. -/
def recordsOfResponse (zone : Name) (response : Option (List Answer)) : List Record :=
  apexDnskeyRecords zone (response.getD [])

theorem Judged.report_iff {response : Option (List Answer)}
    {result : Except String AutoReportActionsResult}
    (judged : Judged zone now (distinctBy Record.withoutTtl stored) response result)
    (notRepeated : NotRepeated zone response) {ttl : Ttl} :
    result = .ok (.report ttl) ↔
      Serves zone stored response ∧ ttl = largestOf (recordsOfResponse zone response) := by
  cases response with
  | none =>
      obtain ⟨reason, rfl⟩ := judged.unanswered rfl
      constructor
      · intro same
        cases same
      · rintro ⟨⟨answers, same, _⟩, _⟩
        cases same
  | some answers =>
      obtain ⟨address, rfl⟩ := judged.answered answers rfl
      have concludes := compareDnskeyAnswers_concludes zone address now answers
        (distinctBy Record.withoutTtl stored) 0
      have reports := @Concludes.report_iff _ _ _ _ _ concludes ttl
      rw [consume_sameData_iff (notRepeated answers rfl)] at reports
      have serves : Serves zone stored (some answers) ↔
          SameRecordData (apexDnskeyRecords zone answers) stored := by
        constructor
        · rintro ⟨others, same, served⟩
          cases same
          exact served
        · intro served
          exact ⟨answers, rfl, served⟩
      rw [serves]
      simpa [largestOf, recordsOfResponse] using reports

end Address

/-! ## All addresses -/

section Addresses

variable {zone : Name} {now : UnixTime} {stored : List Record}

theorem foldl_max_eq (ttls : List Ttl) (maxTtl : Ttl) :
    ttls.foldl max maxTtl = max maxTtl (ttls.foldl max 0) := by
  have assoc := @List.foldl_assoc Nat max _ ttls maxTtl 0
  rwa [Nat.max_zero] at assoc

theorem largestOf_append (records others : List Record) :
    largestOf (records ++ others) = max (largestOf records) (largestOf others) := by
  unfold largestOf
  rw [List.map_append, List.foldl_append, foldl_max_eq]

/-- Every address has to serve the stored records for all of them to report. -/
theorem allJudged_report_iff {responses : List (Option (List Answer))}
    {results : List (Except String AutoReportActionsResult)}
    (judged : List.Forall₂ (Judged zone now (distinctBy Record.withoutTtl stored))
      responses results)
    (notRepeated : ∀ response ∈ responses, NotRepeated zone response) {maxTtl ttl : Ttl} :
    (∃ ttls : List Ttl, results = ttls.map (fun ttl => .ok (.report ttl)) ∧
        ttl = ttls.foldl max maxTtl) ↔
      (∀ response ∈ responses, Serves zone stored response) ∧
        ttl = max maxTtl (largestOf (responses.flatMap (recordsOfResponse zone))) := by
  induction judged generalizing maxTtl with
  | nil =>
      constructor
      · rintro ⟨ttls, same, rfl⟩
        obtain rfl : ttls = [] := by simpa using same.symm
        simp [largestOf]
      · rintro ⟨_, rfl⟩
        exact ⟨[], rfl, by simp [largestOf]⟩
  | cons first others induction =>
      rename_i response result responses results
      have firstReports := @Judged.report_iff _ _ _ _ _ first
        (notRepeated response List.mem_cons_self)
      have othersReport := @induction
        (fun response member => notRepeated response (List.mem_cons_of_mem _ member))
      rw [List.flatMap_cons, largestOf_append, ← Nat.max_assoc]
      constructor
      · rintro ⟨ttls, same, rfl⟩
        cases ttls with
        | nil => cases same
        | cons head ttls =>
            obtain ⟨rfl, rfl⟩ := List.cons.inj same
            obtain ⟨serves, rfl⟩ := firstReports.mp rfl
            obtain ⟨all, largest⟩ := othersReport.mp ⟨ttls, rfl, rfl⟩
            refine ⟨?_, largest⟩
            intro other member
            rcases List.mem_cons.mp member with rfl | member
            · exact serves
            · exact all other member
      · rintro ⟨all, rfl⟩
        have serves := all response List.mem_cons_self
        have reported := firstReports.mpr ⟨serves, rfl⟩
        obtain ⟨ttls, rfl, largest⟩ := othersReport.mpr
          ⟨fun other member => all other (List.mem_cons_of_mem _ member), rfl⟩
        refine ⟨largestOf (recordsOfResponse zone response) :: ttls, ?_, largest⟩
        rw [reported]
        rfl

end Addresses

/-- The DNSKEY RRset is reported exactly when every address serves it, with the largest TTL
that was seen; otherwise there is a wait that does not end before now. -/
theorem reportDnskeyPropagated_exact (env : Environment) (kss : KeySetState) (now : UnixTime)
    (calls after : Nat) (addresses : List IpAddr) (nonempty : addresses ≠ [])
    (found : exec (addressesForZone env kss.keyset.name) calls = (.ok addresses, after))
    (notRepeated : ∀ response ∈ responses env after kss.keyset.name .dnskey addresses,
      NotRepeated kss.keyset.name response) :
    (∀ ttl, (exec (reportDnskeyPropagated env kss now) calls).1 = .ok (.report ttl) ↔
        (∀ response ∈ responses env after kss.keyset.name .dnskey addresses,
            Serves kss.keyset.name kss.dnskeyRrset response) ∧
          ttl = largestOf ((responses env after kss.keyset.name .dnskey addresses).flatMap
            (recordsOfResponse kss.keyset.name))) ∧
      ((¬ ∃ ttl, (exec (reportDnskeyPropagated env kss now) calls).1 = .ok (.report ttl)) →
        ∃ waitUntil notice,
          (exec (reportDnskeyPropagated env kss now) calls).1 =
              .ok (.wait waitUntil notice) ∧
            now ≤ waitUntil) := by
  have yields := reportDnskeyPropagated_notBefore env kss now
  have captured : exec (capture (addressesForZone env kss.keyset.name)) calls =
      (.ok (.ok addresses), after) := by
    rw [exec_capture, found]
  have asserted : exec (assert (!addresses.isEmpty)
      "assertion failed: !addresses.is_empty()" : Step Unit) after = (.ok (), after) := by
    cases addresses with
    | nil => exact absurd rfl nonempty
    | cons address addresses => rfl
  obtain ⟨results, checked, judged⟩ := exec_checkEachAddress
    (exec_checkDnskeyForAddress env kss.keyset.name
      (distinctBy Record.withoutTtl kss.dnskeyRrset) now) addresses after
  have checks : results ≠ [] := by
    rintro rfl
    have lengths := judged.length_eq
    rw [responses, List.length_mapIdx] at lengths
    exact nonempty (List.eq_nil_of_length_eq_zero lengths)
  have reported := fun ttl =>
    @combineReports_eq_report_iff results 0 ttl (after + addresses.length)
  simp only [allJudged_report_iff judged notRepeated, Nat.zero_max] at reported
  -- What the results combine to is returned, an error as a wait.
  have outcome : ∃ result, (exec (reportDnskeyPropagated env kss now) calls).1 = .ok result ∧
      ∀ ttl, result = .report ttl ↔
        (exec (combineReports (some 0) results) (after + addresses.length)).1 =
          .ok (.report ttl) := by
    unfold reportDnskeyPropagated
    dsimp only
    rw [exec_bind_of_ok captured]
    dsimp only
    rw [exec_bind_of_ok asserted, exec_bind_of_ok checked, combineReports_none checks]
    rcases run : exec (combineReports (some 0) results) (after + addresses.length) with
      ⟨⟨message | message⟩ | result, final⟩
    · have caught : exec (capture (combineReports (some 0) results))
          (after + addresses.length) = (.ok (.error message), final) := by
        rw [exec_capture, run]
      rw [exec_bind_of_ok caught]
      exact ⟨_, rfl, by simp⟩
    · have raised := (combineReports_raises 0 results).error run
      cases raised
    · have caught : exec (capture (combineReports (some 0) results))
          (after + addresses.length) = (.ok (.ok result), final) := by
        rw [exec_capture, run]
      rw [exec_bind_of_ok caught]
      exact ⟨result, rfl, by simp⟩
  obtain ⟨result, returned, reports⟩ := outcome
  have report_iff : ∀ ttl, (exec (reportDnskeyPropagated env kss now) calls).1 =
      .ok (.report ttl) ↔ result = .report ttl := by
    intro ttl
    rw [returned]
    simp
  constructor
  · intro ttl
    rw [report_iff, reports, reported]
  · intro silent
    cases result with
    | report ttl => exact absurd ⟨ttl, returned⟩ silent
    | wait waitUntil notice =>
        have waits := yields.ok (Prod.ext returned rfl)
        exact ⟨waitUntil, notice, returned, waits⟩

/-! ## Two addresses that serve the RRset -/

namespace TwoAddresses

def state : KeySetState :=
  { createState Reference.zone with dnskeyRrset := [.dnskey 3600 Reference.importedKsk] }

/-- Another record of the type comes along, below the zone. -/
def answers (ttl : Ttl) : List Answer :=
  [⟨"sub" :: Reference.zone, 60, .dnskey Reference.importedZsk⟩,
    ⟨Reference.zone, ttl, .dnskey Reference.importedKsk⟩]

def environment : Environment :=
  { Reference.environment 1 0 with
    network := { Reference.offline with
      queryNs := fun _ _ => .ok [["ns", "example", "com"]]
      lookupHost := fun _ _ => .ok ["192.0.2.1", "192.0.2.2"]
      queryAt := fun _ address _ _ =>
        .ok ((answers (if address = "192.0.2.1" then 300 else 900)).map .ok) } }

end TwoAddresses

theorem reportDnskeyPropagated_two_addresses :
    (exec (reportDnskeyPropagated TwoAddresses.environment TwoAddresses.state 0) 0).1 =
      .ok (.report 900) := by
  have found : exec (addressesForZone TwoAddresses.environment
      TwoAddresses.state.keyset.name) 0 = (.ok ["192.0.2.1", "192.0.2.2"], 2) := by
    rfl
  have served : responses TwoAddresses.environment 2 TwoAddresses.state.keyset.name .dnskey
      ["192.0.2.1", "192.0.2.2"] =
        [some (TwoAddresses.answers 300), some (TwoAddresses.answers 900)] := by
    rfl
  have check := reportDnskeyPropagated_exact TwoAddresses.environment TwoAddresses.state 0 0 2
    ["192.0.2.1", "192.0.2.2"] (by simp) found (by
      rw [served]
      rintro response member others rfl
      simp only [List.mem_cons, Option.some.injEq, List.not_mem_nil, or_false] at member
      rcases member with rfl | rfl <;> decide +kernel)
  apply (check.1 900).mpr
  rw [served]
  constructor
  · intro response member
    simp only [List.mem_cons, List.not_mem_nil, or_false] at member
    rcases member with rfl | rfl
    · exact ⟨TwoAddresses.answers 300, rfl, fun data => Iff.rfl⟩
    · exact ⟨TwoAddresses.answers 900, rfl, fun data => Iff.rfl⟩
  · decide +kernel

end Dnst.Keyset
