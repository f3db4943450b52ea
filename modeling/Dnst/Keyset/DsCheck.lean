import Dnst.Keyset.AddressCheck
import Dnst.Keyset.Reference

/-! # What the DS check decides

`checkDsForAddress` uses up the target keys while it walks the DS records of one name
server. It therefore expects one DS record for each key, and it relies on being able to
compute the digest that every record asks for.
-/

namespace Dnst.Keyset

open Effect Consumption

/-! ## DS records and target keys -/

def isDsAt (zone : Name) (answer : Answer) : Bool :=
  match answer.data with
  | .ds _ _ _ _ => answer.owner == zone
  | _ => false

/-- The DS records at the zone name. -/
def dsRecordsAt (zone : Name) (answers : List Answer) : List Answer :=
  answers.filter (isDsAt zone)

/-- The record is the digest of the key, under its own digest type. -/
def isDigestOf (digest : Dnskey → Nat → Except String Nat) (answer : Answer)
    (target : Ttl × Dnskey) : Bool :=
  match answer.data with
  | .ds _ algorithm digestType value =>
      algorithm == target.2.algorithm &&
        match digest target.2 digestType with
        | .ok expected => value == expected
        | .error _ => false
  | _ => false

def digestTypeSupported (supported : Nat → Bool) (answer : Answer) : Bool :=
  match answer.data with
  | .ds _ _ digestType _ => supported digestType
  | _ => true

/-- What is known of `Dnskey::digest`: the digest type alone decides whether a digest can
be computed, and the target keys have different digests. -/
structure DigestLaws (digest : Dnskey → Nat → Except String Nat) (supported : Nat → Bool)
    (targets : List (Ttl × Dnskey)) : Prop where
  supports : ∀ key digestType, (digest key digestType).isOk = supported digestType
  separates : ∀ one ∈ targets, ∀ other ∈ targets, ∀ digestType value,
    digest one.2 digestType = .ok value → digest other.2 digestType = .ok value →
      one.2 = other.2

/-- Every DS record at the zone name belongs to a target key and every target key has a
DS record. -/
structure DsComplete (digest : Dnskey → Nat → Except String Nat) (zone : Name)
    (answers : List Answer) (targets : List (Ttl × Dnskey)) : Prop where
  expected : ∀ answer ∈ dsRecordsAt zone answers,
    ∃ target ∈ targets, isDigestOf digest answer target = true
  present : ∀ target ∈ targets,
    ∃ answer ∈ dsRecordsAt zone answers, isDigestOf digest answer target = true

/-- The target keys are used up by one DS record each. -/
def OneDigestPerKey (digest : Dnskey → Nat → Except String Nat) (zone : Name)
    (answers : List Answer) (targets : List (Ttl × Dnskey)) : Prop :=
  (dsRecordsAt zone answers).Pairwise fun one other =>
    ∀ target ∈ targets, isDigestOf digest one target = true →
      isDigestOf digest other target = false

/-- Behind records that belong to different target keys comes one whose digest type is not
supported, and a target key is left to compare it with. -/
def MeetsUnsupported (digest : Dnskey → Nat → Except String Nat) (supported : Nat → Bool)
    (zone : Name) (answers : List Answer) (targets : List (Ttl × Dnskey)) : Prop :=
  ∃ before record after, dsRecordsAt zone answers = before ++ record :: after ∧
    FitApart (isDigestOf digest) before targets ∧
    unused (isDigestOf digest) before targets ≠ [] ∧
    digestTypeSupported supported record = false

/-- The largest TTL of these answers. -/
def largestTtl (maxTtl : Ttl) (answers : List Answer) : Ttl :=
  answers.foldl (fun largest answer => max largest answer.ttl) maxTtl

section Walk

variable {env : Environment} {supported : Nat → Bool} {zone : Name} {address : IpAddr}
  {now : UnixTime} {answer : Answer} {answers : List Answer} {targets : List (Ttl × Dnskey)}

theorem isDigestOf_defined (laws : DigestLaws env.digest supported targets)
    (target : Ttl × Dnskey) (matched : isDigestOf env.digest answer target = true) :
    digestTypeSupported supported answer = true := by
  unfold isDigestOf at matched
  unfold digestTypeSupported
  split at matched
  · rename_i keyTag algorithm digestType value same
    rw [← laws.supports target.2 digestType]
    cases computed : env.digest target.2 digestType with
    | ok expected => rfl
    | error reason => simp [computed] at matched
  · cases matched

theorem findDsTarget_of_supported (laws : DigestLaws env.digest supported targets)
    {keyTag : Nat} {algorithm : SecurityAlgorithm} {digestType value : Nat}
    (data : answer.data = .ds keyTag algorithm digestType value)
    (computes : supported digestType = true) (left : List (Ttl × Dnskey)) (calls : Nat) :
    exec (findDsTarget env algorithm digestType value left) calls =
      (.ok (left.find? (isDigestOf env.digest answer)), calls) := by
  induction left with
  | nil => rfl
  | cons target left induction =>
      have law := laws.supports target.2 digestType
      rw [computes] at law
      cases computed : env.digest target.2 digestType with
      | error reason =>
          rw [computed] at law
          cases law
      | ok expected =>
          have digested : isDigestOf env.digest answer target =
              decide (algorithm = target.2.algorithm ∧ value = expected) := by
            simp only [isDigestOf, data, computed]
            rw [Bool.eq_iff_iff]
            simp
          have returned : exec (expect "should not fail" (.ok expected) : Step Nat) calls =
              (.ok expected, calls) := rfl
          unfold findDsTarget
          rw [computed, exec_bind_of_ok returned, List.find?_cons, digested]
          by_cases fits : algorithm = target.2.algorithm ∧ value = expected
          · rw [if_pos fits]
            simp [fits]
          · rw [if_neg fits, induction]
            simp [fits]

theorem findDsTarget_of_unsupported (laws : DigestLaws env.digest supported targets)
    (algorithm : SecurityAlgorithm) {digestType : Nat} (value : Nat)
    (fails : supported digestType = false) (target : Ttl × Dnskey)
    (left : List (Ttl × Dnskey)) (calls : Nat) :
    ∃ message, exec (findDsTarget env algorithm digestType value (target :: left)) calls =
      (.error (.panic message), calls) := by
  have law := laws.supports target.2 digestType
  rw [fails] at law
  cases computed : env.digest target.2 digestType with
  | ok expected =>
      rw [computed] at law
      cases law
  | error reason =>
      refine ⟨expectMessage "should not fail" reason, ?_⟩
      unfold findDsTarget
      rw [computed]
      exact exec_bind_of_error rfl

theorem compareDsAnswers_skip (other : isDsAt zone answer = false)
    (left : List (Ttl × Dnskey)) (maxTtl : Ttl) :
    compareDsAnswers env zone address now (answer :: answers) left maxTtl =
      compareDsAnswers env zone address now answers left maxTtl := by
  rw [compareDsAnswers]
  split
  · rename_i keyTag algorithm digestType value data
    have elsewhere : answer.owner ≠ zone := by
      simpa [isDsAt, data] using other
    rw [if_pos elsewhere]
  · rfl

theorem compareDsAnswers_step (here : isDsAt zone answer = true) :
    ∃ keyTag algorithm digestType value, answer.data = .ds keyTag algorithm digestType value ∧
      ∀ (left : List (Ttl × Dnskey)) (maxTtl : Ttl),
        compareDsAnswers env zone address now (answer :: answers) left maxTtl = do
          let found ← findDsTarget env algorithm digestType value left
          match found with
          | some target =>
              compareDsAnswers env zone address now answers (left.erase target)
                (max maxTtl answer.ttl)
          | none =>
              return .wait (now + fromSecs answer.ttl)
                s!"Check DS RRset: unexpected DS record found on server {address}" := by
  unfold isDsAt at here
  split at here
  · rename_i keyTag algorithm digestType value data
    refine ⟨keyTag, algorithm, digestType, value, data, ?_⟩
    intro left maxTtl
    have owned : answer.owner = zone := by simpa using here
    rw [compareDsAnswers, data]
    exact if_neg (not_not_intro owned)
  · cases here

/-- The walk over the answers is a walk over the DS records of the zone. -/
theorem compareDsAnswers_concludes (zone : Name) (address : IpAddr) (now : UnixTime)
    (answers : List Answer) (laws : DigestLaws env.digest supported targets)
    (left : List (Ttl × Dnskey)) (maxTtl : Ttl) (calls : Nat) :
    Concludes (largestTtl maxTtl (dsRecordsAt zone answers))
      (consume (digestTypeSupported supported) (isDigestOf env.digest)
        (dsRecordsAt zone answers) left)
      (exec (compareDsAnswers env zone address now answers left maxTtl) calls).1 := by
  induction answers generalizing left maxTtl with
  | nil =>
      cases left with
      | nil => exact .report
      | cons target left => exact .missing target left _ _
  | cons answer answers induction =>
      unfold dsRecordsAt at induction ⊢
      rw [List.filter_cons]
      cases here : isDsAt zone answer with
      | false =>
          rw [compareDsAnswers_skip here, if_neg (by simp)]
          exact induction left maxTtl
      | true =>
          obtain ⟨keyTag, algorithm, digestType, value, data, step⟩ :=
            compareDsAnswers_step here
          have supports : digestTypeSupported supported answer = supported digestType := by
            simp [digestTypeSupported, data]
          rw [step, if_pos rfl, consume, supports]
          cases computes : supported digestType with
          | true =>
              rw [exec_bind_of_ok (findDsTarget_of_supported laws data computes left calls)]
              rw [if_neg (by simp)]
              cases left.find? (isDigestOf env.digest answer) with
              | some target => exact induction (left.erase target) (max maxTtl answer.ttl)
              | none => exact .unexpected answer _ _
          | false =>
              cases left with
              | nil => exact .unexpected answer _ _
              | cons target left =>
                  obtain ⟨message, fails⟩ := findDsTarget_of_unsupported laws algorithm value
                    computes target left calls
                  rw [exec_bind_of_error fails]
                  exact .stuck answer message

theorem DigestLaws.unambiguous (laws : DigestLaws env.digest supported targets)
    (nodup : (targets.map Prod.snd).Nodup) :
    Unambiguous (isDigestOf env.digest) targets := by
  intro answer one oneMember other otherMember oneFits otherFits
  apply List.inj_on_of_nodup_map nodup oneMember otherMember
  unfold isDigestOf at oneFits otherFits
  split at oneFits
  · rename_i keyTag algorithm digestType value data
    rw [data] at otherFits
    cases oneDigest : env.digest one.2 digestType with
    | error reason => simp [oneDigest] at oneFits
    | ok oneValue =>
        cases otherDigest : env.digest other.2 digestType with
        | error reason => simp [otherDigest] at otherFits
        | ok otherValue =>
            simp only [oneDigest, Bool.and_eq_true, beq_iff_eq] at oneFits
            simp only [otherDigest, Bool.and_eq_true, beq_iff_eq] at otherFits
            rw [← oneFits.2] at oneDigest
            rw [← otherFits.2] at otherDigest
            exact laws.separates one oneMember other otherMember _ _ oneDigest otherDigest
  · cases oneFits

theorem dsComplete_iff : DsComplete env.digest zone answers targets ↔
    (∀ answer ∈ dsRecordsAt zone answers,
        ∃ target ∈ targets, isDigestOf env.digest answer target = true) ∧
      unused (isDigestOf env.digest) (dsRecordsAt zone answers) targets = [] := by
  have used : unused (isDigestOf env.digest) (dsRecordsAt zone answers) targets = [] ↔
      ∀ target ∈ targets,
        ∃ answer ∈ dsRecordsAt zone answers, isDigestOf env.digest answer target = true := by
    unfold unused
    simp [List.filter_eq_nil_iff]
  rw [used]
  constructor
  · rintro ⟨expected, present⟩
    exact ⟨expected, present⟩
  · rintro ⟨expected, present⟩
    exact ⟨expected, present⟩

end Walk

/-- The check is exact unless it meets a digest type it does not know, or is given more
than one digest for a key of a complete set. -/
theorem checkDsForAddress_exact_iff (env : Environment) (supported : Nat → Bool)
    (kss : KeySetState) (zone : Name) (address : IpAddr) (now : UnixTime) (calls : Nat)
    (answers : List Answer)
    (served : env.network.queryAt calls address zone .ds = .ok (answers.map .ok))
    (laws : DigestLaws env.digest supported (targetDnskeys kss)) :
    (panics (exec (checkDsForAddress env zone (targetDnskeys kss) now address) calls).1 =
          false ∧
        ((∃ ttl, (exec (checkDsForAddress env zone (targetDnskeys kss) now address) calls).1 =
            .ok (.report ttl)) ↔
          DsComplete env.digest zone answers (targetDnskeys kss))) ↔
      ¬ MeetsUnsupported env.digest supported zone answers (targetDnskeys kss) ∧
        (DsComplete env.digest zone answers (targetDnskeys kss) →
          OneDigestPerKey env.digest zone answers (targetDnskeys kss)) := by
  have keysNodup : ((targetDnskeys kss).map Prod.snd).Nodup := distinctBy_nodup
  have nodup : (targetDnskeys kss).Nodup := List.Nodup.of_map Prod.snd keysNodup
  have unambiguous := laws.unambiguous keysNodup
  have defines : ∀ (answer : Answer) (target : Ttl × Dnskey),
      isDigestOf env.digest answer target = true →
        digestTypeSupported supported answer = true :=
    fun _ => isDigestOf_defined laws
  unfold checkDsForAddress
  have answered : answersAt env calls zone .ds address = some answers := by
    unfold answersAt
    rw [served]
    exact allWellFormed_map_ok answers
  rw [exec_bind_of_ok (exec_lookup_of_answersAt answered)]
  have concludes := compareDsAnswers_concludes zone address now answers laws
    (targetDnskeys kss) 0 (calls + 1)
  generalize exec (compareDsAnswers env zone address now answers (targetDnskeys kss) 0)
    (calls + 1) = outcome at concludes ⊢
  have reports : (∃ ttl, outcome.1 = .ok (.report ttl)) ↔
      DsComplete env.digest zone answers (targetDnskeys kss) ∧
        OneDigestPerKey env.digest zone answers (targetDnskeys kss) := by
    simp only [concludes.report_iff]
    rw [consume_eq_left_iff defines nodup unambiguous, dsComplete_iff]
    constructor
    · rintro ⟨ttl, ⟨⟨each, apart⟩, used⟩, _⟩
      exact ⟨⟨each, used.symm⟩, apart⟩
    · rintro ⟨⟨each, used⟩, apart⟩
      exact ⟨_, ⟨⟨each, apart⟩, used.symm⟩, rfl⟩
  have stops : panics outcome.1 = true ↔
      MeetsUnsupported env.digest supported zone answers (targetDnskeys kss) := by
    rw [concludes.panics_iff, consume_eq_undefined_iff defines nodup unambiguous]
    rfl
  rw [reports, ← stops, Bool.not_eq_true]
  apply and_congr_right
  intro _
  constructor
  · intro exact_ complete
    exact (exact_.mpr complete).2
  · intro single
    constructor
    · intro both
      exact both.1
    · intro complete
      exact ⟨complete, single complete⟩

/-! ## A parent that publishes two digests -/

namespace TwoDigests

def state : KeySetState :=
  { createState Reference.zone with cdsRrset := [.cdnskey 3600 Reference.importedKsk] }

/-- SHA-1, SHA-256 and SHA-384. -/
def supportedDigest (digestType : Nat) : Bool :=
  digestType == 1 || digestType == 2 || digestType == 4

def digest (key : Dnskey) (digestType : Nat) : Except String Nat :=
  if supportedDigest digestType then .ok (100 * key.publicKey + digestType)
  else .error "unsupported digest type"

def dsRecord (digestType : Nat) : Answer :=
  ⟨Reference.zone, 3600, .ds 1 13 digestType (100 + digestType)⟩

/-- The parent serves the DS records with these digest types. -/
def environment (digestTypes : List Nat) : Environment :=
  { Reference.environment 1 0 with
    digest := digest
    network := { Reference.offline with
      queryAt := fun _ _ _ _ => .ok (digestTypes.map fun digestType =>
        .ok (dsRecord digestType)) } }

def check (digestTypes : List Nat) : Except Fault AutoReportActionsResult :=
  (exec (checkDsForAddress (environment digestTypes) Reference.zone (targetDnskeys state) 0
    "192.0.2.1") 0).1

theorem digestLaws (digestTypes : List Nat) :
    DigestLaws (environment digestTypes).digest supportedDigest (targetDnskeys state) where
  supports := by
    intro key digestType
    change (digest key digestType).isOk = _
    unfold digest
    cases supported : supportedDigest digestType <;> rfl
  separates := by
    intro one oneMember other otherMember _ _ _ _
    have only : targetDnskeys state = [(3600, Reference.importedKsk)] := rfl
    rw [only, List.mem_singleton] at oneMember otherMember
    rw [oneMember, otherMember]

end TwoDigests

/-- One digest for the target key counts as propagated. -/
theorem checkDsForAddress_exact_single :
    panics (TwoDigests.check [2]) = false ∧
      ((∃ ttl, TwoDigests.check [2] = .ok (.report ttl)) ↔
        DsComplete TwoDigests.digest Reference.zone [TwoDigests.dsRecord 2]
          (targetDnskeys TwoDigests.state)) := by
  apply (checkDsForAddress_exact_iff (TwoDigests.environment [2]) TwoDigests.supportedDigest
    TwoDigests.state Reference.zone "192.0.2.1" 0 0 [TwoDigests.dsRecord 2] rfl
    (TwoDigests.digestLaws [2])).mpr
  constructor
  · rintro ⟨before, record, after, records, _, _, unsupported⟩
    have member : record ∈ dsRecordsAt Reference.zone [TwoDigests.dsRecord 2] := by
      rw [records]
      simp
    have only : dsRecordsAt Reference.zone [TwoDigests.dsRecord 2] =
        [TwoDigests.dsRecord 2] := rfl
    rw [only, List.mem_singleton] at member
    rw [member] at unsupported
    cases unsupported
  · intro _
    exact List.pairwise_singleton _ _

/-- With two digests the DS RRset is complete, but the check waits. -/
theorem checkDsForAddress_two_digests :
    ¬ (panics (TwoDigests.check [2, 4]) = false ∧
      ((∃ ttl, TwoDigests.check [2, 4] = .ok (.report ttl)) ↔
        DsComplete TwoDigests.digest Reference.zone
          [TwoDigests.dsRecord 2, TwoDigests.dsRecord 4]
          (targetDnskeys TwoDigests.state))) := by
  rintro ⟨_, reports⟩
  have complete : DsComplete TwoDigests.digest Reference.zone
      [TwoDigests.dsRecord 2, TwoDigests.dsRecord 4] (targetDnskeys TwoDigests.state) :=
    ⟨by decide +kernel, by decide +kernel⟩
  obtain ⟨ttl, reported⟩ := reports.mpr complete
  have waits : (TwoDigests.check [2, 4]).toOption =
      some (.wait (fromSecs 3600)
        "Check DS RRset: unexpected DS record found on server 192.0.2.1") := by
    decide +kernel
  rw [reported] at waits
  cases waits

end Dnst.Keyset
