import Dnst.Keyset.AddressCheck
import Dnst.Keyset.SignatureCheck
import Mathlib.Data.List.Induction

/-! # The zone that a transfer delivers

An AXFR response is a stream of records, cut into messages in any way. The records from
the first SOA record up to the next one are the zone; how they come in, and in which
order, makes no difference to what is collected.
-/

namespace Dnst.Keyset

open Effect

/-! ## Contents of a zone -/

/-- The name and type of the RRset that a record belongs to. -/
def Answer.rrset? (answer : Answer) : Option (Name × Rtype) :=
  match answer.data with
  | .rrsig _ => none
  | data => some (answer.owner, data.rtype)

/-- The RRset that a signature covers and who signed it. -/
def Answer.tag? (answer : Answer) : Option ((Name × Rtype) × SecurityAlgorithm × Nat) :=
  match answer.data with
  | .rrsig signature =>
      some ((answer.owner, signature.typeCovered),
        (signature.signer.algorithm, signature.signer.keyTag))
  | _ => none

def rrsetsOf (records : List Answer) : RRsets := fun name rtype =>
  ∃ record ∈ records, record.rrset? = some (name, rtype)

def tagsOf (records : List Answer) : Tags := fun name rtype tag =>
  ∃ record ∈ records, record.tag? = some ((name, rtype), tag)

/-! ## Collecting records -/

section Maps

variable {name : Name} {rtype : Rtype} {treemap : Treemap} {sigmap : Sigmap}

theorem Treemap.has_add_iff {other : Name} {otherType : Rtype} :
    (Treemap.add name rtype treemap).Has other otherType ↔
      (other = name ∧ otherType = rtype) ∨ treemap.Has other otherType := by
  induction treemap with
  | nil => simp [Treemap.add, Treemap.Has, eq_comm]
  | cons entry treemap induction =>
      obtain ⟨head, rtypes⟩ := entry
      unfold Treemap.Has at induction ⊢
      unfold Treemap.add
      by_cases same : name = head
      · rw [if_pos same]
        subst same
        by_cases known : rtype ∈ rtypes <;> simp [known] <;> grind
      · rw [if_neg same]
        split
        · simp [eq_comm]
        · simp only [List.mem_cons, exists_eq_or_imp, induction]
          grind

theorem Treemap.mem_names_add {other : Name} :
    other ∈ (Treemap.add name rtype treemap).map Prod.fst ↔
      other = name ∨ other ∈ treemap.map Prod.fst := by
  induction treemap with
  | nil => simp [Treemap.add]
  | cons entry treemap induction =>
      obtain ⟨head, rtypes⟩ := entry
      unfold Treemap.add
      by_cases same : name = head
      · rw [if_pos same]
        simp [same]
      · rw [if_neg same]
        split
        · simp
        · simp only [List.map_cons, List.mem_cons, induction]
          grind

theorem canonicalPath_id (name : Name) : canonicalPath id name = name.reverse :=
  List.map_id _

theorem Treemap.add_ordered (ordered : CanonicalOrder id treemap) :
    CanonicalOrder id (Treemap.add name rtype treemap) := by
  induction treemap with
  | nil => exact List.pairwise_singleton _ _
  | cons entry treemap induction =>
      obtain ⟨head, rtypes⟩ := entry
      obtain ⟨behind, rest⟩ := List.pairwise_cons.mp ordered
      unfold Treemap.add
      by_cases same : name = head
      · rw [if_pos same]
        exact ordered
      · rw [if_neg same]
        split
        · rename_i isBefore
          have first : canonicalPath id name < canonicalPath id head := by
            rw [canonicalPath_id, canonicalPath_id]
            simpa [Name.before] using isBefore
          apply List.pairwise_cons.mpr
          refine ⟨?_, ordered⟩
          intro other member
          rcases List.mem_cons.mp member with rfl | later
          · exact first
          · exact lt_trans first (behind other later)
        · rename_i notBefore
          have after : canonicalPath id head < canonicalPath id name := by
            rcases lt_trichotomy (canonicalPath id name) (canonicalPath id head) with
              before | equal | after
            · rw [canonicalPath_id, canonicalPath_id] at before
              exact absurd (decide_eq_true before) notBefore
            · exact absurd (canonicalPath_injective Function.injective_id equal) same
            · exact after
          apply List.pairwise_cons.mpr
          refine ⟨?_, induction rest⟩
          intro other member
          rcases Treemap.mem_names_add.mp member with rfl | later
          · exact after
          · exact behind other later

theorem Sigmap.has_add_iff {key : Name × Rtype} {tag : SecurityAlgorithm × Nat}
    {other : SecurityAlgorithm × Nat} :
    (Sigmap.add key tag sigmap).Has name rtype other ↔
      ((name, rtype) = key ∧ other = tag) ∨ sigmap.Has name rtype other := by
  unfold Sigmap.Has
  induction sigmap with
  | nil =>
      unfold Sigmap.add
      by_cases same : (name, rtype) = key
      · subst same
        simp
      · have differs : ((name, rtype) == key) = false := by simpa using same
        rw [List.lookup_cons, differs]
        simp [same]
  | cons entry sigmap induction =>
      obtain ⟨head, tags⟩ := entry
      unfold Sigmap.add
      by_cases isHead : key = head
      · rw [if_pos isHead, isHead]
        by_cases same : (name, rtype) = head
        · subst same
          rw [List.lookup_cons, List.lookup_cons, beq_self_eq_true]
          by_cases known : tag ∈ tags <;> simp [known] <;> grind
        · have differs : ((name, rtype) == head) = false := by simpa using same
          rw [List.lookup_cons, List.lookup_cons, differs]
          simp [same]
      · rw [if_neg isHead]
        by_cases same : (name, rtype) = head
        · subst same
          rw [List.lookup_cons, List.lookup_cons, beq_self_eq_true]
          simp [Ne.symm isHead]
        · have differs : ((name, rtype) == head) = false := by simpa using same
          rw [List.lookup_cons, List.lookup_cons, differs]
          exact induction

end Maps

/-- Keep one record of a transfer. -/
def Transfer.keep (transfer : Transfer) (answer : Answer) : Transfer :=
  match answer.data with
  | .rrsig signature =>
      { transfer with
        sigmap := Sigmap.add (answer.owner, signature.typeCovered)
          (signature.signer.algorithm, signature.signer.keyTag) transfer.sigmap
        maxTtl := max transfer.maxTtl answer.ttl }
  | data =>
      { transfer with treemap := Treemap.add answer.owner data.rtype transfer.treemap }

/-- What a transfer has collected after these records, the opening SOA record included. -/
def collected (serial : Serial) (records : List Answer) : Transfer :=
  records.foldl Transfer.keep ⟨serial, true, [], [], 0⟩

/-- The collected maps and TTL belong to these records. -/
structure Collects (records : List Answer) (transfer : Transfer) : Prop where
  treemap : transfer.treemap.Has = rrsetsOf records
  sigmap : transfer.sigmap.Has = tagsOf records
  ordered : CanonicalOrder id transfer.treemap
  maxTtl : ∀ record ∈ records, record.tag?.isSome → record.ttl ≤ transfer.maxTtl

theorem Collects.keep {records : List Answer} {transfer : Transfer}
    (collects : Collects records transfer) (answer : Answer) :
    Collects (records ++ [answer]) (transfer.keep answer) := by
  have rrsets : rrsetsOf (records ++ [answer]) = fun name rtype =>
      rrsetsOf records name rtype ∨ answer.rrset? = some (name, rtype) := by
    funext name rtype
    simp [rrsetsOf, or_and_right, exists_or]
  have tags : tagsOf (records ++ [answer]) = fun name rtype tag =>
      tagsOf records name rtype tag ∨ answer.tag? = some ((name, rtype), tag) := by
    funext name rtype tag
    simp [tagsOf, or_and_right, exists_or]
  unfold Transfer.keep
  split
  · rename_i signature data
    have noRrset : answer.rrset? = none := by simp [Answer.rrset?, data]
    have tagged : answer.tag? = some ((answer.owner, signature.typeCovered),
        (signature.signer.algorithm, signature.signer.keyTag)) := by
      simp [Answer.tag?, data]
    constructor
    · rw [rrsets, noRrset]
      simp [collects.treemap]
    · rw [tags, tagged, ← collects.sigmap]
      funext name rtype tag
      apply propext
      simp only [Sigmap.has_add_iff, Option.some.injEq, Prod.mk.injEq]
      grind
    · exact collects.ordered
    · intro record member isTag
      rcases List.mem_append.mp member with earlier | isAnswer
      · exact le_max_of_le_left (collects.maxTtl record earlier isTag)
      · obtain rfl := List.mem_singleton.mp isAnswer
        exact le_max_right _ _
  · rename_i data notRrsig
    have noTag : answer.tag? = none := by
      unfold Answer.tag?
      split
      · rename_i signature same
        exact absurd same (notRrsig signature)
      · rfl
    have rrset : answer.rrset? = some (answer.owner, answer.data.rtype) := by
      unfold Answer.rrset?
      split
      · rename_i signature same
        exact absurd same (notRrsig signature)
      · rfl
    constructor
    · rw [rrsets, rrset, ← collects.treemap]
      funext name rtype
      apply propext
      simp only [Treemap.has_add_iff, Option.some.injEq, Prod.mk.injEq]
      grind
    · rw [tags, noTag]
      simp [collects.sigmap]
    · exact Treemap.add_ordered collects.ordered
    · intro record member isTag
      rcases List.mem_append.mp member with earlier | isAnswer
      · exact collects.maxTtl record earlier isTag
      · obtain rfl := List.mem_singleton.mp isAnswer
        rw [noTag] at isTag
        cases isTag

theorem collects_collected (serial : Serial) (records : List Answer) :
    Collects records (collected serial records) := by
  unfold collected
  induction records using List.reverseRecOn with
  | nil =>
      constructor
      · funext name rtype
        simp [Treemap.Has, rrsetsOf]
      · funext name rtype tag
        simp [Sigmap.Has, tagsOf]
      · exact List.Pairwise.nil
      · simp
  | append_singleton records answer induction =>
      rw [List.foldl_append]
      exact induction.keep answer

/-! ## Streams -/

/-- A complete transfer. -/
structure ZoneTransfer where
  serial : Serial
  /-- From the opening SOA record up to the closing one. -/
  records : List Answer
  /-- TTL of the closing SOA record. -/
  soaTtl : Ttl

inductive Received where
  | complete (transfer : ZoneTransfer)
  /-- An error on the way, another server is tried. -/
  | brokenOff
  /-- A stream that is not a transfer. -/
  | failed

/-- The records of a stream, and `none` where it breaks off. -/
def streamOf : List AxfrReply → List (Option (Except String Answer))
  | [] => []
  | .failed _ :: replies => none :: streamOf replies
  | .rcode _ :: replies => none :: streamOf replies
  | .answer records :: replies => records.map some ++ streamOf replies

/-- What a stream brings behind the opening SOA record and these records. -/
def receiveRest (serial : Serial) (records : List Answer) :
    List (Option (Except String Answer)) → Received
  | [] => .failed
  | none :: _ => .brokenOff
  | some (.error _) :: _ => .failed
  | some (.ok answer) :: stream =>
      match answer.data with
      | .soa _ => .complete ⟨serial, records, answer.ttl⟩
      | _ => receiveRest serial (records ++ [answer]) stream

def receive : List (Option (Except String Answer)) → Received
  | [] => .failed
  | none :: _ => .brokenOff
  | some (.error _) :: _ => .failed
  | some (.ok answer) :: stream =>
      match answer.data with
      | .soa serial => receiveRest serial [answer] stream
      | _ => .failed

section Streams

variable {env : Environment} {kss : KeySetState} {now : UnixTime} {calls : Nat}

/-- What the check does with a stream. -/
def Checked (env : Environment) (kss : KeySetState) (now : UnixTime) (calls : Nat)
    (outcome : Except Fault (Option AutoReportRrsigResult) × Nat) : Received → Prop
  | .complete transfer =>
      outcome = exec (do
        let verdict ← zoneVerdict env kss now (collected transfer.serial transfer.records)
          transfer.soaTtl
        return some verdict) calls
  | .brokenOff => outcome = (.ok none, calls)
  | .failed => ∃ reason, outcome = (.error (.error reason), calls)

theorem collected_firstSoa (serial : Serial) (records : List Answer) :
    (collected serial records).firstSoa = true ∧
      (collected serial records).serial = serial := by
  unfold collected
  induction records using List.reverseRecOn with
  | nil => exact ⟨rfl, rfl⟩
  | append_singleton records answer induction =>
      rw [List.foldl_append, List.foldl_cons, List.foldl_nil]
      unfold Transfer.keep
      split <;> exact induction

theorem transferAnswers_soa {transfer : Transfer} (started : transfer.firstSoa = true)
    {answer : Answer} {serial : Serial} (data : answer.data = .soa serial)
    (answers : List (Except String Answer)) :
    transferAnswers env kss now (.ok answer :: answers) transfer = do
      let verdict ← zoneVerdict env kss now transfer answer.ttl
      return (some verdict, transfer) := by
  rw [transferAnswers.eq_def]
  simp only [started, data]

theorem transferAnswers_keep {transfer : Transfer} (started : transfer.firstSoa = true)
    {answer : Answer} (data : ∀ serial, answer.data ≠ .soa serial)
    (answers : List (Except String Answer)) :
    transferAnswers env kss now (.ok answer :: answers) transfer =
      transferAnswers env kss now answers (transfer.keep answer) := by
  obtain ⟨serial, firstSoa, treemap, sigmap, maxTtl⟩ := transfer
  obtain ⟨owner, ttl, content⟩ := answer
  cases started
  rw [transferAnswers.eq_def]
  cases content with
  | soa serial => exact absurd rfl (data serial)
  | dnskey key => rfl
  | rrsig signature => rfl
  | ds keyTag algorithm digestType digest => rfl
  | other rtype => rfl

theorem checked_rest (serial : Serial) (replies : List AxfrReply) (records : List Answer) :
    Checked env kss now calls
      (exec (transferReplies env kss now replies (collected serial records)) calls)
      (receiveRest serial records (streamOf replies)) := by
  induction replies generalizing records with
  | nil => exact ⟨_, rfl⟩
  | cons reply replies induction =>
      cases reply with
      | failed message => rfl
      | rcode code => rfl
      | answer answers =>
          induction answers generalizing records with
          | nil => exact induction records
          | cons answer answers inner =>
              cases answer with
              | error reason => exact ⟨reason, rfl⟩
              | ok answer =>
                  have started := (collected_firstSoa serial records).1
                  by_cases closing : ∃ last, answer.data = .soa last
                  · obtain ⟨last, data⟩ := closing
                    have received : receiveRest serial records
                        (streamOf (.answer (.ok answer :: answers) :: replies)) =
                          .complete ⟨serial, records, answer.ttl⟩ := by
                      simp only [streamOf, List.map_cons, List.cons_append, receiveRest, data]
                    rw [received]
                    unfold transferReplies
                    rw [transferAnswers_soa started data]
                    unfold Checked
                    simp only [bind_assoc, pure_bind]
                  · have data : ∀ last, answer.data ≠ .soa last := by
                      intro last same
                      exact closing ⟨last, same⟩
                    have received : receiveRest serial records
                        (streamOf (.answer (.ok answer :: answers) :: replies)) =
                          receiveRest serial (records ++ [answer])
                            (streamOf (.answer answers :: replies)) := by
                      simp only [streamOf, List.map_cons, List.cons_append]
                      rw [receiveRest.eq_def]
                      cases same : answer.data with
                      | soa last => exact absurd same (data last)
                      | dnskey key => simp only [same]
                      | rrsig signature => simp only [same]
                      | ds keyTag algorithm digestType digest => simp only [same]
                      | other rtype => simp only [same]
                    have next : (collected serial records).keep answer =
                        collected serial (records ++ [answer]) := by
                      unfold collected
                      rw [List.foldl_append]
                      rfl
                    rw [received]
                    have later := inner (records ++ [answer])
                    unfold transferReplies at later ⊢
                    rwa [transferAnswers_keep started data, next]

/-- How the records are cut into messages makes no difference. -/
theorem checked_receive (serial : Serial) (replies : List AxfrReply) :
    Checked env kss now calls
      (exec (transferReplies env kss now replies ⟨serial, false, [], [], 0⟩) calls)
      (receive (streamOf replies)) := by
  induction replies with
  | nil => exact ⟨_, rfl⟩
  | cons reply replies induction =>
      cases reply with
      | failed message => rfl
      | rcode code => rfl
      | answer answers =>
          cases answers with
          | nil => exact induction
          | cons answer answers =>
              cases answer with
              | error reason => exact ⟨reason, rfl⟩
              | ok answer =>
                  obtain ⟨owner, ttl, content⟩ := answer
                  cases content with
                  | soa opening =>
                      exact checked_rest opening (.answer answers :: replies)
                        [⟨owner, ttl, .soa opening⟩]
                  | dnskey key => exact ⟨_, rfl⟩
                  | rrsig signature => exact ⟨_, rfl⟩
                  | ds keyTag algorithm digestType digest => exact ⟨_, rfl⟩
                  | other rtype => exact ⟨_, rfl⟩

end Streams

/-! ## Servers -/

/-- The first transfer that does not break off, from these servers in turn. -/
def transferFrom (env : Environment) (tsigStore : TsigKeyStore) :
    Nat → List NameserverConnectionDetails → Option (ZoneTransfer × Nat)
  | _, [] => none
  | call, nameserver :: nameservers =>
      if (env.network.connect call nameserver).isOk &&
          nameserver.tsigKeyName.all tsigStore.names.contains then
        match receive (streamOf (env.network.axfr call nameserver)) with
        | .complete transfer => some (transfer, call + 1)
        | .brokenOff => transferFrom env tsigStore (call + 1) nameservers
        | .failed => none
      else transferFrom env tsigStore (call + 1) nameservers

/-- The zone that is transferred, and the number of the call after that. -/
def transferredZone (env : Environment) (zone : Name)
    (nameservers : List NameserverConnectionDetails) (tsigStore : TsigKeyStore)
    (calls : Nat) : Option (ZoneTransfer × Nat) :=
  match env.network.querySoa calls zone with
  | .error _ => none
  | .ok (mname, _) =>
      if nameservers.isEmpty then
        match exec (addressesForName env mname) (calls + 1) with
        | (.ok addresses, after) =>
            transferFrom env tsigStore after (addresses.map fun address => ⟨address, 53, none⟩)
        | (.error _, _) => none
      else transferFrom env tsigStore (calls + 1) nameservers

/-- The check goes on with the transferred zone; without one it fails. -/
def GoesOn (env : Environment) (kss : KeySetState) (now : UnixTime)
    (outcome : Except Fault AutoReportRrsigResult × Nat) :
    Option (ZoneTransfer × Nat) → Prop
  | some (transfer, after) =>
      outcome = exec (zoneVerdict env kss now
        (collected transfer.serial transfer.records) transfer.soaTtl) after
  | none => ∃ reason, outcome.1 = .error (.error reason)

section Servers

variable {env : Environment} {kss : KeySetState} {now : UnixTime}
  {tsigStore : TsigKeyStore}

theorem goesOn_checkZoneAt (serial : Serial)
    (nameservers : List NameserverConnectionDetails) (calls : Nat) :
    GoesOn env kss now
      (exec (checkZoneAt env kss now tsigStore serial nameservers) calls)
      (transferFrom env tsigStore calls nameservers) := by
  induction nameservers generalizing calls with
  | nil => exact ⟨_, rfl⟩
  | cons nameserver nameservers induction =>
      have call : exec nextCall calls = (.ok calls, calls + 1) := rfl
      unfold checkZoneAt transferFrom
      rw [exec_bind_of_ok call]
      dsimp only
      split
      · have checked := @checked_receive env kss now (calls + 1) serial
          (env.network.axfr calls nameserver)
        cases received : receive (streamOf (env.network.axfr calls nameserver)) with
        | complete transfer =>
            rw [received] at checked
            dsimp only [Checked] at checked
            dsimp only [GoesOn]
            rw [exec_bind, checked, exec_bind]
            rcases exec (zoneVerdict env kss now
              (collected transfer.serial transfer.records) transfer.soaTtl) (calls + 1) with
              ⟨fault | verdict, final⟩ <;> rfl
        | brokenOff =>
            rw [received] at checked
            rw [exec_bind_of_ok checked]
            exact induction (calls + 1)
        | failed =>
            rw [received] at checked
            obtain ⟨reason, fails⟩ := checked
            rw [exec_bind_of_error fails]
            exact ⟨reason, rfl⟩
      · exact induction (calls + 1)

theorem goesOn_checkZone (nameservers : List NameserverConnectionDetails) (calls : Nat) :
    GoesOn env kss now (exec (checkZone env kss now nameservers tsigStore) calls)
      (transferredZone env kss.keyset.name nameservers tsigStore calls) := by
  have call : exec nextCall calls = (.ok calls, calls + 1) := rfl
  unfold checkZone transferredZone
  dsimp only
  rw [exec_bind_of_ok call]
  cases asked : env.network.querySoa calls kss.keyset.name with
  | error reason => exact ⟨_, rfl⟩
  | ok answer =>
      obtain ⟨mname, serial⟩ := answer
      have mapped : exec (mapErr
          (fun reason => s!"lookup of {kss.keyset.name.display}/SOA failed: {reason}")
          (.ok (mname, serial)) : Step (Name × Serial)) (calls + 1) =
            (.ok (mname, serial), calls + 1) := rfl
      rw [exec_bind_of_ok mapped]
      dsimp only
      split
      · rcases found : exec (addressesForName env mname) (calls + 1) with
          ⟨fault | addresses, after⟩
        · have ordinary := (addressesForName_raises env mname).error found
          rw [exec_bind_of_error found]
          cases fault with
          | error reason => exact ⟨reason, rfl⟩
          | panic message => cases ordinary
        · rw [exec_bind_of_ok found]
          exact goesOn_checkZoneAt serial _ after
      · exact goesOn_checkZoneAt serial nameservers (calls + 1)

end Servers

end Dnst.Keyset
