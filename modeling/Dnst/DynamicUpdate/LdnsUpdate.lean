import Dnst.DynamicUpdate.Faithful
import Dnst.DynamicUpdate.SerialIncrement

/-! # The ldns-update command

It sends an update of the addresses of a name, and takes the first response for an
answer, whatever it says.
-/

namespace Dnst.DynamicUpdate

open Effect
open Keyset (Fault IpAddr bail mapErr)

/-! ## The message -/

def typeAddress : Rtype := .other 1

def typeAddress6 : Rtype := .other 28

/-- An IP address with its octets. -/
inductive Address where
  | v4 (octets : List Nat)
  | v6 (octets : List Nat)
  deriving DecidableEq, Repr

def Address.data : Address → ZoneRecordData
  | .v4 octets => .other typeAddress octets
  | .v6 octets => .other typeAddress6 octets

structure LdnsUpdate where
  domain : Name
  /-- The address to associate with the name, or none to delete its addresses. -/
  ip : Option Address
  zone : Option Name
  tsig : Option Tsig

namespace LdnsUpdate

/-- Without an address remove A and AAAA as defined in RFC 2136, section 2.5.2. -/
def updates (ldns : LdnsUpdate) : List Record :=
  match ldns.ip with
  | some ip => [⟨ldns.domain, .inClass, 300, ip.data⟩]
  | none =>
      [⟨ldns.domain, .any, 0, emptyRdata typeAddress⟩,
        ⟨ldns.domain, .any, 0, emptyRdata typeAddress6⟩]

/-- Create the packet of the update message to send to the name servers. -/
def createUpdateMessage (ldns : LdnsUpdate) (zone : Name) : Message where
  opcode := .update
  qr := false
  zone := [⟨zone, .soa, .inClass⟩]
  prerequisite := []
  update := ldns.updates

/-! ## Sending it -/

def reportRcode (network : Network) (rcode : Rcode) : Send Unit :=
  if rcode ≠ .noError then writeStdout s!";; UPDATE response was {network.showRcode rcode}"
  else return ()

/-- Whether one of the addresses of a name server has responded. -/
def trySockets (network : Network) (message : Message) (tsig : Option Tsig) (name : Name) :
    List IpAddr → Send Bool
  | [] => return false
  | address :: addresses => do
      let response ← connectAndSendRequest network address message tsig
      match response with
      | .error err => do
          writeStderr s!"{name.display} @ {network.showSocket address}: {err}"
          trySockets network message tsig name addresses
      | .ok resp => do
          reportRcode network resp.rcode
          return true

def lookupHost (network : Network) (name : Name) : Send (List IpAddr) := do
  let call ← attempted (.lookup name)
  mapErr (fun e => s!"unable to look up addresses for {name.display}: {e}")
    (network.lookupHost call name)

def tryNames (network : Network) (message : Message) (tsig : Option Tsig) :
    List Name → Send Bool
  | [] => return false
  | name :: names => do
      let foundIps ← lookupHost network name
      let responded ← trySockets network message tsig name foundIps
      if responded then return true else tryNames network message tsig names

/-- Send the update packet to the names in `nsnames` in order until one responds. -/
def sendUpdate (network : Network) (ldns : LdnsUpdate) (message : Message)
    (nsnames : List Name) : Send Unit := do
  mapErr (fun e => s!"TSIG key is invalid: {e}") (tsigKey network ldns.tsig)
  let responded ← tryNames network message ldns.tsig nsnames
  if responded then return () else writeStdout ";; No responses"

/-- Run the command. -/
def run (network : Network) (showIp : Address → String) (ldns : LdnsUpdate) : Send Unit := do
  let shown := (ldns.ip.map showIp).getD "<none>"
  writeStdout s!";; trying UPDATE with FQDN \"{ldns.domain.display}\" and IP \"{shown}\""
  let call ← nextCall
  let (soaZone, soaMname, _) ← mapErr id (network.findSoa call ldns.zone ldns.domain)
  let nsnames ← determineNsnames network soaZone soaMname
  sendUpdate network ldns (ldns.createUpdateMessage soaZone) nsnames

end LdnsUpdate

/-! ## The same message from the update command -/

/-- The command that adds the address with the TTL of ldns. -/
def addressAddition (name : Name) (text : String) (rtype : Rtype) : Update where
  domain := name
  action := .add rtype [text]
  class' := .inClass
  ttl := 300
  rrsetExists := none
  rrsetExistsExact := none
  rrsetNonExistent := none
  nameInUse := none
  nameNotInUse := none

/-- The command that deletes the addresses of one type. -/
def addressDeletion (name : Name) (rtype : Rtype) : Update :=
  { addressAddition name "" rtype with action := .delete rtype [] }

/-- The message before the first record of its update section. -/
def opened (zone : Name) : Message := ⟨.update, false, [⟨zone, .soa, .inClass⟩], [], []⟩

/-- The records of the command fit into a message. -/
def Fits (domain : Domain) (ldns : LdnsUpdate) : Prop :=
  ∀ zone, ∀ record ∈ ldns.updates, domain.room (opened zone) record = none

/-- The text denotes the address. -/
def Writes (domain : Domain) (text : String) (ip : Address) : Prop :=
  ∃ owner class' ttl others, domain.zonefile none none
    (rdataText domain ip.data.rtype text) = .ok (.record ⟨owner, class', ttl, ip.data⟩) :: others

section Messages

variable {domain : Domain} {ldns : LdnsUpdate} {ip : Address} {text : String}

def noPrerequisites : UpdatePrerequisites := ⟨none, none, none, none, none⟩

theorem exec_parsePrerequisites (update : Update) (apex : Name) (message : Message)
    (absent : update.rrsetExists = none ∧ update.rrsetExistsExact = none ∧
      update.rrsetNonExistent = none ∧ update.nameInUse = none ∧ update.nameNotInUse = none) :
    exec (update.parsePrerequisites domain apex) message = (.ok noPrerequisites, message) := by
  rcases absent with ⟨exists', exact', nonExistent, inUse, notInUse⟩
  unfold Update.parsePrerequisites
  rw [exists', exact', nonExistent, inUse, notInUse]
  rfl

theorem exec_pushUpdate (what : String) (record : Record) (message : Message)
    (room : domain.room message record = none) :
    exec (pushUpdate domain what record) message =
      (.ok (), { message with update := message.update ++ [record] }) := by
  unfold pushUpdate
  rw [exec_bind_of_ok (exec_get message), room]
  rfl

theorem exec_addAddress (isIp : ldns.ip = some ip) (writes : Writes domain text ip)
    (fits : Fits domain ldns) (zone : Name) (soa : Serial) :
    exec ((addressAddition ldns.domain text ip.data.rtype).createUpdateMessage domain zone
      noPrerequisites soa) Message.empty = (.ok (), ldns.createUpdateMessage zone) := by
  rcases writes with ⟨owner, class', ttl, others, entries⟩
  have parsed : exec (parseRdata domain ip.data.rtype text) (opened zone) =
      (.ok ip.data, opened zone) := by
    unfold parseRdata
    rw [entries]
    rfl
  have checked : exec (checkSoaSerial soa ip.data) (opened zone) = (.ok (), opened zone) := by
    cases ip <;> rfl
  have room : domain.room (opened zone) ⟨ldns.domain, .inClass, 300, ip.data⟩ = none := by
    apply fits
    simp [LdnsUpdate.updates, isIp]
  have pushed := exec_pushUpdate "RR" ⟨ldns.domain, .inClass, 300, ip.data⟩ (opened zone) room
  have added : exec (do
      let rdata ← parseRdata domain ip.data.rtype text
      checkSoaSerial soa rdata
      pushUpdate domain "RR" (createRrAddition ldns.domain .inClass 300 rdata)) (opened zone) =
      (.ok (), ldns.createUpdateMessage zone) := by
    rw [exec_bind_of_ok parsed, exec_bind_of_ok checked]
    refine pushed.trans ?_
    simp [LdnsUpdate.createUpdateMessage, LdnsUpdate.updates, isIp, opened]
  exact exec_bind_of_ok added

theorem exec_deleteAddresses {record : Record} (rtype : Rtype) (name : Name) (zone : Name)
    (soa : Serial) (isRecord : record = ⟨name, .any, 0, emptyRdata rtype⟩)
    (room : domain.room (opened zone) record = none) :
    exec ((addressDeletion name rtype).createUpdateMessage domain zone
      noPrerequisites soa) Message.empty = (.ok (), { opened zone with update := [record] }) := by
  rw [isRecord] at room ⊢
  exact exec_pushUpdate "RRset deletion RR" (createRrsetDeletion name rtype) (opened zone) room

theorem message_eq {update : Update} {zone : Name} {soa : Serial} {message : Message}
    (absent : update.rrsetExists = none ∧ update.rrsetExistsExact = none ∧
      update.rrsetNonExistent = none ∧ update.nameInUse = none ∧ update.nameNotInUse = none)
    (creates : exec (update.createUpdateMessage domain zone noPrerequisites soa) Message.empty =
      (.ok (), message)) : update.message domain zone soa = .ok message := by
  unfold Update.message
  rw [exec_bind_of_ok (exec_parsePrerequisites update zone Message.empty absent), creates]

/-- With an address, the message is the one of the update command that adds it. Without, it
is the one that deletes the A records, with the change of the one that deletes the AAAA
records behind it. -/
def Agrees (domain : Domain) (ldns : LdnsUpdate) (text : String) (zone : Name) (soa : Serial) :
    Prop :=
  match ldns.ip with
  | some ip => (addressAddition ldns.domain text ip.data.rtype).message domain zone soa =
      .ok (ldns.createUpdateMessage zone)
  | none => ∃ first second,
      (addressDeletion ldns.domain typeAddress).message domain zone soa = .ok first ∧
      (addressDeletion ldns.domain typeAddress6).message domain zone soa = .ok second ∧
      ldns.createUpdateMessage zone = { first with update := first.update ++ second.update }

theorem createUpdateMessage_agrees (writes : ∀ ip, ldns.ip = some ip → Writes domain text ip)
    (fits : Fits domain ldns) (zone : Name) (soa : Serial) :
    Agrees domain ldns text zone soa := by
  unfold Agrees
  split
  · next ip isIp =>
      exact message_eq ⟨rfl, rfl, rfl, rfl, rfl⟩
        (exec_addAddress isIp (writes ip isIp) fits zone soa)
  · next noIp =>
      have first := exec_deleteAddresses typeAddress ldns.domain zone soa rfl
        (fits zone _ (by simp [LdnsUpdate.updates, noIp]))
      have second := exec_deleteAddresses typeAddress6 ldns.domain zone soa rfl
        (fits zone _ (by simp [LdnsUpdate.updates, noIp]))
      refine ⟨_, _, message_eq ⟨rfl, rfl, rfl, rfl, rfl⟩ first,
        message_eq ⟨rfl, rfl, rfl, rfl, rfl⟩ second, ?_⟩
      simp [LdnsUpdate.createUpdateMessage, LdnsUpdate.updates, noIp, opened]

end Messages

namespace Reference

def hostLdns : LdnsUpdate :=
  { domain := host, ip := some (.v4 [192, 0, 2, 1]), zone := none, tsig := none }

theorem writes_host : Writes domain "192.0.2.1" (.v4 [192, 0, 2, 1]) :=
  ⟨[], .inClass, 1, [], rfl⟩

end Reference

theorem createUpdateMessage_agrees_host :
    Agrees Reference.domain Reference.hostLdns "192.0.2.1" Reference.apex 1 := by
  apply createUpdateMessage_agrees
  · intro ip isIp
    cases isIp
    exact Reference.writes_host
  · intro zone record _
    rfl

/-! ## The same requests as the update command -/

/-- The same calls have been made and the same has been tried. -/
structure SameTries (one other : Delivery) : Prop where
  calls : one.calls = other.calls
  attempts : one.attempts = other.attempts

theorem SameTries.prefix' {one other : Delivery} (same : SameTries one other) :
    one.attempts <+: other.attempts :=
  same.attempts ▸ List.prefix_refl one.attempts

/-- No server is unable to handle updates, and all responses can be read. -/
def AllAble (network : Network) : Prop :=
  ∀ call address message tsig response,
    network.request call address message tsig = .ok response →
      isUnable response.rcode = false ∧ response.isReadable = true

section Requests

variable {network : Network} {message : Message} {tsig : Option Tsig} {one other : Delivery}

theorem trySockets_extends (name : Name) (addresses : List IpAddr) (start : Delivery) :
    start.attempts <+:
      (exec (trySockets network message tsig name addresses) start).2.attempts := by
  induction addresses generalizing start with
  | nil => exact List.prefix_refl _
  | cons address addresses induction =>
      have moved : start.attempts <+: (start.afterRequest address message tsig).attempts :=
        List.prefix_append _ _
      rcases @exec_trySockets_cons network message tsig name address addresses start with
        ⟨_, text, run⟩ | ⟨_, ⟨_, stdout, run⟩ | ⟨_, stderr, run⟩⟩
      · rw [run]
        exact moved
      · rw [run]
        exact moved
      · rw [run]
        exact moved.trans (induction { start.afterRequest address message tsig with stderr })

theorem tryNames_extends (names : List Name) (start : Delivery) :
    start.attempts <+: (exec (tryNames network message tsig names) start).2.attempts := by
  induction names generalizing start with
  | nil => exact List.prefix_refl _
  | cons name names induction =>
      rcases @exec_lookupHost network name start with ⟨middle, _, attempts, found | failed⟩
      · rcases found with ⟨addresses, _, looked⟩
        have more : start.attempts <+: middle.attempts := by
          rw [attempts]
          exact List.prefix_append _ _
        have later := @trySockets_extends network message tsig name addresses middle
        rw [tryNames, exec_bind_of_ok looked]
        rcases run : exec (trySockets network message tsig name addresses) middle with
          ⟨fault | answered, tried⟩
        · rw [run] at later
          rw [exec_bind_of_error run]
          exact more.trans later
        · rw [run] at later
          rw [exec_bind_of_ok run]
          cases answered with
          | true => exact more.trans later
          | false => exact (more.trans later).trans (induction tried)
      · rcases failed with ⟨_, _, _, looked⟩
        rw [tryNames, exec_bind_of_error looked]
        change _ <+: middle.attempts
        rw [attempts]
        exact List.prefix_append _ _

theorem exec_ldns_reportRcode (rcode : Rcode) (start : Delivery) :
    ∃ stdout, exec (LdnsUpdate.reportRcode network rcode) start =
      (.ok (), { start with stdout }) := by
  unfold LdnsUpdate.reportRcode
  split
  · exact ⟨_, rfl⟩
  · exact ⟨start.stdout, rfl⟩

/-- How the searches of the two commands among the addresses of a name are related. -/
structure SearchFollows (network : Network) (responded : Bool) (first : Delivery)
    (second : Except Fault Bool × Delivery) : Prop where
  requests : first.attempts <+: second.2.attempts
  answer : second.1 = .ok true → responded = true
  noResponse : responded = false → second.1 = .ok false ∧ SameTries first second.2
  able : AllAble network → second.1 = .ok responded ∧ SameTries first second.2

/-- A response that ends one search but not the other says that the server is unable or
cannot be read. -/
theorem trySockets_follows (name : Name) (addresses : List IpAddr) (same : SameTries one other) :
    ∃ responded first,
      exec (LdnsUpdate.trySockets network message tsig name addresses) one =
        (.ok responded, first) ∧
      SearchFollows network responded first
        (exec (trySockets network message tsig name addresses) other) := by
  induction addresses generalizing one other with
  | nil =>
      refine ⟨false, one, rfl, same.prefix', ?_, fun _ => ⟨rfl, same⟩, fun _ => ⟨rfl, same⟩⟩
      intro impossible
      cases impossible
  | cons address addresses induction =>
      have moved : SameTries (one.afterRequest address message tsig)
          (other.afterRequest address message tsig) := by
        constructor
        · simp [Delivery.afterRequest, same.calls]
        · simp [Delivery.afterRequest, same.attempts]
      have more := @trySockets_extends network message tsig name (address :: addresses) other
      have step := @exec_trySockets_cons network message tsig name address addresses other
      rw [LdnsUpdate.trySockets, exec_bind_of_ok (exec_connectAndSendRequest address one)]
      rw [← same.calls] at step
      cases outcome : network.request one.calls address message tsig with
      | error reason =>
          rw [outcome] at step
          rcases step with ⟨⟨_, impossible, _⟩, _⟩ | ⟨_, ⟨impossible, _⟩ | ⟨_, stderr, run⟩⟩
          · cases impossible
          · cases impossible
          · have next : SameTries { one.afterRequest address message tsig with
                  stderr := one.stderr ++
                    [s!"{name.display} @ {network.showSocket address}: {reason}"] }
                { other.afterRequest address message tsig with stderr } :=
              ⟨moved.calls, moved.attempts⟩
            rcases induction next with ⟨responded, first, ran, later⟩
            refine ⟨responded, first, (exec_bind_of_ok (exec_writeStderr _ _)).trans ran, ?_⟩
            rw [run]
            exact later
      | ok response =>
          rcases @exec_ldns_reportRcode network response.rcode
            (one.afterRequest address message tsig) with ⟨printed, reported⟩
          refine ⟨true, _, exec_bind_of_ok reported, ?_⟩
          rw [outcome] at step
          rcases step with ⟨⟨_, isResponse, unreadable⟩, text, run⟩ |
            ⟨_, ⟨_, stdout, run⟩ | ⟨noAnswer, stderr, run⟩⟩
          · -- The update command cannot read the response.
            cases isResponse
            rw [run]
            refine ⟨moved.prefix', fun _ => rfl, ?_, ?_⟩
            · intro impossible
              cases impossible
            · intro able
              rw [(able _ _ _ _ _ outcome).2] at unreadable
              cases unreadable
          · -- Both searches end here.
            rw [run]
            refine ⟨moved.prefix', fun _ => rfl, ?_, fun _ => ⟨rfl, moved.calls, moved.attempts⟩⟩
            intro impossible
            cases impossible
          · -- The server is unable, and only the update command tries the next one.
            rw [run]
            have later := @trySockets_extends network message tsig name addresses
              { other.afterRequest address message tsig with stderr }
            refine ⟨moved.prefix'.trans later, fun _ => rfl, ?_, ?_⟩
            · intro impossible
              cases impossible
            · intro able
              simp [isAnswer, (able _ _ _ _ _ outcome).1] at noAnswer

theorem exec_ldns_lookupHost (name : Name) (same : SameTries one other) :
    ∃ first second, SameTries first second ∧
      ((∃ addresses, exec (LdnsUpdate.lookupHost network name) one = (.ok addresses, first) ∧
          exec (lookupHost network name) other = (.ok addresses, second)) ∨
        ∃ fault reason, exec (LdnsUpdate.lookupHost network name) one = (.error fault, first) ∧
          exec (lookupHost network name) other = (.error reason, second)) := by
  refine ⟨{ one with
      calls := one.calls + 1
      attempts := one.attempts ++ [.lookup name] },
    { other with
      calls := other.calls + 1
      attempts := other.attempts ++ [.lookup name] }, ?_, ?_⟩
  · constructor
    · simp [same.calls]
    · simp [same.attempts]
  · have tried : ∀ start : Delivery, exec (attempted (.lookup name)) start = (.ok start.calls,
        { start with
          calls := start.calls + 1
          attempts := start.attempts ++ [.lookup name] }) := fun _ => rfl
    unfold LdnsUpdate.lookupHost lookupHost
    rw [exec_bind_of_ok (tried one), exec_bind_of_ok (tried other), same.calls]
    cases network.lookupHost other.calls name with
    | ok addresses => exact Or.inl ⟨addresses, rfl, rfl⟩
    | error reason => exact Or.inr ⟨_, _, rfl, rfl⟩

/-- How the runs of the two commands are related: the requests of the first one are the
first requests of the second one, which succeeds only if the first one does. -/
structure Follows {Value : Type} (network : Network)
    (first second : Except Fault Value × Delivery) : Prop where
  requests : first.2.attempts <+: second.2.attempts
  success : second.1.isOk = true → first.1.isOk = true
  able : AllAble network → second.2.attempts = first.2.attempts ∧ second.1.isOk = first.1.isOk

theorem tryNames_follows (names : List Name) (same : SameTries one other) :
    Follows network (exec (LdnsUpdate.tryNames network message tsig names) one)
      (exec (tryNames network message tsig names) other) := by
  induction names generalizing one other with
  | nil =>
      exact ⟨same.prefix', id, fun _ => ⟨same.attempts.symm, rfl⟩⟩
  | cons name names induction =>
      rcases @exec_ldns_lookupHost network one other name same with
        ⟨first, second, looked, ⟨addresses, one', other'⟩ | ⟨fault, reason, one', other'⟩⟩
      · rw [LdnsUpdate.tryNames, tryNames, exec_bind_of_ok one', exec_bind_of_ok other']
        rcases @trySockets_follows network message tsig first second name addresses looked with
          ⟨responded, left, ran, search⟩
        rw [exec_bind_of_ok ran]
        rcases run : exec (trySockets network message tsig name addresses) second with
          ⟨fault | answered, right⟩
        · rw [run] at search
          rw [exec_bind_of_error run]
          cases responded with
          | true =>
              refine ⟨search.requests, ?_, ?_⟩
              · intro impossible
                cases impossible
              · intro allAble
                cases (search.able allAble).1
          | false => cases (search.noResponse rfl).1
        · rw [run] at search
          rw [exec_bind_of_ok run]
          cases responded with
          | true =>
              cases answered with
              | true =>
                  exact ⟨search.requests, fun _ => rfl,
                    fun allAble => ⟨(search.able allAble).2.attempts.symm, rfl⟩⟩
              | false =>
                  refine ⟨search.requests.trans (tryNames_extends names right),
                    fun _ => rfl, ?_⟩
                  intro allAble
                  cases (search.able allAble).1
          | false =>
              have none' := search.noResponse rfl
              have unanswered : answered = false := Except.ok.inj none'.1
              rw [unanswered]
              exact induction none'.2
      · rw [LdnsUpdate.tryNames, tryNames, exec_bind_of_error one', exec_bind_of_error other']
        exact ⟨looked.prefix', id, fun _ => ⟨looked.attempts.symm, rfl⟩⟩

/-- A last step that always succeeds and tries nothing changes nothing about it. -/
theorem Follows.then {Value Result : Type} {action step : Send Value}
    {next after : Value → Send Result}
    (follows : Follows network (exec action one) (exec step other))
    (quiet : ∀ value start, (exec (next value) start).1.isOk = true ∧
      (exec (next value) start).2.attempts = start.attempts)
    (silent : ∀ value start, (exec (after value) start).1.isOk = true ∧
      (exec (after value) start).2.attempts = start.attempts) :
    Follows network (exec (action >>= next) one) (exec (step >>= after) other) := by
  rw [exec_bind, exec_bind]
  rcases left : exec action one with ⟨fault | value, first⟩
  · rcases right : exec step other with ⟨reason | result, second⟩
    · rw [left, right] at follows
      exact ⟨follows.requests, id, follows.able⟩
    · rw [left, right] at follows
      cases follows.success rfl
  · rcases right : exec step other with ⟨reason | result, second⟩
    · rw [left, right] at follows
      refine ⟨?_, fun _ => (quiet value first).1, ?_⟩
      · change (exec (next value) first).2.attempts <+: second.attempts
        rw [(quiet value first).2]
        exact follows.requests
      · intro allAble
        cases (follows.able allAble).2
    · rw [left, right] at follows
      refine ⟨?_, fun _ => (quiet value first).1, ?_⟩
      · change (exec (next value) first).2.attempts <+: (exec (after result) second).2.attempts
        rw [(quiet value first).2, (silent result second).2]
        exact follows.requests
      · intro allAble
        change (exec (after result) second).2.attempts = (exec (next value) first).2.attempts ∧
          (exec (after result) second).1.isOk = (exec (next value) first).1.isOk
        rw [(quiet value first).2, (silent result second).2, (quiet value first).1,
          (silent result second).1]
        exact ⟨(follows.able allAble).1, rfl⟩

theorem follows_of_error {Value : Type} {fault reason : Fault} (same : SameTries one other) :
    Follows network ((.error fault : Except Fault Value), one) (.error reason, other) :=
  ⟨same.prefix', id, fun _ => ⟨same.attempts.symm, rfl⟩⟩

theorem sendUpdate_follows {ldns : LdnsUpdate} (nsnames : List Name)
    (same : SameTries one other) :
    Follows network (exec (ldns.sendUpdate network message nsnames) one)
      (exec (sendUpdate network ldns.tsig none message (some nsnames)) other) := by
  unfold LdnsUpdate.sendUpdate sendUpdate
  cases tsigKey network ldns.tsig with
  | error reason => exact follows_of_error same
  | ok valid =>
      apply Follows.then (tryNames_follows nsnames same)
      · intro responded start
        cases responded <;> exact ⟨rfl, rfl⟩
      · intro answered start
        cases answered <;> exact ⟨rfl, rfl⟩

theorem determineNsnames_follows (zone mname : Name) (same : SameTries one other) :
    ∃ first second, SameTries first second ∧
      ((∃ nsnames, exec (determineNsnames network zone mname) one = (.ok nsnames, first) ∧
          exec (determineNsnames network zone mname) other = (.ok nsnames, second)) ∨
        ∃ fault, exec (determineNsnames network zone mname) one = (.error fault, first) ∧
          exec (determineNsnames network zone mname) other = (.error fault, second)) := by
  have counted : ∀ start : Delivery, exec nextCall start =
      (.ok start.calls, { start with calls := start.calls + 1 }) := fun _ => rfl
  refine ⟨{ one with calls := one.calls + 1 }, { other with calls := other.calls + 1 },
    ⟨by simp [same.calls], same.attempts⟩, ?_⟩
  unfold determineNsnames
  rw [exec_bind_of_ok (counted one), exec_bind_of_ok (counted other), same.calls]
  cases network.queryNs other.calls zone with
  | ok nsnames => exact Or.inl ⟨_, rfl, rfl⟩
  | error reason => exact Or.inr ⟨_, rfl, rfl⟩

end Requests

section Runs

variable {network : Network} {domain : Domain} {ldns : LdnsUpdate} {ip : Address} {text : String}

/-- The command tries what the update command tries that adds the same address, up to the
first response. It fails only where that one fails, and where all servers can handle
updates and all responses can be read there is no difference. -/
theorem run_follows (isIp : ldns.ip = some ip) (writes : Writes domain text ip)
    (fits : Fits domain ldns) (showIp : Address → String) (start : Delivery) :
    Follows network (exec (ldns.run network showIp) start)
      (exec ((addressAddition ldns.domain text ip.data.rtype).run domain network
        ⟨ldns.zone, none, ldns.tsig⟩) start) := by
  let shown := (ldns.ip.map showIp).getD "<none>"
  let line := s!";; trying UPDATE with FQDN \"{ldns.domain.display}\" and IP \"{shown}\""
  let printed : Delivery := { start with stdout := start.stdout ++ [line] }
  let one : Delivery := { printed with calls := start.calls + 1 }
  let other : Delivery := { start with calls := start.calls + 1 }
  have prints : exec (writeStdout line) start = (.ok (), printed) := rfl
  have first : exec nextCall printed = (.ok start.calls, one) := rfl
  have second : exec nextCall start = (.ok start.calls, other) := rfl
  have same : SameTries one other := ⟨rfl, rfl⟩
  unfold LdnsUpdate.run Update.run
  dsimp only
  rw [exec_bind_of_ok prints, exec_bind_of_ok first, exec_bind_of_ok second]
  have sameName : (addressAddition ldns.domain text ip.data.rtype).domain = ldns.domain := rfl
  rw [sameName]
  cases network.findSoa start.calls ldns.zone ldns.domain with
  | error reason => exact follows_of_error same
  | ok found =>
      rcases found with ⟨soaZone, soaMname, soa⟩
      have parses := @exec_parsePrerequisites domain
        (addressAddition ldns.domain text ip.data.rtype) soaZone Message.empty
        ⟨rfl, rfl, rfl, rfl, rfl⟩
      have parsed : exec (building ((addressAddition ldns.domain text
          ip.data.rtype).parsePrerequisites domain soaZone) Message.empty) other =
          (.ok (noPrerequisites, Message.empty), other) := by
        unfold building
        rw [parses]
        rfl
      have creates := exec_addAddress isIp writes fits soaZone soa
      have found : exec (mapErr id (.ok (soaZone, soaMname, soa)) :
          Send (Name × Name × Serial)) other = (.ok (soaZone, soaMname, soa), other) := rfl
      have alsoFound : exec (mapErr id (.ok (soaZone, soaMname, soa)) :
          Send (Name × Name × Serial)) one = (.ok (soaZone, soaMname, soa), one) := rfl
      rw [exec_bind_of_ok alsoFound, exec_bind_of_ok found]
      dsimp only
      rw [exec_bind_of_ok parsed]
      dsimp only [Target.nsnames]
      rcases @determineNsnames_follows network one other soaZone soaMname same with
        ⟨left, right, named, ⟨nsnames, one', other'⟩ | ⟨fault, one', other'⟩⟩
      · have built : exec (building ((addressAddition ldns.domain text
            ip.data.rtype).createUpdateMessage domain soaZone noPrerequisites soa)
            Message.empty) right = (.ok ((), ldns.createUpdateMessage soaZone), right) := by
          unfold building
          rw [creates]
          rfl
        have alsoNamed : exec (determineNsnames network soaZone soaMname >>= fun nsnames =>
            pure (some nsnames)) other = (.ok (some nsnames), right) :=
          exec_bind_of_ok other'
        rw [exec_bind_of_ok one', exec_bind_of_ok alsoNamed, exec_bind_of_ok built]
        exact sendUpdate_follows nsnames named
      · have alsoFailed : exec (determineNsnames network soaZone soaMname >>= fun nsnames =>
            pure (some nsnames)) other = (.error fault, right) :=
          exec_bind_of_error other'
        rw [exec_bind_of_error one', exec_bind_of_error alsoFailed]
        exact follows_of_error named

end Runs

namespace Reference

/-- Two name servers, of which the first is unable to handle updates. -/
def twoServers : Network where
  findSoa := fun _ _ _ => .ok (apex, ["a", "example", "com"], 1)
  queryNs := fun _ _ => .ok [["a", "example", "com"], ["b", "example", "com"]]
  lookupHost := fun _ name =>
    if name = ["a", "example", "com"] then .ok ["192.0.2.53"] else .ok ["192.0.2.54"]
  newKey := fun _ => .ok ()
  request := fun _ address _ _ =>
    if address = "192.0.2.53" then .ok (bareResponse .servFail)
    else .ok (bareResponse .noError)
  showSocket := fun address => address ++ ":53"
  showRcode := fun rcode => if rcode = .servFail then "SERVFAIL" else "NOERROR"

end Reference

theorem run_follows_twoServers :
    Follows Reference.twoServers
      (exec (Reference.hostLdns.run Reference.twoServers fun _ => "192.0.2.1")
        Reference.nothingSent)
      (exec ((addressAddition Reference.host "192.0.2.1" typeAddress).run Reference.domain
        Reference.twoServers ⟨none, none, none⟩) Reference.nothingSent) :=
  run_follows rfl Reference.writes_host (fun _ _ _ => rfl) _ _

/-- The update command goes on behind the server that is unable. -/
example : (exec (Reference.hostLdns.run Reference.twoServers fun _ => "192.0.2.1")
      Reference.nothingSent).2.attempts.length = 2 ∧
    (exec ((addressAddition Reference.host "192.0.2.1" typeAddress).run Reference.domain
      Reference.twoServers ⟨none, none, none⟩) Reference.nothingSent).2.attempts.length = 4 := by
  decide +kernel

end Dnst.DynamicUpdate
