import Dnst.DynamicUpdate.Creation
import Dnst.DynamicUpdate.TsigArgument

/-! # Delivering an UPDATE message

The message is offered to one name server after the other until one of them gives a
response other than SERVFAIL and NOTIMP.
-/

namespace Dnst.DynamicUpdate

open Effect
open Keyset (Fault IpAddr bail expect mapErr)

/-! ## The network -/

inductive Rcode where
  | noError
  | servFail
  | notImp
  | other (code : Nat)
  deriving DecidableEq, Repr

/-- What a question or a record of a response is. -/
inductive ResponseItem where
  | opt
  /-- Also an OPT record, with options that cannot be parsed. -/
  | malformedOpt
  | other
  deriving DecidableEq, Repr

/-- Each section has as many entries as the header says; an entry may not be there or may
not be one. -/
structure Response where
  rcode : Rcode
  question : List (Except String ResponseItem)
  answer : List (Except String ResponseItem)
  authority : List (Except String ResponseItem)
  additional : List (Except String ResponseItem)

/-- The credentials of a request, with the algorithm by its name. -/
abbrev Tsig := TSigInfo String Name

/-- What comes of a call to the network depends on the number of the call. -/
structure Network where
  /-- Apex, primary name server and serial number, from the SOA record. -/
  findSoa : Nat → Option Name → Name → Except String (Name × Name × Serial)
  queryNs : Nat → Name → Except String (List Name)
  lookupHost : Nat → Name → Except String (List IpAddr)
  /-- Whether a key can be made of the credentials. -/
  newKey : Tsig → Except String Unit
  /-- The response, unless there is none in time or it is not signed as it should be. -/
  request : Nat → IpAddr → Message → Option Tsig → Except String Response
  /-- The address with port 53. -/
  showSocket : IpAddr → String
  showRcode : Rcode → String

inductive Attempt where
  | lookup (name : Name)
  | request (address : IpAddr) (message : Message) (tsig : Option Tsig)
  deriving DecidableEq

/-- The calls that have been made, what has been tried and what has been printed. -/
structure Delivery where
  calls : Nat
  attempts : List Attempt
  stdout : List String
  stderr : List String
  deriving DecidableEq

abbrev Send (Value : Type) := Effect Delivery Fault Value

def writeStdout (line : String) : Send Unit :=
  modify fun delivery => { delivery with stdout := delivery.stdout ++ [line] }

def writeStderr (line : String) : Send Unit :=
  modify fun delivery => { delivery with stderr := delivery.stderr ++ [line] }

/-- The number of the next call. -/
def nextCall : Send Nat := do
  let delivery ← get
  modify fun delivery => { delivery with calls := delivery.calls + 1 }
  return delivery.calls

def attempted (attempt : Attempt) : Send Nat := do
  modify fun delivery => { delivery with attempts := delivery.attempts ++ [attempt] }
  nextCall

def connectAndSendRequest (network : Network) (address : IpAddr) (message : Message)
    (tsig : Option Tsig) : Send (Except String Response) := do
  let call ← attempted (.request address message tsig)
  return network.request call address message tsig

def lookupHost (network : Network) (name : Name) : Send (List IpAddr) := do
  let call ← attempted (.lookup name)
  mapErr (fun reason => s!"unable to lookup addresses for {name.display}: {reason}")
    (network.lookupHost call name)

/-! ## The text of a response

It is made for the log, of every response that comes. -/

/-- Whether the OPT record is found. The search ends at what cannot be parsed. -/
def Response.hasOpt (response : Response) : Bool :=
  match response.additional.dropWhile fun item => item matches .ok .other with
  | .ok .opt :: _ => true
  | _ => false

/-- The entries of a section are printed one after the other. -/
def expectEntries : List (Except String ResponseItem) → Send Unit
  | [] => return ()
  | item :: items => do
      let _ ← expect "we created this message, it should be valid" item
      expectEntries items

def answerToDigFmt (response : Response) : Send Unit := do
  expectEntries response.question
  expectEntries response.answer
  expectEntries response.authority
  if response.additional.length > 1 ∨ (¬ response.hasOpt ∧ response.additional.length > 0) then
    expectEntries response.additional
  else return ()

/-! ## Sending the message -/

def isUnable (rcode : Rcode) : Bool := rcode == .servFail || rcode == .notImp

/-- The update has been answered, one way or the other. -/
def reportRcode (network : Network) (rcode : Rcode) : Send Unit :=
  if rcode ≠ .noError then writeStdout s!"UPDATE response was {network.showRcode rcode}"
  else return ()

/-- Whether one of the addresses of a name server has answered. -/
def trySockets (network : Network) (message : Message) (tsig : Option Tsig) (name : Name) :
    List IpAddr → Send Bool
  | [] => return false
  | address :: addresses => do
      let resp ← connectAndSendRequest network address message tsig
      match resp with
      | .error reason => do
          writeStderr s!"{name.display} @ {network.showSocket address}: {reason}"
          trySockets network message tsig name addresses
      | .ok response => do
          answerToDigFmt response
          if isUnable response.rcode then do
            writeStderr
              s!"Skipping {name.display} @ {network.showSocket address}: {network.showRcode response.rcode}"
            trySockets network message tsig name addresses
          else do
            reportRcode network response.rcode
            return true

def tryNames (network : Network) (message : Message) (tsig : Option Tsig) :
    List Name → Send Bool
  | [] => return false
  | name :: names => do
      let foundIps ← lookupHost network name
      let answered ← trySockets network message tsig name foundIps
      if answered then return true else tryNames network message tsig names

/-- The only address that the user has named. -/
def tryServer (network : Network) (message : Message) (tsig : Option Tsig)
    (address : IpAddr) : Send Unit := do
  let resp ← connectAndSendRequest network address message tsig
  match resp with
  | .error reason =>
      bail s!"Unable to send update to {network.showSocket address}: {reason}"
  | .ok response => do
      answerToDigFmt response
      if isUnable response.rcode then
        bail s!"Name server {network.showSocket address} was unable to handle the update. Got response: {network.showRcode response.rcode}"
      else reportRcode network response.rcode

/-- What comes of the credentials, if there are any. -/
def tsigKey (network : Network) (tsig : Option Tsig) : Except String Unit :=
  match tsig with
  | some tsig => network.newKey tsig
  | none => .ok ()

/-- The list has been exhausted, we can only report that we couldn't find anything. -/
def noSuccess : Send Unit := writeStdout "No successful responses"

/-- Send the update packet to the names in `nsnames` in order until one responds. -/
def sendUpdate (network : Network) (tsig : Option Tsig) (server : Option IpAddr)
    (message : Message) (nsnames : Option (List Name)) : Send Unit := do
  mapErr (fun reason => s!"TSIG key is invalid: {reason}") (tsigKey network tsig)
  match nsnames with
  | some names => do
      let answered ← tryNames network message tsig names
      if answered then return () else noSuccess
  | none =>
      match server with
      | some address => tryServer network message tsig address
      | none => noSuccess

/-! ## Running the command -/

/-- The primary is tried first: it changes places with the first name. -/
def primaryFirst (mname : Name) (nsnames : List Name) : List Name :=
  match nsnames with
  | [] => []
  | first :: _ =>
      if mname ∈ nsnames then (nsnames.set (nsnames.idxOf mname) first).set 0 mname
      else nsnames

def determineNsnames (network : Network) (zone mname : Name) : Send (List Name) := do
  let call ← nextCall
  let nsnames ← mapErr (fun reason => s!"unable to lookup {zone.display}/NS: {reason}")
    (network.queryNs call zone)
  return primaryFirst mname nsnames

/-- Where the message goes to and how it is signed. -/
structure Target where
  zone : Option Name
  nameservers : Option IpAddr
  tsig : Option Tsig

/-- The name servers of the zone are only asked for if the user has named none. -/
def Target.nsnames (network : Network) (target : Target) (apex mname : Name) :
    Send (Option (List Name)) :=
  match target.nameservers with
  | none => do
      let nsnames ← determineNsnames network apex mname
      return some nsnames
  | some _ => return none

/-- Steps on a message as part of the command. -/
def building {Value : Type} (step : Build Value) (message : Message) :
    Send (Value × Message) :=
  match exec step message with
  | (.ok value, message) => return (value, message)
  | (.error fault, _) => throw fault

/-- Run the command. -/
def Update.run (domain : Domain) (network : Network) (target : Target) (update : Update) :
    Send Unit := do
  let call ← nextCall
  let (apex, mname, soa) ← mapErr id (network.findSoa call target.zone update.domain)
  let (prerequisites, message) ← building (update.parsePrerequisites domain apex) Message.empty
  let nsnames ← target.nsnames network apex mname
  let (_, message) ← building (update.createUpdateMessage domain apex prerequisites soa) message
  sendUpdate network target.tsig target.nameservers message nsnames

/-! ## What delivery is for -/

/-- A response that ends the search. -/
def isAnswer : Except String Response → Bool
  | .ok response => !isUnable response.rcode
  | .error _ => false

section Schedule

variable (network : Network) (message : Message) (tsig : Option Tsig)

/-- The requests to one address after the other, and whether they would be answered. -/
def requests : Nat → List IpAddr → List (Attempt × Bool)
  | _, [] => []
  | call, address :: addresses =>
      (.request address message tsig, isAnswer (network.request call address message tsig)) ::
        requests (call + 1) addresses

/-- Everything that there is to try: a name that cannot be looked up has no addresses. -/
def schedule : Nat → List Name → List (Attempt × Bool)
  | _, [] => []
  | call, name :: names =>
      let addresses := (network.lookupHost call name).toOption.getD []
      (.lookup name, false) :: requests network message tsig (call + 1) addresses ++
        schedule (call + 1 + addresses.length) names

/-- Everything up to the first answer. -/
def untilAnswer : List (Attempt × Bool) → List Attempt
  | [] => []
  | (attempt, answered) :: rest =>
      if answered then [attempt] else attempt :: untilAnswer rest

/-- What there is to try for a list of names or for a single server. -/
def scheduled (server : Option IpAddr) (nsnames : Option (List Name)) (call : Nat) :
    List (Attempt × Bool) :=
  match nsnames, server with
  | some names, _ => schedule network message tsig call names
  | none, some address => requests network message tsig call [address]
  | none, none => []

/-- Some attempt is answered. -/
def Answered (tries : List (Attempt × Bool)) : Prop := ∃ attempt, (attempt, true) ∈ tries

/-- All entries of all sections can be parsed. -/
def Response.isReadable (response : Response) : Bool :=
  (response.question ++ response.answer ++ response.authority ++ response.additional).all
    Except.isOk

/-- Every response up to the first answer can be read. -/
def Readable : Nat → List IpAddr → Prop
  | _, [] => True
  | call, address :: addresses =>
      (∀ response, network.request call address message tsig = .ok response →
        response.isReadable = true) ∧
      (isAnswer (network.request call address message tsig) = false →
        Readable (call + 1) addresses)

/-- The list comes to a server that answers, all names before it having been found, or
only its last name cannot be found. No response before that is unreadable. -/
def EndsInTime : Nat → List Name → Prop
  | _, [] => False
  | call, name :: names =>
      match network.lookupHost call name with
      | .error _ => names = []
      | .ok addresses =>
          Readable network message tsig (call + 1) addresses ∧
            (Answered (requests network message tsig (call + 1) addresses) ∨
              EndsInTime (call + 1 + addresses.length) names)

end Schedule

/-- The servers are tried in their order up to the first answer. The update counts as
delivered exactly if there is one, and otherwise there is an error. With an invalid key
nothing is sent. -/
structure FallsThrough (network : Network) (tsig : Option Tsig) (server : Option IpAddr)
    (message : Message) (nsnames : Option (List Name)) (start : Delivery) : Prop where
  attempts : (exec (sendUpdate network tsig server message nsnames) start).2.attempts =
    start.attempts ++
      if (tsigKey network tsig).isOk then
        untilAnswer (scheduled network message tsig server nsnames start.calls)
      else []
  result : (exec (sendUpdate network tsig server message nsnames) start).1 = .ok () ↔
    tsigKey network tsig = .ok () ∧
      Answered (scheduled network message tsig server nsnames start.calls)
  noPanic : ∀ text,
    (exec (sendUpdate network tsig server message nsnames) start).1 ≠ .error (.panic text)

/-- With a list of names, the search ends in time; from a single server, the response can
be read, if there is one. -/
def Deliverable (network : Network) (tsig : Option Tsig) (server : Option IpAddr)
    (message : Message) (nsnames : Option (List Name)) (call : Nat) : Prop :=
  (tsigKey network tsig).isOk = true →
    match nsnames, server with
    | some names, _ => EndsInTime network message tsig call names
    | none, some address => Readable network message tsig call [address]
    | none, none => False

/-! ## Answers in a schedule -/

theorem answered_append (first rest : List (Attempt × Bool)) :
    Answered (first ++ rest) ↔ Answered first ∨ Answered rest := by
  unfold Answered
  constructor
  · rintro ⟨attempt, member⟩
    rcases List.mem_append.mp member with inFirst | inRest
    · exact Or.inl ⟨attempt, inFirst⟩
    · exact Or.inr ⟨attempt, inRest⟩
  · rintro (⟨attempt, member⟩ | ⟨attempt, member⟩)
    · exact ⟨attempt, List.mem_append_left _ member⟩
    · exact ⟨attempt, List.mem_append_right _ member⟩

theorem answered_cons (attempt : Attempt) (answered : Bool) (rest : List (Attempt × Bool)) :
    Answered ((attempt, answered) :: rest) ↔ answered = true ∨ Answered rest := by
  unfold Answered
  constructor
  · rintro ⟨other, member⟩
    rcases List.mem_cons.mp member with same | inRest
    · exact Or.inl (congrArg Prod.snd same).symm
    · exact Or.inr ⟨other, inRest⟩
  · rintro (isTrue | ⟨other, member⟩)
    · rw [isTrue]
      exact ⟨attempt, List.mem_cons_self⟩
    · exact ⟨other, List.mem_cons_of_mem _ member⟩

theorem not_answered_nil : ¬ Answered [] := by
  rintro ⟨_, member⟩
  cases member

theorem untilAnswer_of_answered {first : List (Attempt × Bool)} (answered : Answered first)
    (rest : List (Attempt × Bool)) : untilAnswer (first ++ rest) = untilAnswer first := by
  induction first with
  | nil => exact absurd answered not_answered_nil
  | cons head first induction =>
      rcases head with ⟨attempt, isTrue⟩
      cases isTrue with
      | true => rfl
      | false =>
          rw [answered_cons] at answered
          have later := answered.resolve_left Bool.false_ne_true
          simp [untilAnswer, induction later]

theorem untilAnswer_of_not_answered {first : List (Attempt × Bool)}
    (unanswered : ¬ Answered first) (rest : List (Attempt × Bool)) :
    untilAnswer (first ++ rest) = first.map Prod.fst ++ untilAnswer rest := by
  induction first with
  | nil => rfl
  | cons head first induction =>
      rcases head with ⟨attempt, isTrue⟩
      rw [answered_cons, not_or] at unanswered
      have isFalse : isTrue = false := Bool.eq_false_iff.mpr unanswered.1
      simp [untilAnswer, isFalse, induction unanswered.2]

/-! ## Reading a response -/

section Responses

variable {start : Delivery}

/-- Without an entry that cannot be parsed nothing happens. -/
theorem exec_expectEntries (items : List (Except String ResponseItem)) :
    (items.all Except.isOk = true ∧ exec (expectEntries items) start = (.ok (), start)) ∨
      (items.all Except.isOk = false ∧
        ∃ text, exec (expectEntries items) start = (.error (.panic text), start)) := by
  induction items with
  | nil => exact Or.inl ⟨rfl, rfl⟩
  | cons item items induction =>
      cases item with
      | error reason => exact Or.inr ⟨rfl, _, rfl⟩
      | ok entry =>
          rcases induction with ⟨readable, run⟩ | ⟨unreadable, text, run⟩
          · exact Or.inl ⟨readable, run⟩
          · exact Or.inr ⟨unreadable, text, run⟩

/-- The only section that may be left out is one that is empty or the OPT record alone. -/
theorem readable_of_not_listed {response : Response}
    (unlisted : ¬ (response.additional.length > 1 ∨
      (¬ response.hasOpt ∧ response.additional.length > 0))) :
    response.additional.all Except.isOk = true := by
  rw [not_or] at unlisted
  rcases items : response.additional with _ | ⟨item, _ | ⟨second, more⟩⟩
  · rfl
  · cases item with
    | ok entry => rfl
    | error reason =>
        exfalso
        have noOpt : ¬ response.hasOpt := by simp [Response.hasOpt, items]
        apply unlisted.2
        exact ⟨noOpt, by simp [items]⟩
  · exfalso
    apply unlisted.1
    simp [items]

/-- A response that can be read changes nothing, and any other one ends the command. -/
theorem exec_answerToDigFmt (response : Response) :
    (response.isReadable = true ∧ exec (answerToDigFmt response) start = (.ok (), start)) ∨
      (response.isReadable = false ∧
        ∃ text, exec (answerToDigFmt response) start = (.error (.panic text), start)) := by
  have sections : response.isReadable =
      (response.question.all Except.isOk && (response.answer.all Except.isOk &&
        (response.authority.all Except.isOk && response.additional.all Except.isOk))) := by
    simp only [Response.isReadable, List.all_append, Bool.and_assoc]
  unfold answerToDigFmt
  rw [sections]
  rcases @exec_expectEntries start response.question with ⟨question, run⟩ | ⟨bad, text, run⟩
  · rw [exec_bind_of_ok run, question, Bool.true_and]
    rcases @exec_expectEntries start response.answer with ⟨answer, run⟩ | ⟨bad, text, run⟩
    · rw [exec_bind_of_ok run, answer, Bool.true_and]
      rcases @exec_expectEntries start response.authority with
        ⟨authority, run⟩ | ⟨bad, text, run⟩
      · rw [exec_bind_of_ok run, authority, Bool.true_and]
        split
        · exact exec_expectEntries response.additional
        next unlisted => exact Or.inl ⟨readable_of_not_listed unlisted, rfl⟩
      · rw [exec_bind_of_error run, bad]
        exact Or.inr ⟨rfl, text, rfl⟩
    · rw [exec_bind_of_error run, bad]
      exact Or.inr ⟨rfl, text, rfl⟩
  · rw [exec_bind_of_error run, bad]
    exact Or.inr ⟨rfl, text, rfl⟩

end Responses

/-! ## Runs -/

section Runs

variable {network : Network} {message : Message} {tsig : Option Tsig}

def Delivery.afterRequest (delivery : Delivery) (address : IpAddr) (message : Message)
    (tsig : Option Tsig) : Delivery :=
  { delivery with
    calls := delivery.calls + 1
    attempts := delivery.attempts ++ [.request address message tsig] }

theorem exec_connectAndSendRequest (address : IpAddr) (start : Delivery) :
    exec (connectAndSendRequest network address message tsig) start =
      (.ok (network.request start.calls address message tsig),
        start.afterRequest address message tsig) := rfl

theorem exec_writeStderr (line : String) (start : Delivery) :
    exec (writeStderr line) start =
      (.ok (), { start with stderr := start.stderr ++ [line] }) := rfl

theorem exec_reportRcode (rcode : Rcode) (start : Delivery) :
    ∃ stdout, exec (reportRcode network rcode) start = (.ok (), { start with stdout }) := by
  unfold reportRcode
  split
  · exact ⟨_, rfl⟩
  · exact ⟨start.stdout, rfl⟩

/-- A request that is not answered is followed by the next one. -/
theorem exec_trySockets_cons (name : Name) (address : IpAddr) (addresses : List IpAddr)
    (start : Delivery) :
    ((∃ response, network.request start.calls address message tsig = .ok response ∧
          response.isReadable = false) ∧
        ∃ text, exec (trySockets network message tsig name (address :: addresses)) start =
          (.error (.panic text), start.afterRequest address message tsig)) ∨
      ((∀ response, network.request start.calls address message tsig = .ok response →
          response.isReadable = true) ∧
        ((isAnswer (network.request start.calls address message tsig) = true ∧
            ∃ stdout, exec (trySockets network message tsig name (address :: addresses)) start =
              (.ok true, { start.afterRequest address message tsig with stdout })) ∨
          (isAnswer (network.request start.calls address message tsig) = false ∧
            ∃ stderr, exec (trySockets network message tsig name (address :: addresses)) start =
              exec (trySockets network message tsig name addresses)
                { start.afterRequest address message tsig with stderr }))) := by
  rw [trySockets, exec_bind_of_ok (exec_connectAndSendRequest address start)]
  cases network.request start.calls address message tsig with
  | error reason =>
      right
      refine ⟨?_, Or.inr ⟨rfl, _, exec_bind_of_ok (exec_writeStderr _ _)⟩⟩
      intro response impossible
      cases impossible
  | ok response =>
      dsimp only
      rcases @exec_answerToDigFmt (start.afterRequest address message tsig) response with
        ⟨readable, run⟩ | ⟨unreadable, text, run⟩
      · right
        refine ⟨?_, ?_⟩
        · intro other same
          cases same
          exact readable
        rw [exec_bind_of_ok run]
        cases unable : isUnable response.rcode with
        | true =>
            right
            rw [if_pos rfl]
            exact ⟨by simp [isAnswer, unable], _, exec_bind_of_ok (exec_writeStderr _ _)⟩
        | false =>
            left
            rcases @exec_reportRcode network response.rcode
              (start.afterRequest address message tsig) with ⟨stdout, reported⟩
            refine ⟨by simp [isAnswer, unable], stdout, ?_⟩
            rw [if_neg Bool.false_ne_true, exec_bind_of_ok reported]
            rfl
      · left
        exact ⟨⟨response, rfl, unreadable⟩, text, exec_bind_of_error run⟩

theorem exec_trySockets (name : Name) (addresses : List IpAddr) :
    ∀ start : Delivery, ∃ final,
      (¬ Readable network message tsig start.calls addresses ∧
          ∃ text, exec (trySockets network message tsig name addresses) start =
            (.error (.panic text), final)) ∨
        (Readable network message tsig start.calls addresses ∧
          (Answered (requests network message tsig start.calls addresses) ∧
              exec (trySockets network message tsig name addresses) start = (.ok true, final) ∧
              final.attempts = start.attempts ++
                untilAnswer (requests network message tsig start.calls addresses) ∨
            ¬ Answered (requests network message tsig start.calls addresses) ∧
              exec (trySockets network message tsig name addresses) start = (.ok false, final) ∧
              final.attempts = start.attempts ++
                (requests network message tsig start.calls addresses).map Prod.fst ∧
              final.calls = start.calls + addresses.length)) := by
  induction addresses with
  | nil =>
      intro start
      exact ⟨start, Or.inr ⟨trivial,
        Or.inr ⟨not_answered_nil, rfl, (List.append_nil _).symm, rfl⟩⟩⟩
  | cons address addresses induction =>
      intro start
      rcases @exec_trySockets_cons network message tsig name address addresses start with
        ⟨⟨response, responded, unreadable⟩, text, run⟩ |
          ⟨readable, ⟨answer, stdout, run⟩ | ⟨none, stderr, run⟩⟩
      · refine ⟨_, Or.inl ⟨?_, text, run⟩⟩
        intro allReadable
        rw [allReadable.1 response responded] at unreadable
        cases unreadable
      · refine ⟨_, Or.inr ⟨⟨readable, ?_⟩, Or.inl ⟨?_, run, ?_⟩⟩⟩
        · rw [answer]
          intro impossible
          cases impossible
        · unfold requests
          rw [answered_cons]
          exact Or.inl answer
        · simp [requests, untilAnswer, answer, Delivery.afterRequest]
      · rw [run]
        rcases induction { start.afterRequest address message tsig with stderr } with
          ⟨final, later⟩
        have counted : ({ start.afterRequest address message tsig with stderr } :
          Delivery).calls = start.calls + 1 := rfl
        have tried : ({ start.afterRequest address message tsig with stderr } :
          Delivery).attempts = start.attempts ++ [.request address message tsig] := rfl
        rw [counted, tried] at later
        have whole : Readable network message tsig start.calls (address :: addresses) ↔
            Readable network message tsig (start.calls + 1) addresses :=
          ⟨fun both => both.2 none, fun rest => ⟨readable, fun _ => rest⟩⟩
        refine ⟨final, ?_⟩
        rw [whole]
        unfold requests
        rw [none, answered_cons]
        rcases later with panics | ⟨rest, ⟨answered, run, attempts⟩ | ⟨unanswered, run, attempts, calls⟩⟩
        · exact Or.inl panics
        · refine Or.inr ⟨rest, Or.inl ⟨Or.inr answered, run, ?_⟩⟩
          rw [attempts]
          simp [untilAnswer]
        · refine Or.inr ⟨rest, Or.inr ⟨?_, run, ?_, ?_⟩⟩
          · rintro (impossible | answered)
            · cases impossible
            · exact unanswered answered
          · rw [attempts]
            simp
          · rw [calls, List.length_cons]
            omega

theorem exec_lookupHost (name : Name) (start : Delivery) :
    ∃ final, final.calls = start.calls + 1 ∧
      final.attempts = start.attempts ++ [.lookup name] ∧
      ((∃ addresses, network.lookupHost start.calls name = .ok addresses ∧
          exec (lookupHost network name) start = (.ok addresses, final)) ∨
        ∃ reason fault, network.lookupHost start.calls name = .error reason ∧
          exec (lookupHost network name) start = (.error (.error fault), final)) := by
  refine ⟨{ start with
    calls := start.calls + 1
    attempts := start.attempts ++ [.lookup name] }, rfl, rfl, ?_⟩
  have tried : exec (attempted (.lookup name)) start = (.ok start.calls, { start with
    calls := start.calls + 1
    attempts := start.attempts ++ [.lookup name] }) := rfl
  unfold lookupHost
  rw [exec_bind_of_ok tried]
  cases network.lookupHost start.calls name with
  | ok addresses => exact Or.inl ⟨addresses, rfl, rfl⟩
  | error reason => exact Or.inr ⟨reason, _, rfl, rfl⟩

/-- What trying a list of names comes to. The attempts are those of the schedule up to an
answer, unless a name that is not the last one cannot be found or a response cannot be
read. -/
inductive NamesTried (network : Network) (message : Message) (tsig : Option Tsig)
    (names : List Name) (start final : Delivery) : Except Fault Bool → Prop
  | answered :
      EndsInTime network message tsig start.calls names →
      Answered (schedule network message tsig start.calls names) →
      final.attempts =
        start.attempts ++ untilAnswer (schedule network message tsig start.calls names) →
      NamesTried network message tsig names start final (.ok true)
  | unanswered {reason} :
      EndsInTime network message tsig start.calls names →
      ¬ Answered (schedule network message tsig start.calls names) →
      final.attempts =
        start.attempts ++ untilAnswer (schedule network message tsig start.calls names) →
      NamesTried network message tsig names start final (.error (.error reason))
  | exhausted :
      ¬ EndsInTime network message tsig start.calls names →
      ¬ Answered (schedule network message tsig start.calls names) →
      NamesTried network message tsig names start final (.ok false)
  | unreadable {text} :
      ¬ EndsInTime network message tsig start.calls names →
      NamesTried network message tsig names start final (.error (.panic text))
  | notFound {reason} :
      ¬ EndsInTime network message tsig start.calls names →
      final.attempts ≠
        start.attempts ++ untilAnswer (schedule network message tsig start.calls names) →
      NamesTried network message tsig names start final (.error (.error reason))

/-- The rest of a list comes to the same as the whole list. -/
theorem NamesTried.of_rest {names rest : List Name} {start tried final : Delivery}
    {result : Except Fault Bool}
    (ends : EndsInTime network message tsig start.calls names ↔
      EndsInTime network message tsig tried.calls rest)
    (answered : Answered (schedule network message tsig start.calls names) ↔
      Answered (schedule network message tsig tried.calls rest))
    (attempts : start.attempts ++ untilAnswer (schedule network message tsig start.calls names) =
      tried.attempts ++ untilAnswer (schedule network message tsig tried.calls rest))
    (later : NamesTried network message tsig rest tried final result) :
    NamesTried network message tsig names start final result := by
  cases later with
  | answered inTime isAnswered reached =>
      exact .answered (ends.mpr inTime) (answered.mpr isAnswered) (reached.trans attempts.symm)
  | unanswered inTime notAnswered reached =>
      exact .unanswered (ends.mpr inTime) (mt answered.mp notAnswered)
        (reached.trans attempts.symm)
  | exhausted late notAnswered => exact .exhausted (mt ends.mp late) (mt answered.mp notAnswered)
  | unreadable late => exact .unreadable (mt ends.mp late)
  | notFound late differ =>
      exact .notFound (mt ends.mp late) fun reached => differ (reached.trans attempts)

/-- A name that cannot be found ends the run, which is in time behind all other names. -/
theorem namesTried_of_unknown {name : Name} {names : List Name} {start final : Delivery}
    {reason fault : String} (unknown : network.lookupHost start.calls name = .error reason)
    (attempts : final.attempts = start.attempts ++ [.lookup name]) :
    NamesTried network message tsig (name :: names) start final (.error (.error fault)) := by
  have parts : schedule network message tsig start.calls (name :: names) =
      [(.lookup name, false)] ++ schedule network message tsig (start.calls + 1) names := by
    rw [schedule, unknown]
    rfl
  have ends : EndsInTime network message tsig start.calls (name :: names) ↔ names = [] := by
    rw [EndsInTime, unknown]
  have notBefore : ¬ Answered [(Attempt.lookup name, false)] := by
    rw [answered_cons]
    rintro (impossible | answered)
    · cases impossible
    · exact not_answered_nil answered
  cases names with
  | nil =>
      refine .unanswered (ends.mpr rfl) ?_ ?_
      · rw [parts, answered_append]
        rintro (answered | answered)
        · exact notBefore answered
        · exact not_answered_nil answered
      · rw [parts, untilAnswer_of_not_answered notBefore, attempts]
        simp [schedule, untilAnswer]
  | cons second names =>
      refine .notFound (mt ends.mp (by simp)) fun same => ?_
      rw [parts, untilAnswer_of_not_answered notBefore, attempts] at same
      have short := congrArg List.length same
      have more : 0 < (untilAnswer (schedule network message tsig (start.calls + 1)
          (second :: names))).length := by
        rw [schedule]
        simp [untilAnswer]
      simp only [List.length_append, List.length_map, List.length_cons,
        List.length_nil] at short
      omega

/-- The addresses of a name are tried, and then the names after it. -/
theorem schedule_cons {name : Name} {names : List Name} {call : Nat} {addresses : List IpAddr}
    (known : network.lookupHost call name = .ok addresses) :
    schedule network message tsig call (name :: names) =
      (.lookup name, false) :: requests network message tsig (call + 1) addresses ++
        schedule network message tsig (call + 1 + addresses.length) names := by
  rw [schedule, known]
  rfl

theorem exec_tryNames (names : List Name) :
    ∀ start : Delivery, ∃ result final,
      exec (tryNames network message tsig names) start = (result, final) ∧
        NamesTried network message tsig names start final result := by
  induction names with
  | nil =>
      intro start
      exact ⟨.ok false, start, rfl, .exhausted id not_answered_nil⟩
  | cons name names induction =>
      intro start
      rcases @exec_lookupHost network name start with
        ⟨middle, calls, attempts, ⟨addresses, known, looked⟩ | ⟨reason, fault, unknown, looked⟩⟩
      · have ends : EndsInTime network message tsig start.calls (name :: names) ↔
            Readable network message tsig middle.calls addresses ∧
              (Answered (requests network message tsig middle.calls addresses) ∨
                EndsInTime network message tsig (middle.calls + addresses.length) names) := by
          rw [EndsInTime, known, calls]
        have parts := @schedule_cons network message tsig name names start.calls addresses known
        rw [← calls] at parts
        rw [tryNames, exec_bind_of_ok looked]
        rcases @exec_trySockets network message tsig name addresses middle
          with ⟨tried, ⟨unreadable, text, run⟩ | ⟨readable, ⟨answered, run, reached⟩ |
            ⟨unanswered, run, reached, counted⟩⟩⟩
        · exact ⟨_, tried, exec_bind_of_error run,
            .unreadable fun inTime => unreadable (ends.mp inTime).1⟩
        · have inSchedule := (answered_cons (.lookup name) false _).mpr (Or.inr answered)
          refine ⟨.ok true, tried, exec_bind_of_ok run,
            .answered (ends.mpr ⟨readable, Or.inl answered⟩) ?_ ?_⟩
          · rw [parts, answered_append]
            exact Or.inl inSchedule
          · rw [parts, untilAnswer_of_answered inSchedule, reached, attempts]
            simp [untilAnswer]
        · have notBefore : ¬ Answered
              ((.lookup name, false) :: requests network message tsig middle.calls addresses) := by
            rw [answered_cons]
            rintro (impossible | answered)
            · cases impossible
            · exact unanswered answered
          rcases induction tried with ⟨result, final, rest, later⟩
          refine ⟨result, final, ?_, .of_rest ?_ ?_ ?_ later⟩
          · rw [exec_bind_of_ok run, if_neg Bool.false_ne_true]
            exact rest
          · rw [ends, counted, or_iff_right unanswered]
            exact and_iff_right readable
          · rw [parts, answered_append, counted]
            exact or_iff_right notBefore
          · rw [parts, untilAnswer_of_not_answered notBefore, reached, attempts, counted]
            simp
      · rw [tryNames]
        exact ⟨_, middle, exec_bind_of_error looked, namesTried_of_unknown unknown attempts⟩

/-- Trying a single server panics exactly if its response cannot be read. -/
theorem exec_tryServer (address : IpAddr) (start : Delivery) :
    ∃ result final, exec (tryServer network message tsig address) start = (result, final) ∧
      final.attempts = start.attempts ++ [.request address message tsig] ∧
      ((¬ Readable network message tsig start.calls [address] ∧
          ∃ text, result = .error (.panic text)) ∨
        (Readable network message tsig start.calls [address] ∧
          ((result = .ok () ∧
              isAnswer (network.request start.calls address message tsig) = true) ∨
            ((∃ reason, result = .error (.error reason)) ∧
              isAnswer (network.request start.calls address message tsig) = false)))) := by
  unfold tryServer Readable
  rw [exec_bind_of_ok (exec_connectAndSendRequest address start)]
  cases network.request start.calls address message tsig with
  | error reason =>
      refine ⟨_, _, rfl, rfl, Or.inr ⟨⟨?_, fun _ => trivial⟩, Or.inr ⟨⟨_, rfl⟩, rfl⟩⟩⟩
      intro response impossible
      cases impossible
  | ok response =>
      dsimp only
      rcases @exec_answerToDigFmt (start.afterRequest address message tsig) response with
        ⟨readable, run⟩ | ⟨unreadable, text, run⟩
      · have only : ∀ other, (Except.ok response : Except String Response) = .ok other →
            other.isReadable = true := by
          intro other same
          cases same
          exact readable
        rw [exec_bind_of_ok run]
        cases unable : isUnable response.rcode with
        | true =>
            rw [if_pos rfl]
            exact ⟨_, _, rfl, rfl, Or.inr ⟨⟨only, fun _ => trivial⟩,
              Or.inr ⟨⟨_, rfl⟩, by simp [isAnswer, unable]⟩⟩⟩
        | false =>
            rcases @exec_reportRcode network response.rcode
              (start.afterRequest address message tsig) with ⟨stdout, reported⟩
            rw [if_neg Bool.false_ne_true, reported]
            exact ⟨_, _, rfl, rfl, Or.inr ⟨⟨only, fun _ => trivial⟩,
              Or.inl ⟨rfl, by simp [isAnswer, unable]⟩⟩⟩
      · rw [exec_bind_of_error run]
        refine ⟨_, _, rfl, rfl, Or.inl ⟨?_, text, rfl⟩⟩
        rintro ⟨only, _⟩
        rw [only response rfl] at unreadable
        cases unreadable

theorem exec_noSuccess (start : Delivery) :
    ∃ final, exec noSuccess start = (.ok (), final) ∧ final.attempts = start.attempts :=
  ⟨_, rfl, rfl⟩

end Runs

section Branches

variable {network : Network} {message : Message} {tsig : Option Tsig} {server : Option IpAddr}

theorem exec_sendUpdate_of_valid (valid : tsigKey network tsig = .ok ())
    (nsnames : Option (List Name)) (start : Delivery) :
    exec (sendUpdate network tsig server message nsnames) start =
      exec (match nsnames with
        | some names => do
            let answered ← tryNames network message tsig names
            if answered then return () else noSuccess
        | none =>
            match server with
            | some address => tryServer network message tsig address
            | none => noSuccess) start := by
  unfold sendUpdate
  rw [valid]
  rfl

theorem fallsThrough_names (valid : tsigKey network tsig = .ok ()) (names : List Name)
    (start : Delivery) :
    FallsThrough network tsig server message (some names) start ↔
      EndsInTime network message tsig start.calls names := by
  rcases @exec_tryNames network message tsig names start with ⟨result, final, run, ending⟩
  have whole := @exec_sendUpdate_of_valid network message tsig server valid (some names) start
  dsimp only at whole
  cases ending with
  | answered inTime answered attempts =>
      have sent := whole.trans (exec_bind_of_ok run)
      refine ⟨fun _ => inTime, fun _ => ?_⟩
      constructor
      · rw [sent, valid]
        exact attempts
      · rw [sent]
        exact ⟨fun _ => ⟨valid, answered⟩, fun _ => rfl⟩
      · rw [sent]
        intro text impossible
        cases impossible
  | unanswered inTime unanswered attempts =>
      have sent := whole.trans (exec_bind_of_error run)
      refine ⟨fun _ => inTime, fun _ => ?_⟩
      constructor
      · rw [sent, valid]
        exact attempts
      · rw [sent]
        constructor
        · intro impossible
          cases impossible
        · intro delivered
          exact absurd delivered.2 unanswered
      · rw [sent]
        intro text impossible
        cases impossible
  | exhausted late unanswered =>
      refine ⟨fun falls => ?_, fun inTime => absurd inTime late⟩
      rcases exec_noSuccess final with ⟨printed, print, _⟩
      have sent := (whole.trans (exec_bind_of_ok run)).trans print
      have result := falls.result
      rw [sent] at result
      exact absurd (result.mp rfl).2 unanswered
  | @unreadable text late =>
      refine ⟨fun falls => ?_, fun inTime => absurd inTime late⟩
      have sent := whole.trans (exec_bind_of_error run)
      have noPanic := falls.noPanic text
      rw [sent] at noPanic
      exact absurd rfl noPanic
  | notFound late differ =>
      refine ⟨fun falls => ?_, fun inTime => absurd inTime late⟩
      have sent := whole.trans (exec_bind_of_error run)
      have attempts := falls.attempts
      rw [sent, valid] at attempts
      exact absurd attempts differ

theorem fallsThrough_server (valid : tsigKey network tsig = .ok ()) (address : IpAddr)
    (start : Delivery) :
    FallsThrough network tsig (some address) message none start ↔
      Readable network message tsig start.calls [address] := by
  have whole :=
    @exec_sendUpdate_of_valid network message tsig (some address) valid none start
  dsimp only at whole
  rcases @exec_tryServer network message tsig address start with
    ⟨result, final, run, attempts, outcome⟩
  rw [run] at whole
  have only : Answered (scheduled network message tsig (some address) none start.calls) ↔
      isAnswer (network.request start.calls address message tsig) = true := by
    unfold scheduled requests
    rw [answered_cons]
    exact or_iff_left not_answered_nil
  rcases outcome with ⟨unreadable, text, panics⟩ | ⟨readable, outcome⟩
  · refine ⟨fun falls => ?_, fun readable => absurd readable unreadable⟩
    exfalso
    have noPanic := falls.noPanic text
    rw [whole] at noPanic
    exact noPanic panics
  · refine ⟨fun _ => readable, fun _ => ?_⟩
    constructor
    · rw [whole, valid]
      simp [Except.isOk, Except.toBool, scheduled, requests, untilAnswer, attempts]
    · rw [whole, only]
      rcases outcome with ⟨delivered, answer⟩ | ⟨⟨reason, failed⟩, noAnswer⟩
      · exact ⟨fun _ => ⟨valid, answer⟩, fun _ => delivered⟩
      · rw [failed, noAnswer]
        constructor
        · intro impossible
          cases impossible
        · intro impossible
          cases impossible.2
    · rw [whole]
      rcases outcome with ⟨delivered, _⟩ | ⟨⟨reason, failed⟩, _⟩
      · rw [delivered]
        intro text impossible
        cases impossible
      · rw [failed]
        intro text impossible
        cases impossible

theorem not_fallsThrough_nowhere (valid : tsigKey network tsig = .ok ()) (start : Delivery) :
    ¬ FallsThrough network tsig none message none start := by
  intro falls
  have whole := @exec_sendUpdate_of_valid network message tsig none valid none start
  have result := falls.result
  rw [whole] at result
  have delivered := result.mp rfl
  exact not_answered_nil delivered.2

theorem fallsThrough_of_invalid {reason : String} (invalid : tsigKey network tsig = .error reason)
    (nsnames : Option (List Name)) (start : Delivery) :
    FallsThrough network tsig server message nsnames start := by
  have run : exec (sendUpdate network tsig server message nsnames) start =
      (.error (.error s!"TSIG key is invalid: {reason}"), start) := by
    unfold sendUpdate
    rw [invalid]
    rfl
  constructor
  · rw [run, invalid]
    exact (List.append_nil _).symm
  · rw [run, invalid]
    constructor
    · intro impossible
      cases impossible
    · rintro ⟨impossible, _⟩
      cases impossible
  · rw [run]
    intro text impossible
    cases impossible

end Branches

/-- Delivery falls through the list as it should exactly if the list ends in time, and to a
single server exactly if its response can be read. -/
theorem sendUpdate_fallsThrough_iff (network : Network) (tsig : Option Tsig)
    (server : Option IpAddr) (message : Message) (nsnames : Option (List Name))
    (start : Delivery) :
    FallsThrough network tsig server message nsnames start ↔
      Deliverable network tsig server message nsnames start.calls := by
  unfold Deliverable
  cases valid : tsigKey network tsig with
  | error reason =>
      refine ⟨fun _ impossible => ?_, fun _ => fallsThrough_of_invalid valid nsnames start⟩
      cases impossible
  | ok _ =>
      have isOk : (Except.ok () : Except String Unit).isOk = true := rfl
      rw [forall_prop_of_true isOk]
      cases nsnames with
      | some names => exact fallsThrough_names valid names start
      | none =>
          cases server with
          | some address => exact fallsThrough_server valid address start
          | none => exact iff_false_intro (not_fallsThrough_nowhere valid start)

namespace Reference

/-- A response without a record behind its header. -/
def bareResponse (rcode : Rcode) : Response := ⟨rcode, [], [], [], []⟩

/-- One address for each name, and everybody sends the response. -/
def respondingNetwork (response : Response) : Network where
  findSoa := fun _ _ _ => .error "timeout"
  queryNs := fun _ _ => .error "timeout"
  lookupHost := fun _ _ => .ok ["192.0.2.1"]
  newKey := fun _ => .ok ()
  request := fun _ _ _ _ => .ok response
  showSocket := fun address => address ++ ":53"
  showRcode := fun _ => "SERVFAIL"

/-- The server is unable to handle updates. -/
def unableNetwork : Network := respondingNetwork (bareResponse .servFail)

def nothingSent : Delivery := ⟨0, [], [], []⟩

end Reference

/-- The only server of the list answers SERVFAIL, and the update counts as delivered. -/
theorem sendUpdate_exhausted :
    ¬ FallsThrough Reference.unableNetwork none none Message.empty (some [["ns"]])
      Reference.nothingSent := by
  intro falls
  have delivered := falls.result.mp rfl
  rcases delivered.2 with ⟨attempt, member⟩
  have unanswered : ((scheduled Reference.unableNetwork Message.empty none none (some [["ns"]])
      Reference.nothingSent.calls).any fun entry => entry.2) = false := by decide +kernel
  rw [List.any_eq_false] at unanswered
  exact unanswered _ member rfl

/-- The response of the single server ends before its only record does. -/
example : ((exec (sendUpdate (Reference.respondingNetwork
      { Reference.bareResponse .noError with answer := [.error "unexpected end of buffer"] })
      none (some "192.0.2.1") Message.empty none) Reference.nothingSent).1 matches
        .error (.panic _)) = true := by decide +kernel

end Dnst.DynamicUpdate
