import Dnst.Foundation.Triple

/-! # The notify command

A NOTIFY message is sent to every address of every server, in the order in which the
servers are named, whatever becomes of the ones before.
-/

namespace Dnst.Notification

open Effect

/-! ## The message -/

abbrev Name := List String

inductive Class where
  | inClass
  deriving DecidableEq, Repr

inductive Rtype where
  | soa
  deriving DecidableEq, Repr

inductive Opcode where
  | notify
  deriving DecidableEq, Repr

structure Question where
  qname : Name
  qtype : Rtype
  qclass : Class
  deriving DecidableEq, Repr

structure Soa where
  mname : Name
  rname : Name
  serial : Nat
  refresh : Nat
  retry : Nat
  expire : Nat
  minimum : Nat
  deriving DecidableEq, Repr

structure SoaRecord where
  owner : Name
  class' : Class
  ttl : Nat
  data : Soa
  deriving DecidableEq, Repr

structure Message where
  id : Nat
  opcode : Opcode
  aa : Bool
  question : List Question
  answer : List SoaRecord
  deriving DecidableEq, Repr

inductive IpAddr where
  | v4 (octets : List Nat)
  | v6 (octets : List Nat)
  deriving DecidableEq, Repr

structure SocketAddr where
  ip : IpAddr
  port : Nat
  deriving DecidableEq, Repr

structure TSigInfo where
  name : Name
  key : List Nat
  algorithm : String
  deriving DecidableEq, Repr

structure Notify where
  zone : Name
  sourceAddress : Option SocketAddr
  soaVersion : Option Nat
  tsig : Option TSigInfo
  port : Nat
  debug : Bool
  retries : Nat
  servers : List String
  deriving DecidableEq, Repr

/-- A request over UDP. The message is signed when there is a key. -/
structure Exchange where
  source : SocketAddr
  dest : SocketAddr
  retries : Nat
  key : Option TSigInfo
  message : Message
  deriving DecidableEq, Repr

/-- What is shown of a reply. -/
structure Reply where
  shown : String
  size : Nat
  milliseconds : Int
  sentAt : String
  deriving DecidableEq, Repr

/-- What lies outside. Lookups and exchanges come out differently from one to the next. -/
structure Environment where
  randomId : Nat
  questionRoom : Message → Question → Option String
  answerRoom : Message → SoaRecord → Option String
  /-- Why a TSIG key is refused. -/
  keyNew : TSigInfo → Option String
  displayDig : Message → String
  hexdump : Message → String
  parseIp : String → Option IpAddr
  parseName : String → Option Name
  showName : Name → String
  showIp : IpAddr → String
  showSocket : SocketAddr → String
  lookupHost : Nat → Name → Except String (List IpAddr)
  exchange : Nat → Exchange → Except String Reply
  /-- Whether standard output fails at a line. -/
  closes : Nat → Bool

/-- Why the command ends early. -/
inductive Stop where
  | failed (message : String)
  /-- The process exits because standard output cannot be written to. -/
  | exited
  deriving DecidableEq, Repr

structure World where
  lookups : Nat
  exchanges : List Exchange
  stdout : List String
  warnings : List String
  deriving DecidableEq, Repr

def World.begin : World := ⟨0, [], [], []⟩

abbrev Run (Value : Type) := Effect World Stop Value

def printLine (env : Environment) (line : String) : Run Unit := do
  let world ← get
  if env.closes world.stdout.length then
    throw .exited
  else
    set { world with stdout := world.stdout ++ [line] }

def printLines (env : Environment) : List String → Run Unit
  | [] => return ()
  | line :: lines => do
      printLine env line
      printLines env lines

def warn (line : String) : Run Unit :=
  modify fun world => { world with warnings := world.warnings ++ [line] }

/-- A part that does not fit into the message is an error. -/
def fits (what : String) : Option String → Except Stop Unit
  | none => .ok ()
  | some reason => .error (.failed s!"could not {what}: {reason}")

namespace Notify

def question (notify : Notify) : Question := ⟨notify.zone, .soa, .inClass⟩

def soa (notify : Notify) (version : Nat) : SoaRecord :=
  ⟨notify.zone, .inClass, 3600, ⟨[], [], version, 0, 0, 0, 0⟩⟩

def createMessage (env : Environment) (notify : Notify) : Except Stop Message := do
  let header : Message := ⟨env.randomId, .notify, true, [], []⟩
  fits "create question section" (env.questionRoom header notify.question)
  let asked := { header with question := [notify.question] }
  match notify.soaVersion with
  | none => return asked
  | some version =>
      fits "add SOA record" (env.answerRoom asked (notify.soa version))
      return { asked with answer := [notify.soa version] }

def createKey (env : Environment) (notify : Notify) : Except Stop (Option TSigInfo) :=
  match notify.tsig with
  | none => .ok none
  | some tsig =>
      match env.keyNew tsig with
      | none => .ok (some tsig)
      | some reason => .error (.failed s!"TSIG key is invalid: {reason}")

/-- The address to send from. -/
def source (notify : Notify) (dest : SocketAddr) : SocketAddr :=
  match notify.sourceAddress with
  | some sourceAddress => sourceAddress
  | none =>
      match dest.ip with
      | .v4 _ => ⟨.v4 [0, 0, 0, 0], 0⟩
      | .v6 _ => ⟨.v6 (List.replicate 16 0), 0⟩

def exchange (notify : Notify) (key : Option TSigInfo) (message : Message) (ip : IpAddr) :
    Exchange :=
  { source := notify.source ⟨ip, notify.port⟩
    dest := ⟨ip, notify.port⟩
    retries := notify.retries
    key
    message }

def replyLines (env : Environment) (server : String) (dest : SocketAddr) (reply : Reply) :
    List String :=
  [s!"# reply from {server} at {env.showSocket dest}:", reply.shown,
    s!";; Query time: {reply.milliseconds} msec",
    s!";; Server: {env.showIp dest.ip}#{dest.port}", s!";; WHEN: {reply.sentAt}",
    s!";; MSG SIZE  rcvd: {reply.size}"]

/-- Send the message to a single address and print the result. -/
def notifyHost (env : Environment) (notify : Notify) (key : Option TSigInfo)
    (message : Message) (server : String) (ip : IpAddr) : Run Unit := do
  let world ← get
  let exchange := notify.exchange key message ip
  set { world with exchanges := world.exchanges ++ [exchange] }
  match env.exchange world.exchanges.length exchange with
  | .ok reply => printLines env (replyLines env server exchange.dest reply)
  | .error e =>
      warn s!"reply was not received or erroneous from: {env.showSocket exchange.dest}: {e}"

def notifyHosts (env : Environment) (notify : Notify) (key : Option TSigInfo)
    (message : Message) (server : String) : List IpAddr → Run Unit
  | [] => return ()
  | ip :: ips => do
      notifyHost env notify key message server ip
      notifyHosts env notify key message server ips

def lookupHost (env : Environment) (name : Name) : Run (Except String (List IpAddr)) := do
  let world ← get
  set { world with lookups := world.lookups + 1 }
  return env.lookupHost world.lookups name

def notifyNamed (env : Environment) (notify : Notify) (key : Option TSigInfo)
    (message : Message) (server : String) (name : Name) : Run Unit := do
  let hosts ← lookupHost env name
  match hosts with
  | .error _ => warn s!"could not resolve host \"{env.showName name}\", skipping."
  | .ok [] => warn s!"skipping bad address: {env.showName name}: Name or service not known"
  | .ok ips => notifyHosts env notify key message server ips

/-- The server may be named by its address or by a host name. -/
def notifyAddresses (env : Environment) (notify : Notify) (key : Option TSigInfo)
    (message : Message) (server : String) : Run Unit :=
  match env.parseIp server with
  | some addr => notifyHost env notify key message server addr
  | none =>
      match env.parseName server with
      | none => warn s!"invalid domain name \"{server}\", skipping."
      | some name => notifyNamed env notify key message server name

def notifyServer (env : Environment) (notify : Notify) (key : Option TSigInfo)
    (message : Message) (server : String) : Run Unit := do
  printLine env s!"# sending to {server}"
  notifyAddresses env notify key message server

def notifyServers (env : Environment) (notify : Notify) (key : Option TSigInfo)
    (message : Message) : List String → Run Unit
  | [] => return ()
  | server :: servers => do
      notifyServer env notify key message server
      notifyServers env notify key message servers

def orStop {Value : Type} : Except Stop Value → Run Value
  | .ok value => return value
  | .error stop => throw stop

def heading (env : Environment) (notify : Notify) (message : Message) : List String :=
  ["# Sending packet:", env.displayDig message] ++
    if notify.debug then ["Hexdump of notify packet:", env.hexdump message] else []

def run (env : Environment) (notify : Notify) : Run Unit := do
  let message ← orStop (notify.createMessage env)
  let key ← orStop (notify.createKey env)
  printLines env (notify.heading env message)
  notifyServers env notify key message notify.servers

end Notify

/-! ## Whom to notify -/

/-- The addresses of a server, and how many lookups it takes to find them, when so many
have been made before. -/
def addresses (env : Environment) (lookups : Nat) (server : String) : List IpAddr × Nat :=
  match env.parseIp server with
  | some addr => ([addr], 0)
  | none =>
      match env.parseName server with
      | none => ([], 0)
      | some name => ((env.lookupHost lookups name).toOption.getD [], 1)

/-- The addresses of all servers. -/
def destinations (env : Environment) : Nat → List String → List IpAddr
  | _, [] => []
  | lookups, server :: servers =>
      (addresses env lookups server).1 ++
        destinations env (lookups + (addresses env lookups server).2) servers

/-- How many lookups that takes. -/
def lookupsFor (env : Environment) : Nat → List String → Nat
  | _, [] => 0
  | lookups, server :: servers =>
      (addresses env lookups server).2 +
        lookupsFor env (lookups + (addresses env lookups server).2) servers

/-- What a run is to send. -/
def due (env : Environment) (notify : Notify) : List Exchange :=
  match notify.createMessage env, notify.createKey env with
  | .ok message, .ok key =>
      (destinations env 0 notify.servers).map (notify.exchange key message)
  | _, _ => []

/-! ## Nobody is left out -/

/-- From any world the addresses get the message in order, and all of them do unless
standard output fails. -/
structure Reaches (env : Environment) (ips : Nat → List IpAddr) (looked : Nat → Nat)
    (exchange : IpAddr → Exchange) (world : World) (outcome : Except Stop Unit × World) :
    Prop where
  begins : ∃ sent, sent <+: ips world.lookups ∧
    outcome.2.exchanges = world.exchanges ++ sent.map exchange
  all : outcome.1 = .ok () →
    outcome.2.exchanges = world.exchanges ++ (ips world.lookups).map exchange ∧
      outcome.2.lookups = world.lookups + looked world.lookups
  stops : ∀ stop, outcome.1 = .error stop → stop = .exited ∧ ∃ line, env.closes line = true

section Servers

variable {env : Environment} {notify : Notify} {key : Option TSigInfo} {message : Message}
variable {exchange : IpAddr → Exchange}

theorem exec_printLine (line : String) (world : World) :
    exec (printLine env line) world =
      if env.closes world.stdout.length then (.error .exited, world)
      else (.ok (), { world with stdout := world.stdout ++ [line] }) := by
  unfold printLine
  rw [exec_bind_of_ok (exec_get world)]
  split
  · rfl
  · rfl

/-- Nothing is sent. -/
theorem reaches_pure (world : World) :
    Reaches env (fun _ => []) (fun _ => 0) exchange world (.ok (), world) where
  begins := ⟨[], List.prefix_rfl, by simp⟩
  all := fun _ => by simp
  stops := fun _ impossible => by cases impossible

/-- Standard output fails. -/
theorem reaches_exited {world : World} (closed : ∃ line, env.closes line = true) :
    Reaches env (fun _ => []) (fun _ => 0) exchange world (.error .exited, world) where
  begins := ⟨[], List.prefix_rfl, by simp⟩
  all := fun impossible => by cases impossible
  stops := by
    intro stop same
    cases same
    exact ⟨rfl, closed⟩

/-- What is printed and what is warned about does not matter. -/
theorem Reaches.shown {ips : Nat → List IpAddr} {looked : Nat → Nat} {world final other : World}
    {result : Except Stop Unit}
    (reaches : Reaches env ips looked exchange world (result, final))
    (exchanges : other.exchanges = final.exchanges) (lookups : other.lookups = final.lookups) :
    Reaches env ips looked exchange world (result, other) := by
  constructor
  · rw [exchanges]
    exact reaches.begins
  · rw [exchanges, lookups]
    exact reaches.all
  · exact reaches.stops

/-- Only the lookups that have been made matter. -/
theorem Reaches.congr {ips others : Nat → List IpAddr} {looked more : Nat → Nat} {world : World}
    {outcome : Except Stop Unit × World} (reaches : Reaches env ips looked exchange world outcome)
    (sameIps : ips world.lookups = others world.lookups)
    (sameLooked : looked world.lookups = more world.lookups) :
    Reaches env others more exchange world outcome := by
  constructor
  · rw [← sameIps]
    exact reaches.begins
  · rw [← sameIps, ← sameLooked]
    exact reaches.all
  · exact reaches.stops

theorem printLine_reaches (line : String) (world : World) :
    Reaches env (fun _ => []) (fun _ => 0) exchange world (exec (printLine env line) world) := by
  rw [exec_printLine]
  split
  · next closed => exact reaches_exited ⟨_, closed⟩
  · exact (reaches_pure world).shown rfl rfl

theorem warn_reaches (line : String) (world : World) :
    Reaches env (fun _ => []) (fun _ => 0) exchange world (exec (warn line) world) :=
  (reaches_pure world).shown rfl rfl

/-- What is reached first and what is reached from there. -/
theorem Reaches.append {ips later : Nat → List IpAddr} {looked more : Nat → Nat}
    {world middle : World} {outcome : Except Stop Unit × World}
    (one : Reaches env ips looked exchange world (.ok (), middle))
    (two : Reaches env later more exchange middle outcome) :
    Reaches env (fun lookups => ips lookups ++ later (lookups + looked lookups))
      (fun lookups => looked lookups + more (lookups + looked lookups)) exchange world outcome := by
  rcases one.all rfl with ⟨exchanges, lookups⟩
  dsimp only at exchanges lookups
  constructor
  · rcases two.begins with ⟨sent, begins, more⟩
    rw [lookups] at begins
    refine ⟨ips world.lookups ++ sent, (List.prefix_append_right_inj _).mpr begins, ?_⟩
    rw [more, exchanges, List.map_append, List.append_assoc]
  · intro succeeds
    rcases two.all succeeds with ⟨more, others⟩
    rw [more, exchanges, others, lookups, List.map_append, List.append_assoc]
    exact ⟨rfl, Nat.add_assoc _ _ _⟩
  · exact two.stops

/-- One action after the other. -/
theorem reaches_bind {first second : Run Unit} {ips later : Nat → List IpAddr}
    {looked more : Nat → Nat}
    (before : ∀ world, Reaches env ips looked exchange world (exec first world))
    (after : ∀ world, Reaches env later more exchange world (exec second world))
    (world : World) :
    Reaches env (fun lookups => ips lookups ++ later (lookups + looked lookups))
      (fun lookups => looked lookups + more (lookups + looked lookups)) exchange world
      (exec (do first; second) world) := by
  have one := before world
  rcases running : exec first world with ⟨stop | value, middle⟩
  · rw [running] at one
    rw [exec_bind_of_error running]
    rcases one.begins with ⟨sent, begins, exchanges⟩
    constructor
    · exact ⟨sent, begins.trans (List.prefix_append _ _), exchanges⟩
    · intro impossible
      cases impossible
    · exact one.stops
  · rw [running] at one
    rw [exec_bind_of_ok running]
    exact one.append (after middle)

/-- The message goes to one address. -/
theorem reaches_send (ip : IpAddr) (world : World) :
    Reaches env (fun _ => [ip]) (fun _ => 0) exchange world
      (.ok (), { world with exchanges := world.exchanges ++ [exchange ip] }) where
  begins := ⟨[ip], List.prefix_rfl, rfl⟩
  all := fun _ => ⟨rfl, rfl⟩
  stops := fun _ impossible => by cases impossible

/-- A lookup sends nothing. -/
theorem reaches_lookup (world : World) :
    Reaches env (fun _ => []) (fun _ => 1) exchange world
      (.ok (), { world with lookups := world.lookups + 1 }) where
  begins := ⟨[], List.prefix_rfl, by simp⟩
  all := fun _ => by simp
  stops := fun _ impossible => by cases impossible

theorem printLines_reaches (lines : List String) (world : World) :
    Reaches env (fun _ => []) (fun _ => 0) exchange world
      (exec (printLines env lines) world) := by
  induction lines generalizing world with
  | nil => exact reaches_pure world
  | cons line lines induction =>
      exact reaches_bind (printLine_reaches line) induction world

theorem notifyHost_reaches (server : String) (ip : IpAddr) (world : World) :
    Reaches env (fun _ => [ip]) (fun _ => 0) (notify.exchange key message) world
      (exec (notify.notifyHost env key message server ip) world) := by
  have sent := @reaches_send env (notify.exchange key message) ip world
  unfold Notify.notifyHost
  rw [exec_bind_of_ok (exec_get world)]
  change Reaches _ _ _ _ _ (exec _ { world with
    exchanges := world.exchanges ++ [notify.exchange key message ip] })
  cases env.exchange world.exchanges.length (notify.exchange key message ip) with
  | ok reply => exact sent.append (printLines_reaches _ _)
  | error e => exact sent.append (warn_reaches _ _)

theorem notifyHosts_reaches (server : String) (ips : List IpAddr) (world : World) :
    Reaches env (fun _ => ips) (fun _ => 0) (notify.exchange key message) world
      (exec (notify.notifyHosts env key message server ips) world) := by
  induction ips generalizing world with
  | nil => exact reaches_pure world
  | cons ip ips induction =>
      exact reaches_bind (notifyHost_reaches server ip) induction world

theorem notifyNamed_reaches (server : String) (name : Name) (world : World) :
    Reaches env (fun lookups => (env.lookupHost lookups name).toOption.getD []) (fun _ => 1)
      (notify.exchange key message) world
      (exec (notify.notifyNamed env key message server name) world) := by
  have looked := @reaches_lookup env (notify.exchange key message) world
  have resolves : exec (Notify.lookupHost env name) world =
      (.ok (env.lookupHost world.lookups name),
        { world with lookups := world.lookups + 1 }) := rfl
  unfold Notify.notifyNamed
  rw [exec_bind_of_ok resolves]
  cases found : env.lookupHost world.lookups name with
  | error reason => exact (looked.append (warn_reaches _ _)).congr (by rw [found]; rfl) rfl
  | ok ips =>
      cases ips with
      | nil => exact (looked.append (warn_reaches _ _)).congr (by rw [found]; rfl) rfl
      | cons ip ips =>
          exact (looked.append (notifyHosts_reaches server (ip :: ips) _)).congr
            (by rw [found]; rfl) rfl

theorem notifyServer_reaches (server : String) (world : World) :
    Reaches env (fun lookups => (addresses env lookups server).1)
      (fun lookups => (addresses env lookups server).2) (notify.exchange key message) world
      (exec (notify.notifyServer env key message server) world) := by
  have rest : ∀ world, Reaches env (fun lookups => (addresses env lookups server).1)
      (fun lookups => (addresses env lookups server).2) (notify.exchange key message) world
      (exec (notify.notifyAddresses env key message server) world) := by
    intro world
    unfold Notify.notifyAddresses addresses
    cases env.parseIp server with
    | some addr => exact notifyHost_reaches server addr world
    | none =>
        cases env.parseName server with
        | none => exact warn_reaches _ world
        | some name => exact notifyNamed_reaches server name world
  have whole := reaches_bind (printLine_reaches s!"# sending to {server}") rest world
  exact whole.congr rfl (Nat.zero_add _)

/-- All servers, in order. -/
theorem notifyServers_reaches (servers : List String) (world : World) :
    Reaches env (fun lookups => destinations env lookups servers)
      (fun lookups => lookupsFor env lookups servers) (notify.exchange key message) world
      (exec (notify.notifyServers env key message servers) world) := by
  induction servers generalizing world with
  | nil => exact reaches_pure world
  | cons server servers induction =>
      exact reaches_bind (notifyServer_reaches server) induction world

theorem orStop_ok {Value : Type} {result : Except Stop Value} {value : Value}
    (returned : result = .ok value) (world : World) :
    exec (Notify.orStop result) world = (.ok value, world) := by
  rw [returned]
  rfl

theorem orStop_error {Value : Type} {result : Except Stop Value} {stop : Stop}
    (failed : result = .error stop) (world : World) :
    exec (Notify.orStop result) world = (.error stop, world) := by
  rw [failed]
  rfl

end Servers

/-- A run sends the message to every address of every server in order, whatever comes of
the ones before: it stops early only when standard output fails, and then what it has sent
is a beginning. When the message or the key cannot be made it sends nothing. -/
theorem run_reaches_all (env : Environment) (notify : Notify) :
    (exec (notify.run env) .begin).2.exchanges <+: due env notify ∧
      ((exec (notify.run env) .begin).1 = .ok () →
        (exec (notify.run env) .begin).2.exchanges = due env notify) ∧
      (∀ message key, notify.createMessage env = .ok message → notify.createKey env = .ok key →
        (∀ line, env.closes line = false) → (exec (notify.run env) .begin).1 = .ok ()) := by
  unfold due Notify.run
  cases created : notify.createMessage env with
  | error stop =>
      rw [exec_bind_of_error (orStop_error rfl _)]
      exact ⟨List.prefix_rfl, fun _ => rfl, fun _ _ impossible => by cases impossible⟩
  | ok message =>
      rw [exec_bind_of_ok (orStop_ok rfl _)]
      cases keyed : notify.createKey env with
      | error stop =>
          rw [exec_bind_of_error (orStop_error rfl _)]
          exact ⟨List.prefix_rfl, fun _ => rfl, fun _ _ _ impossible => by cases impossible⟩
      | ok key =>
          rw [exec_bind_of_ok (orStop_ok rfl _)]
          have reaches := @reaches_bind env (notify.exchange key message) _ _ _ _ _ _
            (printLines_reaches (notify.heading env message))
            (notifyServers_reaches notify.servers) World.begin
          refine ⟨?_, fun succeeds => (reaches.all succeeds).1, ?_⟩
          · rcases reaches.begins with ⟨sent, begins, exchanges⟩
            rw [exchanges]
            exact begins.map _
          · intro _ _ _ _ stays
            rcases outcome : (exec (do
                printLines env (notify.heading env message)
                notify.notifyServers env key message notify.servers) World.begin).1 with stop | _
            · rcases reaches.stops stop outcome with ⟨_, line, closed⟩
              rw [stays line] at closed
              cases closed
            · rfl

end Dnst.Notification
