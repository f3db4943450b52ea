import Dnst.Foundation.Effect
import Dnst.Keyset.Types

/-! # What lies outside the keyset subcommand

`KeySetOps` is the interface of the `domain` crate's `KeySet`. `Environment`
collects it with the clock, the failures of the operating system and of the
cryptographic back ends, and the answers of name servers. Everything that can
differ from call to call takes the number of the call.
-/

namespace Dnst.Keyset

/-! ## Faults -/

inductive Fault where
  | error (message : String)
  | panic (message : String)
  deriving DecidableEq, Repr

def Fault.isPanic : Fault → Bool
  | .error _ => false
  | .panic _ => true

/-- The message of an `Err`. -/
def errorMessage {Value : Type} : Except Fault Value → Option String
  | .ok _ => none
  | .error (.error message) => some message
  | .error (.panic _) => none

def panics {Value : Type} : Except Fault Value → Bool
  | .ok _ => false
  | .error fault => fault.isPanic

/-! ## The `KeySet` interface -/

inductive KeySetError where
  /-- Try again after this much time. -/
  | wait (remaining : Duration)
  | other (message : String)
  deriving DecidableEq, Repr

def KeySetError.display : KeySetError → String
  | .wait remaining => s!"wait for {asSecs remaining} seconds"
  | .other message => message

/-- Which type of key a command applies to. -/
inductive KeyVariant where
  | ksk
  | zsk
  | csk
  deriving DecidableEq, Repr

/-- The operations of `KeySet`. Those that read the wall clock get its value;
one that fails leaves the key set as it was. -/
structure KeySetOps where
  addKey : KeyVariant → String → Option String → SecurityAlgorithm → Nat →
    UnixTime → KeySet → Except KeySetError KeySet
  addPublicKey : String → SecurityAlgorithm → Nat → UnixTime → KeySet →
    Except KeySetError KeySet
  deleteKey : String → KeySet → Except KeySetError KeySet
  setPresent : String → Bool → KeySet → Except KeySetError KeySet
  setSigner : String → Bool → KeySet → Except KeySetError KeySet
  setAtParent : String → Bool → KeySet → Except KeySetError KeySet
  setDecoupled : String → Bool → KeySet → Except KeySetError KeySet
  setVisible : String → UnixTime → KeySet → Except KeySetError KeySet
  setDsVisible : String → UnixTime → KeySet → Except KeySetError KeySet
  setRrsigVisible : String → UnixTime → KeySet → Except KeySetError KeySet
  setStale : String → KeySet → Except KeySetError KeySet
  startRoll : UnixTime → RollType → List String → List String → KeySet →
    Except KeySetError (List Action × KeySet)
  propagation1Complete : UnixTime → RollType → Ttl → KeySet →
    Except KeySetError (List Action × KeySet)
  cacheExpired1 : UnixTime → RollType → KeySet →
    Except KeySetError (List Action × KeySet)
  propagation2Complete : UnixTime → RollType → Ttl → KeySet →
    Except KeySetError (List Action × KeySet)
  cacheExpired2 : UnixTime → RollType → KeySet →
    Except KeySetError (List Action × KeySet)
  rollDone : UnixTime → RollType → KeySet →
    Except KeySetError (List Action × KeySet)
  actions : RollType → KeySet → List Action

/-! ## Key material -/

/-- The ending of a file URL is its query and fragment. -/
inductive Url where
  | file (path : String) (ending : String := "")
  | kmip (serverId keyId : String)
  | other (scheme : String)
  deriving DecidableEq, Repr

/-- Where key material is kept. -/
inductive KeyRef where
  | file (path : String)
  | hsm (serverId keyId : String)
  deriving DecidableEq, Repr

def Url.keyRef : Url → Option KeyRef
  | .file path _ => some (.file path)
  | .kmip serverId keyId => some (.hsm serverId keyId)
  | .other _ => none

/-- A private key is known by the public key it belongs to. -/
inductive KeyMaterial where
  /-- A file that has been created but not written yet. -/
  | created
  | privateKey (key : Dnskey)
  | publicKey (owner : Name) (key : Dnskey)
  deriving DecidableEq, Repr

/-- The key files and the keys in HSMs that exist. -/
abbrev KeyStore := KeyRef → Option KeyMaterial

structure KmipKeyPair where
  publicKeyUrl : Url
  privateKeyUrl : Url
  dnskey : Dnskey
  deriving DecidableEq, Repr

/-- What comes of giving a new HSM key pair its readable labels. -/
inductive RelabelOutcome where
  /-- At least one label does not fit; the random labels stay. -/
  | noLabel
  | renamed
  /-- The first rename was refused. -/
  | unsupported
  /-- The public key was renamed, the private key could not be. -/
  | halfRenamed (message : String)
  deriving DecidableEq, Repr

/-! ## Name servers -/

inductive AnswerData where
  | dnskey (key : Dnskey)
  | rrsig (signature : Rrsig)
  | ds (keyTag : Nat) (algorithm : SecurityAlgorithm) (digestType digest : Nat)
  | soa (serial : Serial)
  | other (rtype : Rtype)
  deriving DecidableEq, Repr

structure Answer where
  owner : Name
  ttl : Ttl
  data : AnswerData
  deriving DecidableEq, Repr

def AnswerData.rtype : AnswerData → Rtype
  | .dnskey _ => .dnskey
  | .rrsig _ => .rrsig
  | .ds _ _ _ _ => .ds
  | .soa _ => .soa
  | .other rtype => rtype

/-- One message of a zone transfer. -/
inductive AxfrReply where
  | failed (message : String)
  | rcode (code : String)
  | answer (records : List (Except String Answer))
  deriving Repr

structure Network where
  /-- Host names of the apex NS RRset. -/
  queryNs : Nat → Name → Except String (List Name)
  /-- Owner of the SOA record in the answer to an SOA query. -/
  querySoaOwner : Nat → Name → Except String Name
  /-- Primary name server and serial of the apex SOA record. -/
  querySoa : Nat → Name → Except String (Name × Serial)
  lookupHost : Nat → Name → Except String (List IpAddr)
  /-- The answer section, whose records may be malformed. -/
  queryAt : Nat → IpAddr → Name → Rtype →
    Except String (List (Except String Answer))
  connect : Nat → NameserverConnectionDetails → Except String Unit
  /-- The messages that follow an AXFR request, until the stream ends. -/
  axfr : Nat → NameserverConnectionDetails → List AxfrReply

/-! ## The environment of an invocation -/

/-- Library functions, the same for every invocation. -/
structure Platform where
  keySet : KeySetOps
  parseUrl : String → Except String Url
  showUrl : Url → String
  /-- `std::path::absolute`. -/
  absolute : String → String
  /-- `Dnskey::digest` for a digest type, as returned by a name server. -/
  digest : Dnskey → Nat → Except String Nat
  /-- Whether `jiff::Span` can represent a duration. -/
  spanFits : Duration → Bool
  /-- `Timestamp::to_system_time`: nanoseconds since the epoch. -/
  toSystemTime : Nat → UnixTime → Int

/-- What one invocation meets. -/
structure Environment extends Platform where
  /-- The config file that is named on the command line. -/
  keysetConf : String
  clock : Nat → UnixTime
  /-- Failure of the n-th call to the system, a parser or a crypto back end. -/
  failure : Nat → Option String
  generate : Nat → GenerateParams → Nat → Except String Dnskey
  kmipGenerate : Nat → GenerateParams → Nat → Except String KmipKeyPair
  relabel : Nat → RelabelOutcome
  network : Network

/-! ## Fallible steps -/

/-- Computations that only consult the environment; the state counts the calls
made so far. -/
abbrev Step (Value : Type) := Effect Nat Fault Value

/-- Return `Err`. -/
def bail {State Value : Type} (message : String) : Effect State Fault Value :=
  throw (.error message)

def panic {State Value : Type} (message : String) : Effect State Fault Value :=
  throw (.panic message)

/-- The number of the next call. -/
def nextCall : Step Nat := do
  let call ← get
  modify (· + 1)
  return call

/-- A call that may fail, with the error message it gives rise to. -/
def attempt (env : Environment) (message : String → String) : Step Unit := do
  let call ← nextCall
  match env.failure call with
  | none => return ()
  | some reason => bail (message reason)

/-- What `expect` on a result panics with. On an option it is the message alone. -/
def expectMessage (message reason : String) : String := s!"{message}: {reason}"

/-- `expect` on a result. -/
def expect {State Value : Type} (message : String) :
    Except String Value → Effect State Fault Value
  | .ok value => return value
  | .error reason => panic (expectMessage message reason)

/-- `map_err` followed by `?`. -/
def mapErr {State Value : Type} (message : String → String) :
    Except String Value → Effect State Fault Value
  | .ok value => return value
  | .error reason => bail (message reason)

/-- An `Err` as a value. A panic is not caught. -/
def capture {State Value : Type} (action : Effect State Fault Value) :
    Effect State Fault (Except String Value) := do
  let state ← get
  let result := Effect.exec action state
  set result.2
  match result.1 with
  | .ok value => return .ok value
  | .error (.error message) => return .error message
  | .error (.panic message) => panic message

theorem exec_capture {State Value : Type} (action : Effect State Fault Value) (state : State) :
    Effect.exec (capture action) state =
      match Effect.exec action state with
      | (.ok value, final) => (.ok (.ok value), final)
      | (.error (.error message), final) => (.ok (.error message), final)
      | (.error (.panic message), final) => (.error (.panic message), final) := by
  unfold capture
  rw [Effect.exec_bind_of_ok (Effect.exec_get state)]
  rcases Effect.exec action state with ⟨outcome, final⟩
  rcases outcome with ⟨_ | _⟩ | _ <;> rfl

/-- Return `Err` when a check of the code fires. -/
def refuseIf {State : Type} (condition : Bool) (message : String) :
    Effect State Fault Unit :=
  if condition then bail message else return ()

/-- An `if` without `else`. -/
def onlyIf {State : Type} (condition : Bool) (action : Effect State Fault Unit) :
    Effect State Fault Unit :=
  if condition then action else return ()

/-- `assert!`. -/
def assert {State : Type} (condition : Bool) (message : String) :
    Effect State Fault Unit :=
  if condition then return () else panic message

end Dnst.Keyset
