import Mathlib.Algebra.GroupWithZero.Nat
import Mathlib.Logic.Function.Basic

/-! # Data of the keyset subcommand

The records follow the configuration and state files. `UnixTime` and `Duration`
count nanoseconds, so `asSecs` truncates as the Rust types do.
-/

namespace Dnst.Keyset

abbrev UnixTime := Nat
abbrev Duration := Nat
abbrev Ttl := Nat
abbrev Serial := Nat
abbrev SecurityAlgorithm := Nat
abbrev IpAddr := String

/-- Labels from the leaf to the root, in presentation format. They stand case-folded, since
names are compared without regard to the case of ASCII letters. -/
abbrev Name := List String

def nanosPerSec : Nat := 1000000000

def fromSecs (seconds : Nat) : Duration := seconds * nanosPerSec

def asSecs (duration : Duration) : Nat := duration / nanosPerSec

/-- `as u32` of a number of seconds. -/
def toU32 (value : Nat) : Nat := value % 2 ^ 32

def Name.display (name : Name) : String := ".".intercalate name

def Name.fmtWithDot (name : Name) : String := name.display ++ "."

/-! ## Constants of `cmd.rs` -/

/-- Maximum tries to generate a new key with a key tag that does not conflict
with the key tags of existing keys. -/
def maxKeyTagTries : Nat := 10

/-- Number of times to try locking a file. -/
def maxFileLockTries : Nat := 10

/-- Wait this amount before retrying for network errors, DNS errors, etc. -/
def defaultWait : Duration := fromSecs (10 * 60)

def defaultTtl : Ttl := 3600

/-- The default delay in automatically removing a key pair after it has become
stale. -/
def defaultAutoremoveDelay : Duration := fromSecs (7 * 24 * 3600)

/-! ## The data of a `domain` key set

`KeySet` holds what the accessors `keys()` and `rollstates()` show. The
operations that change it belong to the `domain` crate, see `KeySetOps`. -/

inductive RollType where
  | kskRoll
  | kskDoubleDsRoll
  | zskRoll
  | zskDoubleSignatureRoll
  | cskRoll
  | algorithmRoll
  deriving DecidableEq, Repr

inductive RollState where
  | propagation1
  | cacheExpire1 (ttl : Ttl)
  | propagation2
  | cacheExpire2 (ttl : Ttl)
  | done
  deriving DecidableEq, Repr

inductive Action where
  | createCdsRrset
  | removeCdsRrset
  | updateDnskeyRrset
  | updateDsRrset
  | updateRrsig
  | reportDnskeyPropagated
  | reportDsPropagated
  | reportRrsigPropagated
  | waitDnskeyPropagated
  | waitDsPropagated
  | waitRrsigPropagated
  deriving DecidableEq, Repr

structure KeyState where
  stale : Bool
  signer : Bool
  present : Bool
  atParent : Bool
  deriving DecidableEq, Repr

/-- A CSK carries one state for each of its two roles. -/
inductive KeyType where
  | ksk (state : KeyState)
  | zsk (state : KeyState)
  | csk (kskState zskState : KeyState)
  | include (state : KeyState)
  deriving DecidableEq, Repr

structure KeyTimestamps where
  creation : Option UnixTime
  published : Option UnixTime
  visible : Option UnixTime
  dsVisible : Option UnixTime
  rrsigVisible : Option UnixTime
  withdrawn : Option UnixTime
  deriving DecidableEq, Repr

structure Key where
  privref : Option String
  decoupled : Bool
  keytype : KeyType
  algorithm : SecurityAlgorithm
  keyTag : Nat
  timestamps : KeyTimestamps
  deriving DecidableEq, Repr

/-- Keys are listed under the URL of their public half. -/
structure KeySet where
  name : Name
  keys : List (String × Key)
  rollstates : RollType → Option RollState

/-- The state that stands for the whole key: the KSK role of a CSK. -/
def KeyType.mainState : KeyType → KeyState
  | .ksk state => state
  | .zsk state => state
  | .csk kskState _ => kskState
  | .include state => state

/-! ## Records

The state file holds RRsets as zone file text. The model keeps the records that
the text denotes; a signature is kept as what was signed, by whom, until when. -/

/-- A public key with the key tag that `Dnskey::key_tag` computes. -/
structure Dnskey where
  flags : Nat
  algorithm : SecurityAlgorithm
  publicKey : Nat
  keyTag : Nat
  deriving DecidableEq, Repr

inductive DsAlgorithm where
  | sha256
  | sha384
  deriving DecidableEq, Repr

inductive Rtype where
  | a
  | aaaa
  | ns
  | soa
  | ds
  | dnskey
  | cds
  | cdnskey
  | rrsig
  | nsec
  | nsec3
  | other (code : Nat)
  deriving DecidableEq, Repr

structure Rrsig where
  typeCovered : Rtype
  signer : Dnskey
  signed : List Dnskey
  inception : Nat
  expiration : Nat
  deriving DecidableEq, Repr

/-- A record of the zone apex; digests stand for the key and the algorithm. -/
inductive Record where
  | dnskey (ttl : Ttl) (key : Dnskey)
  | cdnskey (ttl : Ttl) (key : Dnskey)
  | cds (ttl : Ttl) (key : Dnskey) (digest : DsAlgorithm)
  | ds (ttl : Ttl) (key : Dnskey) (digest : DsAlgorithm)
  | rrsig (ttl : Ttl) (signature : Rrsig)
  | ns (ttl : Ttl) (host : Name)
  deriving DecidableEq, Repr

def Record.rrsig? : Record → Option Rrsig
  | .rrsig _ signature => some signature
  | _ => none

/-! ## Configuration -/

structure AutoConfig where
  start : Bool
  report : Bool
  expire : Bool
  done : Bool
  deriving DecidableEq, Repr

/-- `AutoConfig::default`: no step is automatic. -/
def AutoConfig.default : AutoConfig := ⟨false, false, false, false⟩

inductive KskRollType where
  | doubleSignatureKskRoll
  | doubleDsKskRoll
  deriving DecidableEq, Repr

inductive ZskRollType where
  | prePublishZskRoll
  | doubleSignatureZskRoll
  deriving DecidableEq, Repr

inductive KeyParameters where
  | rsaSha256 (bits : Nat)
  | rsaSha512 (bits : Nat)
  | ecdsaP256Sha256
  | ecdsaP384Sha384
  | ed25519
  | ed448
  deriving DecidableEq, Repr

/-- Key generation parameters of the `domain` crate; `bits` is a `u32`. -/
inductive GenerateParams where
  | rsaSha256 (bits : Nat)
  | rsaSha512 (bits : Nat)
  | ecdsaP256Sha256
  | ecdsaP384Sha384
  | ed25519
  | ed448
  deriving DecidableEq, Repr

/-- IANA number of the algorithm. -/
def GenerateParams.algorithm : GenerateParams → SecurityAlgorithm
  | .rsaSha256 _ => 8
  | .rsaSha512 _ => 10
  | .ecdsaP256Sha256 => 13
  | .ecdsaP384Sha384 => 14
  | .ed25519 => 15
  | .ed448 => 16

structure NameserverConnectionDetails where
  addr : IpAddr
  port : Nat
  tsigKeyName : Option Name
  deriving DecidableEq, Repr

structure KeySetConfig where
  stateFile : String
  keysDir : String
  useCsk : Bool
  algorithm : KeyParameters
  kskRollType : KskRollType
  zskRollType : ZskRollType
  kskValidity : Option Duration
  zskValidity : Option Duration
  cskValidity : Option Duration
  autoKsk : AutoConfig
  autoZsk : AutoConfig
  autoCsk : AutoConfig
  autoAlgorithm : AutoConfig
  dnskeyInceptionOffset : Duration
  dnskeySignatureLifetime : Duration
  dnskeyRemainTime : Duration
  cdsInceptionOffset : Duration
  cdsSignatureLifetime : Duration
  cdsRemainTime : Duration
  dsAlgorithm : DsAlgorithm
  defaultTtl : Ttl
  autoremove : Bool
  autoremoveDelay : Duration
  updateDsCommand : List String
  faketime : Option UnixTime
  tsigStorePath : Option String
  nameservers : List NameserverConnectionDetails
  deriving DecidableEq, Repr

/-! ## Results of propagation checks -/

inductive AutoReportActionsResult where
  | report (ttl : Ttl)
  | wait (waitUntil : UnixTime) (notice : String)
  deriving DecidableEq, Repr

inductive AutoReportRrsigResult where
  | report (ttl : Ttl)
  | wait (waitUntil : UnixTime) (notice : String)
  | waitSoa (waitUntil : UnixTime) (serial : Serial) (ttl reportTtl : Ttl)
      (notice : String)
  | waitRecord (waitUntil : UnixTime) (name : Name) (rtype : Rtype) (ttl : Ttl)
      (notice : String)
  | waitNextSerial (waitUntil : UnixTime) (serial : Serial) (ttl : Ttl)
      (notice : String)
  deriving DecidableEq, Repr

structure ReportState where
  dnskey : Option AutoReportActionsResult
  ds : Option AutoReportActionsResult
  rrsig : Option AutoReportRrsigResult
  deriving DecidableEq, Repr

def ReportState.default : ReportState := ⟨none, none, none⟩

structure RollStateReports where
  propagation1 : ReportState
  propagation2 : ReportState
  done : ReportState
  deriving DecidableEq, Repr

def RollStateReports.default : RollStateReports := ⟨.default, .default, .default⟩

/-! ## State -/

structure KeyLabelConfig where
  maxLabelBytes : Nat
  supportsRelabeling : Bool
  labelPrefix : String
  deriving DecidableEq, Repr

structure KmipServerTlsCertificateVerificationConfig where
  verifyCertificate : Bool
  serverCertPath : Option String
  caCertPath : Option String
  deriving DecidableEq, Repr

structure KmipClientTlsCertificateAuthConfig where
  certPath : String
  privateKeyPath : String
  deriving DecidableEq, Repr

structure KmipClientLimits where
  connectTimeout : Duration
  readTimeout : Duration
  writeTimeout : Duration
  maxResponseBytes : Nat
  deriving DecidableEq, Repr

/-- Settings for connecting to a KMIP HSM server. -/
structure KmipServerConnectionConfig where
  serverAddr : String
  serverPort : Nat
  serverCertVerification : KmipServerTlsCertificateVerificationConfig
  clientCredentialsPath : Option String
  clientCertAuth : Option KmipClientTlsCertificateAuthConfig
  clientLimits : KmipClientLimits
  keyLabelConfig : KeyLabelConfig
  deriving DecidableEq, Repr

structure KmipState where
  servers : List (String × KmipServerConnectionConfig)
  defaultServerId : Option String
  deriving DecidableEq, Repr

structure KeySetState where
  keyset : KeySet
  dnskeyRrset : List Record
  dsRrset : List Record
  cdsRrset : List Record
  nsRrset : List Record
  apexRemove : List Rtype
  apexExtra : List Record
  cronNext : Option UnixTime
  kmip : KmipState
  internal : RollType → Option RollStateReports

end Dnst.Keyset
