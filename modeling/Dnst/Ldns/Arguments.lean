import Dnst.DynamicUpdate.LdnsUpdate
import Dnst.DynamicUpdate.TsigArgument
import Dnst.Foundation.ShortOptions
import Dnst.Foundation.UnsignedText
import Dnst.Key2ds.Execute
import Dnst.Notification.Run
import Dnst.Nsec3Hash.FindPrefix
import Dnst.Signzone.Zone

/-! # Arguments of the ldns tools

The program is also invoked under the names of the ldns tools, and then reads its arguments
as they do. Here are the values of arguments and what the tools make of a command line.
-/

namespace Dnst.Ldns

open DynamicUpdate (splitAt)
open Keyset (Fault)
open ShortOptions
open Signzone (Timestamp ZonemdTuple)

/-! ## Commands -/

abbrev TSigInfo := DynamicUpdate.TSigInfo String Keyset.Name

structure Nsec3Hash where
  algorithm : Nat
  iterations : UInt16
  salt : List UInt8
  findPrefix : Option String
  name : Dnst.Nsec3Hash.Name

structure LdnsUpdate where
  domain : DynamicUpdate.Name
  ip : Option DynamicUpdate.Address
  zone : Option DynamicUpdate.Name
  tsig : Option TSigInfo

/-- What an ldns tool can be asked to do. -/
inductive Command where
  | keygen (keygen : Keygen)
  | key2ds (key2ds : Key2ds)
  | nsec3Hash (nsec3Hash : Nsec3Hash)
  | signZone (signZone : Signzone.SignZone)
  | notify (notify : Notification.Notify)
  | ldnsUpdate (ldnsUpdate : LdnsUpdate)
  /-- Report a string to stdout. -/
  | report (text : String)

inductive LevelFilter where
  | off
  | error
  | warn
  | info
  | debug
  | trace
  deriving DecidableEq

structure Args where
  command : Command
  verbosity : LevelFilter

def Args.ofCommand (command : Command) : Args := ⟨command, .warn⟩

/-! ## What lies outside -/

/-- Strings of the operating system, which need not be Unicode. -/
structure OsStrings (Os : Type) where
  toStr : Os → Option String
  /-- The text between quotes, for messages. -/
  debug : Os → String
  /-- The path that it is. -/
  path : Os → String
  fileName : Os → Option Os

/-- Values read by the `domain` crate and network addresses. -/
structure Values where
  name : String → Except String Keyset.Name
  storedName : String → Except String Signzone.Name
  hashedName : String → Except String Dnst.Nsec3Hash.Name
  salt : String → Except String (List UInt8)
  timestamp : String → Except String Timestamp
  nsec3AlgFromMnemonic : String → Option Nat
  nsec3AlgToMnemonic : Nat → Option String
  socketAddr : String → Except String Notification.SocketAddr
  ipAddr : String → Except String DynamicUpdate.Address
  tsigAlgorithm : String → Except String String
  tsigName : String → Except String Keyset.Name
  decodeBase64 : String → Except String (List UInt8)

structure Context (Os : Type) where
  os : OsStrings Os
  values : Values
  /-- The items of a command line. -/
  lex : List Os → Lexed Os
  /-- Seconds since the epoch, as 32 bits. -/
  now : Timestamp
  /-- Whether overflows are checked for. -/
  checked : Bool

/-! ## Values -/

section Values

variable {Os Value : Type}

/-- Parse a text with a custom function. -/
def parseOsWith (os : OsStrings Os) (opt : String) (val : Os)
    (read : String → Except String Value) : Except String Value :=
  match os.toStr val with
  | none => .error s!"Invalid value for {opt}: {os.debug val} is not valid unicode"
  | some s => (read s).mapError fun e => s!"Invalid value {os.debug val} for {opt}: {e}"

/-- `from_str` of an unsigned integer below the bound. -/
def unsigned (bound : Nat) (s : String) : Except String Nat :=
  UnsignedText.parse bound s.toList

def u8 : Nat := 2 ^ 8

def u16 : Nat := 2 ^ 16

def u32 : Nat := 2 ^ 32

def usize : Nat := 2 ^ 64

/-- `from_str` of a path and of a string. -/
def anyText (s : String) : Except String String := .ok s

end Values

section Nsec3

variable (values : Values)

def numToNsec3Alg (num : Nat) : Except String Nat :=
  match values.nsec3AlgToMnemonic num with
  | some _ => .ok num
  | none => .error "unknown algorithm number"

def parseNsec3Alg (arg : String) : Except String Nat :=
  match unsigned u8 arg with
  | .ok num => numToNsec3Alg values num
  | .error _ =>
      match values.nsec3AlgFromMnemonic arg with
      | some alg => .ok alg
      | none => .error "unknown algorithm mnemonic"

def parseNsec3AlgAsNum (arg : String) : Except String Nat :=
  match unsigned u8 arg with
  | .ok num => numToNsec3Alg values num
  | .error _ => .error "malformed algorithm number"

def parseSalt (arg : String) : Except String (List UInt8) :=
  if arg.utf8ByteSize ≥ 512 then .error "Salt too long" else values.salt arg

end Nsec3

/-- `str::to_lowercase`, as far as it makes a mnemonic. -/
def toLowercase (s : String) : String := String.ofList (s.toList.map Char.toLower)

def parseZonemdSchemeLdns (s : String) : Except String Nat :=
  if toLowercase s = "simple" ∨ toLowercase s = "1" then .ok ZonemdTuple.simple
  else .error "unknown ZONEMD scheme name or number"

def parseZonemdHashAlgLdns (h : String) : Except String Nat :=
  if toLowercase h = "sha384" ∨ toLowercase h = "1" then .ok ZonemdTuple.sha384
  else if toLowercase h = "sha512" ∨ toLowercase h = "2" then .ok ZonemdTuple.sha512
  else .error "unknown ZONEMD algorithm name or number"

def parseZonemdTupleLdns (arg : String) : Except String ZonemdTuple :=
  match splitAt ':' arg.toList with
  | some (s, h) => do
      let scheme ← parseZonemdSchemeLdns (String.ofList s)
      let hashAlg ← parseZonemdHashAlgLdns (String.ofList h)
      return ⟨scheme, hashAlg⟩
  | none => do
      let hashAlg ← parseZonemdHashAlgLdns arg
      return ⟨ZonemdTuple.simple, hashAlg⟩

/-- Eight digits are a date without a time. -/
def parseTimestamp (values : Values) (arg : String) : Except String Timestamp :=
  let isDate := arg.utf8ByteSize = 8 ∧ (unsigned u32 arg).toBool = true
  (values.timestamp (if isDate then arg ++ "000000" else arg)).mapError fun err =>
    s!"Invalid timestamp: {err}"

/-- The credentials of notify. -/
def parseTsig (values : Values) (arg : String) : Except String Notification.TSigInfo :=
  let domain : DynamicUpdate.TsigDomain String Keyset.Name :=
    { algorithm := fun s => (values.tsigAlgorithm (String.ofList s)).toOption
      decodeBase64 := fun s => values.decodeBase64 (String.ofList s)
      keyName := fun s => values.tsigName (String.ofList s) }
  (DynamicUpdate.TSigInfo.fromStr domain arg.toList).map fun tsig =>
    ⟨tsig.name, tsig.key.map UInt8.toNat, tsig.algorithm⟩

/-! ## Reading a command line -/

section Reading

variable {Os State : Type}

/-- The option has been seen. -/
def set (state : State) : Handling Os State Command := .flag (.ok (.next state))

/-- Nothing behind the option matters. -/
def answer (command : Command) : Handling Os State Command := .flag (.ok (.stop command))

def refuse (message : String) : Handling Os State Command := .flag (.error message)

def goOn (read : Except String State) : Outcome State Command := read.map .next

/-- The option has a text. -/
def taking (read : Os → Except String State) : Handling Os State Command :=
  .text fun val => goOn (read val)

def invalidOption (x : Char) : String := s!"Invalid short option: -{x}"

def longOption (x : String) : String := s!"Long options are not supported, but `--{x}` given"

/-- The loop over the command line, and what comes behind it. -/
def readAll (reader : Reader Os State Command) (finish : State → Except String Command)
    (lexed : Lexed Os) (start : State) : Except String Command :=
  match reader.read lexed start with
  | .ok (.next state) => finish state
  | .ok (.stop command) => .ok command
  | .error reason => .error reason

end Reading

/-- An ldns tool and how it reads its arguments. -/
structure LdnsCommand (Os : Type) where
  name : String
  help : String
  compatibleVersion : String
  parseLdns : List Os → Except Fault Command

def reportHelp (help : String) : Command := .report help

def crateVersion : String := "0.2.0-alpha3"

def reportVersion (name compatibleVersion : String) : Command :=
  .report (s!"ldns-{name} provided by dnst v{crateVersion} " ++
    s!"(compatible with ldns v{compatibleVersion})")

/-- Errors are followed by the help text. -/
def LdnsCommand.parseLdnsArgs {Os : Type} (tool : LdnsCommand Os) (args : List Os) :
    Except Fault Command :=
  (tool.parseLdns args).mapError fun
    | .error e => .error s!"{e}\n\n{tool.help}"
    | .panic message => .panic message

end Dnst.Ldns
