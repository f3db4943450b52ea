import Dnst.Ldns.Arguments

/-! # The ldns tools

For each tool its arguments while they are read, how it deals with an option and with a
value, and the command that comes of them.
-/

namespace Dnst.Ldns

open DynamicUpdate (splitAt)
open Keyset (Fault)
open ShortOptions
open Signzone (Octets Timestamp ZonemdTuple)

section Tools

variable {Os : Type}

/-! ## ldns-keygen -/

namespace KeygenLdns

def help : String :=
"ldns-keygen -a <algorithm> [-b bits] [-r /dev/random] [-s] [-f] [-v] domain
  generate a new key pair for domain
  -a <alg>	use the specified algorithm (-a list to show a list)
  -k		set the flags to 257; key signing key
  -b <bits>	specify the keylength (only used for RSA keys)
  -r <random>	randomness device (unused)
  -s		create additional symlinks with constant names
  -f		force override of existing symlinks
  -v		show the version and exit
  The following files will be created:
    K<name>+<alg>+<id>.key	Public key in RR format
    K<name>+<alg>+<id>.private	Private key in key format
    K<name>+<alg>+<id>.ds	DS in RR format (only for DNSSEC KSK keys)
  The base name (K<name>+<alg>+<id>) will be printed to stdout
"

def algsHelp : String :=
  "Supported algorithms:" ++ "\n- RSASHA256 (8)" ++ "\n- ECDSAP256SHA256 (13)" ++
    "\n- ECDSAP384SHA384 (14)" ++ "\n- ED25519 (15)" ++ "\n- ED448 (16)"

structure Parsed where
  algorithm : Option Keyset.SecurityAlgorithm := none
  makeKsk : Bool := false
  bits : Nat := 2048
  createSymlinks : Bool := false
  forceSymlinks : Bool := false
  name : Option Keyset.Name := none

def parseAlgorithm (s : String) : Except String Keyset.SecurityAlgorithm :=
  if s = "RSASHA256" ∨ s = "8" then .ok 8
  else if s = "ECDSAP256SHA256" ∨ s = "13" then .ok 13
  else if s = "ECDSAP384SHA384" ∨ s = "14" then .ok 14
  else if s = "ED25519" ∨ s = "15" then .ok 15
  else if s = "ED448" ∨ s = "16" then .ok 16
  else .error "unknown algorithm mnemonic or number"

def readAlgorithm (context : Context Os) (parsed : Parsed) (value : Os) :
    Outcome Parsed Command :=
  if context.os.toStr value = some "list" then .ok (.stop (.report algsHelp))
  else goOn do
    let algorithm ← parseOsWith context.os "algorithm (-a)" value parseAlgorithm
    return { parsed with algorithm := some algorithm }

def short (context : Context Os) : Char → Parsed → Handling Os Parsed Command
  | 'a', parsed =>
      if parsed.algorithm.isSome then refuse "cannot specify algorithm (-a) more than once"
      else .text (readAlgorithm context parsed)
  | 'k', parsed => set { parsed with makeKsk := true }
  | 'b', parsed => taking fun val => do
      let bits ← parseOsWith context.os "bits (-b)" val (unsigned u32)
      return { parsed with bits }
  | 'r', _ => refuse "a custom source of randomness (-r) is not supported"
  | 's', parsed => set { parsed with createSymlinks := true }
  | 'f', parsed => set { parsed with forceSymlinks := true }
  | 'v', _ => answer (reportVersion "keygen" "1.8.4")
  | x, _ => refuse (invalidOption x)

def value (context : Context Os) (val : Os) (parsed : Parsed) : Outcome Parsed Command :=
  if parsed.name.isSome then .error "cannot specify multiple domain names"
  else goOn do
    let name ← parseOsWith context.os "domain name" val context.values.name
    return { parsed with name := some name }

def reader (context : Context Os) : Reader Os Parsed Command where
  short := short context
  value := value context
  long := longOption

def symlink (parsed : Parsed) : SymlinkArg :=
  match parsed.createSymlinks, parsed.forceSymlinks with
  | true, true => .force
  | true, false => .yes
  | false, _ => .no

def finish (parsed : Parsed) : Except String Command :=
  match parsed.algorithm with
  | none => .error "Missing algorithm (-a) option"
  | some algorithm =>
      match parsed.name with
      | none => .error "Missing domain name argument"
      | some name => .ok (.keygen
          { algorithm
            bits := some parsed.bits
            makeKsk := parsed.makeKsk
            symlink := symlink parsed
            name
            invokedAsLdns := true })

def command (context : Context Os) : LdnsCommand Os where
  name := "keygen"
  help := help
  compatibleVersion := "1.8.4"
  parseLdns args := (readAll (reader context) finish (context.lex args) {}).mapError .error

end KeygenLdns

/-! ## ldns-key2ds -/

namespace Key2dsLdns

def help : String :=
"ldns-key2ds [-fn] [-1|-2|-4] keyfile
  Generate a DS RR from the DNSKEYS in keyfile
  The following file will be created for each key:
  `K<name>+<alg>+<id>.ds`. The base name `K<name>+<alg>+<id>`
  will be printed to stdout.

Options:
  -f: ignore SEP flag (i.e. make DS records for any key)
  -n: do not write DS records to file(s) but to stdout
  (default) use similar hash to the key algorithm
  -1: use SHA1 for the DS hash
  -2: use SHA256 for the DS hash
  -4: use SHA384 for the DS hash"

structure Parsed where
  ignoreSep : Bool := false
  writeToStdout : Bool := false
  algorithm : Option DigestAlgorithm := none
  keyfile : Option String := none

def short : Char → Parsed → Handling Os Parsed Command
  | '1', parsed => set { parsed with algorithm := some DigestAlgorithm.sha1 }
  | '2', parsed => set { parsed with algorithm := some DigestAlgorithm.sha256 }
  | '4', parsed => set { parsed with algorithm := some DigestAlgorithm.sha384 }
  | 'f', parsed => set { parsed with ignoreSep := true }
  | 'n', parsed => set { parsed with writeToStdout := true }
  | x, _ => refuse (invalidOption x)

/-- A key file need not be named in Unicode. -/
def value (context : Context Os) (val : Os) (parsed : Parsed) : Outcome Parsed Command :=
  if parsed.keyfile.isSome then .error "Only one keyfile is allowed"
  else .ok (.next { parsed with keyfile := some (context.os.path val) })

def reader (context : Context Os) : Reader Os Parsed Command where
  short := short
  value := value context
  long := longOption

/-- Preventing overwriting files is not present in the ldns version. -/
def finish (parsed : Parsed) : Except String Command :=
  match parsed.keyfile with
  | none => .error "No keyfile given"
  | some keyfile => .ok (.key2ds
      { ignoreSep := parsed.ignoreSep
        writeToStdout := parsed.writeToStdout
        algorithm := parsed.algorithm
        forceOverwrite := true
        keyfile
        invokedAsLdns := true })

def command (context : Context Os) : LdnsCommand Os where
  name := "key2ds"
  help := help
  compatibleVersion := "1.8.4"
  parseLdns args := (readAll (reader context) finish (context.lex args) {}).mapError .error

end Key2dsLdns

/-! ## ldns-nsec3-hash -/

namespace Nsec3HashLdns

def help : String :=
"ldns-nsec3-hash [OPTIONS] <domain name>
  prints the NSEC3 hash of the given domain name
-a [algorithm] hashing algorithm
-t [number] number of hash iterations
-s [string] salt
"

structure Parsed where
  algorithm : Nat := 1
  iterations : UInt16 := 0
  salt : List UInt8 := []
  name : Option Nsec3Hash.Name := none

def short (context : Context Os) : Char → Parsed → Handling Os Parsed Command
  | 'a', parsed => taking fun val => do
      let algorithm ← parseOsWith context.os "algorithm (-a)" val
        (parseNsec3AlgAsNum context.values)
      return { parsed with algorithm }
  | 's', parsed => taking fun val => do
      let salt ← parseOsWith context.os "salt (-s)" val (parseSalt context.values)
      return { parsed with salt }
  | 't', parsed => taking fun val => do
      let iterations ← parseOsWith context.os "iterations (-t)" val (unsigned u16)
      return { parsed with iterations := UInt16.ofNat iterations }
  | x, _ => refuse (invalidOption x)

/-- Only the first domain name is used, as ldns does. -/
def value (context : Context Os) (val : Os) (parsed : Parsed) : Outcome Parsed Command :=
  if parsed.name.isSome then .ok (.next parsed)
  else goOn do
    let name ← parseOsWith context.os "domain name" val context.values.hashedName
    return { parsed with name := some name }

def reader (context : Context Os) : Reader Os Parsed Command where
  short := short context
  value := value context
  long := longOption

def finish (parsed : Parsed) : Except String Command :=
  match parsed.name with
  | none => .error "Missing domain name argument"
  | some name => .ok (.nsec3Hash
      { algorithm := parsed.algorithm
        iterations := parsed.iterations
        salt := parsed.salt
        findPrefix := none
        name })

def command (context : Context Os) : LdnsCommand Os where
  name := "nsec3-hash"
  help := help
  compatibleVersion := "1.8.4"
  parseLdns args := (readAll (reader context) finish (context.lex args) {}).mapError .error

end Nsec3HashLdns

/-! ## ldns-notify -/

namespace NotifyLdns

def help : String :=
"usage: ldns-notify [other options] -z zone <servers>
Ldns notify utility

 Supported options:
        -z zone         The zone
        -I <address>    source address to query from (currently unsupported)
        -s version      SOA version number to include
        -y <name:key[:algo]>    specify named base64 tsig key, and optional an
                        algorithm (defaults to hmac-md5.sig-alg.reg.int)
        -p port         port to use to send to
        -v              Print version information
        -d              Print verbose debug information
        -r num          max number of retries (15)
        -h              Print this help information

Report bugs to <dns-team@nlnetlabs.nl>
"

structure Parsed where
  zone : Option Notification.Name := none
  soaVersion : Option Nat := none
  tsig : Option Notification.TSigInfo := none
  port : Nat := 53
  debug : Bool := false
  retries : Nat := 15
  servers : List String := []
  sourceAddress : Option Notification.SocketAddr := none

def short (context : Context Os) : Char → Parsed → Handling Os Parsed Command
  | 'z', parsed => taking fun val => do
      let zone ← parseOsWith context.os "zone (-z)" val context.values.name
      return { parsed with zone := some zone }
  | 'I', parsed => taking fun val => do
      let address ← parseOsWith context.os "ip (-I)" val context.values.socketAddr
      return { parsed with sourceAddress := some address }
  | 's', parsed => taking fun val => do
      let version ← parseOsWith context.os "soa version (-s)" val (unsigned u32)
      return { parsed with soaVersion := some version }
  | 'y', parsed => taking fun val => do
      let tsig ← parseOsWith context.os "tsig key (-y)" val (parseTsig context.values)
      return { parsed with tsig := some tsig }
  | 'p', parsed => taking fun val => do
      let port ← parseOsWith context.os "port (-p)" val (unsigned u16)
      return { parsed with port }
  | 'd', parsed => set { parsed with debug := true }
  | 'r', parsed => taking fun val => do
      let retries ← parseOsWith context.os "retries (-r)" val (unsigned u8)
      return { parsed with retries }
  | 'h', _ => answer (reportHelp help)
  | 'v', _ => answer (reportVersion "notify" "1.8.4")
  | x, _ => refuse (invalidOption x)

def value (context : Context Os) (val : Os) (parsed : Parsed) : Outcome Parsed Command := goOn do
  let server ← parseOsWith context.os "server" val anyText
  return { parsed with servers := parsed.servers ++ [server] }

def reader (context : Context Os) : Reader Os Parsed Command where
  short := short context
  value := value context
  long := longOption

def finish (parsed : Parsed) : Except String Command :=
  match parsed.zone with
  | none => .error "Missing zone name argument"
  | some zone =>
      if parsed.servers.isEmpty then .error "Missing servers"
      else .ok (.notify
        { zone
          sourceAddress := parsed.sourceAddress
          soaVersion := parsed.soaVersion
          tsig := parsed.tsig
          port := parsed.port
          debug := parsed.debug
          retries := parsed.retries
          servers := parsed.servers })

def command (context : Context Os) : LdnsCommand Os where
  name := "notify"
  help := help
  compatibleVersion := "1.8.4"
  parseLdns args := (readAll (reader context) finish (context.lex args) {}).mapError .error

end NotifyLdns

/-! ## ldns-signzone -/

namespace SignZoneLdns

def help : String :=
"ldns-signzone [OPTIONS] zonefile key [key [key]]
  signs the zone with the given key(s)
  -b            use layout in signed zone and print comments DNSSEC records
  -d            used keys are not added to the zone
  -e <date>     expiration date
  -f <file>     output zone to file (default <name>.signed)
  -i <date>     inception date
  -o <domain>   origin for the zone
  -u            set SOA serial to the number of seconds since 1-1-1970
  -v            print version and exit
  -z <[scheme:]hash>    Add ZONEMD resource record
                <scheme> should be \"simple\" (or 1)
                <hash> should be \"sha384\" or \"sha512\" (or 1 or 2)
                this option can be given more than once
  -Z            Allow ZONEMDs to be added without signing
  -A            sign DNSKEY with all keys instead of minimal
  -U            Sign with every unique algorithm in the provided keys
  -n            use NSEC3 instead of NSEC.
                If you use NSEC3, you can specify the following extra options:
                -a [algorithm] hashing algorithm
                -t [number] number of hash iterations
                -s [string] salt
                -p set the opt-out flag on all nsec3 rrs

  keys must be specified by their base name (usually K<name>+<alg>+<id>),
  i.e. WITHOUT the .private extension.
  If the public part of the key is not present in the zone, the DNSKEY RR
  will be read from the file called <base name>.key.
  A date can be a timestamp (seconds since the epoch), or of
  the form <YYYYMMdd[hhmmss]>
"

structure Parsed where
  extraComments : Bool := false
  doNotAddKeysToZone : Bool := false
  expiration : Timestamp
  outFile : Option String := none
  inception : Timestamp
  origin : Option Signzone.Name := none
  setSoaSerialToEpochTime : Bool := false
  zonemd : List ZonemdTuple := []
  allowZonemdWithoutSigning : Bool := false
  signDnskeysWithAllKeys : Bool := false
  signWithEveryUniqueAlgorithm : Bool := false
  useNsec3 : Bool := false
  algorithm : Nat := 1
  iterations : Nat := 1
  salt : Octets := []
  nsec3OptOutFlagsOnly : Bool := false
  preceedZoneWithHashList : Bool := false
  keyPaths : List String := []
  zonefile : Option String := none

/-- ldns treats 0 as unset. -/
def isUnset (context : Context Os) (val : Os) : Bool :=
  match unsigned usize ((context.os.toStr val).getD "") with
  | .ok number => number = 0
  | .error _ => false

/-- A time, or the one before when there is none. -/
def readTime (context : Context Os) (before : Timestamp) (val : Os) : Except String Timestamp :=
  if isUnset context val then .ok before
  else parseOsWith context.os "-e" val (parseTimestamp context.values)

def short (context : Context Os) : Char → Parsed → Handling Os Parsed Command
  | 'b', parsed => set { parsed with extraComments := true }
  | 'd', parsed => set { parsed with doNotAddKeysToZone := true }
  | 'e', parsed => taking fun val => do
      let expiration ← readTime context parsed.expiration val
      return { parsed with expiration }
  | 'f', parsed => taking fun val => do
      let outFile ← parseOsWith context.os "-f" val anyText
      return { parsed with outFile := some outFile }
  | 'i', parsed => taking fun val => do
      let inception ← readTime context parsed.inception val
      return { parsed with inception }
  | 'o', parsed => taking fun val => do
      let origin ← parseOsWith context.os "-o" val context.values.storedName
      return { parsed with origin := some origin }
  | 'u', parsed => set { parsed with setSoaSerialToEpochTime := true }
  | 'z', parsed => taking fun val => do
      let tuple ← parseOsWith context.os "-z" val parseZonemdTupleLdns
      return { parsed with zonemd := parsed.zonemd ++ [tuple] }
  | 'Z', parsed => set { parsed with allowZonemdWithoutSigning := true }
  | 'A', parsed => set { parsed with signDnskeysWithAllKeys := true }
  | 'U', parsed => set { parsed with signWithEveryUniqueAlgorithm := true }
  | 'v', _ => answer (reportVersion "signzone" "1.8.4")
  | 'n', parsed => set { parsed with useNsec3 := true }
  | 'a', parsed => taking fun val => do
      let algorithm ← parseOsWith context.os "-a" val (parseNsec3Alg context.values)
      return { parsed with algorithm }
  | 't', parsed => taking fun val => do
      let iterations ← parseOsWith context.os "-t" val (unsigned u16)
      return { parsed with iterations }
  | 's', parsed => taking fun val => do
      let salt ← parseOsWith context.os "-s" val context.values.salt
      return { parsed with salt := salt.map UInt8.toNat }
  | 'p', parsed => set { parsed with nsec3OptOutFlagsOnly := true }
  | x, _ => refuse (invalidOption x)

def value (context : Context Os) (val : Os) (parsed : Parsed) : Outcome Parsed Command :=
  if parsed.zonefile.isNone then goOn do
    let zonefile ← parseOsWith context.os "zonefile" val anyText
    return { parsed with zonefile := some zonefile }
  else goOn do
    let key ← parseOsWith context.os "key" val anyText
    return { parsed with keyPaths := parsed.keyPaths ++ [key] }

def reader (context : Context Os) : Reader Os Parsed Command where
  short := short context
  value := value context
  long := longOption

def fourWeeks : Nat := 2419200

/-- An addition of two `u32`, with or without overflow checks. -/
def addU32 (checked : Bool) (left right : Nat) : Except Fault Nat :=
  if left + right < u32 then .ok (left + right)
  else if checked then .error (.panic Nsec3Hash.addOverflow)
  else .ok ((left + right) % u32)

/-- Comments are only written to a file. -/
def finalComments (parsed : Parsed) : Bool :=
  if parsed.outFile = some "-" then false else parsed.extraComments

def toSignZone (parsed : Parsed) (zonefilePath : String) : Signzone.SignZone where
  extraComments := finalComments parsed
  doNotAddKeysToZone := parsed.doNotAddKeysToZone
  expiration := parsed.expiration
  outFile := parsed.outFile
  inception := parsed.inception
  origin := parsed.origin
  setSoaSerialToEpochTime := parsed.setSoaSerialToEpochTime
  useNsec3 := parsed.useNsec3
  signDnskeysWithAllKeys := parsed.signDnskeysWithAllKeys
  signWithEveryUniqueAlgorithm := parsed.signWithEveryUniqueAlgorithm
  zonemd := parsed.zonemd
  allowZonemdWithoutSigning := parsed.allowZonemdWithoutSigning
  algorithm := parsed.algorithm
  iterations := parsed.iterations
  salt := parsed.salt
  nsec3OptOutFlagsOnly := parsed.nsec3OptOutFlagsOnly
  nsec3OptOut := false
  hashOnly := false
  preceedZoneWithHashList :=
    parsed.preceedZoneWithHashList && (finalComments parsed && parsed.useNsec3)
  orderNsec3RrsByUnhashedOwnerName := true
  orderRrsigsAfterTheRtypeTheyCover := true
  useYyyymmddhhmmssRrsigFormat := true
  zonefilePath := zonefilePath
  keyPaths := parsed.keyPaths
  invokedAsLdns := true

def finish (parsed : Parsed) : Except String Command :=
  match parsed.zonefile with
  | none => .error "Missing zonefile argument"
  | some zonefilePath =>
      if parsed.keyPaths.isEmpty ∧ parsed.allowZonemdWithoutSigning = false then
        .error "No keys to sign with. Aborting."
      else .ok (.signZone (toSignZone parsed zonefilePath))

def start (context : Context Os) (expiration : Timestamp) : Parsed :=
  { expiration, inception := context.now }

def command (context : Context Os) : LdnsCommand Os where
  name := "signzone"
  help := help
  compatibleVersion := "1.8.4"
  parseLdns args := do
    let expiration ← addU32 context.checked context.now fourWeeks
    (readAll (reader context) finish (context.lex args) (start context expiration)).mapError
      .error

end SignZoneLdns

/-! ## ldns-update -/

namespace UpdateLdns

def help : String :=
"ldns-update domain [zone] ip tsig_name tsig_alg tsig_hmac
    send a dynamic update packet to <ip>

    Use 'none' instead of ip to remove any previous address
    If 'zone'  is not specified, try to figure it out from the zone's SOA
    Example: ldns-update my.example.org 1.2.3.4

This command exists for compatibility purposes.
For a more modern version of this command try `dnst update`"

/-- The arguments by their number, those of TSIG as name, algorithm and key. -/
def split : List Os → Except String (Os × Option Os × Os × Option (Os × Os × Os))
  | [domain, ip] => .ok (domain, none, ip, none)
  | [domain, zone, ip] => .ok (domain, some zone, ip, none)
  | [domain, ip, tsigName, tsigAlg, tsigHmac] =>
      .ok (domain, none, ip, some (tsigName, tsigAlg, tsigHmac))
  | [domain, zone, ip, tsigName, tsigAlg, tsigHmac] =>
      .ok (domain, some zone, ip, some (tsigName, tsigAlg, tsigHmac))
  | args =>
      if args.length < 2 then
        .error "Not enough arguments. ldns-update requires at least 2 arguments"
      else if args.length > 6 then
        .error "Too many arguments. ldns-update requires at most 6 arguments"
      else .error "Cannot take 4 arguments. ldns-update needs 2, 3, 5 or 6 arguments"

def readIp (context : Context Os) (ip : Os) : Except String (Option DynamicUpdate.Address) :=
  if context.os.toStr ip = some "none" then .ok none
  else (parseOsWith context.os "IP address" ip context.values.ipAddr).map some

def readZone (context : Context Os) : Option Os → Except String (Option DynamicUpdate.Name)
  | none => .ok none
  | some zone => (parseOsWith context.os "zone" zone context.values.name).map some

def readTsig (context : Context Os) : Option (Os × Os × Os) → Except String (Option TSigInfo)
  | none => .ok none
  | some (name, algorithm, key) => do
      let name ← parseOsWith context.os "TSIG name" name context.values.tsigName
      let key ← parseOsWith context.os "TSIG key" key context.values.decodeBase64
      let algorithm ← parseOsWith context.os "TSIG algorithm" algorithm
        context.values.tsigAlgorithm
      return some { name, key, algorithm }

def parse (context : Context Os) (args : List Os) : Except String Command := do
  let (domain, zone, ip, tsig) ← split args
  let domain ← parseOsWith context.os "domain name" domain context.values.name
  let ip ← readIp context ip
  let zone ← readZone context zone
  let tsig ← readTsig context tsig
  return .ldnsUpdate { domain, ip, zone, tsig }

def command (context : Context Os) : LdnsCommand Os where
  name := "update"
  help := help
  compatibleVersion := "1.8.4"
  parseLdns args := (parse context args).mapError .error

end UpdateLdns

/-! ## By the name of the program -/

/-- The file name without any extensions. -/
def extractBinaryName (os : OsStrings Os) (path : Os) : Except String String :=
  match os.fileName path with
  | none => .error "Missing binary file name"
  | some filename =>
      match os.toStr filename with
      | none => .error "Binary file name is not valid unicode"
      | some filename =>
          match splitAt '.' filename.toList with
          | some (binary, _) => .ok (String.ofList binary)
          | none => .ok filename

/-- `strip_prefix`. -/
def stripPrefix (start text : String) : Option String :=
  if start.toList.isPrefixOf text.toList then
    some (String.ofList (text.toList.drop start.length))
  else none

def tools (context : Context Os) : List (LdnsCommand Os) :=
  [Key2dsLdns.command context, NotifyLdns.command context, KeygenLdns.command context,
    Nsec3HashLdns.command context, SignZoneLdns.command context, UpdateLdns.command context]

/-- Only the ldns tools are told by the name of the program. -/
def parseAs (context : Context Os) (binaryName : String) (args : List Os) :
    Except Fault (Option Args) :=
  match stripPrefix "ldns-" binaryName with
  | none => .ok none
  | some name =>
      match (tools context).find? (·.name = name) with
      | none => .error (.error s!"Unrecognized ldns command 'ldns-{name}'")
      | some tool => (tool.parseLdnsArgs args).map fun command => some (.ofCommand command)

def tryLdnsCompatibility (context : Context Os) : List Os → Except Fault (Option Args)
  | [] => .error (.error "Missing binary name")
  | binaryPath :: args => do
      let binaryName ← (extractBinaryName context.os binaryPath).mapError .error
      parseAs context binaryName args

end Tools

end Dnst.Ldns
