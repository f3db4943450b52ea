import Dnst.Foundation.FileLinks
import Dnst.Keygen.Execute

/-! # The key2ds subcommand

Paths are relative to the working directory, and texts are ASCII.
-/

namespace Dnst

open Effect FileSteps
open Keyset (Fault Dnskey Name SecurityAlgorithm bail mapErr padZero expectMessage)

/-! ## Records -/

abbrev DigestAlgorithm := Nat

namespace DigestAlgorithm

def sha1 : DigestAlgorithm := 1

def sha256 : DigestAlgorithm := 2

def gost : DigestAlgorithm := 3

def sha384 : DigestAlgorithm := 4

end DigestAlgorithm

structure Key2ds where
  /-- Ignore SEP flag (i.e. make DS records for any key). -/
  ignoreSep : Bool
  /-- Do not write DS records to file(s) but to stdout. -/
  writeToStdout : Bool
  /-- Overwrite existing DS files. -/
  forceOverwrite : Bool
  /-- Algorithm to use for digest. -/
  algorithm : Option DigestAlgorithm
  /-- Keyfile to read. -/
  keyfile : String
  invokedAsLdns : Bool
  deriving DecidableEq, Repr

namespace Key2ds

structure Record (Data : Type) where
  owner : Name
  class' : Nat
  ttl : Nat
  data : Data
  deriving DecidableEq, Repr

inductive ScannedRecordData where
  | dnskey (key : Dnskey)
  | other
  deriving DecidableEq, Repr

/-- What a zonefile consists of. -/
inductive Entry where
  | record (record : Record ScannedRecordData)
  | include (path : String)
  deriving DecidableEq, Repr

structure Ds where
  keyTag : Nat
  algorithm : SecurityAlgorithm
  digestType : DigestAlgorithm
  digest : List UInt8
  deriving DecidableEq, Repr

/-- The data of a record has at most 65535 octets. -/
def Ds.new (keyTag : Nat) (algorithm : SecurityAlgorithm) (digestType : DigestAlgorithm)
    (digest : List UInt8) : Except String Ds :=
  if 4 + digest.length > 65535 then .error "record data too long"
  else .ok { keyTag, algorithm, digestType, digest }

def isSecureEntryPoint (key : Dnskey) : Bool := key.flags % 2 = 1

/-- What is used of the `domain` crate. -/
structure Domain where
  /-- The entries of a zonefile, up to the first that is malformed. -/
  zonefile : List Char → List (Except String Entry)
  digest : Dnskey → Name → DigestAlgorithm → Except String (List UInt8)
  displayZonefile : Record Ds → String
  displayClass : Nat → String
  displayDs : Ds → String

structure Environment where
  domain : Domain
  failures : Failures
  /-- Whether standard output is closed when so many lines have been printed. -/
  stdoutCloses : Nat → Bool

/-- The files and what has been printed. -/
structure World where
  files : Util.FileState
  stdout : List String

abbrev Run (Value : Type) := Effect World Fault Value

def onFiles {Value : Type} (action : Util.Files Value) : Run Value :=
  zoom World.files (fun world files => { world with files }) action

/-! ## The DS record of a key -/

def determineHashFromSecAlg (secAlg : SecurityAlgorithm) : Except String DigestAlgorithm :=
  match secAlg with
  | 8 | 10 | 15 | 16 | 13 => .ok DigestAlgorithm.sha256
  | 14 => .ok DigestAlgorithm.sha384
  | 12 => .ok DigestAlgorithm.gost
  | _ => .error ("Unable to derive digest algorithm from used key algorithm. " ++
      "Please select a digest algorithm using --algorithm.")

def digestAlg (key2ds : Key2ds) (secAlg : SecurityAlgorithm) : Except Fault DigestAlgorithm :=
  match key2ds.algorithm with
  | some alg => .ok alg
  | none =>
      if key2ds.invokedAsLdns then
        .ok ((determineHashFromSecAlg secAlg).toOption.getD DigestAlgorithm.sha1)
      else
        (determineHashFromSecAlg secAlg).mapError .error

def gostMessage : String :=
  "Error: the GOST algorithm is deprecated and must not be used. Try a different algorithm."

/-- The DS record of a key. -/
def dsRecord (domain : Domain) (key2ds : Key2ds) (record : Record Dnskey) :
    Except Fault (Record Ds) := do
  let digestAlg ← key2ds.digestAlg record.data.algorithm
  if digestAlg = DigestAlgorithm.gost then
    throw (.error gostMessage)
  let digest ← (domain.digest record.data record.owner digestAlg).mapError
    fun e => .error s!"Error computing digest: {e}"
  let ds ← (Ds.new record.data.keyTag record.data.algorithm digestAlg digest).mapError
    fun e => .panic (expectMessage
      "Infallible because the digest won't be too long since it's a valid digest" e)
  return { owner := record.owner, class' := record.class', ttl := record.ttl, data := ds }

/-- The keys that a DS record is made for. -/
def wanted (key2ds : Key2ds) : Entry → Option (Record Dnskey)
  | .include _ => none
  | .record ⟨owner, class', ttl, .dnskey dnskey⟩ =>
      if !key2ds.ignoreSep && !isSecureEntryPoint dnskey then none
      else some ⟨owner, class', ttl, dnskey⟩
  | .record _ => none

/-! ## Output -/

def keyname (rr : Record Ds) : String :=
  s!"K{rr.owner.fmtWithDot}+{padZero 3 rr.data.algorithm}+{padZero 5 rr.data.keyTag}"

def filename (rr : Record Ds) : String := keyname rr ++ ".ds"

def ldnsText (domain : Domain) (rr : Record Ds) : String :=
  let shown := domain.displayClass rr.class'
  s!"{rr.owner.fmtWithDot}\t{rr.ttl}\t{shown}\tDS\t{domain.displayDs rr.data}"

/-- The line for a record. -/
def text (domain : Domain) (key2ds : Key2ds) (rr : Record Ds) : String :=
  if key2ds.invokedAsLdns then ldnsText domain rr else domain.displayZonefile rr

/-- A line on standard output, unless that is closed, which ends the process. -/
def printLine (env : Environment) (line : String) : Run Keygen.Ended := do
  let world ← get
  if env.stdoutCloses world.stdout.length then
    return .exited
  else
    set { world with stdout := world.stdout ++ [line] }
    return .returned

/-- As ldns, nobody hears of a line that could not be printed. -/
def printRecord (env : Environment) (key2ds : Key2ds) (rr : Record Ds) : Run Keygen.Ended := do
  let ended ← printLine env (text env.domain key2ds rr)
  return if key2ds.invokedAsLdns then .returned else ended

def alreadyExists : String := "File exists (os error 17)"

/-- A bit of a nicer message than a "File exists" IO error. -/
def createNewMessage (filename reason : String) : String :=
  if reason = alreadyExists then
    s!"The file '{filename}' already exists, use the --force to overwrite"
  else
    s!"Could not create file \"{filename}\": {reason}"

/-- A call on the files, with the message of its failure. -/
def performCall {Value : Type} (failures : Failures) (message : String → String)
    (work : Directory String Char → Except String (Value × Directory String Char)) :
    Util.Files Value := do
  let state ← get
  let outcome := call failures work state
  set outcome.2
  mapErr message outcome.1

/-- Create the file of a record. The result is the path of the file that is open. -/
def createFile (env : Environment) (key2ds : Key2ds) (filename : String) :
    Util.Files String :=
  if key2ds.forceOverwrite then
    performCall env.failures (fun e => s!"Could not create file \"{filename}\": {e}")
      (truncateWork 0o666 filename)
  else do
    Util.perform env.failures (createNewMessage filename) (.create filename 0o666)
    return filename

def writeRecord (env : Environment) (key2ds : Key2ds) (rr : Record Ds) : Util.Files Unit := do
  let outFile ← createFile env key2ds (filename rr)
  Util.writeAll env.failures (fun e => s!"Could not write to file \"{filename rr}\": {e}")
    outFile (text env.domain key2ds rr ++ "\n")

def writeFile (env : Environment) (key2ds : Key2ds) (rr : Record Ds) : Run Keygen.Ended := do
  onFiles (writeRecord env key2ds rr)
  printLine env (keyname rr)

def output (env : Environment) (key2ds : Key2ds) (rr : Record Ds) : Run Keygen.Ended :=
  if key2ds.writeToStdout then printRecord env key2ds rr else writeFile env key2ds rr

/-! ## The command -/

/-- The DS record that an entry asks for. -/
def visit (domain : Domain) (key2ds : Key2ds) :
    Except String Entry → Except Fault (Option (Record Ds))
  | .error e => .error (.error
      s!"Error while reading public key from file \"{key2ds.keyfile}\": {e}")
  | .ok entry =>
      match key2ds.wanted entry with
      | none => .ok none
      | some record => (dsRecord domain key2ds record).map some

def processEntries (env : Environment) (key2ds : Key2ds) :
    List (Except String Entry) → Run Keygen.Ended
  | [] => return .returned
  | entry :: entries =>
      match visit env.domain key2ds entry with
      | .error fault => throw fault
      | .ok none => processEntries env key2ds entries
      | .ok (some rr) => do
          match ← output env key2ds rr with
          | .exited => return .exited
          | .returned => processEntries env key2ds entries

def readKeyfile (env : Environment) (key2ds : Key2ds) : Util.Files (List Char) := do
  let file ← performCall env.failures
    (fun e => s!"Failed to open public key file \"{key2ds.keyfile}\": {e}")
    (openWork key2ds.keyfile)
  let state ← get
  let outcome := call env.failures (readWork file) state
  set outcome.2
  match outcome.1 with
  | .ok content => return content
  | .error e => Keyset.panic (expectMessage "called `Result::unwrap()` on an `Err` value" e)

def execute (env : Environment) (key2ds : Key2ds) : Run Keygen.Ended := do
  let content ← onFiles (readKeyfile env key2ds)
  processEntries env key2ds (env.domain.zonefile content)

end Key2ds

end Dnst
