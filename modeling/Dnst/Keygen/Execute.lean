import Dnst.Foundation.FileSteps
import Dnst.Keyset.Keys

/-! # The keygen subcommand

Paths are relative to the working directory, and texts are ASCII.
-/

namespace Dnst

open Effect FileSteps
open Keyset (Fault GenerateParams Dnskey Name SecurityAlgorithm bail expect mapErr)

/-! ## Files -/

namespace Util

abbrev FileState := FileSteps.State String Char
abbrev Files (Value : Type) := Effect FileState Fault Value

/-- A step on the files, with the message of its failure. -/
def perform (failures : Failures) (message : String → String) (step : Step String Char) :
    Files Unit := do
  let state ← get
  let outcome := attempt failures step state
  set outcome.2
  mapErr message outcome.1

/-- Create and open a file. -/
def createNewFile (failures : Failures) (path : String) (mode : Nat) : Files Unit :=
  perform failures (fun err => s!"cannot create '{path}': {err}") (.create path mode)

/-- Rename a file. -/
def renamePath (failures : Failures) (old new : String) : Files Unit :=
  perform failures (fun err => s!"could not move '{old}' to '{new}': {err}") (.move old new)

/-- Create a symlink. -/
def symlink (failures : Failures) (target link : String) : Files Unit :=
  perform failures (fun err => s!"could not create symlink '{link}' to '{target}': {err}")
    (.link target link)

/-- Create a symlink, overwriting if it already exists. -/
def symlinkForce (failures : Failures) (target link : String) : Files Unit := do
  let temp := link ++ ".new"
  symlink failures target temp
  renamePath failures temp link

/-- `write_all` on a file that has been created. -/
def writeAll (failures : Failures) (message : String → String) (path text : String) :
    Files Unit :=
  perform failures message (.write path text.toList)

end Util

/-! ## Arguments -/

/-- Symlinking behaviour. -/
inductive SymlinkArg where
  | no
  | yes
  | force
  deriving DecidableEq, Repr

/-- Whether symlinks should be created. -/
def SymlinkArg.create : SymlinkArg → Bool
  | .no => false
  | .yes => true
  | .force => true

structure Keygen where
  algorithm : SecurityAlgorithm
  bits : Option Nat
  makeKsk : Bool
  symlink : SymlinkArg
  name : Name
  invokedAsLdns : Bool
  deriving DecidableEq, Repr

namespace Keygen

open Util

/-- What is used of the `domain` crate. -/
structure Domain where
  /-- The text of the secret key and the public key. -/
  generate : GenerateParams → Nat → Except String (String × Dnskey)
  displayDnskey : Dnskey → String
  digest : Dnskey → Name → Nat → Except String (List UInt8)
  /-- The text of `Ds::new` by key tag, algorithm, digest algorithm and digest. -/
  newDs : Nat → SecurityAlgorithm → Nat → List UInt8 → Except String String

def defaultRsaKeylen : Nat := 2048

/-- What keeps the process from returning: standard output is closed. -/
inductive Ended where
  | returned
  | exited
  deriving DecidableEq, Repr

structure Environment where
  domain : Domain
  failures : Failures
  stdoutCloses : Bool

/-! ## Key generation -/

/-- Only allow the bits option when using RSA, unless invoked as ldns. -/
def checkBits (keygen : Keygen) : Files Unit :=
  if keygen.invokedAsLdns then
    return ()
  else
    match keygen.bits with
    | none => return ()
    | some _ =>
        if keygen.algorithm = 8 then return ()
        else bail "the --bits option is only allowed for RSA keys"

def unreachableCode : String := "internal error: entered unreachable code"

def generateParams (keygen : Keygen) : Files GenerateParams :=
  match keygen.algorithm with
  | 8 => return .rsaSha256 (keygen.bits.getD defaultRsaKeylen)
  | 13 => return .ecdsaP256Sha256
  | 14 => return .ecdsaP384Sha384
  | 15 => return .ed25519
  | 16 => return .ed448
  | _ => Keyset.panic unreachableCode

/-- The digest algorithm is selected based on the key algorithm. -/
def digestAlg (params : GenerateParams) : Files Nat :=
  match params with
  | .rsaSha256 _ => return 2
  | .ecdsaP256Sha256 => return 2
  | .ecdsaP384Sha384 => return 4
  | .ed25519 => return 2
  | .ed448 => return 2
  | _ => Keyset.panic unreachableCode

/-- A generated key with the digest of a key signing key. -/
structure Generated where
  secretKey : String
  publicKey : Dnskey
  digestAlg : Nat
  digest : Option (List UInt8)

def digestOf (domain : Domain) (keygen : Keygen) (publicKey : Dnskey) (digestAlg : Nat) :
    Files (Option (List UInt8)) :=
  if keygen.makeKsk then do
    let digest ← expect "only supported digest algorithms are used"
      (domain.digest publicKey keygen.name digestAlg)
    return some digest
  else
    return none

def generate (domain : Domain) (keygen : Keygen) : Files Generated := do
  checkBits keygen
  let params ← generateParams keygen
  let digestAlg ← digestAlg params
  let flags := if keygen.makeKsk then 257 else 256
  let (secretKey, publicKey) ← mapErr (fun err => s!"an implementation error occurred: {err}")
    (domain.generate params flags)
  let digest ← digestOf domain keygen publicKey digestAlg
  return { secretKey, publicKey, digestAlg, digest }

/-! ## The command -/

def base (keygen : Keygen) (publicKey : Dnskey) : String :=
  Keyset.keyFileBase keygen.name publicKey

/-- Create a symlink to the given location. -/
def link (keygen : Keygen) (failures : Failures) (target link : String) : Files Unit :=
  match keygen.symlink with
  | .no => return ()
  | .yes => Util.symlink failures target link
  | .force => Util.symlinkForce failures target link

def createDigestFile (failures : Failures) (keygen : Keygen) (base : String) : Files Unit :=
  if keygen.makeKsk then createNewFile failures (base ++ ".ds") 0o644 else return ()

def linkDigestFile (failures : Failures) (keygen : Keygen) (base : String) : Files Unit :=
  if keygen.makeKsk then keygen.link failures (base ++ ".ds") ".ds" else return ()

def publicKeyText (domain : Domain) (keygen : Keygen) (publicKey : Dnskey) : String :=
  s!"{keygen.name.fmtWithDot} IN DNSKEY {domain.displayDnskey publicKey}\n"

/-- The contents of the digest file. -/
def digestText (domain : Domain) (keygen : Keygen) (generated : Generated) :
    Files (Option String) :=
  match generated.digest with
  | none => return none
  | some digest => do
      let ds ← expect "we generated the digest, so don't expect it to be too long"
        (domain.newDs generated.publicKey.keyTag generated.publicKey.algorithm
          generated.digestAlg digest)
      return some s!"{keygen.name.fmtWithDot} IN DS {ds}\n"

def writeDigestFile (failures : Failures) (base : String) : Option String → Files Unit
  | none => return ()
  | some text =>
      writeAll failures (fun err => s!"error while writing digest file '{base}.ds': {err}")
        (base ++ ".ds") text

/-- What follows the generation of the key. -/
def writeKey (env : Environment) (keygen : Keygen) (generated : Generated) : Files Ended := do
  let base := base keygen generated.publicKey
  createNewFile env.failures (base ++ ".private") 0o600
  createNewFile env.failures (base ++ ".key") 0o644
  createDigestFile env.failures keygen base
  keygen.link env.failures (base ++ ".private") ".private"
  keygen.link env.failures (base ++ ".key") ".key"
  linkDigestFile env.failures keygen base
  let digest ← digestText env.domain keygen generated
  writeAll env.failures
    (fun err => s!"error while writing private key file '{base}.private': {err}")
    (base ++ ".private") generated.secretKey
  writeAll env.failures
    (fun err => s!"error while writing public key file '{base}.key': {err}")
    (base ++ ".key") (publicKeyText env.domain keygen generated.publicKey)
  writeDigestFile env.failures base digest
  -- `writeln!` ends the process when standard output is closed.
  return if env.stdoutCloses then .exited else .returned

def execute (env : Environment) (keygen : Keygen) : Files Ended := do
  let generated ← generate env.domain keygen
  writeKey env keygen generated

end Keygen

end Dnst
