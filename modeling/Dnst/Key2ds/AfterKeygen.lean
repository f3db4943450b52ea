import Dnst.Key2ds.Outputs

/-! # The DS record of a key that keygen has made

The digest file of keygen and the one of key2ds have the same name and are about the same
digest.
-/

namespace Dnst.Key2ds

open Effect FileSteps
open Keygen (Ended Generated Generates Complete publicKeyText keyFiles)
open Keyset (Fault Dnskey SecurityAlgorithm mapErr expect)

/-! ## What keygen has made -/

section Made

variable {env : Keygen.Environment} {keygen : Keygen} {generated : Generated}
variable {directory : Directory String Char} {ended : Ended} {final : Util.FileState}

theorem expect_eq_ok {Value State : Type} {message : String} {result : Except String Value}
    {state after : State} {value : Value}
    (run : exec (expect message result : Effect State Fault Value) state = (.ok value, after)) :
    result = .ok value := by
  cases result with
  | ok other =>
      cases run
      rfl
  | error reason => cases run

/-- The digest algorithm of keygen is the one that key2ds derives. -/
theorem digestAlg_eq {params : Keyset.GenerateParams} {alg : Nat} {state middle after :
      Util.FileState}
    (first : exec (Keygen.generateParams keygen) state = (.ok params, middle))
    (second : exec (Keygen.digestAlg params) middle = (.ok alg, after)) :
    determineHashFromSecAlg keygen.algorithm = .ok alg ∧ alg ≠ DigestAlgorithm.gost := by
  unfold Keygen.generateParams at first
  split at first
  all_goals cases first
  all_goals
    cases second
    next found =>
      rw [found]
      exact ⟨rfl, by decide⟩

theorem digest_of_generates (generates : Generates env keygen directory generated)
    (ksk : keygen.makeKsk = true) :
    (determineHashFromSecAlg keygen.algorithm = .ok generated.digestAlg ∧
        generated.digestAlg ≠ DigestAlgorithm.gost) ∧
      ∃ digest, generated.digest = some digest ∧
        env.domain.digest generated.publicKey keygen.name generated.digestAlg =
          .ok digest := by
  unfold Generates Keygen.generate at generates
  rcases exec_bind_eq_ok.mp generates with ⟨_, _, _, generates⟩
  rcases exec_bind_eq_ok.mp generates with ⟨params, _, isParams, generates⟩
  rcases exec_bind_eq_ok.mp generates with ⟨alg, _, isAlg, generates⟩
  rcases exec_bind_eq_ok.mp generates with ⟨key, _, _, generates⟩
  rcases exec_bind_eq_ok.mp generates with ⟨digest, _, isDigest, generates⟩
  cases generates
  refine ⟨digestAlg_eq isParams isAlg, ?_⟩
  unfold Keygen.digestOf at isDigest
  rw [if_pos ksk] at isDigest
  rcases exec_bind_eq_ok.mp isDigest with ⟨octets, _, isOctets, isDigest⟩
  cases isDigest
  exact ⟨octets, rfl, expect_eq_ok isOctets⟩

theorem writeKey_of_run (generates : Generates env keygen directory generated)
    (made : Keygen.run env keygen directory = (.ok ended, final)) :
    exec (Keygen.writeKey env keygen generated) ⟨directory, 0⟩ = (.ok ended, final) := by
  unfold Keygen.run Keygen.execute at made
  rw [exec_bind_of_ok generates] at made
  exact made

theorem complete_of_run (generates : Generates env keygen directory generated)
    (made : Keygen.run env keygen directory = (.ok ended, final)) :
    Complete keygen.symlink (keyFiles env.domain keygen generated) final.directory := by
  have agrees : generated.digest.isSome = keygen.makeKsk := by
    rcases Keygen.generate_reads ⟨directory, 0⟩ with ⟨_, returns⟩
    apply returns generated
    exact congrArg Prod.fst generates
  have wrote := writeKey_of_run generates made
  have apart := Keygen.keyFiles_apart env.domain keygen generated
  rcases Keygen.performs_writeKey env keygen generated agrees ⟨directory, 0⟩ with
    ⟨value, after, returned, steps⟩ | ⟨message, reason, after, failed, _⟩ |
    ⟨message, after, panicked⟩
  · rw [wrote] at returned
    cases returned
    constructor
    · intro file member
      rw [runSteps_ok steps]
      exact Keygen.plan_content apart member
    · intro create file member
      rw [runSteps_ok steps]
      exact Keygen.plan_link apart member create
  · rw [wrote] at failed
    cases failed
  · rw [wrote] at panicked
    cases panicked

/-- The digest file is complete, and its text is about this digest. -/
theorem digestFile_of_run {digest : List UInt8}
    (generates : Generates env keygen directory generated)
    (made : Keygen.run env keygen directory = (.ok ended, final))
    (isDigest : generated.digest = some digest) :
    ∃ ds, env.domain.newDs generated.publicKey.keyTag generated.publicKey.algorithm
        generated.digestAlg digest = .ok ds ∧
      final.directory (Keygen.base keygen generated.publicKey ++ ".ds") =
        some (.file 0o644 (s!"{keygen.name.fmtWithDot} IN DS {ds}\n").toList) := by
  have complete := complete_of_run generates made
  have wrote := writeKey_of_run generates made
  unfold Keygen.writeKey at wrote
  rcases exec_bind_eq_ok.mp wrote with ⟨_, _, _, wrote⟩
  rcases exec_bind_eq_ok.mp wrote with ⟨_, _, _, wrote⟩
  rcases exec_bind_eq_ok.mp wrote with ⟨_, _, _, wrote⟩
  rcases exec_bind_eq_ok.mp wrote with ⟨_, _, _, wrote⟩
  rcases exec_bind_eq_ok.mp wrote with ⟨_, _, _, wrote⟩
  rcases exec_bind_eq_ok.mp wrote with ⟨_, _, _, wrote⟩
  rcases exec_bind_eq_ok.mp wrote with ⟨found, _, isText, _⟩
  unfold Keygen.digestText at isText
  rw [isDigest] at isText
  rcases exec_bind_eq_ok.mp isText with ⟨ds, _, isDs, _⟩
  refine ⟨ds, expect_eq_ok isDs, ?_⟩
  have content := complete.content
    ⟨Keygen.base keygen generated.publicKey ++ ".ds", ".ds", 0o644,
      Keygen.dsText env.domain keygen generated digest⟩
    (by simp [keyFiles, Keygen.digestFiles, isDigest])
  have text : Keygen.dsText env.domain keygen generated digest =
      s!"{keygen.name.fmtWithDot} IN DS {ds}\n" := by
    unfold Keygen.dsText
    rw [expect_eq_ok isDs]
  rw [text] at content
  exact content

end Made

/-! ## key2ds behind it -/

theorem dsRecord_eq {domain : Domain} {key2ds : Key2ds} {record : Record Dnskey}
    {alg : DigestAlgorithm} {digest : List UInt8} {ds : Ds}
    (isAlg : key2ds.digestAlg record.data.algorithm = .ok alg)
    (noGost : alg ≠ DigestAlgorithm.gost)
    (isDigest : domain.digest record.data record.owner alg = .ok digest)
    (isDs : Ds.new record.data.keyTag record.data.algorithm alg digest = .ok ds) :
    dsRecord domain key2ds record = .ok ⟨record.owner, record.class', record.ttl, ds⟩ := by
  unfold dsRecord
  rw [isAlg]
  change (if alg = DigestAlgorithm.gost then _ else _) = _
  rw [if_neg noGost, isDigest]
  change (Except.mapError _ (Ds.new _ _ alg digest) >>= _) = _
  rw [isDs]
  rfl

/-- What the two commands rely on for this key: the same digests, that the text of the
public key is read back, and that the key is as it was asked for. -/
structure ReadsBack (keygenDomain : Keygen.Domain) (domain : Domain) (keygen : Keygen)
    (key : Dnskey) (class' ttl : Nat) : Prop where
  digest : domain.digest = keygenDomain.digest
  digestLength : ∀ alg digest, domain.digest key keygen.name alg = .ok digest →
    digest.length ≤ 48
  zonefile : domain.zonefile (publicKeyText keygenDomain keygen key).toList =
    [.ok (.record ⟨keygen.name, class', ttl, .dnskey key⟩)]
  algorithm : key.algorithm = keygen.algorithm
  flags : key.flags = 257

/-- The DS record of a key that keygen has made. -/
def madeRecord (keygen : Keygen) (generated : Generated) (class' ttl : Nat)
    (digest : List UInt8) : Record Ds :=
  ⟨keygen.name, class', ttl, ⟨generated.publicKey.keyTag, generated.publicKey.algorithm,
    generated.digestAlg, digest⟩⟩

section Behind

variable {keygenEnv : Keygen.Environment} {env : Environment} {keygen : Keygen}
variable {key2ds : Key2ds} {generated : Generated} {class' ttl : Nat} {digest : List UInt8}
variable {directory : Directory String Char} {ended : Ended} {final : Util.FileState}

theorem plan_made (generates : Generates keygenEnv keygen directory generated)
    (ksk : keygen.makeKsk = true) (isDigest : generated.digest = some digest)
    (readsBack : ReadsBack keygenEnv.domain env.domain keygen generated.publicKey class' ttl)
    (derives : key2ds.algorithm = none) :
    plan env.domain key2ds (env.domain.zonefile
        (publicKeyText keygenEnv.domain keygen generated.publicKey).toList) =
      ([madeRecord keygen generated class' ttl digest], .ok ()) := by
  rcases digest_of_generates generates ksk with
    ⟨⟨isAlg, noGost⟩, octets, isOctets, digested⟩
  rw [isDigest] at isOctets
  cases isOctets
  have wanted : key2ds.wanted (.record ⟨keygen.name, class', ttl, .dnskey generated.publicKey⟩) =
      some ⟨keygen.name, class', ttl, generated.publicKey⟩ := by
    simp [Key2ds.wanted, isSecureEntryPoint, readsBack.flags]
  have alg : key2ds.digestAlg generated.publicKey.algorithm = .ok generated.digestAlg := by
    unfold Key2ds.digestAlg
    rw [derives, readsBack.algorithm, isAlg]
    simp [Except.toOption, Except.mapError]
  have short := readsBack.digestLength _ _ (by rw [readsBack.digest]; exact digested)
  have isDs : Ds.new generated.publicKey.keyTag generated.publicKey.algorithm
      generated.digestAlg digest = .ok (madeRecord keygen generated class' ttl digest).data := by
    unfold Ds.new
    rw [if_neg (by omega)]
    rfl
  have record : dsRecord env.domain key2ds
      ⟨keygen.name, class', ttl, generated.publicKey⟩ =
      .ok (madeRecord keygen generated class' ttl digest) := by
    apply dsRecord_eq alg noGost _ isDs
    rw [readsBack.digest]
    exact digested
  rw [readsBack.zonefile]
  simp only [plan, visit, wanted, record, Except.map]

theorem filename_made : filename (madeRecord keygen generated class' ttl digest) =
    Keygen.base keygen generated.publicKey ++ ".ds" := rfl

theorem follow_file {links mode : Nat} {path : String} {content : List Char}
    (file : directory path = some (.file mode content)) :
    follow directory links path = some path := by
  apply follow_self
  intro target isLink
  rw [file] at isLink
  cases isLink

/-- The key file, by its name or by the link to it. -/
theorem leads_to_key (complete : Complete keygen.symlink
      (keyFiles keygenEnv.domain keygen generated) directory)
    (named : key2ds.keyfile = Keygen.base keygen generated.publicKey ++ ".key" ∨
      keygen.symlink.create = true ∧ key2ds.keyfile = ".key") :
    follow directory maxLinks key2ds.keyfile =
        some (Keygen.base keygen generated.publicKey ++ ".key") ∧
      directory (Keygen.base keygen generated.publicKey ++ ".key") = some (.file 0o644
        (publicKeyText keygenEnv.domain keygen generated.publicKey).toList) := by
  let publicFile : Keygen.KeyFile :=
    ⟨Keygen.base keygen generated.publicKey ++ ".key", ".key", 0o644,
      publicKeyText keygenEnv.domain keygen generated.publicKey⟩
  have member : publicFile ∈ keyFiles keygenEnv.domain keygen generated := by
    simp [publicFile, keyFiles]
  have content := complete.content publicFile member
  refine ⟨?_, content⟩
  rcases named with name | ⟨create, name⟩
  · rw [name]
    exact follow_file content
  · have link := complete.links create publicFile member
    rw [name]
    change follow directory (39 + 1) publicFile.link = _
    rw [follow_link link]
    exact follow_file content

/-- An existing file is refused without force. -/
theorem exec_writeFile_exists {rr : Record Ds} (quiet : ∀ call, env.failures.failure call = none)
    (unforced : key2ds.forceOverwrite = false) (world : World)
    (present : (world.files.directory (filename rr)).isSome = true) :
    exec (writeFile env key2ds rr) world =
      (.error (.error
        s!"The file '{filename rr}' already exists, use the --force to overwrite"),
        { world with files := ⟨world.files.directory, world.files.calls + 1⟩ }) := by
  have creates : exec (Util.perform env.failures (createNewMessage (filename rr))
      (.create (filename rr) 0o666)) world.files = (.error (.error
        s!"The file '{filename rr}' already exists, use the --force to overwrite"),
        ⟨world.files.directory, world.files.calls + 1⟩) := by
    rw [Keygen.exec_perform]
    simp only [attempt, quiet, Step.obstacle, present, if_true]
    rfl
  have created : exec (createFile env key2ds (filename rr)) world.files = (.error (.error
      s!"The file '{filename rr}' already exists, use the --force to overwrite"),
      ⟨world.files.directory, world.files.calls + 1⟩) := by
    unfold createFile
    rw [if_neg (by simp [unforced])]
    exact exec_bind_of_error creates
  have written := exec_onFiles (writeRecord env key2ds rr) world
  have failed : exec (writeRecord env key2ds rr) world.files = (.error (.error
      s!"The file '{filename rr}' already exists, use the --force to overwrite"),
      ⟨world.files.directory, world.files.calls + 1⟩) :=
    exec_bind_of_error created
  rw [failed] at written
  exact exec_bind_of_error written

/-- By force the content of an existing file is replaced. -/
theorem exec_writeFile_forced {rr : Record Ds} {mode : Nat} {content : List Char}
    (quiet : ∀ call, env.failures.failure call = none)
    (listens : ∀ lines, env.stdoutCloses lines = false)
    (forced : key2ds.forceOverwrite = true) (world : World)
    (file : world.files.directory (filename rr) = some (.file mode content)) :
    ∃ calls, exec (writeFile env key2ds rr) world = (.ok .returned,
      ⟨⟨Function.update world.files.directory (filename rr)
        (some (.file mode (line env.domain key2ds rr))), calls⟩,
        world.stdout ++ [keyname rr]⟩) := by
  have opens : opened true world.files.directory (filename rr) = some (filename rr) := by
    unfold opened
    rw [if_pos rfl, follow_file file]
    simp [Option.filter, file]
  have wrote := @exec_writeRecord env key2ds rr quiet world.files
  rw [forced, opens] at wrote
  rcases wrote with ⟨calls, returned⟩
  have written := exec_onFiles (writeRecord env key2ds rr) world
  rw [returned] at written
  have prints := @exec_printLine env (keyname rr)
    { world with files :=
        ⟨putLine world.files.directory (filename rr) (line env.domain key2ds rr), calls⟩ }
  rw [listens, if_neg Bool.false_ne_true] at prints
  use calls
  unfold writeFile
  rw [exec_bind_of_ok written, prints]
  unfold putLine
  rw [file]
  rfl

/-- Behind keygen, key2ds computes the same DS record again. Without force it leaves the
directory as it is, and by force only the text of the digest file changes. -/
theorem run_after_keygen (generates : Generates keygenEnv keygen directory generated)
    (made : Keygen.run keygenEnv keygen directory = (.ok ended, final))
    (ksk : keygen.makeKsk = true)
    (readsBack : ReadsBack keygenEnv.domain env.domain keygen generated.publicKey class' ttl)
    (quiet : ∀ call, env.failures.failure call = none)
    (listens : ∀ lines, env.stdoutCloses lines = false)
    (toFiles : key2ds.writeToStdout = false) (derives : key2ds.algorithm = none)
    (named : key2ds.keyfile = Keygen.base keygen generated.publicKey ++ ".key" ∨
      keygen.symlink.create = true ∧ key2ds.keyfile = ".key") :
    ∃ digest ds,
      keygenEnv.domain.newDs generated.publicKey.keyTag generated.publicKey.algorithm
        generated.digestAlg digest = .ok ds ∧
      final.directory (Keygen.base keygen generated.publicKey ++ ".ds") =
        some (.file 0o644 (s!"{keygen.name.fmtWithDot} IN DS {ds}\n").toList) ∧
      if key2ds.forceOverwrite = true then
        (run env key2ds final.directory).1 = .ok .returned ∧
        (run env key2ds final.directory).2.files.directory = Function.update final.directory
          (Keygen.base keygen generated.publicKey ++ ".ds") (some (.file 0o644
            (line env.domain key2ds (madeRecord keygen generated class' ttl digest)))) ∧
        (run env key2ds final.directory).2.stdout = [Keygen.base keygen generated.publicKey]
      else
        (run env key2ds final.directory).1 = .error (.error (s!"The file '" ++
          Keygen.base keygen generated.publicKey ++
          ".ds' already exists, use the --force to overwrite")) ∧
        (run env key2ds final.directory).2.files.directory = final.directory ∧
        (run env key2ds final.directory).2.stdout = [] := by
  rcases digest_of_generates generates ksk with ⟨_, digest, isDigest, _⟩
  rcases digestFile_of_run generates made isDigest with ⟨ds, isDs, file⟩
  rcases leads_to_key (complete_of_run generates made) named with ⟨leads, keyFile⟩
  refine ⟨digest, ds, isDs, file, ?_⟩
  rw [run_eq_of_ok (exec_readKeyfile quiet leads keyFile),
    plan_made generates ksk isDigest readsBack derives]
  generalize isRecord : madeRecord keygen generated class' ttl digest = rr
  have outputs : output env key2ds rr = writeFile env key2ds rr := by
    unfold output
    simp [toFiles]
  have name : filename rr = Keygen.base keygen generated.publicKey ++ ".ds" := by
    rw [← isRecord]
    exact filename_made
  rw [← name] at file ⊢
  unfold outputAll
  rw [outputs]
  split
  · next forced =>
      rcases exec_writeFile_forced quiet listens forced ⟨⟨final.directory, 2⟩, []⟩ file with
        ⟨calls, written⟩
      rw [exec_bind_of_ok written]
      refine ⟨rfl, rfl, ?_⟩
      rw [← isRecord]
      rfl
  · next unforced =>
      have refused := @exec_writeFile_exists env key2ds rr quiet
        (Bool.eq_false_iff.mpr unforced) ⟨⟨final.directory, 2⟩, []⟩ (by simp [file])
      rw [exec_bind_of_error refused]
      refine ⟨?_, rfl, rfl⟩
      rw [name]
      simp only [toString, String.append_assoc]
      rfl

end Behind

/-! ## A key with its two digest files -/

namespace Reference

def keygenDomain : Keygen.Domain where
  generate := fun _ _ => .ok ("Private-key-format: v1.2\n", key)
  displayDnskey := fun _ => "257 3 15 8AWQIqSo35guqX6WPIFsUlOnbiqGC5sydeBTVMdLGMs="
  digest := fun _ _ _ => .ok digest
  newDs := fun keyTag algorithm digestType _ =>
    .ok s!"{keyTag} {algorithm} {digestType} {digestText}"

def keygen : Keygen :=
  { algorithm := 15, bits := none, makeKsk := true, symlink := .yes,
    name := ["example", "test"], invokedAsLdns := false }

def keygenEnv : Keygen.Environment :=
  { domain := keygenDomain, failures := noFailures, stdoutCloses := false }

def generated : Generated :=
  { secretKey := "Private-key-format: v1.2\n", publicKey := key, digestAlg := 2,
    digest := some digest }

def keyLink : Key2ds :=
  { ignoreSep := false, writeToStdout := false, forceOverwrite := false, algorithm := none,
    keyfile := ".key", invokedAsLdns := false }

def empty : Directory String Char := fun _ => none

def made : Util.FileState := (Keygen.run keygenEnv keygen empty).2

end Reference

open Reference in
theorem run_after_keygen_reference :
    ∃ octets ds, keygenDomain.newDs 60136 15 2 octets = .ok ds ∧
      made.directory "Kexample.test.+015+60136.ds" =
        some (.file 0o644 (s!"example.test. IN DS {ds}\n").toList) ∧
      (run env keyLink made.directory).1 = .error (.error
        "The file 'Kexample.test.+015+60136.ds' already exists, use the --force to overwrite") := by
  have readsBack : ReadsBack keygenDomain domain keygen key 1 3600 :=
    { digest := rfl
      digestLength := by
        intro alg octets isDigest
        cases isDigest
        decide
      zonefile := rfl
      algorithm := rfl
      flags := rfl }
  have behind := @run_after_keygen keygenEnv env keygen keyLink generated 1 3600 empty .returned
    made rfl rfl rfl readsBack (fun _ => rfl) (fun _ => rfl) rfl rfl (Or.inr ⟨rfl, rfl⟩)
  rcases behind with ⟨octets, ds, isDs, file, refused⟩
  rw [if_neg (by decide)] at refused
  exact ⟨octets, ds, isDs, file, refused.1⟩

end Dnst.Key2ds
