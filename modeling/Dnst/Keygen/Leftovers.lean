import Dnst.Foundation.Triple
import Dnst.Keygen.Execute
import Mathlib.Data.List.Nodup

/-! # What a run of keygen leaves behind

A run is a sequence of steps on the files of the key. None of them is undone when a later
one fails.
-/

namespace Dnst.Keygen

open Effect FileSteps Util
open Keyset (Fault Dnskey expect mapErr)

/-! ## The steps of a run -/

/-- A file of the key with the symlink that is asked for. -/
structure KeyFile where
  path : String
  link : String
  mode : Nat
  text : String
  deriving DecidableEq, Repr

/-- The link that is moved to its place. -/
def KeyFile.temp (file : KeyFile) : String := file.link ++ ".new"

def dsText (domain : Domain) (keygen : Keygen) (generated : Generated) (digest : List UInt8) :
    String :=
  match domain.newDs generated.publicKey.keyTag generated.publicKey.algorithm
      generated.digestAlg digest with
  | .ok ds => s!"{keygen.name.fmtWithDot} IN DS {ds}\n"
  | .error _ => ""

def digestFiles (domain : Domain) (keygen : Keygen) (generated : Generated) : List KeyFile :=
  match generated.digest with
  | none => []
  | some digest =>
      [⟨base keygen generated.publicKey ++ ".ds", ".ds", 0o644,
        dsText domain keygen generated digest⟩]

/-- The files of the key, in the order in which they are made. -/
def keyFiles (domain : Domain) (keygen : Keygen) (generated : Generated) : List KeyFile :=
  ⟨base keygen generated.publicKey ++ ".private", ".private", 0o600, generated.secretKey⟩ ::
  ⟨base keygen generated.publicKey ++ ".key", ".key", 0o644,
    publicKeyText domain keygen generated.publicKey⟩ ::
  digestFiles domain keygen generated

def creation (file : KeyFile) : Step String Char := .create file.path file.mode

def linking (how : SymlinkArg) (file : KeyFile) : List (Step String Char) :=
  match how with
  | .no => []
  | .yes => [.link file.path file.link]
  | .force => [.link file.path file.temp, .move file.temp file.link]

def writing (file : KeyFile) : Step String Char := .write file.path file.text.toList

/-- Files are created before the links are made, and written last. -/
def plan (how : SymlinkArg) (files : List KeyFile) : List (Step String Char) :=
  files.map creation ++ files.flatMap (linking how) ++ files.map writing

/-! ## Runs perform steps -/

/-- The computation ends as the steps do, unless it panics. -/
def Performs {Value : Type} (failures : Failures) (action : Files Value)
    (steps : List (Step String Char)) : Prop :=
  ∀ state,
    (∃ value final, exec action state = (.ok value, final) ∧
      runSteps failures steps state = (.ok (), final)) ∨
    (∃ message reason final, exec action state = (.error (.error message), final) ∧
      runSteps failures steps state = (.error reason, final)) ∨
    ∃ message final, exec action state = (.error (.panic message), final)

section Performs

variable {Value Result : Type} {failures : Failures}
variable {left right : List (Step String Char)}

theorem performs_pure (value : Value) :
    Performs failures (pure value : Files Value) [] := fun state =>
  Or.inl ⟨value, state, rfl, rfl⟩

theorem performs_bind {action : Files Value} {next : Value → Files Result}
    (first : Performs failures action left) (later : ∀ value, Performs failures (next value) right) :
    Performs failures (action >>= next) (left ++ right) := by
  intro state
  rw [runSteps_append]
  rcases first state with ⟨value, middle, run, steps⟩ | ⟨message, reason, final, run, steps⟩ |
    ⟨message, final, run⟩
  · rw [exec_bind_of_ok run, steps]
    exact later value middle
  · rw [exec_bind_of_error run, steps]
    exact Or.inr (Or.inl ⟨message, reason, final, rfl, rfl⟩)
  · rw [exec_bind_of_error run]
    exact Or.inr (Or.inr ⟨message, final, rfl⟩)

/-- A computation that is no step, and returns a known value unless it panics. -/
theorem performs_known {action : Files Value} {next : Value → Files Result} {value : Value}
    (known : ∀ state, exec action state = (.ok value, state) ∨
      ∃ message, exec action state = (.error (.panic message), state))
    (later : Performs failures (next value) right) :
    Performs failures (action >>= next) right := by
  intro state
  rcases known state with run | ⟨message, run⟩
  · rw [exec_bind_of_ok run]
    exact later state
  · rw [exec_bind_of_error run]
    exact Or.inr (Or.inr ⟨message, state, rfl⟩)

theorem exec_perform (message : String → String) (step : Step String Char) (state : FileState) :
    exec (perform failures message step) state =
      exec (mapErr message (attempt failures step state).1) (attempt failures step state).2 :=
  rfl

theorem performs_perform (message : String → String) (step : Step String Char) :
    Performs failures (perform failures message step) [step] := by
  intro state
  rw [exec_perform, runSteps]
  rcases attempt failures step state with ⟨reason | _, final⟩
  · exact Or.inr (Or.inl ⟨message reason, reason, final, rfl, rfl⟩)
  · exact Or.inl ⟨(), final, rfl, rfl⟩

theorem performs_link (keygen : Keygen) (file : KeyFile) :
    Performs failures (keygen.link failures file.path file.link) (linking keygen.symlink file) := by
  unfold Keygen.link linking
  cases keygen.symlink with
  | no => exact performs_pure ()
  | yes => exact performs_perform _ _
  | force =>
      rw [← List.singleton_append]
      apply performs_bind (performs_perform _ _)
      intro _
      exact performs_perform _ _

section DigestFile

variable {domain : Domain} {keygen : Keygen} {generated : Generated}

theorem performs_createDigestFile (agrees : generated.digest.isSome = keygen.makeKsk) :
    Performs failures (createDigestFile failures keygen (base keygen generated.publicKey))
      ((digestFiles domain keygen generated).map creation) := by
  unfold createDigestFile digestFiles
  rw [← agrees]
  cases generated.digest with
  | none => exact performs_pure ()
  | some digest => exact performs_perform _ _

theorem performs_linkDigestFile (agrees : generated.digest.isSome = keygen.makeKsk) :
    Performs failures (linkDigestFile failures keygen (base keygen generated.publicKey))
      ((digestFiles domain keygen generated).flatMap (linking keygen.symlink)) := by
  unfold linkDigestFile digestFiles
  rw [← agrees]
  cases generated.digest with
  | none => exact performs_pure ()
  | some digest =>
      rw [List.flatMap_singleton]
      exact performs_link keygen ⟨_, ".ds", 0o644, _⟩

theorem performs_writeDigestFile :
    Performs failures
      (writeDigestFile failures (base keygen generated.publicKey)
        (generated.digest.map (dsText domain keygen generated)))
      ((digestFiles domain keygen generated).map writing) := by
  unfold digestFiles
  cases generated.digest with
  | none => exact performs_pure ()
  | some digest => exact performs_perform _ _

end DigestFile

theorem digestText_known (domain : Domain) (keygen : Keygen) (generated : Generated)
    (state : FileState) :
    exec (digestText domain keygen generated) state =
        (.ok (generated.digest.map (dsText domain keygen generated)), state) ∨
      ∃ message, exec (digestText domain keygen generated) state =
        (.error (.panic message), state) := by
  unfold digestText
  cases generated.digest with
  | none => exact Or.inl rfl
  | some digest =>
      dsimp only [Option.map_some]
      unfold dsText
      cases domain.newDs generated.publicKey.keyTag generated.publicKey.algorithm
          generated.digestAlg digest with
      | ok ds => exact Or.inl rfl
      | error reason => exact Or.inr ⟨_, rfl⟩

/-- The run behind the generation of the key follows the plan. -/
theorem performs_writeKey (env : Environment) (keygen : Keygen) (generated : Generated)
    (agrees : generated.digest.isSome = keygen.makeKsk) :
    Performs env.failures (writeKey env keygen generated)
      (plan keygen.symlink (keyFiles env.domain keygen generated)) := by
  let privateFile : KeyFile :=
    ⟨base keygen generated.publicKey ++ ".private", ".private", 0o600, generated.secretKey⟩
  let publicFile : KeyFile :=
    ⟨base keygen generated.publicKey ++ ".key", ".key", 0o644,
      publicKeyText env.domain keygen generated.publicKey⟩
  let digestFiles := digestFiles env.domain keygen generated
  have steps : plan keygen.symlink (keyFiles env.domain keygen generated) =
      [creation privateFile] ++ ([creation publicFile] ++ (digestFiles.map creation ++
      (linking keygen.symlink privateFile ++ (linking keygen.symlink publicFile ++
      (digestFiles.flatMap (linking keygen.symlink) ++
      ([writing privateFile] ++ ([writing publicFile] ++
      (digestFiles.map writing ++ [])))))))) := by
    unfold plan keyFiles
    simp [privateFile, publicFile, digestFiles]
  rw [steps]
  unfold writeKey
  apply performs_bind (performs_perform _ _)
  intro _
  apply performs_bind (performs_perform _ _)
  intro _
  apply performs_bind (performs_createDigestFile agrees)
  intro _
  apply performs_bind (performs_link keygen privateFile)
  intro _
  apply performs_bind (performs_link keygen publicFile)
  intro _
  apply performs_bind (performs_linkDigestFile agrees)
  intro _
  apply performs_known (digestText_known env.domain keygen generated)
  apply performs_bind (performs_perform _ _)
  intro _
  apply performs_bind (performs_perform _ _)
  intro _
  apply performs_bind performs_writeDigestFile
  intro _
  exact performs_pure _

end Performs

/-! ## The key -/

section Generation

variable {domain : Domain} {keygen : Keygen} {failures : Failures}

theorem expect_reads {Value : Type} (message : String) (result : Except String Value) :
    Reads (fun _ => True) (expect message result : Files Value) := by
  cases result with
  | ok value => exact reads_pure trivial
  | error reason => exact reads_throw _

theorem mapErr_reads {Value : Type} (message : String → String) (result : Except String Value) :
    Reads (fun _ => True) (mapErr message result : Files Value) := by
  cases result with
  | ok value => exact reads_pure trivial
  | error reason => exact reads_throw _

theorem checkBits_reads : Reads (fun _ => True) (checkBits keygen) := by
  unfold checkBits
  cases keygen.invokedAsLdns with
  | true => exact reads_pure trivial
  | false =>
      cases keygen.bits with
      | none => exact reads_pure trivial
      | some bits =>
          by_cases rsa : keygen.algorithm = 8
          · rw [if_pos rsa]
            exact reads_pure trivial
          · rw [if_neg rsa]
            exact reads_throw _

theorem generateParams_reads : Reads (fun _ => True) (generateParams keygen) := by
  unfold generateParams
  split
  all_goals first | exact reads_pure trivial | exact reads_throw _

theorem digestAlg_reads (params : Keyset.GenerateParams) :
    Reads (fun _ => True) (digestAlg params) := by
  unfold digestAlg
  split
  all_goals first | exact reads_pure trivial | exact reads_throw _

theorem digestOf_reads (publicKey : Dnskey) (digestAlg : Nat) :
    Reads (fun digest => digest.isSome = keygen.makeKsk)
      (digestOf domain keygen publicKey digestAlg) := by
  unfold digestOf
  cases keygen.makeKsk with
  | true =>
      apply reads_bind (expect_reads _ _)
      intro digest _
      exact reads_pure rfl
  | false => exact reads_pure rfl

/-- Nothing is done to the files before there is a key. -/
theorem generate_reads : Reads (fun generated => generated.digest.isSome = keygen.makeKsk)
    (generate domain keygen) := by
  unfold generate
  apply reads_bind checkBits_reads
  intro _ _
  apply reads_bind generateParams_reads
  intro params _
  apply reads_bind (digestAlg_reads params)
  intro digestAlg _
  apply reads_bind (mapErr_reads _ _)
  intro key _
  apply reads_bind (digestOf_reads key.2 digestAlg)
  intro digest agrees
  exact reads_pure agrees

end Generation

/-! ## Paths -/

/-- The files, their links and the links that are moved are at different paths. -/
structure Apart (files : List KeyFile) : Prop where
  paths : (files.map KeyFile.path).Nodup
  links : (files.map KeyFile.link).Nodup
  outside : ∀ file ∈ files, ∀ other ∈ files,
    file.path ≠ other.link ∧ file.path ≠ other.temp ∧ file.link ≠ other.temp

section Paths

variable {files : List KeyFile} {file : KeyFile} {how : SymlinkArg}
variable {directory : Directory String Char}

theorem base_head (keygen : Keygen) (publicKey : Dnskey) (ending : String) :
    (base keygen publicKey ++ ending).toList.head? = some 'K' := by
  unfold base Keyset.keyFileBase
  simp only [String.toList_append]
  rfl

/-- The endings of the paths, which are the links. -/
def endings : List String := [".private", ".key", ".ds"]

theorem keyFiles_endings {domain : Domain} {keygen : Keygen} {generated : Generated}
    (member : file ∈ keyFiles domain keygen generated) :
    file.link ∈ endings ∧ file.path = base keygen generated.publicKey ++ file.link := by
  have known : ∀ other ∈ keyFiles domain keygen generated,
      other.link ∈ endings ∧ other.path = base keygen generated.publicKey ++ other.link := by
    unfold keyFiles digestFiles
    cases generated.digest <;> simp [endings]
  exact known file member

theorem endings_apart : ∀ ending ∈ endings, ∀ other ∈ endings,
    ending.toList.head? ≠ some 'K' ∧ (ending ++ ".new").toList.head? ≠ some 'K' ∧
      ending ≠ other ++ ".new" := by
  simp [endings]

theorem keyFiles_apart (domain : Domain) (keygen : Keygen) (generated : Generated) :
    Apart (keyFiles domain keygen generated) where
  paths := by
    unfold keyFiles digestFiles
    cases generated.digest <;> simp
  links := by
    unfold keyFiles digestFiles
    cases generated.digest <;> simp
  outside := by
    intro file member other known
    rcases keyFiles_endings member with ⟨ending, path⟩
    rcases keyFiles_endings known with ⟨otherEnding, _⟩
    have head := base_head keygen generated.publicKey file.link
    rw [← path] at head
    rcases endings_apart other.link otherEnding other.link otherEnding with
      ⟨linkHead, tempHead, _⟩
    refine ⟨?_, ?_, (endings_apart file.link ending other.link otherEnding).2.2⟩
    · intro same
      exact linkHead (by rw [← same]; exact head)
    · intro same
      exact tempHead (by rw [← KeyFile.temp, ← same]; exact head)

theorem linking_touches {step : Step String Char} {path : String}
    (member : step ∈ linking how file) (touched : path ∈ step.touches) :
    path = file.link ∨ path = file.temp := by
  cases how with
  | no => cases member
  | yes =>
      have same : step = .link file.path file.link := by simpa [linking] using member
      rw [same] at touched
      exact Or.inl (by simpa [Step.touches] using touched)
  | force =>
      have either : step = .link file.path file.temp ∨ step = .move file.temp file.link := by
        simpa [linking] using member
      rcases either with same | same
      · rw [same] at touched
        exact Or.inr (by simpa [Step.touches] using touched)
      · rw [same] at touched
        exact Or.symm (by simpa [Step.touches] using touched)

/-- Every file gets its whole content. -/
theorem plan_content (apart : Apart files) (member : file ∈ files) :
    applyAll directory (plan how files) file.path =
      some (.file file.mode file.text.toList) := by
  rcases List.append_of_mem member with ⟨left, right, split⟩
  have others : ∀ other ∈ left ++ right, file.path ≠ other.path := by
    have distinct := apart.paths
    rw [split, List.map_append, List.map_cons, List.nodup_middle, List.nodup_cons,
      ← List.map_append] at distinct
    intro other found same
    exact distinct.1 (by rw [same]; exact List.mem_map_of_mem found)
  have created (found : List KeyFile) (among : ∀ other ∈ found, other ∈ left ++ right) :
      ∀ step ∈ found.map creation, file.path ∉ step.touches := by
    simp only [List.forall_mem_map, creation, Step.touches, List.mem_singleton]
    exact fun other found => others other (among other found)
  have written (found : List KeyFile) (among : ∀ other ∈ found, other ∈ left ++ right) :
      ∀ step ∈ found.map writing, file.path ∉ step.touches := by
    simp only [List.forall_mem_map, writing, Step.touches, List.mem_singleton]
    exact fun other found => others other (among other found)
  have linked : ∀ step ∈ files.flatMap (linking how), file.path ∉ step.touches := by
    intro step found touched
    rcases List.mem_flatMap.mp found with ⟨other, source, among⟩
    have differs := apart.outside file member other source
    rcases linking_touches among touched with same | same
    · exact differs.1 same
    · exact differs.2.1 same
  have steps : plan how files = (left.map creation ++ creation file ::
      (right.map creation ++ files.flatMap (linking how) ++ left.map writing)) ++
      writing file :: right.map writing := by
    unfold plan
    generalize files.flatMap (linking how) = linkings
    rw [split]
    simp
  rw [steps, applyAll_last (written right (by simp +contextual))]
  apply fill_file
  rw [applyAll_last]
  · exact Function.update_self _ _ _
  · intro step found
    rcases List.mem_append.mp found with found | found
    · rcases List.mem_append.mp found with found | found
      · exact created right (by simp +contextual) step found
      · exact linked step found
    · exact written left (by simp +contextual) step found

/-- Every link that is asked for leads to the file. -/
theorem plan_link (apart : Apart files) (member : file ∈ files) (create : how.create = true) :
    applyAll directory (plan how files) file.link = some (.link file.path) := by
  rcases List.append_of_mem member with ⟨left, right, split⟩
  have others : ∀ other ∈ right, file.link ≠ other.link := by
    have distinct := apart.links
    rw [split, List.map_append, List.map_cons, List.nodup_middle, List.nodup_cons,
      ← List.map_append] at distinct
    intro other found same
    exact distinct.1 (by rw [same]; exact List.mem_map_of_mem (by simp [found]))
  have later : ∀ step ∈ right.flatMap (linking how) ++ files.map writing,
      file.link ∉ step.touches := by
    intro step found touched
    rcases List.mem_append.mp found with found | found
    · rcases List.mem_flatMap.mp found with ⟨other, source, among⟩
      have known : other ∈ files := by
        rw [split]
        simp [source]
      rcases linking_touches among touched with same | same
      · exact others other source same
      · exact (apart.outside file member other known).2.2 same
    · rcases List.mem_map.mp found with ⟨other, source, same⟩
      rw [← same] at touched
      have written : file.link = other.path := by simpa [writing, Step.touches] using touched
      exact (apart.outside other source file member).1 written.symm
  have steps : plan how files = (files.map creation ++ left.flatMap (linking how)) ++
      linking how file ++ (right.flatMap (linking how) ++ files.map writing) := by
    unfold plan
    rw [show files.flatMap (linking how) = left.flatMap (linking how) ++
      (linking how file ++ right.flatMap (linking how)) by rw [split]; simp]
    simp
  rw [steps, applyAll_append, applyAll_frame later, applyAll_append]
  generalize applyAll directory (files.map creation ++ left.flatMap (linking how)) = between
  cases how with
  | no => cases create
  | yes => exact Function.update_self _ _ _
  | force =>
      have differs := (apart.outside file member file member).2.2
      rw [linking, applyAll_cons, applyAll_cons, applyAll_nil, Step.apply_move,
        Function.update_of_ne differs, Function.update_self]
      exact Function.update_self _ _ _

/-- What exists is not written to, and only moved links replace anything. -/
theorem owns_plan (domain : Domain) (keygen : Keygen) (generated : Generated) :
    Owns [] (plan how (keyFiles domain keygen generated)) := by
  unfold keyFiles digestFiles
  cases generated.digest with
  | none => cases how <;> simp [plan, creation, linking, writing, Owns]
  | some digest => cases how <;> simp [plan, creation, linking, writing, Owns]

/-- No step takes a file away. -/
theorem plan_stays (apart : Apart files) (member : file ∈ files) :
    ∀ step ∈ plan how files, step.removes ≠ some file.path := by
  intro step found removed
  unfold plan at found
  rcases List.mem_append.mp found with found | found
  · rcases List.mem_append.mp found with found | found
    · rcases List.mem_map.mp found with ⟨other, _, same⟩
      rw [← same] at removed
      cases removed
    · rcases List.mem_flatMap.mp found with ⟨other, source, among⟩
      have touched : file.path ∈ step.touches := by
        cases step with
        | move old new =>
            cases removed
            simp [Step.touches]
        | _ => cases removed
      have differs := apart.outside file member other source
      rcases linking_touches among touched with same | same
      · exact differs.1 same
      · exact differs.2.1 same
  · rcases List.mem_map.mp found with ⟨other, _, same⟩
    rw [← same] at removed
    cases removed

/-- Only the links that are asked for by force are moved to. -/
theorem plan_moves {old new : String} (member : Step.move old new ∈ plan how files) :
    how = .force ∧ ∃ file ∈ files, new = file.link := by
  unfold plan at member
  simp only [List.mem_append, List.mem_map, List.mem_flatMap, creation, writing] at member
  rcases member with (⟨_, _, impossible⟩ | ⟨file, source, among⟩) | ⟨_, _, impossible⟩
  · cases impossible
  · cases how with
    | no => cases among
    | yes => simp [linking] at among
    | force =>
        have same : old = file.temp ∧ new = file.link := by simpa [linking] using among
        exact ⟨rfl, file, source, same.2⟩
  · cases impossible

end Paths

/-! ## Runs -/

def run (env : Environment) (keygen : Keygen) (directory : Directory String Char) :
    Except Fault Ended × FileState :=
  exec (execute env keygen) ⟨directory, 0⟩

/-- The run gets to this key. -/
def Generates (env : Environment) (keygen : Keygen) (directory : Directory String Char)
    (generated : Generated) : Prop :=
  exec (generate env.domain keygen) ⟨directory, 0⟩ = (.ok generated, ⟨directory, 0⟩)

/-- The files have their content, and the links lead to them. -/
structure Complete (how : SymlinkArg) (files : List KeyFile)
    (directory : Directory String Char) : Prop where
  content : ∀ file ∈ files, directory file.path = some (.file file.mode file.text.toList)
  links : how.create = true → ∀ file ∈ files, directory file.link = some (.link file.path)

/-- A run that returns has made everything. -/
def Completes (env : Environment) (keygen : Keygen) (before after : Directory String Char) :
    Prop :=
  ∃ generated, Generates env keygen before generated ∧
    Complete keygen.symlink (keyFiles env.domain keygen generated) after

/-- No file of the key, no link on its way and no link is new or changed. -/
def Untouched (files : List KeyFile) (before after : Directory String Char) : Prop :=
  ∀ file ∈ files, ∀ path ∈ [file.path, file.temp, file.link], after path = before path

/-- A failed run leaves nothing behind. -/
def LeavesNothing (env : Environment) (keygen : Keygen) (directory : Directory String Char) :
    Prop :=
  match run env keygen directory with
  | (.ok _, final) => Completes env keygen directory final.directory
  | (.error (.error _), final) => ∀ generated, Generates env keygen directory generated →
      Untouched (keyFiles env.domain keygen generated) directory final.directory
  | (.error (.panic _), _) => True

/-- What a failed run leaves behind: what the steps before the failing one did. -/
def Leaves (how : SymlinkArg) (files : List KeyFile) (before after : Directory String Char) :
    Prop :=
  ∃ done rest, plan how files = done ++ rest ∧ Stopped before done rest after ∧
    (after = before ↔ done = [])

/-- What was there is still there, except for links that are replaced by force. -/
def Keeps (how : SymlinkArg) (files : List KeyFile) (before after : Directory String Char) :
    Prop :=
  ∀ path, (before path).isSome = true → (how = .force → ∀ file ∈ files, path ≠ file.link) →
    after path = before path

/-- A run undoes nothing when it fails. -/
def UndoesNothing (env : Environment) (keygen : Keygen) (directory : Directory String Char) :
    Prop :=
  match run env keygen directory with
  | (.ok _, final) => Completes env keygen directory final.directory
  | (.error (.error _), final) =>
      (final.directory = directory ∧ ∀ generated, ¬Generates env keygen directory generated) ∨
      ∃ generated, Generates env keygen directory generated ∧
        Leaves keygen.symlink (keyFiles env.domain keygen generated) directory
          final.directory ∧
        Keeps keygen.symlink (keyFiles env.domain keygen generated) directory final.directory
  | (.error (.panic _), _) => True

section Runs

variable {env : Environment} {keygen : Keygen} {directory : Directory String Char}
variable {generated : Generated}

/-- There is a key, or the run ends with the directory as it was. -/
theorem generates_or (env : Environment) (keygen : Keygen)
    (directory : Directory String Char) :
    (∃ generated, Generates env keygen directory generated ∧
      generated.digest.isSome = keygen.makeKsk) ∨
    ∃ fault, exec (generate env.domain keygen) ⟨directory, 0⟩ =
      (.error fault, ⟨directory, 0⟩) := by
  rcases generate_reads ⟨directory, 0⟩ with ⟨kept, returns⟩
  rcases outcome : exec (generate env.domain keygen) ⟨directory, 0⟩ with ⟨fault | generated, final⟩
  · rw [outcome] at kept
    cases kept
    exact Or.inr ⟨fault, rfl⟩
  · rw [outcome] at kept returns
    cases kept
    exact Or.inl ⟨generated, outcome, returns generated rfl⟩

theorem completes_of_ok {final : FileState} (generates : Generates env keygen directory generated)
    (steps : runSteps env.failures (plan keygen.symlink (keyFiles env.domain keygen generated))
      ⟨directory, 0⟩ = (.ok (), final)) :
    Completes env keygen directory final.directory := by
  have apart := keyFiles_apart env.domain keygen generated
  refine ⟨generated, generates, ?_, ?_⟩
  · intro file member
    rw [runSteps_ok steps]
    exact plan_content apart member
  · intro create file member
    rw [runSteps_ok steps]
    exact plan_link apart member create

theorem leaves_of_error {failures : Failures} {final : FileState} {reason : String}
    (steps : runSteps failures (plan keygen.symlink (keyFiles env.domain keygen generated))
      ⟨directory, 0⟩ = (.error reason, final)) :
    Leaves keygen.symlink (keyFiles env.domain keygen generated) directory final.directory := by
  rcases runSteps_error steps with ⟨done, rest, split, stopped, middle, reached⟩
  refine ⟨done, rest, split, stopped, ?_⟩
  have apart := keyFiles_apart env.domain keygen generated
  rcases stopped with ⟨next, others, rfl, left⟩
  cases done with
  | nil =>
      -- The step that fails is the creation of the first file, which leaves nothing.
      have first : next = .create (base keygen generated.publicKey ++ ".private") 0o600 :=
        (List.cons.inj split).1.symm
      rw [first] at left
      rcases left with left | ⟨taken, left⟩
      · exact iff_of_true left rfl
      · exact iff_of_true left rfl
  | cons step done =>
      apply iff_of_false _ (List.cons_ne_nil _ _)
      intro same
      let privateFile : KeyFile :=
        ⟨base keygen generated.publicKey ++ ".private", ".private", 0o600, generated.secretKey⟩
      have member : privateFile ∈ keyFiles env.domain keygen generated := by
        simp [privateFile, keyFiles]
      have first : step = creation privateFile := (List.cons.inj split).1.symm
      have stays : ∀ other ∈ done, other.removes ≠ some privateFile.path := by
        intro other found
        apply plan_stays apart member other
        rw [split]
        simp [found]
      rw [first] at reached
      rcases runSteps_created stays reached with ⟨absent, present⟩
      have remains : (final.directory privateFile.path).isSome = true := by
        rw [runSteps_ok reached, ← first] at present
        rcases left with left | ⟨taken, left⟩
        · rw [left]
          exact present
        · rw [left]
          exact partly_isSome taken present
      dsimp only at absent
      rw [same, absent] at remains
      cases remains

theorem keeps_of_steps (env : Environment) (keygen : Keygen) (generated : Generated)
    (directory : Directory String Char) (failures : Failures) :
    Keeps keygen.symlink (keyFiles env.domain keygen generated) directory
      (runSteps failures (plan keygen.symlink (keyFiles env.domain keygen generated))
        ⟨directory, 0⟩).2.directory := by
  intro path present spared
  apply runSteps_keeps (owns_plan env.domain keygen generated) (by simp) present
  intro old member
  rcases plan_moves member with ⟨force, file, source, same⟩
  exact spared force file source same

/-- A public key file that exists is met behind the creation of the private key file. -/
theorem run_publicKeyFile_exists (generates : Generates env keygen directory generated)
    (quiet : ∀ call, env.failures.failure call = none)
    (absent : directory (base keygen generated.publicKey ++ ".private") = none)
    (present : (directory (base keygen generated.publicKey ++ ".key")).isSome = true) :
    ∃ message, run env keygen directory =
      (.error (.error message), ⟨Function.update directory
        (base keygen generated.publicKey ++ ".private") (some (.file 0o600 [])), 2⟩) := by
  unfold run execute
  rw [exec_bind_of_ok generates]
  dsimp only [writeKey]
  generalize privatePath : base keygen generated.publicKey ++ ".private" = privateName at *
  generalize publicPath : base keygen generated.publicKey ++ ".key" = publicName at *
  have distinct : publicName ≠ privateName := by
    rw [← privatePath, ← publicPath]
    simp
  have first : exec (createNewFile env.failures privateName 0o600) ⟨directory, 0⟩ =
      (.ok (), ⟨Function.update directory privateName (some (.file 0o600 [])), 1⟩) := by
    rw [createNewFile, exec_perform]
    simp only [attempt, quiet, Step.obstacle, absent]
    rfl
  let reason := "File exists (os error 17)"
  have second : exec (createNewFile env.failures publicName 0o644)
      ⟨Function.update directory privateName (some (.file 0o600 [])), 1⟩ =
      (.error (.error s!"cannot create '{publicName}': {reason}"),
        ⟨Function.update directory privateName (some (.file 0o600 [])), 2⟩) := by
    rw [createNewFile, exec_perform]
    simp only [attempt, quiet, Step.obstacle, Function.update_of_ne distinct, present, if_true]
    rfl
  rw [exec_bind_of_ok first, exec_bind_of_error second]
  exact ⟨_, rfl⟩

end Runs

/-! ## A key that is half made -/

def exampleKey : Dnskey :=
  { flags := 256, algorithm := 15, publicKey := 0, keyTag := 12345 }

/-- Every call succeeds that the directory allows. -/
def exampleEnvironment : Environment where
  domain :=
    { generate := fun _ _ => .ok ("Private-key-format: v1.2\n", exampleKey)
      displayDnskey := fun _ => "256 3 15 AAAA"
      digest := fun _ _ _ => .ok []
      newDs := fun _ _ _ _ => .ok "" }
  failures := { failure := fun _ => none, taken := fun _ => 0 }
  stdoutCloses := false

def exampleKeygen : Keygen :=
  { algorithm := 15, bits := none, makeKsk := false, symlink := .no,
    name := ["example", "org"], invokedAsLdns := false }

/-- The public key file of an earlier key is there. -/
def exampleDirectory : Directory String Char :=
  Function.update (fun _ => none) (base exampleKeygen exampleKey ++ ".key") (some (.file 0o644 []))

/-- Nothing is cleaned up. -/
theorem execute_undoesNothing (env : Environment) (keygen : Keygen)
    (directory : Directory String Char) : UndoesNothing env keygen directory := by
  unfold UndoesNothing run execute
  rcases generates_or env keygen directory with ⟨generated, generates, agrees⟩ | ⟨fault, failed⟩
  · rw [exec_bind_of_ok generates]
    rcases performs_writeKey env keygen generated agrees ⟨directory, 0⟩ with
      ⟨value, final, returned, steps⟩ | ⟨message, reason, final, failed, steps⟩ |
      ⟨message, final, panicked⟩
    · rw [returned]
      exact completes_of_ok generates steps
    · have kept : Keeps keygen.symlink (keyFiles env.domain keygen generated) directory
          final.directory := by
        have unchanged := keeps_of_steps env keygen generated directory env.failures
        rw [steps] at unchanged
        exact unchanged
      rw [failed]
      exact Or.inr ⟨generated, generates, leaves_of_error steps, kept⟩
    · rw [panicked]
      exact True.intro
  · rw [exec_bind_of_error failed]
    cases fault with
    | error message =>
        apply Or.inl
        apply And.intro rfl
        intro generated generates
        rw [Generates, failed] at generates
        cases generates
    | panic message => exact True.intro

/-- The private key file stays when the public key file cannot be created. -/
theorem execute_leaves_private :
    ¬LeavesNothing exampleEnvironment exampleKeygen exampleDirectory := by
  intro clean
  let generated : Generated :=
    { secretKey := "Private-key-format: v1.2\n", publicKey := exampleKey, digestAlg := 2,
      digest := none }
  have generates : Generates exampleEnvironment exampleKeygen exampleDirectory generated := rfl
  have absent : exampleDirectory (base exampleKeygen exampleKey ++ ".private") = none :=
    Function.update_of_ne (by simp) _ _
  have present : (exampleDirectory (base exampleKeygen exampleKey ++ ".key")).isSome = true := by
    rw [exampleDirectory, Function.update_self]
    rfl
  rcases run_publicKeyFile_exists generates (fun _ => rfl) absent present with ⟨message, failed⟩
  rw [LeavesNothing, failed] at clean
  have untouched := clean generated generates _ List.mem_cons_self _ List.mem_cons_self
  dsimp only at untouched
  rw [Function.update_self, absent] at untouched
  cases untouched

end Dnst.Keygen
