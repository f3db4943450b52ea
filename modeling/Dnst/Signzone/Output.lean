import Dnst.Foundation.BufferedWriter
import Dnst.Signzone.Reference

/-! # The output

The signed zone goes to a file through a buffered writer, or to standard output. The file
is created, and with it emptied, before the zone is hashed and signed.
-/

namespace Dnst.Signzone

open Keyset (Fault)
open BufferedWriter (Attempt BufWriter Device)

/-! ## Text -/

def newline : Nat := 10

/-- The pieces in which lines are written, up to a comment that cannot be formatted. -/
structure Format where
  pieces : Line → List Octets
  ends : ∀ line, line.formats = true →
    ∃ before last, pieces line = before ++ [last ++ [newline]]

def zonePieces (format : Format) (lines : List Line) : List Octets := lines.flatMap format.pieces

/-- The zone as text. -/
def zoneText (format : Format) (lines : List Line) : Octets := (zonePieces format lines).flatten

/-! ## Writing -/

/-- Writing stops when a write fails, or when a comment cannot be formatted. -/
inductive Stopped where
  | write (writer : BufWriter Nat)
  | format (writer : BufWriter Nat)

namespace Stopped

def writer : Stopped → BufWriter Nat
  | .write writer => writer
  | .format writer => writer

end Stopped

/-- How a writer takes a piece of text. -/
abbrev WriteAll := BufWriter Nat → Octets → Except (BufWriter Nat) (BufWriter Nat)

def writeLine (writeAll : WriteAll) (format : Format) (writer : BufWriter Nat) (line : Line) :
    Except Stopped (BufWriter Nat) :=
  match (format.pieces line).foldlM writeAll writer with
  | .error writer => .error (.write writer)
  | .ok writer => if line.formats then .ok writer else .error (.format writer)

def writeLines (writeAll : WriteAll) (format : Format) (writer : BufWriter Nat)
    (lines : List Line) : Except Stopped (BufWriter Nat) :=
  lines.foldlM (writeLine writeAll format) writer

section WriteLines

variable {writeAll : WriteAll} {format : Format} {writer next : BufWriter Nat}
variable {lines : List Line}

/-- All lines are formatted and all pieces are written. -/
theorem writeLines_ok_iff : writeLines writeAll format writer lines = .ok next ↔
    (∀ line ∈ lines, line.formats = true) ∧
      (zonePieces format lines).foldlM writeAll writer = .ok next := by
  induction lines generalizing writer with
  | nil => simp [writeLines, zonePieces, pure, Except.pure]
  | cons line lines induction =>
      unfold writeLines zonePieces
      rw [List.foldlM_cons, List.flatMap_cons, List.foldlM_append, writeLine]
      cases written : (format.pieces line).foldlM writeAll writer with
      | error after =>
          constructor
          · intro impossible
            cases impossible
          · intro ⟨_, impossible⟩
            cases impossible
      | ok after =>
          dsimp only
          by_cases formats : line.formats = true
          · rw [if_pos formats]
            change writeLines writeAll format after lines = .ok next ↔
              _ ∧ (zonePieces format lines).foldlM writeAll after = .ok next
            rw [induction]
            simp [formats]
          · rw [if_neg formats]
            constructor
            · intro impossible
              cases impossible
            · intro ⟨all, _⟩
              exact absurd (all line List.mem_cons_self) formats

/-- Formatted lines come to an end. -/
theorem zonePieces_end (all : ∀ line ∈ lines, line.formats = true) (some_ : lines ≠ []) :
    ∃ before last, zonePieces format lines = before ++ [last ++ [newline]] := by
  have ⟨others, line, same⟩ : ∃ others line, lines = others ++ [line] :=
    ⟨_, _, (List.dropLast_append_getLast some_).symm⟩
  have ⟨before, last, ends⟩ := format.ends line (all line (by simp [same]))
  refine ⟨zonePieces format others ++ before, last, ?_⟩
  simp [zonePieces, same, ends]

end WriteLines

/-! ## The file system -/

/-- The file under the output path, what becomes of writes to it, and standard output. -/
structure World where
  file : Option Octets
  attempts : List Attempt
  stdout : Device Nat

/-- The command returns, or the process exits before. -/
inductive Ending where
  | returned (result : Except Fault Unit)
  | exited (code : Nat)

/-- The capacities of the writers. -/
def fileCapacity : Nat := 8192
def stdoutCapacity : Nat := 1024

def formatError : Fault := .error "an error occurred when formatting an argument"

/-- The file when its writer has been dropped. -/
def World.close (world : World) (writer : BufWriter Nat) : World :=
  { world with file := some writer.drop.content, attempts := writer.drop.attempts }

/-- Write to the created file. -/
def writeFile (format : Format) (world : World) (lines : List Line) : World × Ending :=
  match writeLines (BufWriter.writeAll fileCapacity) format ⟨⟨[], world.attempts⟩, []⟩ lines with
  | .ok writer => (world.close writer, .returned (.ok ()))
  | .error stopped => (world.close stopped.writer, .returned (.error formatError))

/-- `Stream::write_fmt` exits when a write fails. -/
def writeStdout (format : Format) (world : World) (lines : List Line) : World × Ending :=
  match writeLines (BufferedWriter.LineWriter.writeAll (· = newline) stdoutCapacity) format
      ⟨world.stdout, []⟩ lines with
  | .ok writer => ({ world with stdout := writer.device }, .returned (.ok ()))
  | .error (.write writer) => ({ world with stdout := writer.device }, .exited 101)
  | .error (.format writer) =>
      ({ world with stdout := writer.device }, .returned (.error formatError))

def toStdout (options : SignZone) : Bool := outFile options = "-"

/-- The lines of the signed zone. -/
def signedLines (domain : Domain) (options : SignZone) (prepared : Prepared)
    (signed : SignedZone) : List Line :=
  zoneLines domain ⟨options, prepared.zone.apex, signed.hashes⟩ signed.records

/-- Creating a file empties it. -/
def World.create (world : World) (options : SignZone) : World :=
  if toStdout options then world else { world with file := some [] }

/-- `execute` with what it does to the output. -/
def SignZone.run (domain : Domain) (env : Env) (format : Format) (options : SignZone)
    (world : World) : World × Ending :=
  match prepare domain env options with
  | .error fault => (world, .returned (.error fault))
  | .ok prepared =>
      match createOutput env options with
      | .error fault => (world, .returned (.error fault))
      | .ok () =>
          let world := world.create options
          match sign domain options prepared with
          | .error fault => (world, .returned (.error fault))
          | .ok signed =>
              let lines := signedLines domain options prepared signed
              if toStdout options then writeStdout format world lines
              else writeFile format world lines

/-! ## Complete output and kept output -/

section Kept

variable {domain : Domain} {env : Env} {format : Format} {options : SignZone} {world : World}

/-- Loading, key handling, hashing, signing and ZONEMD creation. -/
def signAll (domain : Domain) (env : Env) (options : SignZone) : Except Fault (List Line) := do
  let prepared ← prepare domain env options
  let signed ← sign domain options prepared
  return signedLines domain options prepared signed

/-- The text is where it was to be written to. -/
def IsWritten (format : Format) (options : SignZone) (before after : World) (lines : List Line) :
    Prop :=
  if toStdout options then after.stdout.content = before.stdout.content ++ zoneText format lines
  else after.file = some (zoneText format lines)

/-- Success means complete output, and failure before the output leaves the file alone. -/
structure KeepsOutput (domain : Domain) (env : Env) (format : Format) (options : SignZone)
    (world : World) : Prop where
  complete : (options.run domain env format world).2 = .returned (.ok ()) →
    ∃ lines, signAll domain env options = .ok lines ∧
      IsWritten format options world (options.run domain env format world).1 lines
  kept : ∀ fault, signAll domain env options = .error fault →
    (options.run domain env format world).1.file = world.file

/-- The blocks of text that the file gets on the way, and its end. -/
def fileBlocks (format : Format) (lines : List Line) : List Octets × Octets :=
  BufferedWriter.blocks fileCapacity [] (zonePieces format lines)

/-- When the file takes the blocks before, it takes the end too. -/
def TakesEnd (format : Format) (lines : List Line) (attempts : List Attempt) : Prop :=
  ∀ device, Device.accepts ⟨[], attempts⟩ (fileBlocks format lines).1 = some device →
    (device.accept (fileBlocks format lines).2).isSome = true

/-- A file that is created gets its end once it got what is before, and it was empty before if
the zone cannot be signed. -/
structure OutputSafe (domain : Domain) (env : Env) (format : Format) (options : SignZone)
    (world : World) : Prop where
  takesEnd : ∀ lines, signAll domain env options = .ok lines →
    (∀ line ∈ lines, line.formats = true) → TakesEnd format lines world.attempts
  wasEmpty : ∀ prepared fault, prepare domain env options = .ok prepared →
    sign domain options prepared = .error fault → world.file = some []

theorem signAll_ok_iff {lines : List Line} : signAll domain env options = .ok lines ↔
    ∃ prepared signed, prepare domain env options = .ok prepared ∧
      sign domain options prepared = .ok signed ∧
      lines = signedLines domain options prepared signed := by
  unfold signAll
  cases ready : prepare domain env options with
  | error fault =>
      constructor
      · intro impossible
        cases impossible
      · intro ⟨_, _, impossible, _⟩
        cases impossible
  | ok prepared =>
      change (sign domain options prepared >>= _) = .ok lines ↔ _
      cases made : sign domain options prepared with
      | error fault =>
          constructor
          · intro impossible
            cases impossible
          · intro ⟨_, _, same, impossible, _⟩
            cases same
            rw [made] at impossible
            cases impossible
      | ok signed =>
          constructor
          · intro same
            cases same
            exact ⟨prepared, signed, rfl, made, rfl⟩
          · intro ⟨_, other, same, isOther, isLines⟩
            cases same
            rw [made] at isOther
            cases isOther
            rw [isLines]
            rfl

theorem run_of_notReady {fault : Fault} (notReady : prepare domain env options = .error fault) :
    options.run domain env format world = (world, .returned (.error fault)) := by
  unfold SignZone.run
  rw [notReady]

theorem run_of_notCreated {prepared : Prepared} {fault : Fault}
    (ready : prepare domain env options = .ok prepared)
    (notCreated : createOutput env options = .error fault) :
    options.run domain env format world = (world, .returned (.error fault)) := by
  unfold SignZone.run
  rw [ready, notCreated]

theorem run_of_notSigned {prepared : Prepared} {fault : Fault}
    (ready : prepare domain env options = .ok prepared)
    (created : createOutput env options = .ok ())
    (notSigned : sign domain options prepared = .error fault) :
    options.run domain env format world = (world.create options, .returned (.error fault)) := by
  unfold SignZone.run
  rw [ready, created]
  dsimp only
  rw [notSigned]

theorem run_of_signed {lines : List Line} (signed : signAll domain env options = .ok lines)
    (created : createOutput env options = .ok ()) :
    options.run domain env format world =
      if toStdout options then writeStdout format world lines
      else writeFile format { world with file := some [] } lines := by
  have ⟨prepared, records, ready, made, same⟩ := signAll_ok_iff.mp signed
  unfold SignZone.run
  rw [ready, created]
  dsimp only
  rw [made, same]
  unfold World.create
  cases toStdout options <;> rfl

/-- Success on standard output is complete output. -/
theorem writeStdout_complete {lines : List Line}
    (returns : (writeStdout format world lines).2 = .returned (.ok ())) :
    (writeStdout format world lines).1.stdout.content =
      world.stdout.content ++ zoneText format lines := by
  unfold writeStdout at returns ⊢
  cases written : writeLines (BufferedWriter.LineWriter.writeAll (· = newline) stdoutCapacity)
      format ⟨world.stdout, []⟩ lines with
  | error stopped =>
      rw [written] at returns
      cases stopped <;> cases returns
  | ok writer =>
      dsimp only
      have ⟨formats, all⟩ := writeLines_ok_iff.mp written
      by_cases noLines : lines = []
      · rw [noLines] at all
        cases all
        simp [zoneText, zonePieces, noLines]
      · have ⟨before, last, ends⟩ := @zonePieces_end format lines formats noLines
        unfold zoneText
        rw [ends] at all ⊢
        exact BufferedWriter.LineWriter.complete_of_writeChunks (by decide) (by decide) all

/-- The pieces are written exactly when the file takes the blocks. -/
theorem writePieces_toOption {lines : List Line} :
    ((zonePieces format lines).foldlM (BufWriter.writeAll fileCapacity)
        ⟨⟨[], world.attempts⟩, []⟩).toOption =
      (Device.accepts ⟨[], world.attempts⟩ (fileBlocks format lines).1).map
        (⟨·, (fileBlocks format lines).2⟩) :=
  BufferedWriter.writeChunks_toOption

/-- On success, the file is complete exactly when it took the end of the text. -/
theorem writeFile_complete_iff {lines : List Line} :
    ((writeFile format world lines).2 = .returned (.ok ()) →
      (writeFile format world lines).1.file = some (zoneText format lines)) ↔
        ((∀ line ∈ lines, line.formats = true) → TakesEnd format lines world.attempts) := by
  have option := @writePieces_toOption format world lines
  unfold writeFile
  cases written : writeLines (BufWriter.writeAll fileCapacity) format ⟨⟨[], world.attempts⟩, []⟩
      lines with
  | error stopped =>
      constructor
      · intro _ formats device accepted
        rw [accepted] at option
        cases all : (zonePieces format lines).foldlM (BufWriter.writeAll fileCapacity)
            ⟨⟨[], world.attempts⟩, []⟩ with
        | error writer =>
            rw [all] at option
            cases option
        | ok writer =>
            rw [writeLines_ok_iff.mpr ⟨formats, all⟩] at written
            cases written
      · intro _ impossible
        cases impossible
  | ok writer =>
      have ⟨formats, all⟩ := writeLines_ok_iff.mp written
      have complete := BufferedWriter.drop_complete_iff (by decide : 0 < fileCapacity) all
      rw [all] at option
      cases accepted : Device.accepts ⟨[], world.attempts⟩ (fileBlocks format lines).1 with
      | none =>
          rw [accepted] at option
          cases option
      | some device =>
          rw [accepted] at option
          cases option
          constructor
          · intro written _ other isOther
            rw [accepted] at isOther
            cases isOther
            exact complete.mp (Option.some.inj (written rfl))
          · intro takes _
            exact congrArg some (complete.mpr (takes formats device accepted))

/-- The output is complete and kept exactly when it is standard output, is not created, or
the file takes its end and was empty before where signing fails. -/
theorem keepsOutput_iff : KeepsOutput domain env format options world ↔
    (toStdout options = false → createOutput env options = .ok () →
      OutputSafe domain env format options world) := by
  constructor
  · intro keeps toFile created
    constructor
    · intro lines signed formats
      have ran : options.run domain env format world =
          writeFile format { world with file := some [] } lines := by
        rw [run_of_signed signed created, toFile]
        rfl
      apply (@writeFile_complete_iff format { world with file := some [] } lines).mp _ formats
      intro returns
      rw [← ran] at returns ⊢
      have ⟨others, isOthers, isWritten⟩ := keeps.complete returns
      rw [signed] at isOthers
      cases isOthers
      unfold IsWritten at isWritten
      rw [toFile] at isWritten
      exact isWritten
    · intro prepared fault ready notSigned
      have failed : signAll domain env options = .error fault := by
        unfold signAll
        rw [ready]
        change (sign domain options prepared >>= _) = _
        rw [notSigned]
        rfl
      have file := keeps.kept fault failed
      rw [run_of_notSigned ready created notSigned] at file
      unfold World.create at file
      rw [toFile] at file
      exact file.symm
  · intro safe
    constructor
    · intro returns
      cases ready : prepare domain env options with
      | error fault =>
          rw [run_of_notReady ready] at returns
          cases returns
      | ok prepared =>
          cases created : createOutput env options with
          | error fault =>
              rw [run_of_notCreated ready created] at returns
              cases returns
          | ok _ =>
              cases made : sign domain options prepared with
              | error fault =>
                  rw [run_of_notSigned ready created made] at returns
                  cases returns
              | ok records =>
                  have signed := signAll_ok_iff.mpr ⟨prepared, records, ready, made, rfl⟩
                  apply Exists.intro _
                  apply And.intro signed
                  rw [run_of_signed signed created] at returns ⊢
                  unfold IsWritten
                  cases toFile : toStdout options with
                  | true =>
                      rw [toFile] at returns
                      exact writeStdout_complete returns
                  | false =>
                      rw [toFile] at returns
                      have takesEnd := (safe toFile created).takesEnd _ signed
                      exact (@writeFile_complete_iff format { world with file := some [] } _).mpr
                        takesEnd returns
    · intro fault failed
      cases ready : prepare domain env options with
      | error _ => rw [run_of_notReady ready]
      | ok prepared =>
          cases created : createOutput env options with
          | error _ => rw [run_of_notCreated ready created]
          | ok _ =>
              cases made : sign domain options prepared with
              | error _ =>
                  rw [run_of_notSigned ready created made]
                  unfold World.create
                  cases toFile : toStdout options with
                  | true => rfl
                  | false => exact ((safe toFile created).wasEmpty _ _ ready made).symm
              | ok records =>
                  rw [signAll_ok_iff.mpr ⟨prepared, records, ready, made, rfl⟩] at failed
                  cases failed

end Kept

namespace Reference

/-- Records in wire format, each on a line. -/
def format : Format where
  pieces := fun line => [line.record?.elim [] Record.canonical, [newline]]
  ends := fun line _ => ⟨[line.record?.elim [] Record.canonical], [], rfl⟩

/-- The first write to the new file fails. -/
def fullDisk : World := ⟨none, [.fails], ⟨[], []⟩⟩

/-- The file is there. -/
def oldFile : World := ⟨some [1, 2, 3], [], ⟨[], []⟩⟩

/-- There is no RRset about keys that would have to be signed first. -/
def expiredUnkeyed : SignZone := { expired with doNotAddKeysToZone := true }

def succeeds : Ending → Bool
  | .returned (.ok ()) => true
  | _ => false

theorem eq_of_succeeds {ending : Ending} (success : succeeds ending = true) :
    ending = .returned (.ok ()) := by
  unfold succeeds at success
  split at success
  · rfl
  · cases success

end Reference

open Reference in
/-- A full disk is not reported, and the old file is gone when signing fails. -/
theorem output_lost :
    ¬KeepsOutput domain (env [soaRecord apex 1]) format options fullDisk ∧
      ¬KeepsOutput timedDomain (env [soaRecord apex 1]) format expiredUnkeyed oldFile := by
  constructor
  · intro keeps
    have ⟨lines, signed, isWritten⟩ := keeps.complete (eq_of_succeeds (by decide +kernel))
    have noText : (options.run domain (env [soaRecord apex 1]) format fullDisk).1.file = some [] :=
      by decide +kernel
    have someText : ((signAll domain (env [soaRecord apex 1]) options).toOption.map
        fun lines => (zoneText format lines).isEmpty) = some false := by decide +kernel
    have toFile : toStdout options = false := by decide +kernel
    unfold IsWritten at isWritten
    rw [toFile, if_neg Bool.false_ne_true, noText] at isWritten
    rw [signed] at someText
    change some (zoneText format lines).isEmpty = some false at someText
    rw [← Option.some.inj isWritten] at someText
    cases someText
  · intro keeps
    have kept := keeps.kept (.error "Signing failed: invalid validity period") rfl
    have gone : (expiredUnkeyed.run timedDomain (env [soaRecord apex 1]) format oldFile).1.file =
        some [] := by decide +kernel
    rw [gone] at kept
    cases kept

/-! ## Writes that never fail -/

section NoFailures

variable {domain : Domain} {env : Env} {format : Format} {options : SignZone} {world : World}
variable {writeAll : WriteAll} {writer : BufWriter Nat} {lines : List Line}

/-- Only a comment that cannot be formatted stops the writing. -/
theorem writeLines_of_reliable (reliable : BufferedWriter.Reliable writeAll)
    (never : writer.device.attempts = []) :
    ∃ next, writeLines writeAll format writer lines =
      if lines.all Line.formats then .ok next else .error (.format next) := by
  induction lines generalizing writer with
  | nil => exact ⟨writer, rfl⟩
  | cons line lines induction =>
      have ⟨after, written, still⟩ :=
        BufferedWriter.writeChunks_of_reliable reliable never (format.pieces line)
      unfold writeLines
      rw [List.foldlM_cons, writeLine, written, List.all_cons]
      dsimp only
      cases formats : line.formats with
      | false => exact ⟨after, rfl⟩
      | true => exact induction still

theorem writeFile_of_noAttempts (never : world.attempts = []) :
    (writeFile format world lines).2 =
      .returned (if lines.all Line.formats then .ok () else .error formatError) := by
  have ⟨next, written⟩ := @writeLines_of_reliable format _ ⟨⟨[], world.attempts⟩, []⟩ lines
    (@BufferedWriter.writeAll_reliable _ fileCapacity) never
  unfold writeFile
  rw [written]
  cases lines.all Line.formats <;> rfl

theorem writeStdout_of_noAttempts (never : world.stdout.attempts = []) :
    (writeStdout format world lines).2 =
      .returned (if lines.all Line.formats then .ok () else .error formatError) := by
  have ⟨next, written⟩ := @writeLines_of_reliable format _ ⟨world.stdout, []⟩ lines
    (@BufferedWriter.lineWriteAll_reliable _ stdoutCapacity (· = newline)) never
  unfold writeStdout
  rw [written]
  cases lines.all Line.formats <;> rfl

/-- When no write fails, the command returns what it has been modelled to return without
its output. -/
theorem run_of_noAttempts (file : world.attempts = []) (stdout : world.stdout.attempts = []) :
    (options.run domain env format world).2 =
      .returned ((options.execute domain env).map fun _ => ()) := by
  unfold SignZone.execute
  cases ready : prepare domain env options with
  | error fault =>
      rw [run_of_notReady ready]
      rfl
  | ok prepared =>
      cases created : createOutput env options with
      | error fault =>
          rw [run_of_notCreated ready created]
          rfl
      | ok _ =>
          change _ = Ending.returned (Except.map _ (sign domain options prepared >>= fun signed =>
            writeZone domain ⟨options, prepared.zone.apex, signed.hashes⟩ signed.records))
          cases made : sign domain options prepared with
          | error fault =>
              rw [run_of_notSigned ready created made]
              rfl
          | ok records =>
              have signed := signAll_ok_iff.mpr ⟨prepared, records, ready, made, rfl⟩
              rw [run_of_signed signed created]
              have written : ∀ lines : List Line,
                  (if toStdout options then writeStdout format world lines
                    else writeFile format { world with file := some [] } lines).2 =
                      .returned (if lines.all Line.formats then .ok () else .error formatError) := by
                intro lines
                split
                · exact writeStdout_of_noAttempts stdout
                · exact writeFile_of_noAttempts file
              rw [written]
              change _ = Ending.returned (Except.map _ (writeZone domain _ records.records))
              unfold writeZone signedLines
              dsimp only
              split <;> rfl

end NoFailures

end Dnst.Signzone
