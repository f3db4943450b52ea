import Dnst.Key2ds.Execute
import Dnst.Keygen.Leftovers

/-! # What a run of key2ds writes

The records of a run are known from the key file alone. They are written one after the
other, and a run ends at the first that cannot be written.
-/

namespace Dnst.Key2ds

open Effect FileSteps
open Keygen (Ended)
open Keyset (Fault Dnskey mapErr)

/-! ## The records of a run -/

/-- The records that are written, and what ends the run behind them. -/
def plan (domain : Domain) (key2ds : Key2ds) :
    List (Except String Entry) → List (Record Ds) × Except Fault Unit
  | [] => ([], .ok ())
  | entry :: entries =>
      match visit domain key2ds entry with
      | .error fault => ([], .error fault)
      | .ok none => plan domain key2ds entries
      | .ok (some rr) =>
          (rr :: (plan domain key2ds entries).1, (plan domain key2ds entries).2)

def outputAll (env : Environment) (key2ds : Key2ds) (ending : Except Fault Unit) :
    List (Record Ds) → Run Ended
  | [] =>
      match ending with
      | .ok _ => return .returned
      | .error fault => throw fault
  | rr :: records => do
      match ← output env key2ds rr with
      | .exited => return .exited
      | .returned => outputAll env key2ds ending records

theorem processEntries_eq (env : Environment) (key2ds : Key2ds)
    (entries : List (Except String Entry)) :
    processEntries env key2ds entries =
      outputAll env key2ds (plan env.domain key2ds entries).2
        (plan env.domain key2ds entries).1 := by
  induction entries with
  | nil => rfl
  | cons entry entries induction =>
      rw [processEntries, plan]
      cases visit env.domain key2ds entry with
      | error fault => rfl
      | ok found =>
          cases found with
          | none => exact induction
          | some rr =>
              rw [outputAll]
              apply congrArg (Bind.bind (output env key2ds rr))
              funext ended
              cases ended with
              | exited => rfl
              | returned => exact induction

/-- The line that a file consists of. -/
def line (domain : Domain) (key2ds : Key2ds) (rr : Record Ds) : List Char :=
  (text domain key2ds rr ++ "\n").toList

def run (env : Environment) (key2ds : Key2ds) (directory : Directory String Char) :
    Except Fault Ended × World :=
  exec (execute env key2ds) ⟨⟨directory, 0⟩, []⟩

/-! ## Reading the key file -/

section Reading

variable {Value : Type} {failures : Failures} {message : String → String}
variable {work : Directory String Char → Except String (Value × Directory String Char)}

theorem exec_onFiles (action : Util.Files Value) (world : World) :
    exec (onFiles action) world =
      ((exec action world.files).1, { world with files := (exec action world.files).2 }) :=
  exec_zoom _ _ action world

theorem exec_performCall (state : Util.FileState) :
    exec (performCall failures message work) state =
      exec (mapErr message (call failures work state).1) (call failures work state).2 := rfl

/-- Work that only looks leaves the directory as it is. -/
theorem call_keeps (looks : ∀ directory value after,
      work directory = .ok (value, after) → after = directory) (state : Util.FileState) :
    (call failures work state).2.directory = state.directory := by
  unfold call
  split
  · rfl
  · split
    · rfl
    · next value after found => exact looks _ _ _ found

theorem openWork_keeps (path : String) (directory : Directory String Char) (value : String)
    (after : Directory String Char) (found : openWork path directory = .ok (value, after)) :
    after = directory := by
  unfold openWork at found
  split at found
  · cases found
  · split at found
    · cases found
    · cases found
      rfl

theorem readWork_keeps (path : String) (directory : Directory String Char) (value : List Char)
    (after : Directory String Char) (found : readWork path directory = .ok (value, after)) :
    after = directory := by
  unfold readWork at found
  split at found
  · cases found
    rfl
  · cases found

theorem readKeyfile_keeps (env : Environment) (key2ds : Key2ds) (state : Util.FileState) :
    (exec (readKeyfile env key2ds) state).2.directory = state.directory := by
  have opens := @exec_performCall _ env.failures
    (fun e => s!"Failed to open public key file \"{key2ds.keyfile}\": {e}")
    (openWork key2ds.keyfile) state
  have kept := @call_keeps _ env.failures _ (openWork_keeps key2ds.keyfile) state
  unfold readKeyfile
  rcases opened : call env.failures (openWork key2ds.keyfile) state with ⟨reason | file, middle⟩
  · rw [opened] at opens kept
    rw [exec_bind_of_error opens]
    exact kept
  · rw [opened] at opens kept
    rw [exec_bind_of_ok opens, exec_bind_of_ok (exec_get middle)]
    have read := @call_keeps _ env.failures _ (readWork_keeps file) middle
    rcases found : call env.failures (readWork file) middle with ⟨reason | content, final⟩
    · rw [found] at read
      exact read.trans kept
    · rw [found] at read
      exact read.trans kept

end Reading

/-! ## One record -/

section Record

variable {env : Environment} {key2ds : Key2ds} {rr : Record Ds}

theorem exec_printLine (line : String) (world : World) :
    exec (printLine env line) world =
      if env.stdoutCloses world.stdout.length then (.ok .exited, world)
      else (.ok .returned, { world with stdout := world.stdout ++ [line] }) := by
  unfold printLine
  rw [exec_bind_of_ok (exec_get world)]
  split <;> rfl

/-- A file that has just been made, with the directory around it. -/
def withFile (directory : Directory String Char) (path : String) (content : List Char) :
    Directory String Char :=
  Function.update directory path (some (.file 0o666 content))

theorem fill_withFile (directory : Directory String Char) (path : String)
    (old content : List Char) :
    Step.fill path content (withFile directory path old) = withFile directory path content := by
  funext other
  unfold Step.fill withFile
  simp

/-- What comes of writing a record to a new file. -/
inductive NewFile (directory : Directory String Char) (path : String) (content : List Char) :
    Except Fault Unit → Directory String Char → Prop where
  | refused (message : String) :
      NewFile directory path content (.error (.error message)) directory
  | broken (message : String) (taken : Nat) (absent : directory path = none) :
      NewFile directory path content (.error (.error message))
        (withFile directory path (content.take taken))
  | written (absent : directory path = none) :
      NewFile directory path content (.ok ()) (withFile directory path content)

theorem exec_writeRecord_new (unforced : key2ds.forceOverwrite = false)
    (state : Util.FileState) :
    NewFile state.directory (filename rr) (line env.domain key2ds rr)
      (exec (writeRecord env key2ds rr) state).1
      (exec (writeRecord env key2ds rr) state).2.directory := by
  have creates := @Keygen.exec_perform env.failures (createNewMessage (filename rr))
    (.create (filename rr) 0o666) state
  have creation : exec (createFile env key2ds (filename rr)) state =
      exec (Util.perform env.failures (createNewMessage (filename rr))
        (.create (filename rr) 0o666) >>= fun _ => pure (filename rr)) state := by
    unfold createFile
    simp [unforced]
  unfold writeRecord
  rcases created : attempt env.failures (.create (filename rr) 0o666) state with
    ⟨reason | _, middle⟩
  · rw [created] at creates
    rw [exec_bind_of_error creates] at creation
    rw [exec_bind_of_error creation]
    have kept : middle.directory = state.directory := by
      rcases attempt_error created with same | ⟨taken, same⟩
      · exact same
      · exact same
    rw [← kept]
    exact .refused _
  · rw [created] at creates
    rw [exec_bind_of_ok creates] at creation
    rw [exec_bind_of_ok creation]
    rcases attempt_ok created with ⟨allowed, same⟩
    have absent : state.directory (filename rr) = none := by
      by_contra present
      rw [Step.obstacle, if_pos (Option.isSome_iff_ne_none.mpr present)] at allowed
      cases allowed
    have writes := @Keygen.exec_perform env.failures
      (fun e => s!"Could not write to file \"{filename rr}\": {e}")
      (.write (filename rr) (line env.domain key2ds rr)) middle
    change exec (Util.writeAll _ _ _ _) middle = _ at writes
    rcases written : attempt env.failures (.write (filename rr) (line env.domain key2ds rr))
      middle with ⟨reason | _, final⟩
    · rw [written] at writes
      rw [writes]
      rcases attempt_error written with left | ⟨taken, left⟩
      · change NewFile _ _ _ (.error (.error _)) final.directory
        rw [left, same]
        exact .broken _ 0 absent
      · change NewFile _ _ _ (.error (.error _)) final.directory
        rw [left, same]
        change NewFile _ _ _ _ (Step.fill _ _ (withFile _ _ _))
        rw [fill_withFile]
        exact .broken _ _ absent
    · rw [written] at writes
      rw [writes]
      change NewFile _ _ _ (.ok ()) final.directory
      rw [(attempt_ok written).2, same]
      change NewFile _ _ _ _ (Step.fill _ _ (withFile _ _ _))
      rw [fill_withFile]
      exact .written absent

end Record

/-! ## Without force -/

/-- The first records are in new files. Of the next one there may be a part, and nothing
else has changed. -/
structure Wrote (domain : Domain) (key2ds : Key2ds) (before : Directory String Char)
    (done rest : List (Record Ds)) (after : Directory String Char) : Prop where
  absent : ∀ rr ∈ done, before (filename rr) = none
  distinct : (done.map filename).Nodup
  written : ∀ rr ∈ done, after (filename rr) = some (.file 0o666 (line domain key2ds rr))
  elsewhere : ∀ path, path ∉ done.map filename → after path = before path ∨
    ∃ next others taken, rest = next :: others ∧ path = filename next ∧ before path = none ∧
      after path = some (.file 0o666 ((line domain key2ds next).take taken))

/-- How a run ends and what it has printed: the names of the files, without the last one
when standard output is closed. -/
def Ends (done rest : List (Record Ds)) (ending : Except Fault Unit) (printed : List String) :
    Except Fault Ended → Prop
  | .ok .returned => rest = [] ∧ ending = .ok () ∧ printed = done.map keyname
  | .ok .exited => ∃ earlier last, done = earlier ++ [last] ∧ printed = earlier.map keyname
  | .error fault => printed = done.map keyname ∧
      (rest = [] ∧ ending = .error fault ∨
        ∃ next others message, rest = next :: others ∧ fault = .error message)

section Unforced

variable {env : Environment} {key2ds : Key2ds} {domain : Domain}
variable {before after : Directory String Char} {rr : Record Ds} {done rest : List (Record Ds)}

theorem withFile_self (directory : Directory String Char) (path : String)
    (content : List Char) :
    withFile directory path content path = some (.file 0o666 content) :=
  Function.update_self _ _ _

theorem withFile_of_ne {path other : String} (directory : Directory String Char)
    (content : List Char) (different : other ≠ path) :
    withFile directory path content other = directory other :=
  Function.update_of_ne different _ _

theorem wrote_nil (rest : List (Record Ds)) (directory : Directory String Char) :
    Wrote domain key2ds directory [] rest directory where
  absent := by simp
  distinct := by simp
  written := by simp
  elsewhere := by simp

/-- A record in a new file, and others behind it. -/
theorem wrote_cons (absent : before (filename rr) = none)
    (later : Wrote domain key2ds (withFile before (filename rr) (line domain key2ds rr))
      done rest after) :
    Wrote domain key2ds before (rr :: done) rest after := by
  have different : ∀ other ∈ done, filename other ≠ filename rr := by
    intro other member same
    have free := later.absent other member
    rw [same, withFile_self] at free
    cases free
  have outside : filename rr ∉ done.map filename := by
    intro member
    rcases List.mem_map.mp member with ⟨other, inDone, same⟩
    exact different other inDone same
  constructor
  · intro other member
    rcases List.mem_cons.mp member with same | inDone
    · rw [same]
      exact absent
    · have free := later.absent other inDone
      rw [withFile_of_ne _ _ (different other inDone)] at free
      exact free
  · simp only [List.map_cons, List.nodup_cons]
    exact ⟨outside, later.distinct⟩
  · intro other member
    rcases List.mem_cons.mp member with same | inDone
    · rw [same]
      rcases later.elsewhere _ outside with kept | ⟨next, others, taken, _, _, free, _⟩
      · rw [kept, withFile_self]
      · rw [withFile_self] at free
        cases free
    · exact later.written other inDone
  · intro path notWritten
    simp only [List.map_cons, List.mem_cons, not_or] at notWritten
    have same := withFile_of_ne before (line domain key2ds rr) notWritten.1
    have elsewhere := later.elsewhere path notWritten.2
    rw [same] at elsewhere
    exact elsewhere

/-- The records are written in order, each to a new file, up to the first for which that
fails. -/
theorem outputAll_new (unforced : key2ds.forceOverwrite = false)
    (toFiles : key2ds.writeToStdout = false) (ending : Except Fault Unit)
    (records : List (Record Ds)) (world : World) :
    ∃ done rest printed, records = done ++ rest ∧
      Wrote env.domain key2ds world.files.directory done rest
        (exec (outputAll env key2ds ending records) world).2.files.directory ∧
      (exec (outputAll env key2ds ending records) world).2.stdout = world.stdout ++ printed ∧
      Ends done rest ending printed (exec (outputAll env key2ds ending records) world).1 := by
  induction records generalizing world with
  | nil =>
      refine ⟨[], [], [], rfl, ?_⟩
      cases ending with
      | ok value => exact ⟨wrote_nil _ _, by simp [outputAll], rfl, rfl, rfl⟩
      | error fault => exact ⟨wrote_nil _ _, by simp [outputAll], rfl, Or.inl ⟨rfl, rfl⟩⟩
  | cons rr records induction =>
      have wrote := @exec_writeRecord_new env key2ds rr unforced world.files
      have written := exec_onFiles (writeRecord env key2ds rr) world
      have prints := @exec_printLine env (keyname rr)
        { world with files := (exec (writeRecord env key2ds rr) world.files).2 }
      have outputs : output env key2ds rr = writeFile env key2ds rr := by
        unfold output
        simp [toFiles]
      unfold outputAll
      rw [outputs]
      unfold writeFile
      rcases run : exec (writeRecord env key2ds rr) world.files with ⟨outcome, files⟩
      rw [run] at wrote written prints
      dsimp only at wrote written prints
      generalize left : files.directory = directory at wrote
      cases wrote with
      | refused message =>
          rw [exec_bind_of_error (exec_bind_of_error written)]
          refine ⟨[], rr :: records, [], rfl, ?_, by simp, rfl,
            Or.inr ⟨rr, records, message, rfl, rfl⟩⟩
          dsimp only
          rw [left]
          exact wrote_nil _ _
      | broken message taken absent =>
          rw [exec_bind_of_error (exec_bind_of_error written)]
          refine ⟨[], rr :: records, [], rfl, ?_, by simp, rfl,
            Or.inr ⟨rr, records, message, rfl, rfl⟩⟩
          dsimp only
          rw [left]
          refine ⟨by simp, by simp, by simp, ?_⟩
          intro path _
          by_cases same : path = filename rr
          · apply Or.inr
            rw [same]
            exact ⟨rr, records, taken, rfl, rfl, absent, withFile_self _ _ _⟩
          · exact Or.inl (withFile_of_ne _ _ same)
      | written absent =>
          by_cases closes : env.stdoutCloses world.stdout.length = true
          · rw [if_pos closes] at prints
            rw [exec_bind_of_ok ((exec_bind_of_ok written).trans prints)]
            refine ⟨[rr], records, [], rfl, ?_, by simp, [], rr, rfl, rfl⟩
            change Wrote _ _ _ _ _ files.directory
            rw [left]
            apply wrote_cons absent
            exact wrote_nil _ _
          · rw [if_neg closes] at prints
            rw [exec_bind_of_ok ((exec_bind_of_ok written).trans prints)]
            rcases induction { files, stdout := world.stdout ++ [keyname rr] } with
              ⟨done, rest, printed, split, wrote, more, ends⟩
            refine ⟨rr :: done, rest, keyname rr :: printed, by rw [split]; rfl, ?_, ?_, ?_⟩
            · apply wrote_cons absent
              rw [← left]
              exact wrote
            · rw [more]
              simp
            · revert ends
              generalize (exec (outputAll env key2ds ending records)
                { files, stdout := world.stdout ++ [keyname rr] }).1 = outcome
              intro ends
              rcases outcome with fault | _ | _
              · exact ⟨by rw [ends.1]; rfl, ends.2⟩
              · exact ⟨ends.1, ends.2.1, by rw [ends.2.2]; rfl⟩
              · rcases ends with ⟨earlier, last, split, printed⟩
                exact ⟨rr :: earlier, last, by rw [split]; rfl, by rw [printed]; rfl⟩

/-- What was there before is as it was. -/
theorem Wrote.keeps (wrote : Wrote domain key2ds before done rest after) {path : String}
    (present : (before path).isSome = true) : after path = before path := by
  have notWritten : path ∉ done.map filename := by
    intro member
    rcases List.mem_map.mp member with ⟨rr, inDone, same⟩
    rw [← same, wrote.absent rr inDone] at present
    cases present
  rcases wrote.elsewhere path notWritten with same | ⟨_, _, _, _, _, absent, _⟩
  · exact same
  · rw [absent] at present
    cases present

end Unforced

/-! ## When nothing fails from outside -/

/-- The file with this content, in the place of an entry. -/
def withContent (content : List Char) : Option (FileSteps.Entry String Char) →
    FileSteps.Entry String Char
  | some (.file mode _) => .file mode content
  | _ => .file 0o666 content

/-- The directory with a line in a file. -/
def putLine (directory : Directory String Char) (path : String) (content : List Char) :
    Directory String Char :=
  Function.update directory path (some (withContent content (directory path)))

/-- The path of the file that is opened for a record. -/
def opened (force : Bool) (directory : Directory String Char) (path : String) : Option String :=
  if force then
    (follow directory maxLinks path).filter fun target => directory target ≠ some .directory
  else if (directory path).isSome then none else some path

def writeThrough (domain : Domain) (key2ds : Key2ds) :
    List (Record Ds) → Directory String Char → Option (Directory String Char)
  | [], directory => some directory
  | rr :: records, directory =>
      match opened key2ds.forceOverwrite directory (filename rr) with
      | none => none
      | some target =>
          writeThrough domain key2ds records (putLine directory target (line domain key2ds rr))

section Quiet

variable {env : Environment} {key2ds : Key2ds} {domain : Domain} {rr : Record Ds}
variable {directory now after : Directory String Char} {records : List (Record Ds)}

theorem exec_createFile (quiet : ∀ call, env.failures.failure call = none) (path : String)
    (state : Util.FileState) :
    (exec (createFile env key2ds path) state).1.toOption =
        opened key2ds.forceOverwrite state.directory path ∧
      ∀ target, opened key2ds.forceOverwrite state.directory path = some target →
        (exec (createFile env key2ds path) state).2.directory =
          Function.update state.directory target
            (some (emptied 0o666 (state.directory target))) := by
  unfold createFile opened
  cases forced : key2ds.forceOverwrite with
  | true =>
      rw [if_pos rfl, if_pos rfl, exec_performCall]
      simp only [call, quiet, truncateWork]
      cases leads : follow state.directory maxLinks path with
      | none => simp [mapErr, Keyset.bail, Except.toOption]
      | some target =>
          cases found : state.directory target with
          | none => simp [mapErr, found, Except.toOption, Option.filter]
          | some entry =>
              cases entry with
              | directory => simp [mapErr, Keyset.bail, found, Except.toOption, Option.filter]
              | file mode content => simp [mapErr, found, Except.toOption, Option.filter]
              | link further => exact absurd found (follow_plain leads further)
  | false =>
      rw [if_neg Bool.false_ne_true, if_neg Bool.false_ne_true, exec_bind, Keygen.exec_perform]
      simp only [attempt, quiet, Step.obstacle]
      cases found : state.directory path with
      | none => simp [mapErr, found, emptied, Except.toOption]
      | some entry => simp [mapErr, Keyset.bail, Except.toOption]

theorem fill_emptied (directory : Directory String Char) (path : String)
    (content : List Char) :
    Step.fill path content
      (Function.update directory path (some (emptied 0o666 (directory path)))) =
      putLine directory path content := by
  funext other
  unfold Step.fill putLine
  rcases directory path with _ | _ | _ | _ <;> simp [emptied, withContent]

/-- Without failures a record is written exactly when its file can be opened. -/
theorem exec_writeRecord (quiet : ∀ call, env.failures.failure call = none)
    (state : Util.FileState) :
    match opened key2ds.forceOverwrite state.directory (filename rr) with
    | none => ∃ fault final, exec (writeRecord env key2ds rr) state = (.error fault, final)
    | some target => ∃ calls, exec (writeRecord env key2ds rr) state =
        (.ok (), ⟨putLine state.directory target (line env.domain key2ds rr), calls⟩) := by
  rcases @exec_createFile env key2ds quiet (filename rr) state with ⟨opens, leaves⟩
  unfold writeRecord
  rcases created : exec (createFile env key2ds (filename rr)) state with ⟨fault | target, middle⟩
  · rw [created] at opens
    rw [← opens]
    exact ⟨fault, middle, exec_bind_of_error created⟩
  · rw [created] at opens leaves
    rw [← opens]
    have left := leaves target opens.symm
    have written : attempt env.failures (.write target (line env.domain key2ds rr)) middle =
        (.ok (), ⟨putLine state.directory target (line env.domain key2ds rr),
          middle.calls + 1⟩) := by
      simp only [attempt, quiet, Step.obstacle, Step.apply_write]
      dsimp only at left
      rw [left, fill_emptied]
    use middle.calls + 1
    rw [exec_bind_of_ok created, Util.writeAll, Keygen.exec_perform]
    change exec (mapErr _ (attempt env.failures (.write target (line env.domain key2ds rr))
      middle).1) (attempt env.failures (.write target (line env.domain key2ds rr)) middle).2 = _
    rw [written]
    rfl

/-- Without failures a run returns exactly when every file can be opened in its turn. -/
theorem outputAll_quiet (quiet : ∀ call, env.failures.failure call = none)
    (listens : ∀ lines, env.stdoutCloses lines = false)
    (toFiles : key2ds.writeToStdout = false) (ending : Except Fault Unit)
    (records : List (Record Ds)) (world : World) :
    ((exec (outputAll env key2ds ending records) world).1 = .ok .returned ↔ ending = .ok () ∧
        (writeThrough env.domain key2ds records world.files.directory).isSome = true) ∧
      ∀ after, writeThrough env.domain key2ds records world.files.directory = some after →
        (exec (outputAll env key2ds ending records) world).2.files.directory = after ∧
          (exec (outputAll env key2ds ending records) world).2.stdout =
            world.stdout ++ records.map keyname := by
  induction records generalizing world with
  | nil =>
      cases ending with
      | ok value => simp [outputAll, writeThrough]
      | error fault => simp [outputAll, writeThrough]
  | cons rr records induction =>
      have wrote := @exec_writeRecord env key2ds rr quiet world.files
      have written := exec_onFiles (writeRecord env key2ds rr) world
      have outputs : output env key2ds rr = writeFile env key2ds rr := by
        unfold output
        simp [toFiles]
      unfold outputAll writeThrough
      rw [outputs]
      unfold writeFile
      cases opens : opened key2ds.forceOverwrite world.files.directory (filename rr) with
      | none =>
          rw [opens] at wrote
          rcases wrote with ⟨fault, final, failed⟩
          rw [failed] at written
          rw [exec_bind_of_error (exec_bind_of_error written)]
          simp
      | some target =>
          rw [opens] at wrote
          rcases wrote with ⟨calls, returned⟩
          rw [returned] at written
          have prints := @exec_printLine env (keyname rr)
            { world with files :=
                ⟨putLine world.files.directory target (line env.domain key2ds rr), calls⟩ }
          rw [listens, if_neg Bool.false_ne_true] at prints
          rw [exec_bind_of_ok ((exec_bind_of_ok written).trans prints)]
          have later := induction
            { files := ⟨putLine world.files.directory target (line env.domain key2ds rr), calls⟩
              stdout := world.stdout ++ [keyname rr] }
          rw [List.append_assoc, List.singleton_append, ← List.map_cons] at later
          exact later

end Quiet

/-! ## Which directories admit the records -/

/-- The file that the line of a record goes to. -/
def target (directory : Directory String Char) (rr : Record Ds) : String :=
  (follow directory maxLinks (filename rr)).getD (filename rr)

/-- The directory with the lines of the records, where a later line replaces an earlier one
in the same file. -/
def withLines (domain : Domain) (key2ds : Key2ds) (directory : Directory String Char)
    (records : List (Record Ds)) : Directory String Char :=
  records.foldl (fun now rr => putLine now (target directory rr) (line domain key2ds rr))
    directory

/-- By force every record is written that has a file to go to. Otherwise the files are new
and differ. -/
def Admits (force : Bool) (directory : Directory String Char) (records : List (Record Ds)) :
    Prop :=
  if force = true then
    ∀ rr ∈ records, ∃ path, follow directory maxLinks (filename rr) = some path ∧
      directory path ≠ some .directory
  else
    (records.map filename).Nodup ∧ ∀ rr ∈ records, directory (filename rr) = none

/-- Only files differ. -/
structure Alike (directory now : Directory String Char) : Prop where
  links : ∀ path further, directory path = some (.link further) ↔ now path = some (.link further)
  directories : ∀ path, directory path = some .directory ↔ now path = some .directory

section Admits

variable {domain : Domain} {key2ds : Key2ds} {rr : Record Ds} {records : List (Record Ds)}
variable {directory now after : Directory String Char} {path : String} {content : List Char}

theorem withContent_file (content : List Char) (entry : Option (FileSteps.Entry String Char)) :
    ∃ mode, withContent content entry = .file mode content := by
  rcases entry with _ | _ | _ | _ <;> exact ⟨_, rfl⟩

theorem putLine_of_ne {other : String} (different : other ≠ path) :
    putLine directory path content other = directory other :=
  Function.update_of_ne different _ _

theorem putLine_self : ∃ mode, putLine directory path content path =
    some (.file mode content) := by
  rcases withContent_file content (directory path) with ⟨mode, file⟩
  use mode
  rw [putLine, Function.update_self, file]

theorem Alike.putLine (alike : Alike directory now)
    (plain : ∀ further, now path ≠ some (.link further)) (noDirectory : now path ≠ some .directory) :
    Alike directory (putLine now path content) := by
  rcases @putLine_self now path content with ⟨mode, file⟩
  constructor
  · intro other further
    rw [alike.links]
    by_cases same : other = path
    · rw [same, file]
      simp [plain further]
    · rw [putLine_of_ne same]
  · intro other
    rw [alike.directories]
    by_cases same : other = path
    · rw [same, file]
      simp [noDirectory]
    · rw [putLine_of_ne same]

theorem Alike.follow (alike : Alike directory now) (path : String) :
    follow now maxLinks path = follow directory maxLinks path :=
  (follow_congr alike.links).symm

theorem opened_forced (alike : Alike directory now) :
    opened true now path = (follow directory maxLinks path).filter
      fun target => directory target ≠ some .directory := by
  unfold opened
  rw [if_pos rfl, alike.follow]
  congr 1
  funext target
  simp [alike.directories target]

/-- What is opened is no link and no directory, and it is where the name leads. -/
theorem opened_target {force : Bool} (alike : Alike directory now)
    (opens : opened force now (filename rr) = some path) :
    path = target directory rr ∧ (∀ further, now path ≠ some (.link further)) ∧
      now path ≠ some .directory := by
  unfold target
  cases force with
  | true =>
      rw [opened_forced alike, Option.filter_eq_some_iff] at opens
      rcases opens with ⟨leads, noDirectory⟩
      refine ⟨by rw [leads]; rfl, ?_, ?_⟩
      · rw [← alike.follow] at leads
        exact follow_plain leads
      · simpa [alike.directories path] using noDirectory
  | false =>
      unfold opened at opens
      cases found : now (filename rr) with
      | some entry => simp [found] at opens
      | none =>
          have same : filename rr = path := by simpa [found] using opens
          have plain : ∀ further, directory (filename rr) ≠ some (.link further) := by
            intro further isLink
            rw [alike.links, found] at isLink
            cases isLink
          rw [follow_self plain, ← same, found]
          simp

theorem writeThrough_eq (alike : Alike directory now)
    (writes : writeThrough domain key2ds records now = some after) :
    after = records.foldl
      (fun now rr => putLine now (target directory rr) (line domain key2ds rr)) now := by
  induction records generalizing now with
  | nil =>
      cases writes
      rfl
  | cons rr records induction =>
      unfold writeThrough at writes
      split at writes
      · cases writes
      · next path opens =>
          rcases opened_target alike opens with ⟨same, plain, noDirectory⟩
          rw [induction (alike.putLine plain noDirectory) writes, same]
          rfl

theorem writeThrough_forced (forced : key2ds.forceOverwrite = true)
    (alike : Alike directory now) :
    (writeThrough domain key2ds records now).isSome = true ↔ ∀ rr ∈ records, ∃ path,
      follow directory maxLinks (filename rr) = some path ∧
        directory path ≠ some .directory := by
  induction records generalizing now with
  | nil => simp [writeThrough]
  | cons rr records induction =>
      unfold writeThrough
      rw [forced]
      cases opens : opened true now (filename rr) with
      | none =>
          rw [opened_forced alike] at opens
          apply iff_of_false (by simp)
          intro admits
          rcases admits rr (by simp) with ⟨path, leads, noDirectory⟩
          rw [leads] at opens
          simp [Option.filter, noDirectory] at opens
      | some path =>
          rcases opened_target alike opens with ⟨_, plain, noDirectory⟩
          have later := @induction (putLine now path (line domain key2ds rr))
            (alike.putLine plain noDirectory)
          rw [opened_forced alike, Option.filter_eq_some_iff] at opens
          dsimp only
          rw [later, List.forall_mem_cons]
          apply Iff.symm
          apply and_iff_right
          exact ⟨path, opens.1, of_decide_eq_true opens.2⟩

theorem writeThrough_unforced (unforced : key2ds.forceOverwrite = false) :
    (writeThrough domain key2ds records now).isSome = true ↔
      (records.map filename).Nodup ∧ ∀ rr ∈ records, now (filename rr) = none := by
  induction records generalizing now with
  | nil => simp [writeThrough]
  | cons rr records induction =>
      unfold writeThrough
      rw [unforced]
      cases found : now (filename rr) with
      | some entry => simp [opened, found]
      | none =>
          have later := @induction (putLine now (filename rr) (line domain key2ds rr))
          have opens : opened false now (filename rr) = some (filename rr) := by
            simp [opened, found]
          rw [opens]
          dsimp only
          rw [later, List.map_cons, List.nodup_cons, List.forall_mem_cons]
          rcases @putLine_self now (filename rr) (line domain key2ds rr) with ⟨mode, file⟩
          have absent : ∀ other, putLine now (filename rr) (line domain key2ds rr)
              (filename other) = none ↔ filename other ≠ filename rr ∧
                now (filename other) = none := by
            intro other
            by_cases same : filename other = filename rr
            · rw [same, file]
              simp
            · rw [putLine_of_ne same]
              simp [same]
          simp only [absent, List.mem_map, not_exists, not_and]
          constructor
          · intro both
            exact ⟨⟨fun other member => (both.2 other member).1, both.1⟩, found,
              fun other member => (both.2 other member).2⟩
          · intro both
            exact ⟨both.1.2, fun other member => ⟨both.1.1 other member, both.2.2 other member⟩⟩

theorem alike_refl (directory : Directory String Char) : Alike directory directory :=
  ⟨fun _ _ => Iff.rfl, fun _ => Iff.rfl⟩

theorem writeThrough_iff :
    (writeThrough domain key2ds records directory).isSome = true ↔
      Admits key2ds.forceOverwrite directory records := by
  unfold Admits
  split
  · next forced => exact writeThrough_forced forced (alike_refl directory)
  · next unforced => exact writeThrough_unforced (Bool.eq_false_iff.mpr unforced)

end Admits

/-! ## A key file -/

namespace Reference

def key : Dnskey := { flags := 257, algorithm := 15, publicKey := 0, keyTag := 60136 }

def digest : List UInt8 :=
  [0x52, 0xBD, 0x3B, 0xF4, 0x0C, 0x82, 0x20, 0xBF, 0x1A, 0x3E, 0x2A, 0x37, 0x51, 0xC4, 0x23, 0xBC,
    0x4B, 0x69, 0xBC, 0xD7, 0xF3, 0x28, 0xD3, 0x8C, 0x4C, 0xD0, 0x21, 0xA8, 0x5D, 0xE6, 0x5A, 0xD4]

def digestText : String := "52BD3BF40C8220BF1A3E2A3751C423BC4B69BCD7F328D38C4CD021A85DE65AD4"

def noFailures : Failures := { failure := fun _ => none, taken := fun _ => 0 }

def domain : Domain where
  zonefile := fun _ => [.ok (.record ⟨["example", "test"], 1, 3600, .dnskey key⟩)]
  digest := fun _ _ _ => .ok digest
  displayZonefile := fun rr =>
    s!"{rr.owner.fmtWithDot}\t{rr.ttl}\tIN\tDS\t{rr.data.keyTag} 15 2 {digestText}"
  displayClass := fun _ => "IN"
  displayDs := fun ds => s!"{ds.keyTag} 15 2 {digestText.toLower}"

def env : Environment :=
  { domain, failures := noFailures, stdoutCloses := fun _ => false }

def keyText : String :=
  "example.test.\tIN\tDNSKEY\t257 3 15 8AWQIqSo35guqX6WPIFsUlOnbiqGC5sydeBTVMdLGMs=\n"

def directory : Directory String Char :=
  Function.update (fun _ => none) "key1.key" (some (.file 0o644 keyText.toList))

def key2ds : Key2ds :=
  { ignoreSep := false, writeToStdout := false, forceOverwrite := false, algorithm := none,
    keyfile := "key1.key", invokedAsLdns := false }

end Reference

/-! ## Runs -/

section Runs

variable {env : Environment} {key2ds : Key2ds} {directory : Directory String Char}

theorem run_eq_of_ok {content : List Char} {state : Util.FileState}
    (reads : exec (readKeyfile env key2ds) ⟨directory, 0⟩ = (.ok content, state)) :
    run env key2ds directory = exec (outputAll env key2ds
      (plan env.domain key2ds (env.domain.zonefile content)).2
      (plan env.domain key2ds (env.domain.zonefile content)).1) ⟨state, []⟩ := by
  have read := exec_onFiles (readKeyfile env key2ds) ⟨⟨directory, 0⟩, []⟩
  rw [reads] at read
  rw [run, execute, exec_bind_of_ok read, processEntries_eq]

theorem run_eq_of_error {fault : Fault} {state : Util.FileState}
    (reads : exec (readKeyfile env key2ds) ⟨directory, 0⟩ = (.error fault, state)) :
    run env key2ds directory = (.error fault, ⟨state, []⟩) := by
  have read := exec_onFiles (readKeyfile env key2ds) ⟨⟨directory, 0⟩, []⟩
  rw [reads] at read
  rw [run, execute, exec_bind_of_error read]

/-- A run without force that writes to files: it changes nothing when the key file cannot be
read, and otherwise writes the records of the key file in order to new files. -/
def WritesNewFiles (env : Environment) (key2ds : Key2ds) (directory : Directory String Char) :
    Prop :=
  match (exec (readKeyfile env key2ds) ⟨directory, 0⟩).1 with
  | .error fault => (run env key2ds directory).1 = .error fault ∧
      (run env key2ds directory).2.files.directory = directory ∧
      (run env key2ds directory).2.stdout = []
  | .ok content => ∃ done rest,
      (plan env.domain key2ds (env.domain.zonefile content)).1 = done ++ rest ∧
      Wrote env.domain key2ds directory done rest (run env key2ds directory).2.files.directory ∧
      Ends done rest (plan env.domain key2ds (env.domain.zonefile content)).2
        (run env key2ds directory).2.stdout (run env key2ds directory).1

/-- Whatever fails, what was in the directory stays as it was. -/
theorem run_writesNewFiles (unforced : key2ds.forceOverwrite = false)
    (toFiles : key2ds.writeToStdout = false) :
    WritesNewFiles env key2ds directory ∧ ∀ path, (directory path).isSome = true →
      (run env key2ds directory).2.files.directory path = directory path := by
  have kept := readKeyfile_keeps env key2ds ⟨directory, 0⟩
  unfold WritesNewFiles
  rcases reads : exec (readKeyfile env key2ds) ⟨directory, 0⟩ with ⟨fault | content, state⟩
  · rw [reads] at kept
    rw [run_eq_of_error reads]
    refine ⟨⟨rfl, kept, rfl⟩, ?_⟩
    intro path _
    exact congrFun kept path
  · rw [reads] at kept
    rw [run_eq_of_ok reads]
    rcases outputAll_new unforced toFiles
      (plan env.domain key2ds (env.domain.zonefile content)).2
      (plan env.domain key2ds (env.domain.zonefile content)).1 ⟨state, []⟩ with
      ⟨done, rest, printed, split, wrote, prints, ends⟩
    dsimp only at kept wrote prints
    rw [kept] at wrote
    rw [List.nil_append] at prints
    rw [← prints] at ends
    exact ⟨⟨done, rest, split, wrote, ends⟩, fun path present => wrote.keeps present⟩

theorem run_writesNewFiles_reference :
    WritesNewFiles Reference.env Reference.key2ds Reference.directory ∧
      ∀ path, (Reference.directory path).isSome = true →
        (run Reference.env Reference.key2ds Reference.directory).2.files.directory path =
          Reference.directory path :=
  run_writesNewFiles rfl rfl

variable {content : List Char} {mode : Nat} {path : String}

theorem exec_readKeyfile (quiet : ∀ call, env.failures.failure call = none)
    (leads : follow directory maxLinks key2ds.keyfile = some path)
    (file : directory path = some (.file mode content)) :
    exec (readKeyfile env key2ds) ⟨directory, 0⟩ = (.ok content, ⟨directory, 2⟩) := by
  have opens : call env.failures (openWork key2ds.keyfile) ⟨directory, 0⟩ =
      (.ok path, ⟨directory, 1⟩) := by
    simp [call, quiet, openWork, leads, file]
  have reads : call env.failures (readWork path) ⟨directory, 1⟩ =
      (.ok content, ⟨directory, 2⟩) := by
    simp [call, quiet, readWork, file]
  have first := @exec_performCall _ env.failures
    (fun e => s!"Failed to open public key file \"{key2ds.keyfile}\": {e}")
    (openWork key2ds.keyfile) ⟨directory, 0⟩
  rw [opens] at first
  unfold readKeyfile
  rw [exec_bind_of_ok first, exec_bind_of_ok (exec_get _), reads]
  rfl

/-- When nothing fails from outside, a run returns exactly when every key has a record and
the directory admits them. Then all of them are written, and their names printed. -/
theorem run_returned_iff (quiet : ∀ call, env.failures.failure call = none)
    (listens : ∀ lines, env.stdoutCloses lines = false)
    (toFiles : key2ds.writeToStdout = false)
    (leads : follow directory maxLinks key2ds.keyfile = some path)
    (file : directory path = some (.file mode content)) :
    ((run env key2ds directory).1 = .ok .returned ↔
      (plan env.domain key2ds (env.domain.zonefile content)).2 = .ok () ∧
        Admits key2ds.forceOverwrite directory
          (plan env.domain key2ds (env.domain.zonefile content)).1) ∧
    ((run env key2ds directory).1 = .ok .returned →
      (run env key2ds directory).2.files.directory = withLines env.domain key2ds directory
        (plan env.domain key2ds (env.domain.zonefile content)).1 ∧
      (run env key2ds directory).2.stdout =
        (plan env.domain key2ds (env.domain.zonefile content)).1.map keyname) := by
  rw [run_eq_of_ok (exec_readKeyfile quiet leads file)]
  generalize plan env.domain key2ds (env.domain.zonefile content) = planned
  rcases outputAll_quiet quiet listens toFiles planned.2 planned.1 ⟨⟨directory, 2⟩, []⟩ with
    ⟨returns, leaves⟩
  refine ⟨by rw [returns, writeThrough_iff], ?_⟩
  intro returned
  rcases Option.isSome_iff_exists.mp (returns.mp returned).2 with ⟨after, writes⟩
  rcases leaves after writes with ⟨left, printed⟩
  exact ⟨left.trans (writeThrough_eq (alike_refl directory) writes), printed⟩

theorem run_returned_iff_reference :
    (run Reference.env Reference.key2ds Reference.directory).1 = .ok .returned ∧
      (run Reference.env Reference.key2ds Reference.directory).2.stdout =
        ["Kexample.test.+015+60136"] := by
  have file : Reference.directory "key1.key" = some (.file 0o644 Reference.keyText.toList) :=
    Function.update_self _ _ _
  have result := @run_returned_iff Reference.env Reference.key2ds Reference.directory
    Reference.keyText.toList 0o644 "key1.key" (fun _ => rfl) (fun _ => rfl) rfl rfl file
  have absent : Reference.directory "Kexample.test.+015+60136.ds" = none :=
    Function.update_of_ne (by decide) _ _
  have returned := result.1.mpr ⟨rfl, List.nodup_singleton _, by
    intro rr member
    rw [List.mem_singleton.mp member]
    exact absent⟩
  exact ⟨returned, (result.2 returned).2⟩

end Runs

end Dnst.Key2ds
