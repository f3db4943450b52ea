import Dnst.Keyset.DefaultServer

/-! # What subcommands do to credentials files

The effect of a KMIP subcommand on the credentials files is worked out one file at a
time: an operation stops and leaves some content behind, or it is done.
-/

namespace Dnst.Keyset.Kmip

open Effect

/-! ## Outcomes -/

/-- An operation stops and leaves some content behind, or it is done. -/
inductive Outcome (Content Value : Type) where
  | stopped (content : Content)
  | done (value : Value) (content : Content) (calls : Nat)

/-- The content of one credentials file, if it exists. -/
abbrev FileOutcome (Value : Type) := Outcome (Option Bytes) Value

namespace Outcome

variable {Content Value Result : Type}

def andThen (outcome : Outcome Content Value)
    (next : Value → Content → Nat → Outcome Content Result) : Outcome Content Result :=
  match outcome with
  | .stopped content => .stopped content
  | .done value content calls => next value content calls

theorem andThen_eq_done {outcome : Outcome Content Value}
    {next : Value → Content → Nat → Outcome Content Result} {result : Result}
    {final : Content} {calls : Nat} :
    outcome.andThen next = .done result final calls ↔
      ∃ value content call, outcome = .done value content call ∧
        next value content call = .done result final calls := by
  cases outcome with
  | stopped content =>
      constructor
      · intro impossible
        cases impossible
      · rintro ⟨_, _, _, impossible, _⟩
        cases impossible
  | done value content call =>
      constructor
      · intro later
        exact ⟨value, content, call, rfl, later⟩
      · rintro ⟨_, _, _, same, later⟩
        cases same
        exact later

theorem andThen_done (outcome : Outcome Content Unit) :
    outcome.andThen (fun _ content calls => .done () content calls) = outcome := by
  cases outcome <;> rfl

/-- The outcome for all files when one of them is worked on. -/
def atFile (path : String) (files : CredentialFiles) :
    FileOutcome Value → Outcome CredentialFiles Value
  | .stopped content => .stopped (Function.update files path content)
  | .done value content calls => .done value (Function.update files path content) calls

end Outcome

theorem atFile_eq_done {Value : Type} {path : String} {files after : CredentialFiles}
    {outcome : FileOutcome Value} {value : Value} {calls : Nat} :
    outcome.atFile path files = .done value after calls ↔
      ∃ content, outcome = .done value content calls ∧
        after = Function.update files path content := by
  cases outcome with
  | stopped content =>
      constructor
      · intro impossible
        cases impossible
      · rintro ⟨_, impossible, _⟩
        cases impossible
  | done found content call =>
      constructor
      · intro same
        cases same
        exact ⟨content, rfl, rfl⟩
      · rintro ⟨_, same, rfl⟩
        cases same
        rfl

/-! ## Operations on one file -/

def KmipEnvironment.fails (env : KmipEnvironment) (call : Nat) : Bool :=
  (env.fileFailure call).isSome

/-- Reading a file that has been opened. -/
def loading (env : KmipEnvironment) (path : String) (mode : KmipServerCredentialsFileMode)
    (bytes : Bytes) (call : Nat) : FileOutcome KmipClientCredentialsFile :=
  if env.fails call then .stopped (some bytes)
  else if bytes.isEmpty then .done ⟨path, [], mode⟩ (some bytes) (call + 1)
  else if env.fails (call + 1) then .stopped (some bytes)
  else
    match env.parseCredentials bytes with
    | .error _ => .stopped (some bytes)
    | .ok credentials => .done ⟨path, credentials, mode⟩ (some bytes) (call + 2)

/-- Opening and reading a file. A missing file may be created. -/
def reading (env : KmipEnvironment) (path : String) (mode : KmipServerCredentialsFileMode)
    (content : Option Bytes) (call : Nat) : FileOutcome KmipClientCredentialsFile :=
  if env.fails call then .stopped content
  else
    match content with
    | some bytes => loading env path mode bytes (call + 1)
    | none => if mode.creates then loading env path mode [] (call + 1) else .stopped none

/-- Saving the credentials in a file that exists. Seeking, writing, flushing, asking for
the position, truncating and flushing again can fail. -/
def saving (env : KmipEnvironment) (credentials : KmipClientCredentialsSet)
    (content : Option Bytes) (call : Nat) : FileOutcome Unit :=
  let text := env.showCredentials (call + 1) credentials
  let old := content.getD []
  if env.fails call then .stopped content
  else if env.fails (call + 1) then
    .stopped (some (overwrite (text.take (env.written (call + 1))) old))
  else if env.fails (call + 2) then
    .stopped (some (overwrite (text.take (env.written (call + 2))) old))
  else if env.fails (call + 3) then .stopped (some (overwrite text old))
  else if env.fails (call + 4) then .stopped (some (overwrite text old))
  else if env.fails (call + 5) then .stopped (some text)
  else .done () (some text) (call + 6)

/-- Removing the credentials of a server and a file without credentials. -/
def removal (env : KmipEnvironment) (serverId path : String) (content : Option Bytes)
    (call : Nat) : FileOutcome KmipClientCredentials :=
  (reading env path .readWrite content call).andThen fun file content call =>
    match file.credentials.lookup serverId with
    | none => .stopped content
    | some creds =>
        let left := HashMap.remove serverId file.credentials
        (saving env left content call).andThen fun _ content call =>
          if !left.isEmpty then .done creds content call
          else if env.fails call then .stopped content
          else .done creds none (call + 1)

/-- Storing the credentials of a server, in a new file if need be. -/
def storing (env : KmipEnvironment) (serverId path : String) (creds : KmipClientCredentials)
    (content : Option Bytes) (call : Nat) : FileOutcome Unit :=
  (reading env path .createReadWrite content call).andThen fun file content call =>
    saving env (HashMap.insert serverId creds file.credentials) content call

/-- Storing the credentials of a new server, or checking that they are there. -/
def adding (env : KmipEnvironment) (serverId path : String)
    (creds : Option KmipClientCredentials) (content : Option Bytes) (call : Nat) :
    FileOutcome Unit :=
  (reading env path .createReadWrite content call).andThen fun file content call =>
    match creds, HashMap.contains serverId file.credentials with
    | some creds, false =>
        saving env (HashMap.insert serverId creds file.credentials) content call
    | none, true => .done () content call
    | _, _ => .stopped content

/-- The options that are given replace what is stored. -/
def withOptions (username password : Option String) (creds : KmipClientCredentials) :
    KmipClientCredentials :=
  { username := username.getD creds.username
    password := password.or creds.password }

/-- Adjusting the credentials of a server in place. -/
def adjusting (env : KmipEnvironment) (serverId path : String)
    (username password : Option String) (content : Option Bytes) (call : Nat) :
    FileOutcome Unit :=
  (reading env path .readWrite content call).andThen fun file content call =>
    match file.credentials.lookup serverId, username with
    | none, none => .stopped content
    | none, some username =>
        saving env (HashMap.insert serverId ⟨username, password⟩ file.credentials) content call
    | some creds, username =>
        saving env (HashMap.insert serverId (withOptions username password creds)
          file.credentials) content call

/-! ## Runs and their outcomes -/

/-- A run ends with this outcome for the credentials files. -/
def Ends {Value : Type} (run : Except Fault Value × KmipSpace) :
    Outcome CredentialFiles Value → Prop
  | .stopped files => (∃ message, run.1 = .error (.error message)) ∧ run.2.files = files
  | .done value files calls => run.1 = .ok value ∧ run.2.files = files ∧ run.2.calls = calls

section Ends

variable {Value Result : Type} {env : KmipEnvironment} {space : KmipSpace}
variable {path : String} {files : CredentialFiles} {content : Option Bytes}

theorem ends_bind {action : KmipRun Value} {next : Value → KmipRun Result}
    {outcome : Outcome CredentialFiles Value}
    {later : Value → CredentialFiles → Nat → Outcome CredentialFiles Result}
    (first : Ends (exec action space) outcome)
    (rest : ∀ value final, outcome = .done value final.files final.calls →
      Ends (exec (next value) final) (later value final.files final.calls)) :
    Ends (exec (action >>= next) space) (outcome.andThen later) := by
  rw [exec_bind]
  rcases run : exec action space with ⟨fault | value, final⟩
  · rw [run] at first
    cases outcome with
    | stopped files =>
        obtain ⟨⟨message, failed⟩, left⟩ := first
        cases failed
        exact ⟨⟨message, rfl⟩, left⟩
    | done value files calls => cases first.1
  · rw [run] at first
    cases outcome with
    | stopped files =>
        obtain ⟨⟨message, failed⟩, _⟩ := first
        cases failed
    | done expected files calls =>
        obtain ⟨returned, sameFiles, sameCalls⟩ := first
        cases returned
        cases sameFiles
        cases sameCalls
        exact rest value final rfl

theorem ends_return {action : KmipRun Value} {outcome : Outcome CredentialFiles Value}
    (acts : Ends (exec action space) outcome) (result : Result) :
    Ends (exec (action >>= fun _ => pure result) space)
      (outcome.andThen fun _ files call => .done result files call) :=
  ends_bind acts fun _ _ _ => ⟨rfl, rfl, rfl⟩

theorem exec_attemptFile (env : KmipEnvironment) (message : String → String)
    (space : KmipSpace) :
    exec (attemptFile env message) space =
      ((match env.fileFailure space.calls with
        | none => .ok ()
        | some reason => .error (.error (message reason))),
        { space with calls := space.calls + 1 }) := by
  have counted : exec nextFileCall space =
    (.ok space.calls, { space with calls := space.calls + 1 }) := rfl
  unfold attemptFile
  rw [exec_bind_of_ok counted]
  cases env.fileFailure space.calls <;> rfl

/-- The outcome for one file, when that file now holds `content`. -/
abbrev EndsAt (path : String) (files : CredentialFiles)
    (run : Except Fault Value × KmipSpace) (outcome : FileOutcome Value) : Prop :=
  Ends run (outcome.atFile path files)

theorem endsAt_attempt {message : String → String} {next : Unit → KmipRun Value}
    {outcome : FileOutcome Value} (current : space.files = Function.update files path content)
    (later : EndsAt path files (exec (next ()) { space with calls := space.calls + 1 })
      outcome) :
    EndsAt path files (exec (attemptFile env message >>= next) space)
      (if env.fails space.calls then .stopped content else outcome) := by
  rw [exec_bind, exec_attemptFile]
  unfold KmipEnvironment.fails
  cases env.fileFailure space.calls with
  | none => exact later
  | some reason => exact ⟨⟨_, rfl⟩, current⟩

theorem endsAt_write {message : String → String} {next : Unit → KmipRun Value}
    {text old : Bytes} {outcome : FileOutcome Value}
    (later : EndsAt path space.files
      (exec (next ()) { space with calls := space.calls + 1 }) outcome) :
    EndsAt path space.files (exec (writeFile env path text old message >>= next) space)
      (if env.fails space.calls then
        .stopped (some (overwrite (text.take (env.written space.calls)) old))
      else outcome) := by
  have counted : exec nextFileCall space =
    (.ok space.calls, { space with calls := space.calls + 1 }) := rfl
  unfold writeFile
  rw [bind_assoc, exec_bind_of_ok counted]
  unfold KmipEnvironment.fails
  cases env.fileFailure space.calls with
  | none => exact later
  | some reason => exact ⟨⟨_, rfl⟩, rfl⟩

theorem exec_setFile (path : String) (content : Option Bytes) (space : KmipSpace) :
    exec (setFile path content) space =
      (.ok ⟨⟩, { space with files := Function.update space.files path content }) := rfl

theorem ends_load {mode : KmipServerCredentialsFileMode} {bytes : Bytes}
    {message : String → String}
    (current : space.files = Function.update files path (some bytes)) :
    EndsAt path files (exec (do
        attemptFile env message
        let credentials ← loadCredentials env path
        return (⟨path, credentials, mode⟩ : KmipClientCredentialsFile)) space)
      (loading env path mode bytes space.calls) := by
  apply endsAt_attempt current
  have found : space.files path = some bytes := by
    rw [current, Function.update_self]
  unfold loadCredentials
  rw [bind_assoc, exec_bind_of_ok (exec_get _)]
  dsimp only
  rw [found]
  cases bytes with
  | nil => exact ⟨rfl, current, rfl⟩
  | cons byte bytes =>
      rw [bind_assoc, if_neg (by simp)]
      refine endsAt_attempt ?_ ?_
      · exact current
      · cases env.parseCredentials (byte :: bytes) with
        | error reason => exact ⟨⟨_, rfl⟩, current⟩
        | ok credentials => exact ⟨rfl, current, rfl⟩

theorem ends_new (path : String) (mode : KmipServerCredentialsFileMode) :
    EndsAt path space.files (exec (KmipClientCredentialsFile.new env path mode) space)
      (reading env path mode (space.files path) space.calls) := by
  have current : space.files = Function.update space.files path (space.files path) :=
    (Function.update_eq_self path space.files).symm
  unfold KmipClientCredentialsFile.new openFile
  rw [bind_assoc]
  apply endsAt_attempt current
  rw [bind_assoc, exec_bind_of_ok (exec_get _)]
  dsimp only
  cases found : space.files path with
  | some bytes =>
      rw [found] at current
      exact ends_load current
  | none =>
      cases mode.creates with
      | true => exact ends_load rfl
      | false =>
          rw [found] at current
          exact ⟨⟨_, rfl⟩, current⟩

theorem ends_save (file : KmipClientCredentialsFile) :
    EndsAt file.path space.files (exec (file.save env) space)
      (saving env file.credentials (space.files file.path) space.calls) := by
  have current : space.files =
      Function.update space.files file.path (space.files file.path) :=
    (Function.update_eq_self file.path space.files).symm
  unfold KmipClientCredentialsFile.save
  apply endsAt_attempt current
  rw [exec_bind_of_ok (exec_get _)]
  dsimp only
  refine endsAt_write (endsAt_write ?_)
  rw [exec_bind_of_ok (exec_setFile _ _ _)]
  refine endsAt_attempt rfl (endsAt_attempt rfl ?_)
  rw [exec_bind_of_ok (exec_setFile _ _ _), exec_attemptFile]
  dsimp only
  rw [Function.update_idem]
  unfold KmipEnvironment.fails
  cases env.fileFailure (space.calls + 5) with
  | none => exact ⟨rfl, rfl, rfl⟩
  | some reason => exact ⟨⟨_, rfl⟩, rfl⟩

theorem endsAt_bind {action : KmipRun Value} {next : Value → KmipRun Result}
    {outcome : FileOutcome Value} {later : Value → Option Bytes → Nat → FileOutcome Result}
    (first : EndsAt path files (exec action space) outcome)
    (rest : ∀ value final content, outcome = .done value content final.calls →
      final.files = Function.update files path content →
      EndsAt path files (exec (next value) final) (later value content final.calls)) :
    EndsAt path files (exec (action >>= next) space) (outcome.andThen later) := by
  rw [exec_bind]
  rcases run : exec action space with ⟨fault | value, final⟩
  · rw [run] at first
    cases outcome with
    | stopped content =>
        obtain ⟨⟨message, failed⟩, left⟩ := first
        cases failed
        exact ⟨⟨message, rfl⟩, left⟩
    | done value content calls => cases first.1
  · rw [run] at first
    cases outcome with
    | stopped content =>
        obtain ⟨⟨message, failed⟩, _⟩ := first
        cases failed
    | done expected content calls =>
        obtain ⟨returned, sameFiles, sameCalls⟩ := first
        cases returned
        cases sameCalls
        exact rest value final content rfl sameFiles

/-- What the file held before does not matter for where it is. -/
theorem EndsAt.rebase {run : Except Fault Value × KmipSpace} {outcome : FileOutcome Value}
    {current : CredentialFiles} (ends : EndsAt path current run outcome)
    (same : current = Function.update files path content) : EndsAt path files run outcome := by
  subst same
  cases outcome with
  | stopped left =>
      obtain ⟨failed, left⟩ := ends
      rw [Function.update_idem] at left
      exact ⟨failed, left⟩
  | done value left calls =>
      obtain ⟨returned, left, counted⟩ := ends
      rw [Function.update_idem] at left
      exact ⟨returned, left, counted⟩

/-- Saving a file on the way. -/
theorem endsAt_save {file : KmipClientCredentialsFile} (place : file.path = path)
    (current : space.files = Function.update files path content) :
    EndsAt path files (exec (file.save env) space)
      (saving env file.credentials content space.calls) := by
  have saved := @ends_save env space file
  rw [place, current, Function.update_self] at saved
  rw [← current] at saved
  exact saved.rebase current

theorem loading_path {mode : KmipServerCredentialsFileMode} {bytes : Bytes} {call calls : Nat}
    {file : KmipClientCredentialsFile}
    (loaded : loading env path mode bytes call = .done file content calls) :
    file.path = path := by
  unfold loading at loaded
  split at loaded
  · cases loaded
  · split at loaded
    · cases loaded
      rfl
    · split at loaded
      · cases loaded
      · split at loaded
        · cases loaded
        · cases loaded
          rfl

theorem reading_path {mode : KmipServerCredentialsFileMode} {before : Option Bytes}
    {call calls : Nat} {file : KmipClientCredentialsFile}
    (read : reading env path mode before call = .done file content calls) :
    file.path = path := by
  unfold reading at read
  split at read
  · cases read
  · split at read
    · exact loading_path read
    · split at read
      · exact loading_path read
      · cases read

theorem ends_removal (serverId path : String) :
    EndsAt path space.files (exec (removeKmipClientCredentials env serverId path) space)
      (removal env serverId path (space.files path) space.calls) := by
  unfold removeKmipClientCredentials removal
  refine endsAt_bind (ends_new path _) fun file final content read current => ?_
  have place := reading_path read
  cases file.credentials.lookup serverId with
  | none => exact ⟨⟨_, rfl⟩, current⟩
  | some creds =>
      dsimp only
      refine endsAt_bind (endsAt_save place current) fun _ final content saved current => ?_
      unfold KmipClientCredentialsFile.isEmpty KmipClientCredentialsFile.remove onlyIf
      dsimp only
      cases (HashMap.remove serverId file.credentials).isEmpty with
      | false => exact ⟨rfl, current, rfl⟩
      | true =>
          rw [if_pos rfl, bind_assoc]
          refine endsAt_attempt current ?_
          rw [exec_bind_of_ok (exec_setFile _ _ _)]
          refine ⟨rfl, ?_, rfl⟩
          change Function.update final.files path none = _
          rw [current, Function.update_idem]

theorem ends_storing (serverId path : String) (creds : KmipClientCredentials) :
    EndsAt path space.files (exec (do
        let file ← KmipClientCredentialsFile.new env path .createReadWrite
        (file.insert serverId creds).save env) space)
      (storing env serverId path creds (space.files path) space.calls) := by
  refine endsAt_bind (ends_new path _) fun file final content read current => ?_
  have read := reading_path read
  have place : (file.insert serverId creds).path = path := read
  exact endsAt_save place current

theorem exec_refuseIf (condition : Bool) (message : String) (space : KmipSpace) :
    exec (refuseIf condition message : KmipRun Unit) space =
      (if condition then .error (.error message) else .ok (), space) := by
  cases condition <;> rfl

theorem ends_adding (serverId path : String) (creds : Option KmipClientCredentials) :
    EndsAt path space.files (exec (addCredentials env serverId path creds) space)
      (adding env serverId path creds (space.files path) space.calls) := by
  refine endsAt_bind (ends_new path _) fun file final content read current => ?_
  unfold KmipClientCredentialsFile.contains
  cases creds with
  | none =>
      dsimp only
      rw [exec_refuseIf]
      cases HashMap.contains serverId file.credentials with
      | true => exact ⟨rfl, current, rfl⟩
      | false => exact ⟨⟨_, rfl⟩, current⟩
  | some creds =>
      dsimp only
      rw [exec_bind, exec_refuseIf]
      cases HashMap.contains serverId file.credentials with
      | true => exact ⟨⟨_, rfl⟩, current⟩
      | false =>
          have read := reading_path read
          have place : (file.insert serverId creds).path = path := read
          exact endsAt_save place current

theorem adjustCredentials_options (username password : Option String)
    (creds : KmipClientCredentials) :
    adjustCredentials (.ofOption username) (.ofOption password) creds =
      pure (withOptions username password creds) := by
  cases username <;> cases password <;> rfl

theorem ends_adjusting (serverId path : String) (username password : Option String) :
    EndsAt path space.files (exec (do
        let file ← KmipClientCredentialsFile.new env path .readWrite
        let creds ← adjustedCredentials (.ofOption username) (.ofOption password)
          (file.credentials.lookup serverId)
        (file.insert serverId creds).save env) space)
      (adjusting env serverId path username password (space.files path) space.calls) := by
  refine endsAt_bind (ends_new path _) fun file final content read current => ?_
  have read := reading_path read
  have place : ∀ creds, (file.insert serverId creds).path = path := fun _ => read
  cases file.credentials.lookup serverId with
  | none =>
      cases username with
      | none => exact ⟨⟨_, rfl⟩, current⟩
      | some username =>
          have found : adjustedCredentials (.ofOption (some username)) (.ofOption password)
              none = pure ⟨username, password⟩ := by
            simp only [adjustedCredentials, ChangeRemoveLeave.ofOption]
            cases password <;> rfl
          rw [found]
          exact endsAt_save (place _) current
  | some creds =>
      have found : adjustedCredentials (.ofOption username) (.ofOption password)
          (some creds) = pure (withOptions username password creds) :=
        adjustCredentials_options username password creds
      rw [found]
      cases username <;> exact endsAt_save (place _) current

end Ends

/-! ## Modifying a server -/

/-- What becomes of the credentials files when a server is modified. -/
def changing (env : KmipEnvironment) (options : ModifyServer) (oldPath : Option String)
    (files : CredentialFiles) (call : Nat) : Outcome CredentialFiles (Option String) :=
  let store := fun (path : String) creds (files : CredentialFiles) call =>
    ((storing env options.serverId path creds (files path) call).atFile path files).andThen
      fun _ files call => .done (some path) files call
  match options.noCredentials, options.credentialsStorePath, oldPath with
  | true, _, none => .done none files call
  | true, _, some path =>
      ((removal env options.serverId path (files path) call).atFile path files).andThen
        fun _ files call => .done none files call
  | false, some newPath, some path =>
      ((removal env options.serverId path (files path) call).atFile path files).andThen
        fun creds files call =>
          store newPath (withOptions options.username options.password creds) files call
  | false, some newPath, none =>
      match options.username with
      | some username => store newPath ⟨username, options.password⟩ files call
      | none => .stopped files
  | false, none, oldPath =>
      match options.username, options.password, oldPath with
      | none, none, _ => .done oldPath files call
      | _, _, none => .stopped files
      | username, password, some path =>
          ((adjusting env options.serverId path username password (files path) call).atFile
            path files).andThen fun _ files call => .done (some path) files call

section Modify

variable {env : KmipEnvironment} {space : KmipSpace}

theorem changeCredentials_remove (serverId path : String) :
    changeCredentials env serverId (some path) .remove .remove .remove = (do
      let _ ← removeKmipClientCredentials env serverId path
      return none) := by
  change ((removeKmipClientCredentials env serverId path >>= fun _ => pure ()) >>= fun _ =>
    pure none) = _
  rw [bind_assoc]
  rfl

/-- Adjusting credentials where they are. -/
theorem changeCredentials_adjust (serverId path : String) (username password : Option String)
    (given : ¬(username = none ∧ password = none)) :
    changeCredentials env serverId (some path) .leave (.ofOption username)
        (.ofOption password) = (do
      let file ← KmipClientCredentialsFile.new env path .readWrite
      let creds ← adjustedCredentials (.ofOption username) (.ofOption password)
        (file.credentials.lookup serverId)
      (file.insert serverId creds).save env
      return some path) := by
  cases username with
  | some username => cases password <;> rfl
  | none =>
      cases password with
      | some password => rfl
      | none => exact absurd ⟨rfl, rfl⟩ given

/-- Moving credentials, adjusted on the way. -/
theorem changeCredentials_move (serverId newPath path : String)
    (username password : Option String) :
    changeCredentials env serverId (some path) (.change newPath) (.ofOption username)
        (.ofOption password) = (do
      let creds ← removeKmipClientCredentials env serverId path
      let file ← KmipClientCredentialsFile.new env newPath .createReadWrite
      (file.insert serverId (withOptions username password creds)).save env
      return some newPath) := by
  have adjusted : movedCredentials env serverId (some path) (.ofOption username)
      (.ofOption password) = (do
        let creds ← removeKmipClientCredentials env serverId path
        return withOptions username password creds) := by
    simp only [movedCredentials, adjustCredentials_options]
  have unfolded : changeCredentials env serverId (some path) (.change newPath)
      (.ofOption username) (.ofOption password) = (do
        let creds ← movedCredentials env serverId (some path) (.ofOption username)
          (.ofOption password)
        let file ← KmipClientCredentialsFile.new env newPath .createReadWrite
        (file.insert serverId creds).save env
        return some newPath) := by
    cases username <;> cases password <;> rfl
  rw [unfolded, adjusted, bind_assoc]
  rfl

/-- Storing credentials for a server that had none. -/
theorem changeCredentials_store (serverId newPath : String) (username : String)
    (password : Option String) :
    changeCredentials env serverId none (.change newPath) (.ofOption (some username))
        (.ofOption password) = (do
      let file ← KmipClientCredentialsFile.new env newPath .createReadWrite
      (file.insert serverId ⟨username, password⟩).save env
      return some newPath) := by
  cases password <;> rfl

theorem ends_changeCredentials (options : ModifyServer) (oldPath : Option String) :
    Ends (exec (changeCredentials env options.serverId oldPath
        (.removeIf options.noCredentials options.credentialsStorePath)
        (.removeIf options.noCredentials options.username)
        (.removeIf options.noCredentials options.password)) space)
      (changing env options oldPath space.files space.calls) := by
  have stored : ∀ (path : String) creds (space : KmipSpace),
      Ends (exec (do
          let file ← KmipClientCredentialsFile.new env path .createReadWrite
          (file.insert options.serverId creds).save env
          return some path) space)
        (((storing env options.serverId path creds (space.files path) space.calls).atFile path
          space.files).andThen fun _ files call => .done (some path) files call) := by
    intro path creds space
    have whole := ends_return (@ends_storing env space options.serverId path creds) (some path)
    rwa [bind_assoc] at whole
  unfold changing
  cases options.noCredentials with
  | true =>
      cases oldPath with
      | none => exact ⟨rfl, rfl, rfl⟩
      | some path =>
          change Ends (exec (changeCredentials env options.serverId (some path) .remove .remove
            .remove) space) _
          rw [changeCredentials_remove]
          exact ends_return (ends_removal options.serverId path) _
  | false =>
      cases options.credentialsStorePath with
      | some newPath =>
          cases oldPath with
          | some path =>
              change Ends (exec (changeCredentials env options.serverId (some path)
                (.change newPath) (.ofOption options.username) (.ofOption options.password))
                space) _
              rw [changeCredentials_move]
              exact ends_bind (ends_removal options.serverId path) fun creds final _ =>
                stored newPath _ final
          | none =>
              cases options.username with
              | none =>
                  cases options.password <;> exact ⟨⟨_, rfl⟩, rfl⟩
              | some username =>
                  have ends := stored newPath ⟨username, options.password⟩ space
                  rw [← changeCredentials_store] at ends
                  exact ends
      | none =>
          change Ends (exec (changeCredentials env options.serverId oldPath .leave
            (.ofOption options.username) (.ofOption options.password)) space) _
          by_cases untouched : options.username = none ∧ options.password = none
          · rw [untouched.1, untouched.2]
            exact ⟨rfl, rfl, rfl⟩
          · cases oldPath with
            | none =>
                cases username : options.username with
                | some username => cases options.password <;> exact ⟨⟨_, rfl⟩, rfl⟩
                | none =>
                    cases password : options.password with
                    | some password => exact ⟨⟨_, rfl⟩, rfl⟩
                    | none => exact absurd ⟨username, password⟩ untouched
            | some path =>
                rw [changeCredentials_adjust _ _ _ _ untouched]
                have ends := ends_return (@ends_adjusting env space options.serverId path
                  options.username options.password) (some path)
                simp only [bind_assoc] at ends
                cases username : options.username with
                | some username =>
                    rw [username] at ends
                    cases password : options.password <;> rw [password] at ends <;> exact ends
                | none =>
                    rw [username] at ends
                    cases password : options.password with
                    | some password =>
                        rw [password] at ends
                        exact ends
                    | none => exact absurd ⟨username, password⟩ untouched

/-- What becomes of the credentials files in `modify-server`. -/
def modifying (env : KmipEnvironment) (options : ModifyServer) (kmip : KmipState)
    (files : CredentialFiles) (call : Nat) : Outcome CredentialFiles Unit :=
  match kmip.servers.lookup options.serverId with
  | none => .stopped files
  | some cfg =>
      (changing env options cfg.clientCredentialsPath files call).andThen fun _ files call =>
        match options.clientAuth cfg.clientCertAuth with
        | .error _ => .stopped files
        | .ok _ => .done () files call

theorem ends_onlyIf_setDefault (condition : Bool) (serverId : Option String) :
    Ends (exec (onlyIf condition (setDefault serverId)) space)
      (.done () space.files space.calls) := by
  cases condition <;> exact ⟨rfl, rfl, rfl⟩

theorem ends_modify (options : ModifyServer) :
    Ends (exec (modifyKmipServer env options) space)
      (modifying env options space.kss.kmip space.files space.calls) := by
  unfold modifyKmipServer modifying
  rw [exec_bind_of_ok (exec_get _)]
  cases space.kss.kmip.servers.lookup options.serverId with
  | none => exact ⟨⟨_, rfl⟩, rfl⟩
  | some cfg =>
      let left := HashMap.remove options.serverId space.kss.kmip.servers
      refine ends_bind (@ends_changeCredentials env
        { space with kss.kmip.servers := left } options cfg.clientCredentialsPath)
        fun path final _ => ?_
      cases options.clientAuth cfg.clientCertAuth with
      | error reason => exact ⟨⟨_, rfl⟩, rfl⟩
      | ok auth => exact ends_onlyIf_setDefault _ _

end Modify

/-! ## All subcommands -/

/-- Nothing keeps a server from being removed. -/
def removable (platform : Platform) (kss : KeySetState) (serverId : String) : Bool :=
  kss.kmip.defaultServerId != some serverId &&
    !kss.keyset.keys.any fun entry => usesServer platform serverId entry.1

/-- The credentials file of a configured server. -/
def storeOf (kmip : KmipState) (serverId : String) : Option String :=
  (kmip.servers.lookup serverId).bind KmipServerConnectionConfig.clientCredentialsPath

/-- What becomes of the credentials files. -/
def KmipCommands.outcome (env : KmipEnvironment) (space : KmipSpace) :
    KmipCommands → Outcome CredentialFiles Unit
  | .disable => .done () space.files space.calls
  | .addServer options =>
      match HashMap.contains options.serverId space.kss.kmip.servers,
        options.credentialsStorePath with
      | true, _ => .stopped space.files
      | false, none => .done () space.files space.calls
      | false, some path =>
          (adding env options.serverId path options.credentials (space.files path)
            space.calls).atFile path space.files
  | .modifyServer options => modifying env options space.kss.kmip space.files space.calls
  | .removeServer serverId =>
      match removable env.toPlatform space.kss serverId, storeOf space.kss.kmip serverId with
      | false, _ => .stopped space.files
      | true, none => .done () space.files space.calls
      | true, some path =>
          ((removal env serverId path (space.files path) space.calls).atFile path
            space.files).andThen fun _ files call => .done () files call
  | .setDefaultServer serverId =>
      match HashMap.contains serverId space.kss.kmip.servers with
      | true => .done () space.files space.calls
      | false => .stopped space.files
  | .getServer serverId =>
      match HashMap.contains serverId space.kss.kmip.servers with
      | true => .done () space.files space.calls
      | false => .stopped space.files
  | .listServers => .done () space.files space.calls

/-- A run ends with this outcome, whatever it returns. -/
def EndsWith {Value : Type} (run : Except Fault Value × KmipSpace) :
    Outcome CredentialFiles Unit → Prop
  | .stopped files => (∃ message, run.1 = .error (.error message)) ∧ run.2.files = files
  | .done _ files _ => (∃ value, run.1 = .ok value) ∧ run.2.files = files

section Subcommands

variable {env : KmipEnvironment} {space : KmipSpace}

theorem Ends.returning {Value Result : Type} {action : KmipRun Value}
    {outcome : Outcome CredentialFiles Value} (ends : Ends (exec action space) outcome)
    (result : Result) :
    EndsWith (exec (action >>= fun _ => pure result) space)
      (outcome.andThen fun _ files call => .done () files call) := by
  rw [exec_bind]
  rcases run : exec action space with ⟨fault | value, final⟩
  · rw [run] at ends
    cases outcome with
    | stopped files =>
        obtain ⟨⟨message, failed⟩, left⟩ := ends
        cases failed
        exact ⟨⟨message, rfl⟩, left⟩
    | done value files calls => cases ends.1
  · rw [run] at ends
    cases outcome with
    | stopped files =>
        obtain ⟨⟨message, failed⟩, _⟩ := ends
        cases failed
    | done value files calls => exact ⟨⟨result, rfl⟩, ends.2.1⟩

/-- Another wording of the error. -/
theorem ends_reworded {Value : Type} {action : KmipRun Value} {message : String → String}
    {outcome : Outcome CredentialFiles Value} (ends : Ends (exec action space) outcome) :
    Ends (exec (do
      let result ← capture action
      mapErr message result) space) outcome := by
  rw [exec_bind, exec_capture]
  rcases run : exec action space with ⟨⟨reason | reason⟩ | value, final⟩
  · rw [run] at ends
    cases outcome with
    | stopped files => exact ⟨⟨_, rfl⟩, ends.2⟩
    | done value files calls => cases ends.1
  · rw [run] at ends
    cases outcome with
    | stopped files =>
        obtain ⟨⟨_, failed⟩, _⟩ := ends
        cases failed
    | done value files calls => cases ends.1
  · rw [run] at ends
    exact ends

theorem ends_add (options : AddServer) :
    Ends (exec (addKmipServer env options) space)
      ((KmipCommands.addServer options).outcome env space) := by
  unfold addKmipServer KmipCommands.outcome
  rw [exec_bind_of_ok (exec_get _)]
  dsimp only
  cases HashMap.contains options.serverId space.kss.kmip.servers with
  | true => exact ⟨⟨_, rfl⟩, rfl⟩
  | false =>
      have tail : ∀ {final : KmipSpace}, Ends (exec (do
          setServers (HashMap.insert options.serverId options.settings)
          let space ← get
          onlyIf (!options.pending && space.kss.kmip.servers.length == 1)
            (setDefault (some options.serverId))) final)
          (.done () final.files final.calls) := ends_onlyIf_setDefault _ _
      cases options.credentialsStorePath with
      | none => exact tail
      | some path =>
          dsimp only
          rw [← Outcome.andThen_done (Outcome.atFile _ _ _)]
          have added := @ends_adding env space options.serverId path options.credentials
          have ends : Ends (exec (do
              addCredentials env options.serverId path options.credentials
              setServers (HashMap.insert options.serverId options.settings)
              let space ← get
              onlyIf (!options.pending && space.kss.kmip.servers.length == 1)
                (setDefault (some options.serverId))) space) _ :=
            ends_bind added fun _ final _ => @tail final
          exact ends

theorem ends_remove (serverId : String) :
    Ends (exec (removeKmipServer env serverId) space)
      ((KmipCommands.removeServer serverId).outcome env space) := by
  unfold removeKmipServer KmipCommands.outcome removable
  rw [exec_bind_of_ok (exec_get _)]
  dsimp only
  cases isDefault : space.kss.kmip.defaultServerId == some serverId with
  | true =>
      rw [bne, isDefault]
      exact ⟨⟨_, rfl⟩, rfl⟩
  | false =>
      rw [bne, isDefault]
      cases space.kss.keyset.keys.any fun entry => usesServer env.toPlatform serverId entry.1 with
      | true => exact ⟨⟨_, rfl⟩, rfl⟩
      | false =>
          change Ends (exec (ifSome (storeOf space.kss.kmip serverId) fun path => do
            let _ ← removeKmipClientCredentials env serverId path
            return ()) _) _
          cases storeOf space.kss.kmip serverId with
          | none => exact ⟨rfl, rfl, rfl⟩
          | some path =>
              let left := HashMap.remove serverId space.kss.kmip.servers
              exact ends_return (@ends_removal env
                { space with kss.kmip.servers := left } serverId path) ()

/-- How every subcommand ends for the credentials files. -/
theorem kmipCommand_ends (command : KmipCommands) :
    EndsWith (exec (kmipCommand env command) space) (command.outcome env space) := by
  cases command with
  | disable => exact ⟨⟨true, rfl⟩, rfl⟩
  | addServer options =>
      rw [← Outcome.andThen_done (KmipCommands.outcome _ _ _)]
      exact (ends_add options).returning true
  | modifyServer options =>
      rw [← Outcome.andThen_done (KmipCommands.outcome _ _ _)]
      have ends : Ends (exec (do
          let modified ← capture (modifyKmipServer env options)
          mapErr (fun reason => s!"unable to modify configuration for KMIP server " ++
            s!"'{options.serverId}': {reason}") modified) space)
          ((KmipCommands.modifyServer options).outcome env space) :=
        ends_reworded (ends_modify options)
      have returned := ends.returning true
      rw [bind_assoc] at returned
      exact returned
  | removeServer serverId =>
      rw [← Outcome.andThen_done (KmipCommands.outcome _ _ _)]
      exact (ends_remove serverId).returning true
  | setDefaultServer serverId =>
      dsimp only [kmipCommand, KmipCommands.outcome]
      rw [exec_bind_of_ok (exec_get _)]
      cases HashMap.contains serverId space.kss.kmip.servers with
      | true => exact ⟨⟨true, rfl⟩, rfl⟩
      | false => exact ⟨⟨_, rfl⟩, rfl⟩
  | getServer serverId =>
      dsimp only [kmipCommand, KmipCommands.outcome]
      rw [exec_bind_of_ok (exec_get _)]
      cases HashMap.contains serverId space.kss.kmip.servers with
      | true => exact ⟨⟨false, rfl⟩, rfl⟩
      | false => exact ⟨⟨_, rfl⟩, rfl⟩
  | listServers => exact ⟨⟨false, rfl⟩, rfl⟩

end Subcommands

end Dnst.Keyset.Kmip
