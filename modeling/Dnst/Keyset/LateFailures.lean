import Dnst.Keyset.CredentialStores

/-! # Failures that come too late

A subcommand makes its calls on a credentials file in a fixed order: two or three that read
it, six that save it and one that removes it. From the first call that fails it can be told
what is left in the file.
-/

namespace Dnst.Keyset.Kmip

/-- What the JSON library guarantees: what it writes is not empty and is read back as the
same set. -/
structure CredentialLaws (env : KmipEnvironment) : Prop where
  nonempty : ∀ call set, (env.showCredentials call set).isEmpty = false
  parses : ∀ call set, ∃ parsed,
    env.parseCredentials (env.showCredentials call set) = .ok parsed ∧
      ∀ serverId, parsed.lookup serverId = set.lookup serverId

/-! ## Calls on a file -/

/-- None of so many calls fails. -/
def Undisturbed (env : KmipEnvironment) (call count : Nat) : Prop :=
  ∀ n < count, env.fails (call + n) = false

/-- This is the first of so many calls that fails. -/
def FirstFailure (env : KmipEnvironment) (call count n : Nat) : Prop :=
  n < count ∧ env.fails (call + n) = true ∧ Undisturbed env call n

/-- Opening a file, asking for its length and, unless it is empty, parsing it. -/
def readCalls (bytes : Bytes) : Nat := if bytes.isEmpty then 2 else 3

/-- Seeking, writing, flushing, asking for the position, truncating and flushing again. -/
def saveCalls : Nat := 6

/-- A file can be read, and this is what it stores. -/
structure Readable (env : KmipEnvironment) (bytes : Bytes) (call : Nat)
    (set : KmipClientCredentialsSet) : Prop where
  calls : Undisturbed env call (readCalls bytes)
  stores : if bytes.isEmpty then set = [] else env.parseCredentials bytes = .ok set

/-- What is left in the file when this call of a save fails. -/
def saveLeaves (env : KmipEnvironment) (text old : Bytes) (call : Nat) : Nat → Bytes
  | 0 => old
  | 1 => overwrite (text.take (env.written (call + 1))) old
  | 2 => overwrite (text.take (env.written (call + 2))) old
  | 3 => overwrite text old
  | 4 => overwrite text old
  | _ => text

/-! ## Operations that fail -/

section Operations

variable (env : KmipEnvironment) (serverId : String)

/-- A save fails, and what it leaves counts. -/
def SaveFails (set : KmipClientCredentialsSet) (old : Bytes) (call : Nat)
    (counts : Option Bytes → Prop) : Prop :=
  ∃ n, FirstFailure env call saveCalls n ∧
    counts (some (saveLeaves env (env.showCredentials (call + 1) set) old call n))

/-- Storing credentials in a file, which is created if need be, fails: it cannot be opened,
or cannot be read, or cannot be saved. -/
def StoreFails (creds : KmipClientCredentials) (content : Option Bytes) (call : Nat)
    (counts : Option Bytes → Prop) : Prop :=
  let bytes := content.getD []
  (env.fails call = true ∧ counts content) ∨
    (env.fails call = false ∧ (¬ ∃ set, Readable env bytes call set) ∧ counts (some bytes)) ∨
    ∃ set, Readable env bytes call set ∧
      SaveFails env (HashMap.insert serverId creds set) bytes (call + readCalls bytes) counts

/-- Credentials can be stored, and this is then the file. -/
def Stores (creds : KmipClientCredentials) (content : Option Bytes) (call : Nat)
    (text : Bytes) : Prop :=
  let bytes := content.getD []
  ∃ set, Readable env bytes call set ∧ Undisturbed env (call + readCalls bytes) saveCalls ∧
    text = env.showCredentials (call + readCalls bytes + 1) (HashMap.insert serverId creds set)

/-- Removing the credentials of a server from a file fails when it is saved, or when it is
to be removed because it has no credentials any more. -/
def RemovalFails (content : Option Bytes) (call : Nat) : Prop :=
  ∃ bytes set, content = some bytes ∧ Readable env bytes call set ∧
    HashMap.contains serverId set = true ∧
    let next := call + readCalls bytes
    SaveFails env (HashMap.remove serverId set) bytes next (· ≠ content) ∨
      (HashMap.remove serverId set = [] ∧ Undisturbed env next saveCalls ∧
        env.fails (next + saveCalls) = true)

/-- The credentials of a server can be removed, and this is then the file and the number of
the next call. -/
def Removes (content : Option Bytes) (call : Nat) (creds : KmipClientCredentials)
    (after : Option Bytes) (calls : Nat) : Prop :=
  ∃ bytes set, content = some bytes ∧ Readable env bytes call set ∧
    set.lookup serverId = some creds ∧
    let next := call + readCalls bytes
    let left := HashMap.remove serverId set
    Undisturbed env next saveCalls ∧
      ((left ≠ [] ∧ after = some (env.showCredentials (next + 1) left) ∧
          calls = next + saveCalls) ∨
        (left = [] ∧ env.fails (next + saveCalls) = false ∧ after = none ∧
          calls = next + saveCalls + 1))

end Operations

/-! ## Subcommands that fail too late -/

/-- Only one of certificate and key is given, and nothing is known of the other. -/
def ModifyServer.RefusesCertificate (options : ModifyServer)
    (cfg : KmipServerConnectionConfig) : Prop :=
  options.noClientAuth = false ∧ cfg.clientCertAuth = none ∧
    options.clientCertPath.isSome ≠ options.clientKeyPath.isSome

/-- Credentials that are adjusted in place, or made of a username. -/
def ModifyServer.adjusted (options : ModifyServer) :
    Option KmipClientCredentials → Option KmipClientCredentials
  | some creds => some (withOptions options.username options.password creds)
  | none => options.username.map fun username => ⟨username, options.password⟩

/-- The certificate is looked at when the credentials have been stored. -/
def StoredTooEarly (env : KmipEnvironment) (options : ModifyServer)
    (cfg : KmipServerConnectionConfig) (creds : KmipClientCredentials) (content : Option Bytes)
    (call : Nat) (counts : Option Bytes → Prop) : Prop :=
  StoreFails env options.serverId creds content call counts ∨
    (options.RefusesCertificate cfg ∧
      ∃ text, Stores env options.serverId creds content call text ∧ counts (some text))

/-- The inputs with which modifying a server fails when its credentials have been changed. -/
inductive LateModification (env : KmipEnvironment) (files : CredentialFiles) (call : Nat)
    (options : ModifyServer) (cfg : KmipServerConnectionConfig) : Prop
  /-- The credentials are to go away or to another file, and the old file is not saved
  completely or stays. -/
  | leaving {path} :
      cfg.clientCredentialsPath = some path →
      options.noCredentials = true ∨ options.credentialsStorePath.isSome = true →
      RemovalFails env options.serverId (files path) call →
      LateModification env files call options cfg
  /-- The credentials are gone when the certificate is refused. -/
  | forgotten {path creds after calls} :
      cfg.clientCredentialsPath = some path → options.noCredentials = true →
      Removes env options.serverId (files path) call creds after calls →
      options.RefusesCertificate cfg → LateModification env files call options cfg
  /-- The credentials are gone from the old file. That may also be the new one, and then the
  same bytes can come back. -/
  | moved {path newPath creds after calls} :
      cfg.clientCredentialsPath = some path → options.noCredentials = false →
      options.credentialsStorePath = some newPath →
      Removes env options.serverId (files path) call creds after calls →
      StoredTooEarly env options cfg (withOptions options.username options.password creds)
        (Function.update files path after newPath) calls
        (fun left => newPath = path → left ≠ files path) →
      LateModification env files call options cfg
  /-- There have been no credentials so far. -/
  | stored {newPath username} :
      cfg.clientCredentialsPath = none → options.noCredentials = false →
      options.credentialsStorePath = some newPath → options.username = some username →
      StoredTooEarly env options cfg ⟨username, options.password⟩ (files newPath) call
        (· ≠ files newPath) →
      LateModification env files call options cfg
  /-- The credentials stay where they are. -/
  | adjusted {path bytes set creds} :
      cfg.clientCredentialsPath = some path → options.noCredentials = false →
      options.credentialsStorePath = none →
      options.username.isSome = true ∨ options.password.isSome = true →
      files path = some bytes → Readable env bytes call set →
      options.adjusted (set.lookup options.serverId) = some creds →
      StoredTooEarly env options cfg creds (some bytes) call (· ≠ some bytes) →
      LateModification env files call options cfg

/-- The inputs with which a subcommand fails when a credentials file has been changed. -/
inductive LateFailure (env : KmipEnvironment) (space : KmipSpace) : KmipCommands → Prop
  /-- The file for a new server is created, and then no username is given or one of the
  other calls fails. -/
  | created {options : AddServer} {path} :
      HashMap.contains options.serverId space.kss.kmip.servers = false →
      options.credentialsStorePath = some path → space.files path = none →
      env.fails space.calls = false →
      options.username = none ∨ ¬ Undisturbed env space.calls (readCalls [] + saveCalls) →
      LateFailure env space (.addServer options)
  /-- A file is not saved completely with the credentials of a new server. -/
  | added {options : AddServer} {path bytes set username} :
      HashMap.contains options.serverId space.kss.kmip.servers = false →
      options.credentialsStorePath = some path → space.files path = some bytes →
      Readable env bytes space.calls set → options.username = some username →
      HashMap.contains options.serverId set = false →
      SaveFails env (HashMap.insert options.serverId ⟨username, options.password⟩ set) bytes
        (space.calls + readCalls bytes) (· ≠ some bytes) →
      LateFailure env space (.addServer options)
  /-- The file of a removed server is not saved completely or stays without credentials. -/
  | removed {serverId path} :
      removable env.toPlatform space.kss serverId = true →
      storeOf space.kss.kmip serverId = some path →
      RemovalFails env serverId (space.files path) space.calls →
      LateFailure env space (.removeServer serverId)
  | modified {options : ModifyServer} {cfg} :
      space.kss.kmip.servers.lookup options.serverId = some cfg →
      LateModification env space.files space.calls options cfg →
      LateFailure env space (.modifyServer options)

/-! ## Outcomes that count -/

namespace Outcome

variable {Content Value Result : Type}

/-- An operation stops, and what it leaves behind counts. -/
def Stops (outcome : Outcome Content Value) (counts : Content → Prop) : Prop :=
  match outcome with
  | .stopped content => counts content
  | .done _ _ _ => False

theorem stops_andThen {outcome : Outcome Content Value}
    {next : Value → Content → Nat → Outcome Content Result} {counts : Content → Prop} :
    (outcome.andThen next).Stops counts ↔ outcome.Stops counts ∨
      ∃ value content calls, outcome = .done value content calls ∧
        (next value content calls).Stops counts := by
  cases outcome with
  | stopped content =>
      constructor
      · exact Or.inl
      · rintro (stops | ⟨_, _, _, impossible, _⟩)
        · exact stops
        · cases impossible
  | done value content calls =>
      constructor
      · intro later
        exact Or.inr ⟨value, content, calls, rfl, later⟩
      · rintro (impossible | ⟨_, _, _, same, later⟩)
        · cases impossible
        · cases same
          exact later

/-- An operation is done, and what it leaves behind counts. -/
def Completes (outcome : Outcome Content Value) (counts : Content → Prop) : Prop :=
  match outcome with
  | .stopped _ => False
  | .done _ content _ => counts content

theorem completes_iff {outcome : Outcome Content Value} {counts : Content → Prop} :
    outcome.Completes counts ↔
      ∃ value content calls, outcome = .done value content calls ∧ counts content := by
  cases outcome with
  | stopped content =>
      constructor
      · exact False.elim
      · rintro ⟨_, _, _, impossible, _⟩
        cases impossible
  | done value content calls =>
      constructor
      · intro left
        exact ⟨value, content, calls, rfl, left⟩
      · rintro ⟨_, _, _, same, left⟩
        cases same
        exact left

/-- An operation stops, or it is done and then something is refused. -/
def Halts (outcome : Outcome Content Value) (refused : Prop) (counts : Content → Prop) :
    Prop :=
  outcome.Stops counts ∨ (refused ∧ outcome.Completes counts)

variable {refused : Prop}

theorem halts_andThen {outcome : Outcome Content Value}
    {next : Value → Content → Nat → Outcome Content Result} {counts : Content → Prop} :
    (outcome.andThen next).Halts refused counts ↔ outcome.Stops counts ∨
      ∃ value content calls, outcome = .done value content calls ∧
        (next value content calls).Halts refused counts := by
  cases outcome with
  | stopped content =>
      constructor
      · rintro (stops | ⟨_, impossible⟩)
        · exact Or.inl stops
        · exact impossible.elim
      · rintro (stops | ⟨_, _, _, impossible, _⟩)
        · exact Or.inl stops
        · cases impossible
  | done value content calls =>
      constructor
      · intro halts
        exact Or.inr ⟨value, content, calls, rfl, halts⟩
      · rintro (impossible | ⟨_, _, _, same, halts⟩)
        · exact impossible.elim
        · cases same
          exact halts

theorem not_halts_stopped {content : Content} :
    ¬ (Outcome.stopped content : Outcome Content Value).Halts refused (· ≠ content) := by
  rintro (changed | ⟨_, impossible⟩)
  · exact changed rfl
  · exact impossible

theorem not_halts_done {value : Value} {content : Content} {calls : Nat} :
    ¬ (Outcome.done value content calls).Halts refused (· ≠ content) := by
  rintro (impossible | ⟨_, changed⟩)
  · exact impossible
  · exact changed rfl

variable {path : String} {files : CredentialFiles} {counts : CredentialFiles → Prop}

theorem stops_atFile {outcome : FileOutcome Value} :
    (outcome.atFile path files).Stops counts ↔
      outcome.Stops fun content => counts (Function.update files path content) := by
  cases outcome <;> exact Iff.rfl

theorem halts_atFile {outcome : FileOutcome Value} {result : Result} :
    ((outcome.atFile path files).andThen fun _ files call => .done result files call).Halts
        refused counts ↔
      outcome.Halts refused fun content => counts (Function.update files path content) := by
  cases outcome <;> exact Iff.rfl

end Outcome

/-! ## One operation -/

section Calls

variable {env : KmipEnvironment} {call count : Nat}

theorem undisturbed_or_firstFailure (env : KmipEnvironment) (call count : Nat) :
    Undisturbed env call count ∨ ∃ n, FirstFailure env call count n := by
  induction count with
  | zero => exact Or.inl fun n below => absurd below (Nat.not_lt_zero n)
  | succ count induction =>
      rcases induction with none | ⟨n, below, fails, before⟩
      · cases fails : env.fails (call + count) with
        | true => exact Or.inr ⟨count, Nat.lt_succ_self count, fails, none⟩
        | false =>
            left
            intro n below
            rcases Nat.lt_succ_iff_lt_or_eq.mp below with earlier | rfl
            · exact none n earlier
            · exact fails
      · exact Or.inr ⟨n, Nat.lt_succ_of_lt below, fails, before⟩

theorem not_undisturbed {n : Nat} (failure : FirstFailure env call count n) :
    ¬ Undisturbed env call count := by
  intro undisturbed
  have fails := failure.2.1
  rw [undisturbed n failure.1] at fails
  cases fails

theorem undisturbed_add {first second : Nat} : Undisturbed env call (first + second) ↔
    Undisturbed env call first ∧ Undisturbed env (call + first) second := by
  constructor
  · intro undisturbed
    constructor
    · intro n below
      exact undisturbed n (Nat.lt_add_right second below)
    · intro n below
      rw [Nat.add_assoc]
      exact undisturbed (first + n) (Nat.add_lt_add_left below first)
  · rintro ⟨before, after⟩ n below
    rcases Nat.lt_or_ge n first with earlier | later
    · exact before n earlier
    · have fails := after (n - first) (by omega)
      rw [Nat.add_assoc, Nat.add_sub_cancel' later] at fails
      exact fails

theorem saving_of_undisturbed {set : KmipClientCredentialsSet} {content : Option Bytes}
    (undisturbed : Undisturbed env call saveCalls) :
    saving env set content call =
      .done () (some (env.showCredentials (call + 1) set)) (call + saveCalls) := by
  have first := undisturbed 0 (by decide)
  rw [Nat.add_zero] at first
  unfold saving
  dsimp only
  rw [first, undisturbed 1 (by decide), undisturbed 2 (by decide), undisturbed 3 (by decide),
    undisturbed 4 (by decide), undisturbed 5 (by decide)]
  rfl

theorem saving_of_failure {set : KmipClientCredentialsSet} {old : Bytes} {n : Nat}
    (failure : FirstFailure env call saveCalls n) :
    saving env set (some old) call =
      .stopped (some (saveLeaves env (env.showCredentials (call + 1) set) old call n)) := by
  rcases failure with ⟨below, fails, before⟩
  have first : 0 < n → env.fails call = false := before 0
  unfold saveCalls at below
  unfold saving
  match n with
  | 0 =>
      rw [Nat.add_zero] at fails
      rw [fails]
      rfl
  | 1 =>
      rw [first (by decide), fails]
      rfl
  | 2 =>
      rw [first (by decide), before 1 (by decide), fails]
      rfl
  | 3 =>
      rw [first (by decide), before 1 (by decide), before 2 (by decide), fails]
      rfl
  | 4 =>
      rw [first (by decide), before 1 (by decide), before 2 (by decide), before 3 (by decide),
        fails]
      rfl
  | 5 =>
      rw [first (by decide), before 1 (by decide), before 2 (by decide), before 3 (by decide),
        before 4 (by decide), fails]
      rfl
  | n + 6 => omega

theorem saving_stops {set : KmipClientCredentialsSet} {old : Bytes}
    {counts : Option Bytes → Prop} :
    (saving env set (some old) call).Stops counts ↔ SaveFails env set old call counts := by
  rcases undisturbed_or_firstFailure env call saveCalls with undisturbed | ⟨n, failure⟩
  · rw [saving_of_undisturbed undisturbed]
    constructor
    · intro impossible
      cases impossible
    · rintro ⟨n, failure, _⟩
      exact not_undisturbed failure undisturbed
  · rw [saving_of_failure failure]
    constructor
    · intro left
      exact ⟨n, failure, left⟩
    · rintro ⟨other, another, left⟩
      have same : other = n := by
        rcases Nat.lt_trichotomy other n with below | same | above
        · have fails := another.2.1
          rw [failure.2.2 other below] at fails
          cases fails
        · exact same
        · have fails := failure.2.1
          rw [another.2.2 n above] at fails
          cases fails
      rw [← same]
      exact left

theorem saving_eq_done {set : KmipClientCredentialsSet} {old : Bytes} {after : Option Bytes}
    {calls : Nat} : saving env set (some old) call = .done () after calls ↔
      Undisturbed env call saveCalls ∧ after = some (env.showCredentials (call + 1) set) ∧
        calls = call + saveCalls := by
  rcases undisturbed_or_firstFailure env call saveCalls with undisturbed | ⟨n, failure⟩
  · rw [saving_of_undisturbed undisturbed]
    constructor
    · intro same
      cases same
      exact ⟨undisturbed, rfl, rfl⟩
    · rintro ⟨_, rfl, rfl⟩
      rfl
  · rw [saving_of_failure failure]
    constructor
    · intro impossible
      cases impossible
    · rintro ⟨undisturbed, _⟩
      exact absurd undisturbed (not_undisturbed failure)

end Calls

section Reading

variable {env : KmipEnvironment} {path : String} {mode : KmipServerCredentialsFileMode}
variable {content : Option Bytes} {call : Nat}

theorem Readable.eq {bytes : Bytes} {set other : KmipClientCredentialsSet}
    (readable : Readable env bytes call set) (another : Readable env bytes call other) :
    other = set := by
  have first := readable.stores
  have second := another.stores
  split at first
  · next empty =>
      rw [if_pos empty] at second
      rw [first, second]
  · next present =>
      rw [if_neg present, first] at second
      exact (Except.ok.inj second).symm

theorem loading_of_readable {bytes : Bytes} {set : KmipClientCredentialsSet}
    (readable : Readable env bytes call set) :
    loading env path mode bytes (call + 1) =
      .done ⟨path, set, mode⟩ (some bytes) (call + readCalls bytes) := by
  rcases readable with ⟨calls, stores⟩
  unfold readCalls at calls ⊢
  unfold loading
  split at stores
  · next empty =>
      rw [if_pos empty] at calls ⊢
      rw [calls 1 (by decide), if_neg Bool.false_ne_true, if_pos empty, stores]
  · next present =>
      rw [if_neg present] at calls ⊢
      rw [calls 1 (by decide), if_neg Bool.false_ne_true, if_neg present,
        calls 2 (by decide), if_neg Bool.false_ne_true, stores]

theorem loading_of_unreadable {bytes : Bytes} (opened : env.fails call = false)
    (unreadable : ¬ ∃ set, Readable env bytes call set) :
    loading env path mode bytes (call + 1) = .stopped (some bytes) := by
  unfold loading
  cases metadata : env.fails (call + 1) with
  | true => rfl
  | false =>
      rw [if_neg Bool.false_ne_true]
      split
      · next empty =>
          exfalso
          apply unreadable
          refine ⟨[], ?_, by rw [if_pos empty]⟩
          intro n below
          unfold readCalls at below
          rw [if_pos empty] at below
          match n with
          | 0 => exact opened
          | 1 => exact metadata
          | n + 2 => omega
      · next present =>
          cases parse : env.fails (call + 2) with
          | true => rfl
          | false =>
              rw [if_neg Bool.false_ne_true]
              cases parsed : env.parseCredentials bytes with
              | error reason => rfl
              | ok set =>
                  exfalso
                  apply unreadable
                  refine ⟨set, ?_, by rw [if_neg present, parsed]⟩
                  intro n below
                  unfold readCalls at below
                  rw [if_neg present] at below
                  match n with
                  | 0 => exact opened
                  | 1 => exact metadata
                  | 2 => exact parse
                  | n + 3 => omega

theorem Readable.opened {bytes : Bytes} {set : KmipClientCredentialsSet}
    (readable : Readable env bytes call set) : env.fails call = false := by
  apply readable.calls 0
  unfold readCalls
  split <;> decide

theorem reading_of_readable {set : KmipClientCredentialsSet}
    (readable : Readable env (content.getD []) call set)
    (opens : content.isSome = true ∨ mode.creates = true) :
    reading env path mode content call =
      .done ⟨path, set, mode⟩ (some (content.getD [])) (call + readCalls (content.getD [])) := by
  have loaded := @loading_of_readable env path mode call _ _ readable
  unfold reading
  rw [readable.opened, if_neg Bool.false_ne_true]
  cases content with
  | some bytes => exact loaded
  | none =>
      have creates := opens.resolve_left Bool.false_ne_true
      dsimp only
      rw [if_pos creates]
      exact loaded

/-- What is left when a file is not read. Where it can be opened, it may be created. -/
theorem reading_of_unreadable (unreadable : ¬ ∃ set, Readable env (content.getD []) call set)
    (opens : content.isSome = true ∨ mode.creates = true) :
    reading env path mode content call =
      .stopped (if env.fails call then content else some (content.getD [])) := by
  unfold reading
  cases opened : env.fails call with
  | true => rfl
  | false =>
      rw [if_neg Bool.false_ne_true, if_neg Bool.false_ne_true]
      have loaded := @loading_of_unreadable env path mode call _ opened unreadable
      cases content with
      | some bytes => exact loaded
      | none =>
          have creates := opens.resolve_left Bool.false_ne_true
          dsimp only
          rw [if_pos creates]
          exact loaded

end Reading

section Operations

variable {env : KmipEnvironment} {serverId path : String} {content : Option Bytes}
variable {call : Nat} {counts : Option Bytes → Prop}

theorem storing_of_readable {creds : KmipClientCredentials} {set : KmipClientCredentialsSet}
    (readable : Readable env (content.getD []) call set) :
    storing env serverId path creds content call =
      saving env (HashMap.insert serverId creds set) (some (content.getD []))
        (call + readCalls (content.getD [])) := by
  unfold storing
  rw [reading_of_readable readable (Or.inr rfl)]
  rfl

theorem storing_stops {creds : KmipClientCredentials} :
    (storing env serverId path creds content call).Stops counts ↔
      StoreFails env serverId creds content call counts := by
  by_cases readable : ∃ set, Readable env (content.getD []) call set
  · obtain ⟨set, readable⟩ := readable
    rw [storing_of_readable readable, saving_stops]
    constructor
    · intro fails
      exact Or.inr (Or.inr ⟨set, readable, fails⟩)
    · rintro (⟨fails, _⟩ | ⟨_, unreadable, _⟩ | ⟨other, another, fails⟩)
      · rw [readable.opened] at fails
        cases fails
      · exact absurd ⟨set, readable⟩ unreadable
      · rw [readable.eq another] at fails
        exact fails
  · unfold storing
    rw [reading_of_unreadable readable (Or.inr rfl)]
    unfold StoreFails
    cases fails : env.fails call with
    | true =>
        constructor
        · intro left
          exact Or.inl ⟨rfl, left⟩
        · rintro (⟨_, left⟩ | ⟨impossible, _⟩ | ⟨set, another, _⟩)
          · exact left
          · cases impossible
          · exact absurd ⟨set, another⟩ readable
    | false =>
        constructor
        · intro left
          exact Or.inr (Or.inl ⟨rfl, readable, left⟩)
        · rintro (⟨impossible, _⟩ | ⟨_, _, left⟩ | ⟨set, another, _⟩)
          · cases impossible
          · exact left
          · exact absurd ⟨set, another⟩ readable

theorem storing_completes {creds : KmipClientCredentials} :
    (storing env serverId path creds content call).Completes counts ↔
      ∃ text, Stores env serverId creds content call text ∧ counts (some text) := by
  rw [Outcome.completes_iff]
  by_cases readable : ∃ set, Readable env (content.getD []) call set
  · obtain ⟨set, readable⟩ := readable
    rw [storing_of_readable readable]
    constructor
    · rintro ⟨_, _, calls, saved, left⟩
      obtain ⟨undisturbed, rfl, _⟩ := saving_eq_done.mp saved
      exact ⟨_, ⟨set, readable, undisturbed, rfl⟩, left⟩
    · rintro ⟨text, ⟨other, another, undisturbed, rfl⟩, left⟩
      rw [readable.eq another] at left
      exact ⟨(), _, _, saving_eq_done.mpr ⟨undisturbed, rfl, rfl⟩, left⟩
  · unfold storing
    rw [reading_of_unreadable readable (Or.inr rfl)]
    constructor
    · rintro ⟨_, _, calls, impossible, _⟩
      cases impossible
    · rintro ⟨text, ⟨set, another, _⟩, _⟩
      exact absurd ⟨set, another⟩ readable

/-- Nothing is stored for the server in what is written when its credentials are removed. -/
theorem removed_ne (laws : CredentialLaws env) {bytes : Bytes}
    {set : KmipClientCredentialsSet} (readable : Readable env bytes call set)
    (listed : (set.lookup serverId).isSome) (next : Nat) :
    env.showCredentials next (HashMap.remove serverId set) ≠ bytes := by
  intro same
  obtain ⟨parsed, read, stores⟩ := laws.parses next (HashMap.remove serverId set)
  have present := laws.nonempty next (HashMap.remove serverId set)
  rw [same] at read present
  have stored := readable.stores
  rw [present, if_neg Bool.false_ne_true, read] at stored
  cases stored
  rw [stores serverId, HashMap.lookup_remove_self] at listed
  cases listed

/-- A file that can be read and stores these credentials for the server. -/
structure Stored (env : KmipEnvironment) (serverId : String) (content : Option Bytes)
    (call : Nat) (bytes : Bytes) (set : KmipClientCredentialsSet)
    (creds : KmipClientCredentials) : Prop where
  present : content = some bytes
  readable : Readable env bytes call set
  listed : set.lookup serverId = some creds

theorem Stored.eq {bytes others : Bytes} {set other : KmipClientCredentialsSet}
    {creds : KmipClientCredentials} (stored : Stored env serverId content call bytes set creds)
    (present : content = some others) (readable : Readable env others call other) :
    others = bytes ∧ other = set := by
  have same := present.symm.trans stored.present
  cases same
  exact ⟨rfl, stored.readable.eq readable⟩

/-- Without credentials of the server nothing is removed. -/
theorem removal_of_not_stored
    (absent : ¬ ∃ bytes set creds, Stored env serverId content call bytes set creds) :
    removal env serverId path content call = .stopped content := by
  unfold removal
  cases content with
  | none =>
      unfold reading
      cases env.fails call <;> rfl
  | some bytes =>
      by_cases readable : ∃ set, Readable env bytes call set
      · obtain ⟨set, readable⟩ := readable
        rw [@reading_of_readable env path .readWrite (some bytes) call set readable (Or.inl rfl)]
        dsimp only [Outcome.andThen]
        cases listed : set.lookup serverId with
        | none => rfl
        | some creds => exact absurd ⟨bytes, set, creds, rfl, readable, listed⟩ absent
      · rw [@reading_of_unreadable env path .readWrite (some bytes) call readable (Or.inl rfl)]
        cases env.fails call <;> rfl

theorem removal_of_stored {bytes : Bytes} {set : KmipClientCredentialsSet}
    {creds : KmipClientCredentials} (stored : Stored env serverId content call bytes set creds) :
    removal env serverId path content call =
      (saving env (HashMap.remove serverId set) content
        (call + readCalls bytes)).andThen fun _ content call =>
          if !(HashMap.remove serverId set).isEmpty then .done creds content call
          else if env.fails call then .stopped content
          else .done creds none (call + 1) := by
  rcases stored with ⟨rfl, readable, listed⟩
  unfold removal
  rw [@reading_of_readable env path .readWrite (some bytes) call set readable (Or.inl rfl)]
  dsimp only [Outcome.andThen]
  rw [listed]
  rfl

/-- A removal that fails has changed the file when saving it has, or when its empty file
stays. -/
theorem removal_stops (laws : CredentialLaws env) :
    (removal env serverId path content call).Stops (· ≠ content) ↔
      RemovalFails env serverId content call := by
  by_cases someStored : ∃ bytes set creds, Stored env serverId content call bytes set creds
  · obtain ⟨bytes, set, creds, stored⟩ := someStored
    have differs := removed_ne laws stored.readable (by rw [stored.listed]; rfl)
      (call + readCalls bytes + 1)
    have contained : HashMap.contains serverId set = true := by
      unfold HashMap.contains
      rw [stored.listed]
      rfl
    rw [removal_of_stored stored, Outcome.stops_andThen, stored.present, saving_stops]
    constructor
    · rintro (fails | ⟨_, written, later, saved, deleting⟩)
      · exact ⟨bytes, set, rfl, stored.readable, contained, Or.inl fails⟩
      · obtain ⟨undisturbed, rfl, rfl⟩ := saving_eq_done.mp saved
        split at deleting
        · exact deleting.elim
        · next emptied =>
            split at deleting
            · next fails =>
                exact ⟨bytes, set, rfl, stored.readable, contained,
                  Or.inr ⟨by simpa using emptied, undisturbed, fails⟩⟩
            · exact deleting.elim
    · rintro ⟨others, other, same, another, _, fails⟩
      obtain ⟨rfl, rfl⟩ := stored.eq (stored.present.trans same) another
      rcases fails with fails | ⟨empty, undisturbed, fails⟩
      · exact Or.inl fails
      · refine Or.inr ⟨(), _, _, saving_eq_done.mpr ⟨undisturbed, rfl, rfl⟩, ?_⟩
        rw [if_neg (by simp [empty]), if_pos fails]
        intro same
        exact differs (Option.some.inj same)
  · rw [removal_of_not_stored someStored]
    constructor
    · intro changed
      exact absurd rfl changed
    · rintro ⟨bytes, set, present, readable, contained, _⟩
      obtain ⟨creds, listed⟩ := Option.isSome_iff_exists.mp contained
      exact absurd ⟨bytes, set, creds, present, readable, listed⟩ someStored

theorem removal_eq_done {creds : KmipClientCredentials} {after : Option Bytes}
    {calls : Nat} : removal env serverId path content call = .done creds after calls ↔
      Removes env serverId content call creds after calls := by
  by_cases someStored : ∃ bytes set creds, Stored env serverId content call bytes set creds
  · obtain ⟨bytes, set, found, stored⟩ := someStored
    rw [removal_of_stored stored, Outcome.andThen_eq_done, stored.present]
    constructor
    · rintro ⟨_, written, later, saved, deleting⟩
      obtain ⟨undisturbed, rfl, rfl⟩ := saving_eq_done.mp saved
      split at deleting
      · next remains =>
          cases deleting
          exact ⟨bytes, set, rfl, stored.readable, stored.listed, undisturbed,
            Or.inl ⟨by simpa using remains, rfl, rfl⟩⟩
      · next emptied =>
          split at deleting
          · cases deleting
          · next deleted =>
              cases deleting
              exact ⟨bytes, set, rfl, stored.readable, stored.listed, undisturbed,
                Or.inr ⟨by simpa using emptied, by simpa using deleted, rfl, rfl⟩⟩
    · rintro ⟨others, other, same, another, listed, undisturbed, ends⟩
      obtain ⟨rfl, rfl⟩ := stored.eq (stored.present.trans same) another
      rw [stored.listed] at listed
      cases listed
      refine ⟨(), _, _, saving_eq_done.mpr ⟨undisturbed, rfl, rfl⟩, ?_⟩
      rcases ends with ⟨remains, rfl, rfl⟩ | ⟨emptied, deleted, rfl, rfl⟩
      · rw [if_pos (by simpa using remains)]
      · rw [if_neg (by simpa using emptied), deleted, if_neg Bool.false_ne_true]
  · rw [removal_of_not_stored someStored]
    constructor
    · intro impossible
      cases impossible
    · rintro ⟨bytes, set, present, readable, listed, _⟩
      exact absurd ⟨bytes, set, creds, present, readable, listed⟩ someStored

/-- The file is not what it was when the credentials of a server are gone. -/
theorem Removes.changed (laws : CredentialLaws env) {creds : KmipClientCredentials}
    {after : Option Bytes} {calls : Nat}
    (removes : Removes env serverId content call creds after calls) : after ≠ content := by
  rcases removes with ⟨bytes, set, rfl, readable, found, _, ends⟩
  rcases ends with ⟨_, rfl, _⟩ | ⟨_, _, rfl, _⟩
  · intro same
    exact removed_ne laws readable (by rw [found]; rfl) _ (Option.some.inj same)
  · intro impossible
    cases impossible

/-- A file that is created for a server stays behind whatever fails later. -/
theorem adding_new_stops {creds : Option KmipClientCredentials} :
    (adding env serverId path creds none call).Stops (· ≠ none) ↔
      env.fails call = false ∧
        (creds = none ∨ ¬ Undisturbed env call (readCalls [] + saveCalls)) := by
  by_cases readable : ∃ set, Readable env [] call set
  · obtain ⟨set, readable⟩ := readable
    have empty : set = [] := readable.stores
    subst empty
    have opened := readable.opened
    unfold adding
    rw [@reading_of_readable env path .createReadWrite none call [] readable (Or.inr rfl)]
    rw [opened, undisturbed_add, and_iff_right readable.calls]
    cases creds with
    | none =>
        constructor
        · intro _
          exact ⟨rfl, Or.inl rfl⟩
        · intro _ impossible
          cases impossible
    | some creds =>
        change (saving env (HashMap.insert serverId creds []) (some [])
          (call + readCalls [])).Stops _ ↔ _
        rcases undisturbed_or_firstFailure env (call + readCalls []) saveCalls with
          undisturbed | ⟨n, failure⟩
        · rw [saving_of_undisturbed undisturbed]
          constructor
          · intro impossible
            cases impossible
          · rintro ⟨_, impossible | disturbed⟩
            · cases impossible
            · exact absurd undisturbed disturbed
        · rw [saving_of_failure failure]
          constructor
          · intro _
            exact ⟨rfl, Or.inr (not_undisturbed failure)⟩
          · intro _ impossible
            cases impossible
  · unfold adding
    rw [@reading_of_unreadable env path .createReadWrite none call readable (Or.inr rfl)]
    have disturbed : ¬ Undisturbed env call (readCalls []) := by
      intro undisturbed
      exact readable ⟨[], undisturbed, rfl⟩
    rw [undisturbed_add]
    cases fails : env.fails call with
    | true =>
        constructor
        · intro changed
          exact absurd rfl changed
        · rintro ⟨impossible, _⟩
          cases impossible
    | false =>
        constructor
        · intro _
          exact ⟨rfl, Or.inr fun undisturbed => disturbed undisturbed.1⟩
        · intro _ impossible
          cases impossible

theorem adding_stops {creds : Option KmipClientCredentials} {bytes : Bytes} :
    (adding env serverId path creds (some bytes) call).Stops (· ≠ some bytes) ↔
      ∃ set given, Readable env bytes call set ∧ creds = some given ∧
        HashMap.contains serverId set = false ∧
        SaveFails env (HashMap.insert serverId given set) bytes (call + readCalls bytes)
          (· ≠ some bytes) := by
  by_cases readable : ∃ set, Readable env bytes call set
  · obtain ⟨set, readable⟩ := readable
    unfold adding
    rw [@reading_of_readable env path .createReadWrite (some bytes) call set readable
      (Or.inl rfl)]
    dsimp only [Outcome.andThen]
    split
    · next given absent =>
        rw [Option.getD_some, saving_stops]
        constructor
        · intro fails
          exact ⟨set, given, readable, rfl, absent, fails⟩
        · rintro ⟨other, same, another, given, _, fails⟩
          cases given
          rw [readable.eq another] at fails
          exact fails
    · constructor
      · intro impossible
        cases impossible
      · rintro ⟨_, _, _, impossible, _⟩
        cases impossible
    · next differs _ =>
        constructor
        · intro changed
          exact absurd rfl changed
        · rintro ⟨other, given, another, rfl, absent, _⟩
          rw [readable.eq another] at absent
          exact absurd absent (differs given rfl)
  · unfold adding
    rw [@reading_of_unreadable env path .createReadWrite (some bytes) call readable
      (Or.inl rfl)]
    constructor
    · intro changed
      have same : (if env.fails call then some bytes else some bytes) = some bytes := ite_self _
      exact absurd same changed
    · rintro ⟨set, _, another, _⟩
      exact absurd ⟨set, another⟩ readable

theorem adjusting_of_none {username password : Option String} :
    adjusting env serverId path username password none call = .stopped none := by
  unfold adjusting reading
  cases env.fails call <;> rfl

theorem adjusting_of_unreadable {username password : Option String} {bytes : Bytes}
    (unreadable : ¬ ∃ set, Readable env bytes call set) :
    adjusting env serverId path username password (some bytes) call =
      .stopped (some bytes) := by
  unfold adjusting
  rw [@reading_of_unreadable env path .readWrite (some bytes) call unreadable (Or.inl rfl)]
  cases env.fails call <;> rfl

/-- In place the new credentials are stored as in a file for them. -/
theorem adjusting_of_readable {options : ModifyServer} {bytes : Bytes}
    {set : KmipClientCredentialsSet} (readable : Readable env bytes call set) :
    adjusting env options.serverId path options.username options.password (some bytes) call =
      match options.adjusted (set.lookup options.serverId) with
      | none => .stopped (some bytes)
      | some creds => storing env options.serverId path creds (some bytes) call := by
  have stored : ∀ creds, storing env options.serverId path creds (some bytes) call =
      saving env (HashMap.insert options.serverId creds set) (some bytes)
        (call + readCalls bytes) := fun _ => storing_of_readable readable
  simp only [stored]
  unfold adjusting ModifyServer.adjusted
  rw [@reading_of_readable env path .readWrite (some bytes) call set readable (Or.inl rfl)]
  dsimp only [Outcome.andThen]
  cases set.lookup options.serverId with
  | none => cases options.username <;> rfl
  | some creds => rfl

end Operations

/-! ## Subcommands -/

theorem clientAuth_refused {options : ModifyServer} {cfg : KmipServerConnectionConfig} :
    (∃ reason, options.clientAuth cfg.clientCertAuth = .error reason) ↔
      options.RefusesCertificate cfg := by
  unfold ModifyServer.clientAuth ModifyServer.RefusesCertificate
  cases options.noClientAuth with
  | true =>
      constructor
      · rintro ⟨_, impossible⟩
        cases impossible
      · rintro ⟨impossible, _⟩
        cases impossible
  | false =>
      cases options.clientCertPath <;> cases options.clientKeyPath <;>
        cases cfg.clientCertAuth <;>
        simp [changeClientAuth, ChangeRemoveLeave.removeIf, ChangeRemoveLeave.ofOption]

section Modification

variable {env : KmipEnvironment} {options : ModifyServer} {cfg : KmipServerConnectionConfig}
variable {files : CredentialFiles} {path : String} {call : Nat}

theorem storing_halts {creds : KmipClientCredentials} {content : Option Bytes}
    {counts : Option Bytes → Prop} :
    (storing env options.serverId path creds content call).Halts
        (options.RefusesCertificate cfg) counts ↔
      StoredTooEarly env options cfg creds content call counts := by
  unfold Outcome.Halts StoredTooEarly
  rw [storing_stops, storing_completes]

/-- What is left in one file counts when that file has changed. -/
theorem changes_atFile (files : CredentialFiles) (path : String) :
    (fun content => Function.update files path content ≠ files) = (· ≠ files path) :=
  funext fun _ => propext Function.update_ne_self_iff

/-- One file has changed, and then another file or the same is written. -/
theorem changes_twice {after : Option Bytes} {newPath : String}
    (changed : after ≠ files path) :
    (fun left => Function.update (Function.update files path after) newPath left ≠ files) =
      fun left => newPath = path → left ≠ files path := by
  funext left
  apply propext
  by_cases same : newPath = path
  · subst same
    rw [Function.update_idem, Function.update_ne_self_iff, forall_prop_of_true rfl]
  · constructor
    · intro _ equal
      exact absurd equal same
    · intro _ whole
      have kept := congrFun whole path
      rw [Function.update_of_ne (Ne.symm same), Function.update_self] at kept
      exact changed kept

theorem modifying_stops {kmip : KmipState} {counts : CredentialFiles → Prop}
    (listed : kmip.servers.lookup options.serverId = some cfg) :
    (modifying env options kmip files call).Stops counts ↔
      (changing env options cfg.clientCredentialsPath files call).Halts
        (options.RefusesCertificate cfg) counts := by
  have refuses := @clientAuth_refused options cfg
  unfold modifying
  rw [listed]
  dsimp only
  rw [← refuses]
  cases changing env options cfg.clientCredentialsPath files call with
  | stopped left =>
      constructor
      · exact Or.inl
      · rintro (stops | ⟨_, impossible⟩)
        · exact stops
        · exact impossible.elim
  | done value left calls =>
      dsimp only [Outcome.andThen]
      cases options.clientAuth cfg.clientCertAuth with
      | error reason =>
          constructor
          · intro counted
            exact Or.inr ⟨⟨reason, rfl⟩, counted⟩
          · rintro (impossible | ⟨_, counted⟩)
            · exact impossible.elim
            · exact counted
      | ok auth =>
          constructor
          · intro impossible
            exact impossible.elim
          · rintro (impossible | ⟨⟨_, impossible⟩, _⟩)
            · exact impossible.elim
            · cases impossible

/-- The credentials stay where they are. -/
theorem changing_inPlace (gone : options.noCredentials = false)
    (store : options.credentialsStorePath = none)
    (touched : options.username.isSome = true ∨ options.password.isSome = true) :
    changing env options (some path) files call =
      ((adjusting env options.serverId path options.username options.password (files path)
        call).atFile path files).andThen fun _ files call => .done (some path) files call := by
  unfold changing
  rw [gone, store]
  cases named : options.username with
  | some username => rfl
  | none =>
      cases password : options.password with
      | some password => rfl
      | none =>
          rw [named, password] at touched
          cases touched <;> contradiction

theorem adjusting_halts :
    (adjusting env options.serverId path options.username options.password (files path)
        call).Halts (options.RefusesCertificate cfg) (· ≠ files path) ↔
      ∃ bytes set creds, files path = some bytes ∧ Readable env bytes call set ∧
        options.adjusted (set.lookup options.serverId) = some creds ∧
        StoredTooEarly env options cfg creds (some bytes) call (· ≠ some bytes) := by
  cases present : files path with
  | none =>
      rw [adjusting_of_none]
      refine ⟨fun halts => absurd halts Outcome.not_halts_stopped, ?_⟩
      rintro ⟨_, _, _, impossible, _⟩
      cases impossible
  | some bytes =>
      by_cases readable : ∃ set, Readable env bytes call set
      · obtain ⟨set, readable⟩ := readable
        rw [adjusting_of_readable readable]
        cases adjusted : options.adjusted (set.lookup options.serverId) with
        | none =>
            refine ⟨fun halts => absurd halts Outcome.not_halts_stopped, ?_⟩
            rintro ⟨_, other, creds, same, another, given, _⟩
            cases same
            rw [readable.eq another, adjusted] at given
            cases given
        | some creds =>
            dsimp only
            rw [storing_halts]
            constructor
            · intro early
              exact ⟨bytes, set, creds, rfl, readable, adjusted, early⟩
            · rintro ⟨_, other, found, same, another, given, early⟩
              cases same
              rw [readable.eq another, adjusted] at given
              cases given
              exact early
      · rw [adjusting_of_unreadable readable]
        refine ⟨fun halts => absurd halts Outcome.not_halts_stopped, ?_⟩
        rintro ⟨_, set, _, same, another, _⟩
        cases same
        exact absurd ⟨set, another⟩ readable

variable (laws : CredentialLaws env)

include laws

theorem removal_atFile_stops (serverId : String) :
    ((removal env serverId path (files path) call).atFile path files).Stops (· ≠ files) ↔
      RemovalFails env serverId (files path) call := by
  rw [Outcome.stops_atFile, changes_atFile, removal_stops laws]

theorem lateModification_of_forgetting (gone : options.noCredentials = true)
    (halts : (changing env options cfg.clientCredentialsPath files call).Halts
      (options.RefusesCertificate cfg) (· ≠ files)) :
    LateModification env files call options cfg := by
  unfold changing at halts
  rw [gone] at halts
  cases given : cfg.clientCredentialsPath with
  | none =>
      rw [given] at halts
      exact absurd halts Outcome.not_halts_done
  | some path =>
      rw [given] at halts
      dsimp only at halts
      rw [Outcome.halts_andThen, removal_atFile_stops laws] at halts
      rcases halts with fails | ⟨creds, left, calls, done, impossible | ⟨refused, _⟩⟩
      · exact .leaving given (Or.inl gone) fails
      · exact impossible.elim
      · obtain ⟨after, removed, _⟩ := atFile_eq_done.mp done
        exact .forgotten given gone (removal_eq_done.mp removed) refused

theorem lateModification_of_moving {newPath : String} (gone : options.noCredentials = false)
    (store : options.credentialsStorePath = some newPath)
    (halts : (changing env options cfg.clientCredentialsPath files call).Halts
      (options.RefusesCertificate cfg) (· ≠ files)) :
    LateModification env files call options cfg := by
  unfold changing at halts
  rw [gone, store] at halts
  cases given : cfg.clientCredentialsPath with
  | some path =>
      rw [given] at halts
      dsimp only at halts
      rw [Outcome.halts_andThen, removal_atFile_stops laws] at halts
      rcases halts with fails | ⟨creds, left, calls, done, later⟩
      · exact .leaving given (Or.inr (by rw [store]; rfl)) fails
      · obtain ⟨after, removed, rfl⟩ := atFile_eq_done.mp done
        have removes := removal_eq_done.mp removed
        rw [Outcome.halts_atFile, changes_twice (removes.changed laws),
          storing_halts] at later
        exact .moved given gone store removes later
  | none =>
      rw [given] at halts
      dsimp only at halts
      cases named : options.username with
      | some username =>
          rw [named] at halts
          dsimp only at halts
          rw [Outcome.halts_atFile, changes_atFile, storing_halts] at halts
          exact .stored given gone store named halts
      | none =>
          rw [named] at halts
          exact absurd halts Outcome.not_halts_stopped

omit laws in
theorem lateModification_of_staying (gone : options.noCredentials = false)
    (store : options.credentialsStorePath = none)
    (halts : (changing env options cfg.clientCredentialsPath files call).Halts
      (options.RefusesCertificate cfg) (· ≠ files)) :
    LateModification env files call options cfg := by
  by_cases touched : options.username.isSome = true ∨ options.password.isSome = true
  · cases given : cfg.clientCredentialsPath with
    | some path =>
        rw [given, changing_inPlace gone store touched, Outcome.halts_atFile,
          changes_atFile, adjusting_halts] at halts
        obtain ⟨bytes, set, creds, present, readable, adjusted, early⟩ := halts
        exact .adjusted given gone store touched present readable adjusted early
    | none =>
        unfold changing at halts
        rw [gone, store, given] at halts
        cases named : options.username with
        | some username =>
            rw [named] at halts
            exact absurd halts Outcome.not_halts_stopped
        | none =>
            rw [named] at halts touched
            obtain ⟨password, given⟩ := Option.isSome_iff_exists.mp
              (touched.resolve_left Bool.false_ne_true)
            rw [given] at halts
            exact absurd halts Outcome.not_halts_stopped
  · rw [not_or, Option.not_isSome_iff_eq_none, Option.not_isSome_iff_eq_none] at touched
    unfold changing at halts
    rw [gone, store, touched.1, touched.2] at halts
    exact absurd halts Outcome.not_halts_done

theorem lateModification_of_halts
    (halts : (changing env options cfg.clientCredentialsPath files call).Halts
      (options.RefusesCertificate cfg) (· ≠ files)) :
    LateModification env files call options cfg := by
  cases gone : options.noCredentials with
  | true => exact lateModification_of_forgetting laws gone halts
  | false =>
      cases store : options.credentialsStorePath with
      | some newPath => exact lateModification_of_moving laws gone store halts
      | none => exact lateModification_of_staying gone store halts

theorem halts_of_lateModification (late : LateModification env files call options cfg) :
    (changing env options cfg.clientCredentialsPath files call).Halts
      (options.RefusesCertificate cfg) (· ≠ files) := by
  cases late with
  | @leaving path given leaves fails =>
      have removal := (removal_atFile_stops laws options.serverId).mpr fails
      rw [given]
      unfold changing
      cases gone : options.noCredentials with
      | true =>
          dsimp only
          rw [Outcome.halts_andThen]
          exact Or.inl removal
      | false =>
          obtain ⟨newPath, store⟩ := Option.isSome_iff_exists.mp
            (leaves.resolve_left (by rw [gone]; exact Bool.false_ne_true))
          rw [store]
          dsimp only
          rw [Outcome.halts_andThen]
          exact Or.inl removal
  | @forgotten path creds after calls given gone removes refused =>
      rw [given]
      unfold changing
      rw [gone]
      dsimp only
      rw [Outcome.halts_andThen]
      refine Or.inr ⟨creds, _, calls,
        atFile_eq_done.mpr ⟨after, removal_eq_done.mpr removes, rfl⟩, Or.inr ⟨refused, ?_⟩⟩
      exact Function.update_ne_self_iff.mpr (removes.changed laws)
  | @moved path newPath creds after calls given gone store removes early =>
      rw [given]
      unfold changing
      rw [gone, store]
      dsimp only
      rw [Outcome.halts_andThen]
      refine Or.inr ⟨creds, _, calls,
        atFile_eq_done.mpr ⟨after, removal_eq_done.mpr removes, rfl⟩, ?_⟩
      rw [Outcome.halts_atFile, changes_twice (removes.changed laws), storing_halts]
      exact early
  | stored given gone store named early =>
      rw [given]
      unfold changing
      rw [gone, store, named]
      dsimp only
      rw [Outcome.halts_atFile, changes_atFile, storing_halts]
      exact early
  | adjusted given gone store touched present readable adjusted early =>
      rw [given, changing_inPlace gone store touched, Outcome.halts_atFile, changes_atFile,
        adjusting_halts]
      exact ⟨_, _, _, present, readable, adjusted, early⟩

end Modification

section Subcommands

variable {env : KmipEnvironment} (laws : CredentialLaws env) {space : KmipSpace}
variable {command : KmipCommands}

include laws

theorem stops_of_lateFailure (late : LateFailure env space command) :
    (command.outcome env space).Stops (· ≠ space.files) := by
  cases late with
  | created absent store missing opened fails =>
      dsimp only [KmipCommands.outcome]
      rw [absent, store]
      dsimp only
      rw [Outcome.stops_atFile, changes_atFile, missing, adding_new_stops]
      refine ⟨opened, ?_⟩
      rcases fails with unnamed | disturbed
      · exact Or.inl (by unfold AddServer.credentials; rw [unnamed]; rfl)
      · exact Or.inr disturbed
  | added absent store present readable named unlisted fails =>
      dsimp only [KmipCommands.outcome]
      rw [absent, store]
      dsimp only
      rw [Outcome.stops_atFile, changes_atFile, present, adding_stops]
      refine ⟨_, _, readable, ?_, unlisted, fails⟩
      unfold AddServer.credentials
      rw [named]
      rfl
  | removed allowed store fails =>
      dsimp only [KmipCommands.outcome]
      rw [allowed, store]
      dsimp only
      rw [Outcome.stops_andThen]
      exact Or.inl ((removal_atFile_stops laws _).mpr fails)
  | modified listed late =>
      dsimp only [KmipCommands.outcome]
      rw [modifying_stops listed]
      exact halts_of_lateModification laws late

theorem lateFailure_of_stops (stops : (command.outcome env space).Stops (· ≠ space.files)) :
    LateFailure env space command := by
  cases command with
  | disable => exact stops.elim
  | addServer options =>
      dsimp only [KmipCommands.outcome] at stops
      split at stops
      · exact absurd rfl stops
      · exact stops.elim
      · next path absent store =>
          rw [Outcome.stops_atFile, changes_atFile] at stops
          cases present : space.files path with
          | none =>
              rw [present, adding_new_stops] at stops
              obtain ⟨opened, fails⟩ := stops
              refine .created absent store present opened (fails.imp_left fun unnamed => ?_)
              exact Option.map_eq_none_iff.mp unnamed
          | some bytes =>
              rw [present, adding_stops] at stops
              obtain ⟨set, given, readable, named, unlisted, fails⟩ := stops
              obtain ⟨username, only, rfl⟩ := Option.map_eq_some_iff.mp named
              exact .added absent store present readable only unlisted fails
  | modifyServer options =>
      cases listed : space.kss.kmip.servers.lookup options.serverId with
      | none =>
          dsimp only [KmipCommands.outcome, modifying] at stops
          rw [listed] at stops
          exact absurd rfl stops
      | some cfg =>
          dsimp only [KmipCommands.outcome] at stops
          rw [modifying_stops listed] at stops
          exact .modified listed (lateModification_of_halts laws stops)
  | removeServer serverId =>
      dsimp only [KmipCommands.outcome] at stops
      split at stops
      · exact absurd rfl stops
      · exact stops.elim
      · next path allowed store =>
          rw [Outcome.stops_andThen] at stops
          rcases stops with fails | ⟨_, _, _, _, impossible⟩
          · exact .removed allowed store ((removal_atFile_stops laws _).mp fails)
          · exact impossible.elim
  | setDefaultServer serverId =>
      dsimp only [KmipCommands.outcome] at stops
      split at stops
      · exact stops.elim
      · exact absurd rfl stops
  | getServer serverId =>
      dsimp only [KmipCommands.outcome] at stops
      split at stops
      · exact stops.elim
      · exact absurd rfl stops
  | listServers => exact stops.elim

/-- A subcommand stops with changed files exactly on these inputs. -/
theorem lateFailure_iff :
    LateFailure env space command ↔ (command.outcome env space).Stops (· ≠ space.files) :=
  ⟨stops_of_lateFailure laws, lateFailure_of_stops laws⟩

end Subcommands

end Dnst.Keyset.Kmip
