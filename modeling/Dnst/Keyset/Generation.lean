import Dnst.Keyset.Changes
import Dnst.Keyset.Reference

/-! # What key generation leaves behind

Keys are generated until the key tag is new, in software or in an HSM. In software
nothing is stored before the tag is known to be new; in an HSM every attempt leaves a
pair. Nothing is taken back when a later step fails.
-/

namespace Dnst.Keyset

open Effect

/-! ## Calls -/

theorem exec_attempt_perform (env : Environment) (message : String → String)
    (ws : WorkSpace) :
    exec (perform (attempt env message)) ws =
      (match env.failure ws.calls with
        | none => .ok ()
        | some reason => .error (.error (message reason)),
        { ws with calls := ws.calls + 1 }) := by
  have call : exec nextCall ws.calls = (.ok ws.calls, ws.calls + 1) := rfl
  rw [exec_perform, attempt, exec_bind_of_ok call]
  cases env.failure ws.calls <;> rfl

/-! ## Key parameters -/

/-- The parameters, for a key length that fits. -/
def KeyParameters.generateParams : KeyParameters → GenerateParams
  | .rsaSha256 bits => .rsaSha256 bits
  | .rsaSha512 bits => .rsaSha512 bits
  | .ecdsaP256Sha256 => .ecdsaP256Sha256
  | .ecdsaP384Sha384 => .ecdsaP384Sha384
  | .ed25519 => .ed25519
  | .ed448 => .ed448

theorem exec_toGenerateParams {State : Type} (parameters : KeyParameters) (state : State) :
    exec (parameters.toGenerateParams) state =
      if parameters.bitsFit then (.ok parameters.generateParams, state)
      else (.error (.panic bitsDoNotFit), state) := by
  cases parameters with
  | rsaSha256 bits =>
      by_cases fits : bits < 2 ^ 32 <;>
        simp only [KeyParameters.toGenerateParams, KeyParameters.bitsFit, fits, if_true,
          if_false, decide_true, decide_false] <;> rfl
  | rsaSha512 bits =>
      by_cases fits : bits < 2 ^ 32 <;>
        simp only [KeyParameters.toGenerateParams, KeyParameters.bitsFit, fits, if_true,
          if_false, decide_true, decide_false] <;> rfl
  | ecdsaP256Sha256 => rfl
  | ecdsaP384Sha384 => rfl
  | ed25519 => rfl
  | ed448 => rfl

def flagsOf (makeKsk : Bool) : Nat := if makeKsk then 257 else 256

/-! ## Generating in software -/

/-- Within this number of tries, the attempts from a call on collide until one gives a key
with a new tag; `after` is the next call. -/
inductive FirstFresh (keyset : KeySet) (generate : Nat → Except String Dnskey) :
    Nat → Nat → Dnskey → Nat → Prop where
  | fresh {call retries : Nat} {key : Dnskey} (generated : generate call = .ok key)
      (new : tagInUse keyset key.keyTag = false) :
      FirstFresh keyset generate call (retries + 1) key (call + 1)
  | collides {call retries after : Nat} {key other : Dnskey}
      (generated : generate call = .ok other)
      (inUse : tagInUse keyset other.keyTag = true)
      (later : FirstFresh keyset generate (call + 1) retries key after) :
      FirstFresh keyset generate call (retries + 1) key after

section Software

variable {env : Environment} {keyset : KeySet} {params : GenerateParams} {flags : Nat}

theorem exec_generateUnique (retries calls : Nat) :
    (∃ key after, FirstFresh keyset (fun call => env.generate call params flags) calls
          retries key after ∧
        exec (generateUnique env keyset params flags retries) calls = (.ok key, after)) ∨
      (¬ ∃ key after, FirstFresh keyset (fun call => env.generate call params flags) calls
          retries key after) ∧
        ∃ reason final, exec (generateUnique env keyset params flags retries) calls =
          (.error (.error reason), final) := by
  induction retries generalizing calls with
  | zero =>
      right
      refine ⟨?_, _, _, rfl⟩
      rintro ⟨key, after, first⟩
      cases first
  | succ retries induction =>
      have call : exec nextCall calls = (.ok calls, calls + 1) := rfl
      unfold generateUnique
      rw [exec_bind_of_ok call]
      cases generated : env.generate calls params flags with
      | error reason =>
          right
          refine ⟨?_, _, _, rfl⟩
          rintro ⟨key, after, first⟩
          cases first with
          | fresh same => rw [generated] at same; cases same
          | collides same => rw [generated] at same; cases same
      | ok key =>
          have mapped : exec (mapErr (fun reason => s!"key generation failed: {reason}\n")
              (.ok key) : Step Dnskey) (calls + 1) = (.ok key, calls + 1) := rfl
          rw [exec_bind_of_ok mapped]
          cases inUse : tagInUse keyset key.keyTag with
          | false => exact Or.inl ⟨key, calls + 1, .fresh generated inUse, rfl⟩
          | true =>
              rw [if_pos rfl]
              rcases induction (calls + 1) with ⟨found, after, first, run⟩ | ⟨none, failed⟩
              · exact Or.inl ⟨found, after, .collides generated inUse first, run⟩
              · right
                refine ⟨?_, failed⟩
                rintro ⟨found, after, first⟩
                cases first with
                | fresh same new =>
                    rw [generated] at same
                    cases same
                    rw [inUse] at new
                    cases new
                | collides _ _ later => exact none ⟨found, after, later⟩

theorem FirstFresh.new {generate : Nat → Except String Dnskey} {calls retries after : Nat}
    {key : Dnskey} (first : FirstFresh keyset generate calls retries key after) :
    tagInUse keyset key.keyTag = false := by
  induction first with
  | fresh _ new => exact new
  | collides _ _ _ induction => exact induction

theorem FirstFresh.unique {generate : Nat → Except String Dnskey}
    {calls retries after later : Nat} {key other : Dnskey}
    (first : FirstFresh keyset generate calls retries key after)
    (second : FirstFresh keyset generate calls retries other later) :
    key = other ∧ after = later := by
  induction first with
  | fresh generated new =>
      cases second with
      | fresh same _ =>
          rw [generated] at same
          cases same
          exact ⟨rfl, rfl⟩
      | collides same inUse =>
          rw [generated] at same
          cases same
          rw [inUse] at new
          cases new
  | collides generated inUse _ induction =>
      cases second with
      | fresh same new =>
          rw [generated] at same
          cases same
          rw [inUse] at new
          cases new
      | collides _ _ second => exact induction second

end Software

/-! ## Key files -/

def secretKeyPath (ws : WorkSpace) (key : Dnskey) : String :=
  joinPath ws.config.keysDir (keyFileBase ws.state.keyset.name key ++ ".private")

def publicKeyPath (ws : WorkSpace) (key : Dnskey) : String :=
  joinPath ws.config.keysDir (keyFileBase ws.state.keyset.name key ++ ".key")

theorem joinPath_injective (directory : String) :
    Function.Injective (joinPath directory) := by
  intro one other same
  unfold joinPath at same
  split at same
  · simpa using same
  · simpa using same

theorem secretKeyPath_ne (ws : WorkSpace) (key : Dnskey) :
    secretKeyPath ws key ≠ publicKeyPath ws key := by
  intro same
  have names := joinPath_injective _ same
  simp at names

/-- The private key file is created. -/
def CreatesSecret (env : Environment) (ws : WorkSpace) (key : Dnskey) (calls : Nat) : Prop :=
  env.failure calls = none ∧ ws.keyStore (.file (secretKeyPath ws key)) = none

/-- What follows on the creation of the private key file succeeds: the public key file is
created and both are written. -/
structure WritesFiles (env : Environment) (ws : WorkSpace) (key : Dnskey)
    (calls : Nat) : Prop where
  creates : env.failure (calls + 1) = none
  absent : ws.keyStore (.file (publicKeyPath ws key)) = none
  writesSecret : env.failure (calls + 2) = none
  writesPublic : env.failure (calls + 3) = none

/-- The URLs of the files can be read back. -/
structure FileUrls (env : Environment) (ws : WorkSpace) (key : Dnskey) : Prop where
  secretUrl : ∃ ending, env.parseUrl ("file://" ++ secretKeyPath ws key) =
    .ok (.file (secretKeyPath ws key) ending)
  publicUrl : ∃ ending, env.parseUrl ("file://" ++ publicKeyPath ws key) =
    .ok (.file (publicKeyPath ws key) ending)

section Files

variable {env : Environment} {ws final : WorkSpace} {key : Dnskey} {path : String}

theorem exec_createNewFile :
    (env.failure ws.calls = none ∧ ws.keyStore (.file path) = none ∧
        exec (createNewFile env path) ws =
          (.ok (), { ws with
            calls := ws.calls + 1
            keyStore := Function.update ws.keyStore (.file path) (some .created) })) ∨
      ¬ (env.failure ws.calls = none ∧ ws.keyStore (.file path) = none) ∧
        ∃ reason, exec (createNewFile env path) ws =
          (.error (.error reason), { ws with calls := ws.calls + 1 }) := by
  have attempted := exec_attempt_perform env
    (fun reason => s!"cannot create '{path}': {reason}") ws
  unfold createNewFile
  dsimp only
  cases fails : env.failure ws.calls with
  | some reason =>
      rw [fails] at attempted
      right
      refine ⟨by simp, s!"cannot create '{path}': {reason}", ?_⟩
      rw [exec_bind_of_error attempted]
  | none =>
      rw [fails] at attempted
      rw [exec_bind_of_ok attempted, exec_bind_of_ok (exec_get _)]
      cases present : ws.keyStore (.file path) with
      | none => exact Or.inl ⟨rfl, rfl, rfl⟩
      | some material =>
          right
          exact ⟨by simp, _, rfl⟩

theorem exec_writeKeyFile {material : KeyMaterial} {failed : String → String} :
    exec (writeKeyFile env path material failed) ws =
      match env.failure ws.calls with
      | none => (.ok (), { ws with
          calls := ws.calls + 1
          keyStore := Function.update ws.keyStore (.file path) (some material) })
      | some reason => (.error (.error (failed reason)), { ws with calls := ws.calls + 1 }) := by
  have attempted := exec_attempt_perform env failed ws
  unfold writeKeyFile
  cases fails : env.failure ws.calls with
  | none =>
      rw [fails] at attempted
      rw [exec_bind_of_ok attempted]
      rfl
  | some reason =>
      rw [fails] at attempted
      rw [exec_bind_of_error attempted]

/-- The workspace after both files have been written. -/
def withKeyFiles (ws : WorkSpace) (key : Dnskey) : WorkSpace :=
  { ws with
    calls := ws.calls + 4
    keyStore := Function.update
      (Function.update ws.keyStore (.file (secretKeyPath ws key)) (some (.privateKey key)))
      (.file (publicKeyPath ws key)) (some (.publicKey ws.state.keyset.name key)) }

/-- The URLs that are returned. -/
def parsedKeys (env : Environment) (ws : WorkSpace) (key : Dnskey) :
    Except String NewKeys := do
  let privateUrl ← env.parseUrl ("file://" ++ secretKeyPath ws key)
  let publicUrl ← env.parseUrl ("file://" ++ publicKeyPath ws key)
  return { publicUrl, privateUrl, algorithm := key.algorithm, keyTag := key.keyTag }

theorem FileUrls.parsedKeys (urls : FileUrls env ws key) :
    ∃ keys, parsedKeys env ws key = .ok keys := by
  rcases urls with ⟨⟨secretEnding, secretUrl⟩, publicEnding, publicUrl⟩
  unfold Keyset.parsedKeys
  rw [secretUrl, publicUrl]
  exact ⟨_, rfl⟩

theorem newKeyFiles_of_not_created (refused : ¬ CreatesSecret env ws key ws.calls) :
    ∃ reason, exec (newKeyFiles env key) ws =
      (.error (.error reason), { ws with calls := ws.calls + 1 }) := by
  rcases @exec_createNewFile env ws (secretKeyPath ws key) with
    ⟨works, absent, _⟩ | ⟨_, reason, run⟩
  · exact absurd ⟨works, absent⟩ refused
  · refine ⟨reason, ?_⟩
    unfold newKeyFiles
    rw [exec_bind_of_ok (exec_get ws)]
    exact exec_bind_of_error run

/-- What has come into the store is one of the two. -/
theorem eq_of_update {store : KeyStore} {one other ref : KeyRef}
    {first second material : KeyMaterial} (absent : store ref = none)
    (stored : Function.update (Function.update store one (some first)) other (some second)
      ref = some material) :
    (ref = other ∧ second = material) ∨ (ref = one ∧ first = material) := by
  by_cases isOther : ref = other
  · rw [isOther, Function.update_self] at stored
    exact Or.inl ⟨isOther, Option.some.inj stored⟩
  · rw [Function.update_of_ne isOther] at stored
    by_cases isOne : ref = one
    · rw [isOne, Function.update_self] at stored
      exact Or.inr ⟨isOne, Option.some.inj stored⟩
    · rw [Function.update_of_ne isOne, absent] at stored
      cases stored

/-- Creating two files and writing them amounts to writing them. -/
theorem update_twice (store : KeyStore) {one other : KeyRef} (apart : one ≠ other)
    (first second third fourth : KeyMaterial) :
    Function.update (Function.update (Function.update (Function.update store one (some first))
        other (some second)) one (some third)) other (some fourth) =
      Function.update (Function.update store one (some third)) other (some fourth) := by
  funext ref
  by_cases isOther : ref = other
  · simp [isOther]
  · by_cases isOne : ref = one
    · simp [isOne, apart]
    · simp [Function.update_of_ne, isOther, isOne]

theorem newKeyFiles_of_created (created : CreatesSecret env ws key ws.calls) :
    (WritesFiles env ws key ws.calls ∧
        ((∃ keys, parsedKeys env ws key = .ok keys ∧
            exec (newKeyFiles env key) ws = (.ok keys, withKeyFiles ws key)) ∨
          (∀ keys, parsedKeys env ws key ≠ .ok keys) ∧
            ∃ reason, exec (newKeyFiles env key) ws =
              (.error (.error reason), withKeyFiles ws key))) ∨
      ¬ WritesFiles env ws key ws.calls ∧
        ∃ reason final, exec (newKeyFiles env key) ws = (.error (.error reason), final) ∧
          final.keyStore (.file (secretKeyPath ws key)) ≠ none := by
  have apart : KeyRef.file (publicKeyPath ws key) ≠ .file (secretKeyPath ws key) := by
    intro same
    exact secretKeyPath_ne ws key (KeyRef.file.inj same).symm
  have opened : exec (createNewFile env (secretKeyPath ws key)) ws =
      (.ok (), { ws with
        calls := ws.calls + 1
        keyStore := Function.update ws.keyStore (.file (secretKeyPath ws key))
          (some .created) }) := by
    rcases @exec_createNewFile env ws (secretKeyPath ws key) with ⟨_, _, run⟩ | ⟨refused, _⟩
    · exact run
    · exact absurd created refused
  unfold newKeyFiles
  rw [exec_bind_of_ok (exec_get ws)]
  dsimp only
  rw [← secretKeyPath, ← publicKeyPath, exec_bind_of_ok opened]
  rcases @exec_createNewFile env
      { ws with
        calls := ws.calls + 1
        keyStore := Function.update ws.keyStore (.file (secretKeyPath ws key))
          (some .created) } (publicKeyPath ws key) with
    ⟨works, absent, run⟩ | ⟨refused, reason, run⟩
  · dsimp only at works absent run
    rw [Function.update_of_ne apart] at absent
    rw [exec_bind_of_ok run, exec_bind, exec_writeKeyFile]
    dsimp only
    cases writesSecret : env.failure (ws.calls + 1 + 1) with
    | some reason =>
        right
        constructor
        · intro writes
          have fine := writes.writesSecret
          rw [writesSecret] at fine
          cases fine
        · refine ⟨_, _, rfl, ?_⟩
          simp [Function.update_of_ne apart.symm]
    | none =>
        dsimp only
        rw [exec_bind, exec_writeKeyFile]
        dsimp only
        cases writesPublic : env.failure (ws.calls + 1 + 1 + 1) with
        | some reason =>
            right
            constructor
            · intro writes
              have fine := writes.writesPublic
              rw [writesPublic] at fine
              cases fine
            · refine ⟨_, _, rfl, ?_⟩
              simp
        | none =>
            left
            refine ⟨⟨works, absent, writesSecret, writesPublic⟩, ?_⟩
            dsimp only
            have stored := update_twice ws.keyStore apart.symm .created .created
              (.privateKey key) (.publicKey ws.state.keyset.name key)
            rw [stored]
            unfold parsedKeys
            cases env.parseUrl ("file://" ++ secretKeyPath ws key) with
            | error reason =>
                refine Or.inr ⟨?_, _, rfl⟩
                intro keys same
                cases same
            | ok privateUrl =>
                cases env.parseUrl ("file://" ++ publicKeyPath ws key) with
                | error reason =>
                    refine Or.inr ⟨?_, _, rfl⟩
                    intro keys same
                    cases same
                | ok publicUrl => exact Or.inl ⟨_, rfl, rfl⟩
  · right
    dsimp only at refused
    rw [Function.update_of_ne apart] at refused
    rw [exec_bind_of_error run]
    constructor
    · intro writes
      exact refused ⟨writes.creates, writes.absent⟩
    · refine ⟨reason, _, rfl, ?_⟩
      simp

end Files

/-! ## Key pairs in an HSM -/

def KmipKeyPair.Names (pair : KmipKeyPair) (ref : KeyRef) : Prop :=
  pair.publicKeyUrl.keyRef = some ref ∨ pair.privateKeyUrl.keyRef = some ref

/-- What an HSM is relied on for: the two keys of a pair have identifiers of their own,
which no other key has or had. -/
structure HsmLaws (env : Environment) (store : KeyStore) : Prop where
  identified : ∀ call params flags pair, env.kmipGenerate call params flags = .ok pair →
    ∃ publicRef privateRef, pair.publicKeyUrl.keyRef = some publicRef ∧
      pair.privateKeyUrl.keyRef = some privateRef ∧ publicRef ≠ privateRef
  new : ∀ call params flags pair ref, env.kmipGenerate call params flags = .ok pair →
    pair.Names ref → store ref = none
  apart : ∀ call other params flags pair otherPair ref, call ≠ other →
    env.kmipGenerate call params flags = .ok pair →
    env.kmipGenerate other params flags = .ok otherPair →
    pair.Names ref → ¬ otherPair.Names ref

/-- Giving the pair its labels fails. -/
def RelabelFails (env : Environment) (server : KmipServerConnectionConfig)
    (calls : Nat) : Prop :=
  server.keyLabelConfig.supportsRelabeling = true ∧
    match env.relabel calls with
    | .noLabel => False
    | .renamed => env.failure (calls + 1) ≠ none
    | .unsupported => env.failure (calls + 1) ≠ none
    | .halfRenamed _ => True

section Hsm

variable {env : Environment} {ws : WorkSpace} {pair : KmipKeyPair}
  {publicRef privateRef : KeyRef} {serverId : String} {server : KmipServerConnectionConfig}
  {params : GenerateParams} {flags : Nat}

/-- The workspace with the pair in the HSM. -/
def withPair (ws : WorkSpace) (pair : KmipKeyPair) (publicRef privateRef : KeyRef) :
    WorkSpace :=
  { ws with
    keyStore := Function.update
      (Function.update ws.keyStore publicRef
        (some (.publicKey ws.state.keyset.name pair.dnskey)))
      privateRef (some (.privateKey pair.dnskey)) }

theorem exec_storePair (publicUrl : pair.publicKeyUrl.keyRef = some publicRef)
    (privateUrl : pair.privateKeyUrl.keyRef = some privateRef) :
    exec (storePair pair) ws = (.ok (), withPair ws pair publicRef privateRef) := by
  unfold storePair
  rw [publicUrl, privateUrl]
  rfl

theorem exec_relabelPair :
    (¬ RelabelFails env server ws.calls ∧
        ∃ final, exec (relabelPair env serverId server) ws = (.ok (), final) ∧
          final.keyStore = ws.keyStore) ∨
      RelabelFails env server ws.calls ∧
        ∃ reason final, exec (relabelPair env serverId server) ws =
            (.error (.error reason), final) ∧
          final.keyStore = ws.keyStore := by
  unfold relabelPair RelabelFails
  by_cases supports : server.keyLabelConfig.supportsRelabeling = true
  · have call : exec (perform nextCall) ws =
        (.ok ws.calls, { ws with calls := ws.calls + 1 }) := rfl
    have attempted := exec_attempt_perform env id { ws with calls := ws.calls + 1 }
    rw [if_pos supports, exec_bind_of_ok call]
    dsimp only at attempted
    cases relabelled : env.relabel ws.calls with
    | noLabel => exact Or.inl ⟨by simp, _, rfl, rfl⟩
    | renamed =>
        cases fails : env.failure (ws.calls + 1) with
        | none =>
            rw [fails] at attempted
            exact Or.inl ⟨by simp, _, attempted, rfl⟩
        | some reason =>
            rw [fails] at attempted
            exact Or.inr ⟨by simp [supports], _, _, attempted, rfl⟩
    | unsupported =>
        cases fails : env.failure (ws.calls + 1) with
        | none =>
            rw [fails] at attempted
            refine Or.inl ⟨by simp, _, exec_bind_of_ok attempted, rfl⟩
        | some reason =>
            rw [fails] at attempted
            exact Or.inr ⟨by simp [supports], _, _, exec_bind_of_error attempted, rfl⟩
    | halfRenamed message =>
        right
        refine ⟨by simp [supports], ?_⟩
        cases fails : env.failure (ws.calls + 1) with
        | none =>
            rw [fails] at attempted
            exact ⟨_, _, exec_bind_of_ok attempted, rfl⟩
        | some reason =>
            rw [fails] at attempted
            exact ⟨_, _, exec_bind_of_error attempted, rfl⟩
  · rw [if_neg supports]
    exact Or.inl ⟨fun fails => supports fails.1, ws, rfl, rfl⟩

/-- One round of the loop. -/
theorem exec_generateUniquePair_succ (retries : Nat)
    (known : ws.state.kmip.servers.lookup serverId = some server) :
    exec (generateUniquePair env serverId params flags (retries + 1)) ws =
      match env.kmipGenerate ws.calls params flags with
      | .error reason =>
          (.error (.error s!"KMIP key generation failed: {reason}\n"),
            { ws with calls := ws.calls + 1 })
      | .ok pair =>
          exec (do
            storePair pair
            if tagInUse ws.state.keyset pair.dnskey.keyTag then
              generateUniquePair env serverId params flags retries
            else do
              relabelPair env serverId server
              return pair) { ws with calls := ws.calls + 1 } := by
  have call : exec (perform nextCall) ws =
      (.ok ws.calls, { ws with calls := ws.calls + 1 }) := rfl
  rw [generateUniquePair, exec_bind_of_ok (exec_get ws), known]
  dsimp only
  rw [exec_bind_of_ok call]
  cases env.kmipGenerate ws.calls params flags <;> rfl

/-- Later rounds only add pairs that are generated then, and end without a panic. -/
theorem generateUniquePair_adds {store : KeyStore} (laws : HsmLaws env store)
    (retries : Nat) (ws : WorkSpace)
    (known : ws.state.kmip.servers.lookup serverId = some server)
    {outcome : Except Fault KmipKeyPair} {final : WorkSpace}
    (run : exec (generateUniquePair env serverId params flags retries) ws =
      (outcome, final)) :
    (∀ fault, outcome = .error fault → fault.isPanic = false) ∧
      (∀ pair, outcome = .ok pair →
        ∃ call, ws.calls ≤ call ∧ env.kmipGenerate call params flags = .ok pair) ∧
      ∀ ref, (∀ call pair, ws.calls ≤ call →
          env.kmipGenerate call params flags = .ok pair → ¬ pair.Names ref) →
        final.keyStore ref = ws.keyStore ref := by
  induction retries generalizing ws with
  | zero =>
      cases run
      refine ⟨?_, ?_, fun _ _ => rfl⟩
      · intro fault same
        cases same
        rfl
      · intro pair same
        cases same
  | succ retries induction =>
      rw [exec_generateUniquePair_succ retries known] at run
      cases generated : env.kmipGenerate ws.calls params flags with
      | error reason =>
          rw [generated] at run
          cases run
          refine ⟨?_, ?_, fun _ _ => rfl⟩
          · intro fault same
            cases same
            rfl
          · intro pair same
            cases same
      | ok pair =>
          rw [generated] at run
          obtain ⟨publicRef, privateRef, publicUrl, privateUrl, _⟩ :=
            laws.identified _ _ _ _ generated
          dsimp only at run
          rw [exec_bind_of_ok (exec_storePair publicUrl privateUrl)] at run
          have untouched : ∀ ref, ¬ pair.Names ref →
              (withPair { ws with calls := ws.calls + 1 } pair publicRef
                privateRef).keyStore ref = ws.keyStore ref := by
            intro ref others
            have notPublic : ref ≠ publicRef := fun same => others (Or.inl (same ▸ publicUrl))
            have notPrivate : ref ≠ privateRef :=
              fun same => others (Or.inr (same ▸ privateUrl))
            simp [withPair, Function.update_of_ne, notPublic, notPrivate]
          split at run
          · obtain ⟨ordinary, source, adds⟩ := induction
              (withPair { ws with calls := ws.calls + 1 } pair publicRef privateRef) known run
            refine ⟨ordinary, ?_, ?_⟩
            · intro found same
              obtain ⟨call, later, from_⟩ := source found same
              exact ⟨call, Nat.le_of_succ_le later, from_⟩
            · intro ref others
              rw [adds ref fun call other later => others call other (Nat.le_of_succ_le later)]
              exact untouched ref (others ws.calls pair (Nat.le_refl _) generated)
          · rcases @exec_relabelPair env
                (withPair { ws with calls := ws.calls + 1 } pair publicRef privateRef)
                serverId server with ⟨_, after, relabel, store⟩ | ⟨_, reason, after, relabel, store⟩
            · rw [exec_bind_of_ok relabel] at run
              cases run
              refine ⟨?_, ?_, ?_⟩
              · intro fault same
                cases same
              · intro found same
                cases same
                exact ⟨ws.calls, Nat.le_refl _, generated⟩
              · intro ref others
                rw [store]
                exact untouched ref (others ws.calls pair (Nat.le_refl _) generated)
            · rw [exec_bind_of_error relabel] at run
              cases run
              refine ⟨?_, ?_, ?_⟩
              · intro fault same
                cases same
                rfl
              · intro found same
                cases same
              · intro ref others
                rw [store]
                exact untouched ref (others ws.calls pair (Nat.le_refl _) generated)

end Hsm

/-! ## Attempts -/

/-- Generators that agree for this many calls. -/
def AgreeFor {Input Output : Type} (tries start : Nat) (one other : Nat → Input → Output) :
    Prop :=
  ∀ index < tries, one (start + index) = other (start + index)

theorem AgreeFor.now {Input Output : Type} {tries start : Nat}
    {one other : Nat → Input → Output} (agree : AgreeFor (tries + 1) start one other) :
    one start = other start :=
  agree 0 (Nat.succ_pos tries)

theorem AgreeFor.later {Input Output : Type} {tries start : Nat}
    {one other : Nat → Input → Output} (agree : AgreeFor (tries + 1) start one other) :
    AgreeFor tries (start + 1) one other := by
  intro index bound
  have same := agree (index + 1) (by omega)
  have shifted : start + (index + 1) = start + 1 + index := by omega
  rwa [shifted] at same

section Attempts

variable (env : Environment)
  {generate : Nat → GenerateParams → Nat → Except String Dnskey}
  {kmipGenerate : Nat → GenerateParams → Nat → Except String KmipKeyPair}

theorem generateUnique_agrees (keyset : KeySet) (params : GenerateParams) (flags : Nat) :
    ∀ (retries calls : Nat), AgreeFor retries calls generate env.generate →
      exec (generateUnique { env with generate, kmipGenerate } keyset params flags retries)
          calls =
        exec (generateUnique env keyset params flags retries) calls
  | 0, _, _ => rfl
  | retries + 1, calls, agree => by
      have call : exec nextCall calls = (.ok calls, calls + 1) := rfl
      unfold generateUnique
      rw [exec_bind_of_ok call, exec_bind_of_ok call]
      dsimp only
      rw [agree.now]
      cases env.generate calls params flags with
      | error reason => rfl
      | ok key =>
          have mapped : exec (mapErr (fun reason => s!"key generation failed: {reason}\n")
              (.ok key) : Step Dnskey) (calls + 1) = (.ok key, calls + 1) := rfl
          rw [exec_bind_of_ok mapped, exec_bind_of_ok mapped]
          cases tagInUse keyset key.keyTag with
          | false => rfl
          | true => exact generateUnique_agrees keyset params flags retries _ agree.later

theorem storePair_calls {ws final : WorkSpace} {pair : KmipKeyPair}
    {outcome : Except Fault Unit} (run : exec (storePair pair) ws = (outcome, final)) :
    final.calls = ws.calls := by
  unfold storePair at run
  split at run
  · cases run
    rfl
  · cases run
    rfl

theorem generateUniquePair_agrees (serverId : String) (params : GenerateParams)
    (flags : Nat) :
    ∀ (retries : Nat) (ws : WorkSpace), AgreeFor retries ws.calls kmipGenerate env.kmipGenerate →
      exec (generateUniquePair { env with generate, kmipGenerate } serverId params flags
          retries) ws =
        exec (generateUniquePair env serverId params flags retries) ws
  | 0, _, _ => rfl
  | retries + 1, ws, agree => by
      cases known : ws.state.kmip.servers.lookup serverId with
      | none =>
          unfold generateUniquePair
          rw [exec_bind_of_ok (exec_get ws), exec_bind_of_ok (exec_get ws), known]
      | some server =>
          rw [exec_generateUniquePair_succ retries known,
            exec_generateUniquePair_succ retries known]
          dsimp only
          rw [agree.now]
          cases env.kmipGenerate ws.calls params flags with
          | error reason => rfl
          | ok pair =>
              dsimp only
              rw [exec_bind, exec_bind]
              rcases stored : exec (storePair pair) { ws with calls := ws.calls + 1 } with
                ⟨outcome, after⟩
              have calls := storePair_calls stored
              cases outcome with
              | error fault => rfl
              | ok _ =>
                  dsimp only
                  cases tagInUse ws.state.keyset pair.dnskey.keyTag with
                  | false => rfl
                  | true =>
                      have later := agree.later
                      apply generateUniquePair_agrees serverId params flags retries after
                      rw [calls]
                      exact later

end Attempts

/-! ## The pool of connections -/

/-- The pool is there, or nothing but a call has been made. -/
theorem exec_getPool (env : Environment) (ws : WorkSpace) (serverId : String) :
    (∃ server, ws.state.kmip.servers.lookup serverId = some server ∧
        env.failure ws.calls = none ∧
        exec (perform (getPool env ws.state.kmip serverId)) ws =
          (.ok (), { ws with calls := ws.calls + 1 })) ∨
      (¬ ∃ server, ws.state.kmip.servers.lookup serverId = some server ∧
          env.failure ws.calls = none) ∧
        ∃ reason final, final.keyStore = ws.keyStore ∧
          exec (perform (getPool env ws.state.kmip serverId)) ws =
            (.error (.error reason), final) := by
  cases known : ws.state.kmip.servers.lookup serverId with
  | none =>
      have pool : getPool env ws.state.kmip serverId =
          bail s!"No KMIP server config exists for server '{serverId}'" := by
        unfold getPool
        rw [known]
      right
      rw [pool]
      exact ⟨by simp, _, ws, rfl, rfl⟩
  | some server =>
      have pool : getPool env ws.state.kmip serverId = attempt env fun reason =>
          s!"Unable to prepare KMIP connection settings for server '{serverId}': {reason}" := by
        unfold getPool
        rw [known]
      rw [pool, exec_attempt_perform]
      cases fails : env.failure ws.calls with
      | none => exact Or.inl ⟨server, rfl, rfl, rfl⟩
      | some reason =>
          exact Or.inr ⟨by simp, _, { ws with calls := ws.calls + 1 }, rfl, rfl⟩

/-! ## One fresh key and no strays -/

/-- The key store has gained these two keys and nothing else. -/
def OnlyNewPair (ws : WorkSpace) (keys : NewKeys) (final : WorkSpace) : Prop :=
  ∃ publicRef privateRef key,
    keys.publicUrl.keyRef = some publicRef ∧ keys.privateUrl.keyRef = some privateRef ∧
      publicRef ≠ privateRef ∧ ws.keyStore publicRef = none ∧
      ws.keyStore privateRef = none ∧ key.keyTag = keys.keyTag ∧
      final.keyStore = Function.update
        (Function.update ws.keyStore publicRef
          (some (.publicKey ws.state.keyset.name key)))
        privateRef (some (.privateKey key))

/-- What a creation of a key pair ends with: a key whose tag is not in use and that is the
only new key material, or no new key material. -/
def FreshOrNothing (ws : WorkSpace) : Except Fault NewKeys × WorkSpace → Prop
  | (.ok keys, final) =>
      tagInUse ws.state.keyset keys.keyTag = false ∧ OnlyNewPair ws keys final
  | (.error _, final) => final.keyStore = ws.keyStore

/-- What is asked of the creation of a key pair. The number of attempts is bounded: nothing
depends on the results of key generation past `maxKeyTagTries`. -/
structure YieldsFreshKey (env : Environment) (makeKsk : Bool) (ws : WorkSpace) : Prop where
  bounded : ∃ start, ∀ generate kmipGenerate,
    AgreeFor maxKeyTagTries start generate env.generate →
    AgreeFor maxKeyTagTries start kmipGenerate env.kmipGenerate →
      exec (newKeys { env with generate, kmipGenerate } makeKsk) ws =
        exec (newKeys env makeKsk) ws
  freshOrNothing : FreshOrNothing ws (exec (newKeys env makeKsk) ws)

/-- A key is found and the private key file is created, but a later step fails or the URLs
do not lead back to the files. -/
def LeavesFile (env : Environment) (ws : WorkSpace) (params : GenerateParams)
    (flags : Nat) : Prop :=
  ∃ key after,
    FirstFresh ws.state.keyset (fun call => env.generate call params flags) ws.calls
      maxKeyTagTries key after ∧
    CreatesSecret env ws key after ∧
    ¬ (WritesFiles env ws key after ∧ FileUrls env ws key)

/-- The HSM makes a pair whose key tag is in use or which cannot be relabelled. -/
def LeavesPair (env : Environment) (ws : WorkSpace) (params : GenerateParams)
    (flags : Nat) (serverId : String) : Prop :=
  ∃ server pair, ws.state.kmip.servers.lookup serverId = some server ∧
    env.failure ws.calls = none ∧
    env.kmipGenerate (ws.calls + 1) params flags = .ok pair ∧
    (tagInUse ws.state.keyset pair.dnskey.keyTag = true ∨
      RelabelFails env server (ws.calls + 2))

/-- Key material stays behind. -/
def LeavesStray (env : Environment) (makeKsk : Bool) (ws : WorkSpace) : Prop :=
  ws.config.algorithm.bitsFit = true ∧
    match ws.state.kmip.defaultServerId with
    | none => LeavesFile env ws ws.config.algorithm.generateParams (flagsOf makeKsk)
    | some serverId =>
        LeavesPair env ws ws.config.algorithm.generateParams (flagsOf makeKsk) serverId

section NewKeys

variable {env : Environment} {ws : WorkSpace} {makeKsk : Bool}

theorem exec_newKeys_files (fits : ws.config.algorithm.bitsFit = true)
    (software : ws.state.kmip.defaultServerId = none) :
    exec (newKeys env makeKsk) ws =
      exec (do
        let key ← perform (generateUnique env ws.state.keyset
          ws.config.algorithm.generateParams (flagsOf makeKsk) maxKeyTagTries)
        newKeyFiles env key) ws := by
  have parameters := exec_toGenerateParams ws.config.algorithm ws
  rw [if_pos fits] at parameters
  unfold newKeys
  rw [exec_bind_of_ok (exec_get ws), exec_bind_of_ok parameters, software]
  rfl

theorem exec_newKeys_hsm {serverId : String} (fits : ws.config.algorithm.bitsFit = true)
    (hsm : ws.state.kmip.defaultServerId = some serverId) :
    exec (newKeys env makeKsk) ws =
      exec (do
        perform (getPool env ws.state.kmip serverId)
        let pair ← generateUniquePair env serverId ws.config.algorithm.generateParams
          (flagsOf makeKsk) maxKeyTagTries
        return {
          publicUrl := pair.publicKeyUrl
          privateUrl := pair.privateKeyUrl
          algorithm := pair.dnskey.algorithm
          keyTag := pair.dnskey.keyTag : NewKeys }) ws := by
  have parameters := exec_toGenerateParams ws.config.algorithm ws
  rw [if_pos fits] at parameters
  unfold newKeys
  rw [exec_bind_of_ok (exec_get ws), exec_bind_of_ok parameters, hsm]
  rfl

theorem exec_newKeys_unfit (unfit : ws.config.algorithm.bitsFit = false) :
    exec (newKeys env makeKsk) ws = (.error (.panic bitsDoNotFit), ws) := by
  have parameters := exec_toGenerateParams ws.config.algorithm ws
  rw [if_neg (by simp [unfit])] at parameters
  unfold newKeys
  rw [exec_bind_of_ok (exec_get ws), exec_bind_of_error parameters]

theorem newKeys_bounded (env : Environment) (makeKsk : Bool) (ws : WorkSpace) :
    ∃ start, ∀ generate kmipGenerate,
      AgreeFor maxKeyTagTries start generate env.generate →
      AgreeFor maxKeyTagTries start kmipGenerate env.kmipGenerate →
        exec (newKeys { env with generate, kmipGenerate } makeKsk) ws =
          exec (newKeys env makeKsk) ws := by
  cases fits : ws.config.algorithm.bitsFit with
  | false =>
      refine ⟨0, fun generate kmipGenerate _ _ => ?_⟩
      rw [exec_newKeys_unfit fits, exec_newKeys_unfit fits]
  | true =>
      cases asked : ws.state.kmip.defaultServerId with
      | none =>
          refine ⟨ws.calls, fun generate kmipGenerate agree _ => ?_⟩
          have sameFiles : newKeyFiles { env with generate, kmipGenerate } = newKeyFiles env := rfl
          rw [exec_newKeys_files fits asked, exec_newKeys_files fits asked, exec_bind,
            exec_bind, exec_perform, exec_perform,
            generateUnique_agrees env _ _ _ _ _ agree, sameFiles]
      | some serverId =>
          refine ⟨ws.calls + 1, fun generate kmipGenerate _ agree => ?_⟩
          have samePool : getPool { env with generate, kmipGenerate } = getPool env := rfl
          rw [exec_newKeys_hsm fits asked, exec_newKeys_hsm fits asked, samePool, exec_bind,
            exec_bind]
          rcases exec_getPool env ws serverId with
            ⟨_, _, _, pool⟩ | ⟨_, reason, final, _, pool⟩
          · rw [pool]
            dsimp only
            rw [exec_bind, exec_bind, generateUniquePair_agrees env _ _ _ _ _ agree]
          · rw [pool]

theorem parsedKeys_keyTag {key : Dnskey} {keys : NewKeys}
    (parsed : parsedKeys env ws key = .ok keys) : keys.keyTag = key.keyTag := by
  unfold parsedKeys at parsed
  cases secretUrl : env.parseUrl ("file://" ++ secretKeyPath ws key) with
  | error reason =>
      rw [secretUrl] at parsed
      cases parsed
  | ok privateUrl =>
      cases publicUrl : env.parseUrl ("file://" ++ publicKeyPath ws key) with
      | error reason =>
          rw [secretUrl, publicUrl] at parsed
          cases parsed
      | ok url =>
          rw [secretUrl, publicUrl] at parsed
          cases parsed
          rfl

/-- The files are the only new key material as soon as the URLs lead back to them. -/
theorem onlyNewPair_iff {key : Dnskey} {keys : NewKeys}
    (absentSecret : ws.keyStore (.file (secretKeyPath ws key)) = none)
    (absentPublic : ws.keyStore (.file (publicKeyPath ws key)) = none)
    (parsed : parsedKeys env ws key = .ok keys) :
    OnlyNewPair ws keys (withKeyFiles ws key) ↔ FileUrls env ws key := by
  have apart : KeyRef.file (publicKeyPath ws key) ≠ .file (secretKeyPath ws key) := by
    intro same
    exact secretKeyPath_ne ws key (KeyRef.file.inj same).symm
  have filePath : ∀ {url : Url} {path : String}, url.keyRef = some (.file path) →
      ∃ ending, url = .file path ending := by
    intro url path ref
    cases url with
    | file other ending =>
        simp only [Url.keyRef, Option.some.injEq, KeyRef.file.injEq] at ref
        rw [ref]
        exact ⟨ending, rfl⟩
    | kmip serverId keyId => simp [Url.keyRef] at ref
    | other scheme => simp [Url.keyRef] at ref
  unfold parsedKeys at parsed
  cases secretUrl : env.parseUrl ("file://" ++ secretKeyPath ws key) with
  | error reason =>
      rw [secretUrl] at parsed
      cases parsed
  | ok privateUrl =>
      cases publicUrl : env.parseUrl ("file://" ++ publicKeyPath ws key) with
      | error reason =>
          rw [secretUrl, publicUrl] at parsed
          cases parsed
      | ok url =>
          rw [secretUrl, publicUrl] at parsed
          cases parsed
          constructor
          · rintro ⟨publicRef, privateRef, made, publicIs, privateIs, differ, wasPublic,
              wasPrivate, _, stored⟩
            have secretStored := congrFun stored (.file (secretKeyPath ws key))
            have publicStored := congrFun stored (.file (publicKeyPath ws key))
            simp only [withKeyFiles, Function.update_self,
              Function.update_of_ne apart.symm] at secretStored publicStored
            constructor
            · rcases eq_of_update absentSecret secretStored.symm with
                ⟨isPrivate, _⟩ | ⟨_, material⟩
              · rw [← isPrivate] at privateIs
                rcases filePath privateIs with ⟨ending, same⟩
                exact ⟨ending, secretUrl.trans (congrArg Except.ok same)⟩
              · cases material
            · rcases eq_of_update absentPublic publicStored.symm with
                ⟨_, material⟩ | ⟨isPublic, _⟩
              · cases material
              · rw [← isPublic] at publicIs
                rcases filePath publicIs with ⟨ending, same⟩
                exact ⟨ending, publicUrl.trans (congrArg Except.ok same)⟩
          · rintro ⟨⟨secretEnding, secretParsed⟩, publicEnding, publicParsed⟩
            have privateIs : privateUrl = .file (secretKeyPath ws key) secretEnding :=
              Except.ok.inj (secretUrl.symm.trans secretParsed)
            have publicIs : url = .file (publicKeyPath ws key) publicEnding :=
              Except.ok.inj (publicUrl.symm.trans publicParsed)
            refine ⟨_, _, key, congrArg Url.keyRef publicIs, congrArg Url.keyRef privateIs,
              apart, absentPublic, absentSecret, rfl, ?_⟩
            exact Function.update_comm apart.symm _ _ _

theorem newKeyFiles_iff {key : Dnskey} {calls : Nat}
    (new : tagInUse ws.state.keyset key.keyTag = false) :
    FreshOrNothing ws (exec (newKeyFiles env key) { ws with calls }) ↔
      ¬ (CreatesSecret env ws key calls ∧
        ¬ (WritesFiles env ws key calls ∧ FileUrls env ws key)) := by
  by_cases created : CreatesSecret env ws key calls
  · have absent := created.2
    rcases @newKeyFiles_of_created env { ws with calls } key created with
      ⟨writes, ⟨keys, parsed, run⟩ | ⟨unparsed, reason, run⟩⟩ | ⟨fails, reason, final, run, left⟩
    · have writes : WritesFiles env ws key calls := ⟨writes.1, writes.2, writes.3, writes.4⟩
      have pair : FreshOrNothing ws (.ok keys, withKeyFiles { ws with calls } key) ↔
          FileUrls env ws key := by
        rw [← onlyNewPair_iff absent writes.absent parsed]
        constructor
        · exact fun fresh => fresh.2
        · intro only
          have tag : keys.keyTag = key.keyTag := parsedKeys_keyTag parsed
          refine ⟨?_, only⟩
          rw [tag]
          exact new
      rw [run, pair]
      simp [created, writes]
    · have writes : WritesFiles env ws key calls := ⟨writes.1, writes.2, writes.3, writes.4⟩
      have strays : ¬ FreshOrNothing ws
          (.error (.error reason), withKeyFiles { ws with calls } key) := by
        intro same
        have same : (withKeyFiles ws key).keyStore = ws.keyStore := same
        have gone := congrFun same (.file (publicKeyPath ws key))
        rw [writes.absent] at gone
        simp [withKeyFiles] at gone
      have urls : ¬ FileUrls env ws key := by
        intro urls
        rcases urls.parsedKeys with ⟨keys, parsed⟩
        exact unparsed keys parsed
      rw [run]
      simp [created, strays, urls]
    · rw [run]
      constructor
      · intro same
        have same : final.keyStore = ws.keyStore := same
        rw [same] at left
        exact absurd absent left
      · intro clean
        have writes := fails ∘ fun fine : WritesFiles env ws key calls =>
          ⟨fine.1, fine.2, fine.3, fine.4⟩
        exact absurd ⟨created, fun fine => writes fine.1⟩ clean
  · obtain ⟨reason, run⟩ := @newKeyFiles_of_not_created env { ws with calls } key created
    rw [run]
    constructor
    · intro _ leaves
      exact created leaves.1
    · intro _
      rfl

/-- In software. -/
theorem newKeys_files_iff (fits : ws.config.algorithm.bitsFit = true)
    (software : ws.state.kmip.defaultServerId = none) :
    FreshOrNothing ws (exec (newKeys env makeKsk) ws) ↔
      ¬ LeavesFile env ws ws.config.algorithm.generateParams (flagsOf makeKsk) := by
  rw [exec_newKeys_files fits software, exec_bind, exec_perform]
  rcases @exec_generateUnique env ws.state.keyset ws.config.algorithm.generateParams
      (flagsOf makeKsk) maxKeyTagTries ws.calls with ⟨key, after, first, run⟩ | ⟨none, reason, final, run⟩
  · rw [run]
    dsimp only
    have alone : LeavesFile env ws ws.config.algorithm.generateParams (flagsOf makeKsk) ↔
        CreatesSecret env ws key after ∧
          ¬ (WritesFiles env ws key after ∧ FileUrls env ws key) := by
      constructor
      · rintro ⟨other, later, found, leaves⟩
        obtain ⟨rfl, rfl⟩ := first.unique found
        exact leaves
      · exact fun leaves => ⟨key, after, first, leaves⟩
    rw [alone]
    exact newKeyFiles_iff first.new
  · rw [run]
    constructor
    · rintro _ ⟨key, after, first, _⟩
      exact none ⟨key, after, first⟩
    · intro _
      rfl

/-- The keys of a pair in an HSM. -/
def KmipKeyPair.newKeys (pair : KmipKeyPair) : NewKeys where
  publicUrl := pair.publicKeyUrl
  privateUrl := pair.privateKeyUrl
  algorithm := pair.dnskey.algorithm
  keyTag := pair.dnskey.keyTag

/-- The two keys of a pair are the only new ones. -/
theorem onlyNewPair_withPair {pair : KmipKeyPair} {publicRef privateRef : KeyRef}
    {final : WorkSpace} (absent : ∀ ref, pair.Names ref → ws.keyStore ref = none)
    (publicUrl : pair.publicKeyUrl.keyRef = some publicRef)
    (privateUrl : pair.privateKeyUrl.keyRef = some privateRef)
    (apart : publicRef ≠ privateRef)
    (stored : final.keyStore = (withPair ws pair publicRef privateRef).keyStore) :
    OnlyNewPair ws pair.newKeys final :=
  ⟨publicRef, privateRef, pair.dnskey, publicUrl, privateUrl, apart,
    absent publicRef (Or.inl publicUrl), absent privateRef (Or.inr privateUrl), rfl, stored⟩

/-- What has come into the key store is named by the keys that are returned. -/
theorem OnlyNewPair.named {keys : NewKeys} {final : WorkSpace} {ref : KeyRef}
    (only : OnlyNewPair ws keys final) (absent : ws.keyStore ref = none)
    (present : final.keyStore ref ≠ none) :
    keys.publicUrl.keyRef = some ref ∨ keys.privateUrl.keyRef = some ref := by
  obtain ⟨publicRef, privateRef, key, publicUrl, privateUrl, _, _, _, _, stored⟩ := only
  rw [stored] at present
  by_cases isPrivate : ref = privateRef
  · exact Or.inr (isPrivate ▸ privateUrl)
  · by_cases isPublic : ref = publicRef
    · exact Or.inl (isPublic ▸ publicUrl)
    · rw [Function.update_of_ne isPrivate, Function.update_of_ne isPublic] at present
      exact absurd absent present

/-- The first round decides whether the HSM is left with strays. -/
theorem generateUniquePair_iff {serverId : String} {server : KmipServerConnectionConfig}
    {params : GenerateParams} {flags calls : Nat} {final : WorkSpace}
    {outcome : Except Fault KmipKeyPair} (retries : Nat) (laws : HsmLaws env ws.keyStore)
    (known : ws.state.kmip.servers.lookup serverId = some server)
    (run : exec (generateUniquePair env serverId params flags (retries + 1))
      { ws with calls } = (outcome, final)) :
    FreshOrNothing ws (outcome.map KmipKeyPair.newKeys, final) ↔
      ¬ ∃ pair, env.kmipGenerate calls params flags = .ok pair ∧
        (tagInUse ws.state.keyset pair.dnskey.keyTag = true ∨
          RelabelFails env server (calls + 1)) := by
  have knownThen : ({ ws with calls } : WorkSpace).state.kmip.servers.lookup serverId =
      some server := known
  rw [exec_generateUniquePair_succ retries knownThen] at run
  cases generated : env.kmipGenerate calls params flags with
  | error reason =>
      rw [generated] at run
      cases run
      constructor
      · rintro _ ⟨pair, impossible, _⟩
        cases impossible
      · intro _
        rfl
  | ok pair =>
      rw [generated] at run
      obtain ⟨publicRef, privateRef, publicUrl, privateUrl, apart⟩ :=
        laws.identified _ _ _ _ generated
      have absent := fun ref => laws.new _ _ _ _ ref generated
      have absentPublic := absent publicRef (Or.inl publicUrl)
      dsimp only at run
      rw [exec_bind_of_ok (exec_storePair publicUrl privateUrl)] at run
      have onlyPair : (∃ other, Except.ok pair = (Except.ok other : Except String KmipKeyPair) ∧
            (tagInUse ws.state.keyset other.dnskey.keyTag = true ∨
              RelabelFails env server (calls + 1))) ↔
          tagInUse ws.state.keyset pair.dnskey.keyTag = true ∨
            RelabelFails env server (calls + 1) := by
        simp
      rw [onlyPair]
      cases inUse : tagInUse ws.state.keyset pair.dnskey.keyTag with
      | true =>
          rw [inUse, if_pos rfl] at run
          simp only [true_or, not_true_eq_false, iff_false]
          obtain ⟨_, source, adds⟩ := generateUniquePair_adds laws retries
            (withPair { ws with calls := calls + 1 } pair publicRef privateRef) known run
          have left : final.keyStore publicRef ≠ none := by
            rw [adds publicRef fun call other later from_ names =>
              laws.apart calls call params flags pair other publicRef
                (Nat.ne_of_lt later) generated from_ (Or.inl publicUrl) names]
            simp [withPair, Function.update_of_ne apart]
          cases outcome with
          | error fault =>
              intro same
              have same : final.keyStore = ws.keyStore := same
              rw [same] at left
              exact left absentPublic
          | ok found =>
              rintro ⟨_, only⟩
              obtain ⟨call, later, from_⟩ := source found rfl
              exact laws.apart calls call params flags pair found publicRef
                (Nat.ne_of_lt later) generated from_ (Or.inl publicUrl)
                (only.named absentPublic left)
      | false =>
          rw [inUse, if_neg Bool.false_ne_true] at run
          simp only [Bool.false_eq_true, false_or]
          rcases @exec_relabelPair env
              (withPair { ws with calls := calls + 1 } pair publicRef privateRef)
              serverId server with
            ⟨fine, after, relabel, kept⟩ | ⟨fails, reason, after, relabel, kept⟩
          · rw [exec_bind_of_ok relabel] at run
            cases run
            constructor
            · exact fun _ => fine
            · intro _
              refine ⟨inUse, ?_⟩
              exact onlyNewPair_withPair absent publicUrl privateUrl apart kept
          · rw [exec_bind_of_error relabel] at run
            cases run
            constructor
            · intro same
              have same : final.keyStore = ws.keyStore := same
              rw [kept] at same
              have gone := congrFun same publicRef
              rw [absentPublic] at gone
              simp [withPair, Function.update_of_ne apart] at gone
            · exact fun works => absurd fails works

/-- In an HSM. -/
theorem newKeys_hsm_iff {serverId : String} (laws : HsmLaws env ws.keyStore)
    (fits : ws.config.algorithm.bitsFit = true)
    (hsm : ws.state.kmip.defaultServerId = some serverId) :
    FreshOrNothing ws (exec (newKeys env makeKsk) ws) ↔
      ¬ LeavesPair env ws ws.config.algorithm.generateParams (flagsOf makeKsk) serverId := by
  rw [exec_newKeys_hsm fits hsm, exec_bind]
  rcases exec_getPool env ws serverId with
    ⟨server, known, works, pool⟩ | ⟨refused, reason, final, store, pool⟩
  · rw [pool]
    dsimp only
    rcases run : exec (generateUniquePair env serverId ws.config.algorithm.generateParams
        (flagsOf makeKsk) maxKeyTagTries) { ws with calls := ws.calls + 1 } with
      ⟨outcome, final⟩
    have returned : exec (generateUniquePair env serverId
          ws.config.algorithm.generateParams (flagsOf makeKsk) maxKeyTagTries >>= fun pair =>
            return pair.newKeys) { ws with calls := ws.calls + 1 } =
        (outcome.map KmipKeyPair.newKeys, final) := by
      rw [exec_bind, run]
      cases outcome <;> rfl
    have same : LeavesPair env ws ws.config.algorithm.generateParams (flagsOf makeKsk)
          serverId ↔
        ∃ pair, env.kmipGenerate (ws.calls + 1) ws.config.algorithm.generateParams
            (flagsOf makeKsk) = .ok pair ∧
          (tagInUse ws.state.keyset pair.dnskey.keyTag = true ∨
            RelabelFails env server (ws.calls + 2)) := by
      constructor
      · rintro ⟨other, pair, otherKnown, _, leaves⟩
        rw [known] at otherKnown
        cases otherKnown
        exact ⟨pair, leaves⟩
      · exact fun ⟨pair, leaves⟩ => ⟨server, pair, known, works, leaves⟩
    rw [same]
    have iff := generateUniquePair_iff 9 laws known run
    rw [← returned] at iff
    exact iff
  · rw [pool]
    constructor
    · rintro _ ⟨server, pair, known, works, _⟩
      exact refused ⟨server, known, works⟩
    · intro _
      exact store

end NewKeys

/-- Generation yields a fresh key and leaves no strays exactly if no key material stays
behind a collision in an HSM or a failure after something has been created. -/
theorem newKeys_yieldsFreshKey_iff (env : Environment) (makeKsk : Bool) (ws : WorkSpace)
    (laws : HsmLaws env ws.keyStore) :
    YieldsFreshKey env makeKsk ws ↔ ¬ LeavesStray env makeKsk ws := by
  have sound : YieldsFreshKey env makeKsk ws ↔
      FreshOrNothing ws (exec (newKeys env makeKsk) ws) :=
    ⟨YieldsFreshKey.freshOrNothing, fun fresh => ⟨newKeys_bounded env makeKsk ws, fresh⟩⟩
  rw [sound]
  unfold LeavesStray
  cases fits : ws.config.algorithm.bitsFit with
  | false =>
      rw [exec_newKeys_unfit fits]
      simp [FreshOrNothing]
  | true =>
      cases asked : ws.state.kmip.defaultServerId with
      | none => simpa using newKeys_files_iff fits asked
      | some serverId => simpa using newKeys_hsm_iff laws fits asked

namespace Reference

/-- A server as `add-server` sets it up by default. -/
def hsmServer : KmipServerConnectionConfig :=
  ⟨"hsm.example", 5696, ⟨true, none, none⟩, none, none,
    ⟨fromSecs 3, fromSecs 30, fromSecs 3, 8192⟩, ⟨32, true, ""⟩⟩

/-- The initialised zone with an HSM that new keys are generated in. -/
def hsmDefault : WorkSpace :=
  { (initialised false).load with
    state.kmip := { servers := [("hsm", hsmServer)], defaultServerId := some "hsm" } }

/-- An HSM that makes one key pair. -/
def onePair : Environment :=
  { environment 0 0 with
    kmipGenerate := fun call _ flags =>
      if call = 1 then
        .ok ⟨.kmip "hsm" "first_pub", .kmip "hsm" "first", ⟨flags, 13, 10, 10⟩⟩
      else
        .error "busy" }

/-- An HSM whose first pair has the key tag of the imported KSK. -/
def collidingPair : Environment :=
  { onePair with
    kmipGenerate := fun call params flags =>
      if call = 1 then
        .ok ⟨.kmip "hsm" "first_pub", .kmip "hsm" "first", ⟨flags, 13, 10, importedKsk.keyTag⟩⟩
      else if call = 2 then
        .ok ⟨.kmip "hsm" "second_pub", .kmip "hsm" "second", ⟨flags, 13, 11, 11⟩⟩
      else
        onePair.kmipGenerate call params flags }

theorem onePair_laws : HsmLaws onePair hsmDefault.keyStore where
  identified := by
    intro call params flags pair generated
    have first : call = 1 := by
      by_contra other
      simp [onePair, other] at generated
    rw [first] at generated
    cases generated
    exact ⟨_, _, rfl, rfl, by decide⟩
  new := by
    intro call params flags pair ref generated names
    have first : call = 1 := by
      by_contra other
      simp [onePair, other] at generated
    rw [first] at generated
    cases generated
    rcases names with publicRef | privateRef
    · cases publicRef
      decide +kernel
    · cases privateRef
      decide +kernel
  apart := by
    intro call other params flags pair otherPair ref differ generated otherGenerated
    have first : call = 1 := by
      by_contra other
      simp [onePair, other] at generated
    have second : other = 1 := by
      by_contra other
      simp [onePair, other] at otherGenerated
    exact absurd (first.trans second.symm) differ

end Reference

theorem newKeys_yieldsFreshKey_onePair :
    YieldsFreshKey Reference.onePair true Reference.hsmDefault := by
  apply (newKeys_yieldsFreshKey_iff _ _ _ Reference.onePair_laws).mpr
  rintro ⟨_, server, pair, known, _, generated, strays⟩
  cases generated
  rcases strays with inUse | ⟨_, fails⟩
  · revert inUse
    decide +kernel
  · simp [Reference.onePair, Reference.environment] at fails

/-- The pair that is discarded for its key tag stays in the HSM. -/
theorem newKeys_collidingPair :
    ¬ YieldsFreshKey Reference.collidingPair true Reference.hsmDefault := by
  intro yields
  have ended := yields.freshOrNothing
  rcases run : exec (newKeys Reference.collidingPair true) Reference.hsmDefault with
    ⟨outcome, final⟩
  rw [run] at ended
  have found : (exec (newKeys Reference.collidingPair true)
      Reference.hsmDefault).1.toOption.map (fun keys => (keys.publicUrl, keys.privateUrl)) =
        some (.kmip "hsm" "second_pub", .kmip "hsm" "second") := by decide +kernel
  have left : ((exec (newKeys Reference.collidingPair true)
      Reference.hsmDefault).2.keyStore (.hsm "hsm" "first")).isSome = true := by
    decide +kernel
  have absent : Reference.hsmDefault.keyStore (.hsm "hsm" "first") = none := by
    decide +kernel
  rw [run] at found left
  cases outcome with
  | error fault => cases found
  | ok keys =>
      have present : final.keyStore (.hsm "hsm" "first") ≠ none := by
        intro gone
        simp [gone] at left
      have urls : keys.publicUrl = .kmip "hsm" "second_pub" ∧
          keys.privateUrl = .kmip "hsm" "second" := by
        simpa [Except.toOption] using found
      have named := ended.2.named absent present
      rw [urls.1, urls.2] at named
      simp [Url.keyRef] at named

end Dnst.Keyset
