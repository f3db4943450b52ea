import Mathlib.Data.List.Nodup
import Dnst.Keyset.RollResolution

/-! # Rolls that cron starts by itself

The phases of `cron` that start rolls decide from the expiry of keys and the rolls in
progress. The start of a roll has checks of its own, and the key set may refuse the roll
after new keys have been made. A decision that looks at everything these look at never
leads to a refusal.
-/

namespace Dnst.Keyset

open Effect

/-! ## The phases that start rolls -/

/-- The parameters of one call of `auto_start`. -/
structure StartPhase where
  validity : Option Duration
  auto : AutoConfig
  conflictingRoll : RollType → Bool
  matchKeytype : KeyType → Option KeyState
  variant : RollVariant

def StartPhase.run (env : Environment) (phase : StartPhase) : Run Unit :=
  autoStart env phase.validity phase.auto phase.conflictingRoll phase.matchKeytype
    (phase.variant.start env)

def fullVariant (needAlgorithmRoll : Bool) : RollVariant :=
  if needAlgorithmRoll then .algorithm else .csk

theorem start_fullVariant (env : Environment) (need : Bool) :
    (fullVariant need).start env = startFull env need := by
  cases need <;> rfl

def startPhases (config : KeySetConfig) (need : Bool) : List StartPhase :=
  (if config.useCsk || need then
    [⟨config.kskValidity, autoFull config need, anyRoll, matchKsk, fullVariant need⟩,
      ⟨config.zskValidity, autoFull config need, anyRoll, matchZsk, fullVariant need⟩]
  else
    [⟨config.kskValidity, config.autoKsk, conflictsWithKsk, matchKsk, .ksk⟩,
      ⟨config.zskValidity, config.autoZsk, conflictsWithZsk, matchZsk, .zsk⟩]) ++
  [⟨config.cskValidity, autoFull config need, anyRoll, matchCsk, fullVariant need⟩]

def runPhases (env : Environment) : List StartPhase → Run Unit
  | [] => return ()
  | phase :: phases => do
      phase.run env
      runPhases env phases

theorem autoStartPhase_eq (env : Environment) :
    autoStartPhase env = (do
      let need ← algorithmRollNeeded
      let ws ← get
      runPhases env (startPhases ws.config need)) := by
  unfold autoStartPhase
  congr 1
  funext need
  congr 1
  funext ws
  cases full : ws.config.useCsk || need with
  | true => simp [startPhases, full, runPhases, StartPhase.run, start_fullVariant]
  | false =>
      have phases : startPhases ws.config need =
          [⟨ws.config.kskValidity, ws.config.autoKsk, conflictsWithKsk, matchKsk, .ksk⟩,
            ⟨ws.config.zskValidity, ws.config.autoZsk, conflictsWithZsk, matchZsk, .zsk⟩,
            ⟨ws.config.cskValidity, autoFull ws.config need, anyRoll, matchCsk,
              fullVariant need⟩] := by
        simp [startPhases, full]
      rw [phases, ← start_fullVariant]
      simp only [full, Bool.false_eq_true, if_false, runPhases, StartPhase.run, bind_pure_unit]
      rfl

/-! ## Decisions -/

/-- The time that keyset works with. -/
def WorkSpace.now (env : Environment) (ws : WorkSpace) : UnixTime :=
  ws.config.faketime.getD (env.clock ws.calls)

/-- The workspace after one more call. -/
def WorkSpace.ticked (ws : WorkSpace) : WorkSpace := { ws with calls := ws.calls + 1 }

theorem exec_now (env : Environment) (ws : WorkSpace) :
    exec (perform (faketimeOrNow env ws.config)) ws = (.ok (ws.now env), ws.ticked) := rfl

/-- Whether the oldest key that takes part has expired. -/
def StartPhase.expired (env : Environment) (phase : StartPhase) (ws : WorkSpace)
    (validity : Duration) : Bool :=
  (earliestExpiry ws.state.keyset phase.matchKeytype validity).any (· < ws.now env)

/-- Whether `auto_start` decides to start a roll. -/
def StartPhase.decides (env : Environment) (phase : StartPhase) (ws : WorkSpace) : Bool :=
  phase.validity.any fun validity =>
    phase.auto.start && !rollInProgress ws.state.keyset phase.conflictingRoll &&
      phase.expired env ws validity

theorem exec_startPhase (env : Environment) (phase : StartPhase) (ws : WorkSpace) :
    exec (phase.run env) ws =
      if phase.decides env ws then
        exec (do
          let _ ← phase.variant.start env
          markStateChanged) ws.ticked
      else
        (.ok ⟨⟩, ws.ticked) := by
  unfold StartPhase.run autoStart StartPhase.decides StartPhase.expired
  rw [exec_bind_of_ok (exec_get ws), exec_bind_of_ok (exec_now env ws)]
  cases phase.validity with
  | none => rfl
  | some validity =>
      cases enabled : phase.auto.start &&
          !rollInProgress ws.state.keyset phase.conflictingRoll with
      | false => simp
      | true =>
          cases earliest :
              earliestExpiry ws.state.keyset phase.matchKeytype validity with
          | none => simp [earliest]
          | some next =>
              by_cases due : next < ws.now env
              · simp [earliest, due]
              · simp [earliest, due]

/-! ## What the start of a roll checks -/

/-- A roll of one type of keys. -/
def RollVariant.single : RollVariant → Bool
  | .ksk => true
  | .zsk => true
  | .csk => false
  | .algorithm => false

/-- The keys that a roll replaces. -/
def RollVariant.takesPart : RollVariant → KeyType → Bool
  | .ksk => activeKsk
  | .zsk => activeZsk
  | .csk => activeAny
  | .algorithm => activeAny

/-- There is a CSK in use. -/
def holdsCsk (keyset : KeySet) : Bool := keyset.keys.any fun (_, key) => activeCsk key.keytype

/-- The URL of a new key and those of its key material. -/
def NewKeys.urls (keys : NewKeys) : List Url × List Url :=
  ([keys.publicUrl], [keys.privateUrl, keys.publicUrl])

/-- Create the keys that a roll brings in. -/
def RollVariant.newKeys (env : Environment) (now : UnixTime) :
    RollVariant → Run (List Url × List Url)
  | .ksk => do
      let keys ← addNewKey env .ksk true now
      return keys.urls
  | .zsk => do
      let keys ← addNewKey env .zsk false now
      return keys.urls
  | .csk => newCskOrKskZsk env
  | .algorithm => newCskOrKskZsk env

/-- The message when the key set refuses the roll. -/
def RollVariant.refused (config : KeySetConfig) : RollVariant → String → String
  | .ksk => cannotStart config.kskRollType.roll
  | .zsk => cannotStart config.zskRollType.roll
  | .csk => cannotStart .cskRoll
  | .algorithm => fun reason => s!"cannot start roll: {reason}\n"

/-- What is left of a start after its own checks. -/
def RollVariant.bringIn (env : Environment) (variant : RollVariant) (known : WorkSpace)
    (now : UnixTime) : Run (List Action) := do
  let (new, created) ← variant.newKeys env now
  let roll := variant.rollVariantToRoll known.config
  let actions ← startRoll env roll (activeKeys known.state.keyset variant.takesPart) new
    created (variant.refused known.config)
  finishStart env roll actions

/-- The start of a roll is not refused by its own checks. -/
structure PassesChecks (variant : RollVariant) (ws : WorkSpace) : Prop where
  notEmpty : ws.state.keyset.keys.isEmpty = false
  useCsk : variant.single = true → ws.config.useCsk = false
  noCsk : variant.single = true → holdsCsk ws.state.keyset = false

section Start

variable {env : Environment} {variant : RollVariant} {ws : WorkSpace}

theorem exec_startSingleRoll (roll : RollType) (key : KeyVariant) (makeKsk : Bool)
    (takesPart : KeyType → Bool) (notEmpty : ws.state.keyset.keys.isEmpty = false)
    (useCsk : ws.config.useCsk = false) (noCsk : holdsCsk ws.state.keyset = false) :
    exec (startSingleRoll env roll key makeKsk takesPart) ws =
      exec (do
        let keys ← addNewKey env key makeKsk (ws.now env)
        let actions ← startRoll env roll (activeKeys ws.state.keyset takesPart)
          [keys.publicUrl] [keys.privateUrl, keys.publicUrl] (cannotStart roll)
        finishStart env roll actions) ws.ticked := by
  unfold startSingleRoll
  unfold holdsCsk at noCsk
  rw [exec_bind_of_ok (exec_get ws), exec_bind_of_ok (exec_now env ws)]
  simp only [notEmpty, useCsk, noCsk]
  rfl

theorem exec_startFullRoll (roll : RollType) (message : String → String)
    (notEmpty : ws.state.keyset.keys.isEmpty = false) :
    exec (startFullRoll env roll message) ws =
      exec (do
        let (new, created) ← newCskOrKskZsk env
        let actions ← startRoll env roll (activeKeys ws.state.keyset activeAny) new
          created message
        finishStart env roll actions) ws := by
  unfold startFullRoll
  rw [exec_bind_of_ok (exec_get ws)]
  simp only [notEmpty]
  rfl

/-- After its own checks, a start makes new keys and asks the key set. -/
theorem exec_start (passes : PassesChecks variant ws) :
    ∃ now calls, exec (variant.start env) ws =
      exec (variant.bringIn env ws now) { ws with calls } := by
  cases variant with
  | ksk =>
      refine ⟨ws.now env, ws.calls + 1, ?_⟩
      rw [RollVariant.start, startKskRoll, exec_bind_of_ok (exec_get ws),
        exec_startSingleRoll _ _ _ _ passes.notEmpty (passes.useCsk rfl) (passes.noCsk rfl)]
      simp only [RollVariant.bringIn, RollVariant.newKeys, bind_assoc, pure_bind]
      rfl
  | zsk =>
      refine ⟨ws.now env, ws.calls + 1, ?_⟩
      rw [RollVariant.start, startZskRoll, exec_bind_of_ok (exec_get ws),
        exec_startSingleRoll _ _ _ _ passes.notEmpty (passes.useCsk rfl) (passes.noCsk rfl)]
      simp only [RollVariant.bringIn, RollVariant.newKeys, bind_assoc, pure_bind]
      rfl
  | csk =>
      refine ⟨ws.now env, ws.calls, ?_⟩
      exact exec_startFullRoll _ _ passes.notEmpty
  | algorithm =>
      refine ⟨ws.now env, ws.calls, ?_⟩
      exact exec_startFullRoll _ _ passes.notEmpty

/-- A start that does not pass its checks fails and changes nothing. -/
theorem start_refused (refused : ¬PassesChecks variant ws) :
    ∃ fault calls, exec (variant.start env) ws = (.error fault, { ws with calls }) := by
  have single : ∀ roll key makeKsk takesPart,
      (ws.state.keyset.keys.isEmpty = true ∨ ws.config.useCsk = true ∨
        holdsCsk ws.state.keyset = true) →
      ∃ fault calls, exec (startSingleRoll env roll key makeKsk takesPart) ws =
        (.error fault, { ws with calls }) := by
    intro roll key makeKsk takesPart fails
    unfold startSingleRoll
    unfold holdsCsk at fails
    rw [exec_bind_of_ok (exec_get ws), exec_bind_of_ok (exec_now env ws)]
    cases empty : ws.state.keyset.keys.isEmpty with
    | true => exact ⟨_, _, rfl⟩
    | false =>
        cases useCsk : ws.config.useCsk with
        | true => exact ⟨_, _, rfl⟩
        | false =>
            simp only [empty, useCsk, Bool.false_eq_true, false_or] at fails
            simp only [fails]
            exact ⟨_, _, rfl⟩
  have full : ∀ roll message, ws.state.keyset.keys.isEmpty = true →
      ∃ fault calls, exec (startFullRoll env roll message) ws =
        (.error fault, { ws with calls }) := by
    intro roll message empty
    unfold startFullRoll
    rw [exec_bind_of_ok (exec_get ws)]
    simp only [empty]
    exact ⟨_, _, rfl⟩
  have fails : ws.state.keyset.keys.isEmpty = true ∨
      variant.single = true ∧
        (ws.config.useCsk = true ∨ holdsCsk ws.state.keyset = true) := by
    apply Classical.byContradiction
    intro passes
    apply refused
    constructor
    · grind
    · grind
    · grind
  cases variant with
  | ksk =>
      rw [RollVariant.start, startKskRoll, exec_bind_of_ok (exec_get ws)]
      exact single _ _ _ _ (fails.imp id And.right)
  | zsk =>
      rw [RollVariant.start, startZskRoll, exec_bind_of_ok (exec_get ws)]
      exact single _ _ _ _ (fails.imp id And.right)
  | csk => exact full _ _ (fails.resolve_right fun other => Bool.noConfusion other.1)
  | algorithm => exact full _ _ (fails.resolve_right fun other => Bool.noConfusion other.1)

end Start

/-- The start of a roll passes its own checks, and the key set accepts the roll with
whatever keys it has made. -/
structure Accepted (env : Environment) (variant : RollVariant) (ws : WorkSpace) : Prop
    extends PassesChecks variant ws where
  keySet : ∀ now calls new created made clock,
    exec (variant.newKeys env now) { ws with calls } = (.ok (new, created), made) →
    ∃ result, env.keySet.startRoll clock (variant.rollVariantToRoll ws.config)
      (activeKeys ws.state.keyset variant.takesPart) (new.map env.showUrl)
      made.state.keyset = .ok result

/-- A start that is accepted only fails when new keys cannot be made or when the actions
of the new roll fail. -/
theorem Accepted.start_error {env : Environment} {variant : RollVariant}
    {ws final : WorkSpace} {fault : Fault} (accepted : Accepted env variant ws)
    (run : exec (variant.start env) ws = (.error fault, final)) :
    (∃ now calls, exec (variant.newKeys env now) { ws with calls } = (.error fault, final)) ∨
      ∃ roll actions begun, exec (finishStart env roll actions) begun =
        (.error fault, final) := by
  rcases @exec_start env _ _ accepted.toPassesChecks with ⟨now, calls, same⟩
  rw [same] at run
  unfold RollVariant.bringIn at run
  rcases making : exec (variant.newKeys env now) { ws with calls } with
    ⟨reason | ⟨new, created⟩, made⟩
  · rw [exec_bind_of_error making] at run
    cases run
    exact Or.inl ⟨now, calls, making⟩
  · right
    rw [exec_bind_of_ok making] at run
    rcases accepted.keySet _ _ _ _ _ (env.clock made.calls) making with
      ⟨⟨actions, keyset⟩, starts⟩
    have started : exec (startRoll env (variant.rollVariantToRoll ws.config)
        (activeKeys ws.state.keyset variant.takesPart) new created
        (variant.refused ws.config)) made =
        (.ok actions, { made.ticked with state.keyset := keyset }) := by
      have clock : exec (perform (wallClock env)) made =
          (.ok (env.clock made.calls), made.ticked) := rfl
      unfold startRoll
      rw [exec_bind_of_ok clock, exec_bind_of_ok (exec_get _)]
      have same : made.ticked.state.keyset = made.state.keyset := rfl
      simp only [same, starts]
      rfl
    rw [exec_bind_of_ok started] at run
    exact ⟨_, actions, _, run⟩

/-! ## What the key set refuses -/

/-- Rolls that can be in progress at the same time: those of KSKs and those of ZSKs. -/
def runsBeside : RollType → RollType → Bool
  | .kskRoll, other => other == .zskRoll || other == .zskDoubleSignatureRoll
  | .kskDoubleDsRoll, other => other == .zskRoll || other == .zskDoubleSignatureRoll
  | .zskRoll, other => other == .kskRoll || other == .kskDoubleDsRoll
  | .zskDoubleSignatureRoll, other => other == .kskRoll || other == .kskDoubleDsRoll
  | .cskRoll, _ => false
  | .algorithmRoll, _ => false

/-- The algorithms of the keys with the given references. -/
def algorithmsOf (keyset : KeySet) (names : List String) : List SecurityAlgorithm :=
  (keyset.keys.filter fun (name, _) => names.contains name).map fun (_, key) => key.algorithm

def SameAlgorithms (keyset : KeySet) (old new : List String) : Prop :=
  ∀ algorithm, algorithm ∈ algorithmsOf keyset old ↔ algorithm ∈ algorithmsOf keyset new

/-- No two keys are listed under one reference. -/
def DistinctKeys (keyset : KeySet) : Prop := (keyset.keys.map Prod.fst).Nodup

/-- What the start of rolls relies on. A key set refuses a roll only for a conflicting
roll in progress or, apart from algorithm rolls, for differing algorithm sets. -/
structure StartLaws (platform : Platform) : Prop extends RollStateLaws platform where
  refuses : ∀ now roll old new keyset reason,
    platform.keySet.startRoll now roll old new keyset = .error reason →
    (∃ other, (keyset.rollstates other).isSome ∧ runsBeside roll other = false) ∨
      (roll ≠ .algorithmRoll ∧ ¬SameAlgorithms keyset old new)
  /-- No key changes its algorithm or becomes active again. -/
  started : ∀ now roll old new keyset actions next,
    platform.keySet.startRoll now roll old new keyset = .ok (actions, next) →
    ∀ entry ∈ next.keys, activeAny entry.2.keytype = true →
      ∃ before ∈ keyset.keys, activeAny before.2.keytype = true ∧
        before.2.algorithm = entry.2.algorithm
  adds : ∀ variant pubref privref algorithm keyTag now keyset next,
    platform.keySet.addKey variant pubref privref algorithm keyTag now keyset = .ok next →
    ∃ key : Key, key.algorithm = algorithm ∧
      ∀ entry, entry ∈ next.keys ↔ entry = (pubref, key) ∨ entry ∈ keyset.keys
  distinct : ∀ env : Environment, env.toPlatform = platform → ∀ started keyset next,
    KeySetChange env started keyset next → DistinctKeys keyset → DistinctKeys next

/-- New keys have the algorithm that is asked for. -/
structure GeneratesAsAsked (env : Environment) : Prop where
  software : ∀ call params flags key, env.generate call params flags = .ok key →
    key.algorithm = params.algorithm
  hsm : ∀ call params flags pair, env.kmipGenerate call params flags = .ok pair →
    pair.dnskey.algorithm = params.algorithm

theorem distinctKeys_lasting {platform : Platform} (laws : StartLaws platform)
    (env : Environment) (same : env.toPlatform = platform) :
    Lasting env fun _ state => DistinctKeys state.keyset := by
  refine ⟨?_, ?_, fun _ _ holds => holds⟩
  · intro ws next holds change
    cases change with
    | keySet changes => exact laws.distinct env same none _ _ changes holds
    | _ => exact holds
  · intro config state roll keyset holds _ changes
    exact laws.distinct env same (some roll) _ _ changes holds

theorem reachable_distinctKeys {platform : Platform} (laws : StartLaws platform)
    {system : System} (reachable : Reachable platform system) :
    DistinctKeys system.state.keyset := by
  refine reachable.files (distinctKeys_lasting laws) (fun _ _ _ => List.nodup_nil) ?_
  rintro env command system _ subcommand rfl ws calls config final _ _ state _ holds
  exact holds

/-- Keys that are listed with one algorithm have this algorithm only. -/
theorem mem_algorithmsOf {keyset : KeySet} {algorithm : SecurityAlgorithm}
    {names : List String} (distinct : DistinctKeys keyset) (nonempty : names ≠ [])
    (named : ∀ name ∈ names, ∃ entry ∈ keyset.keys,
      entry.1 = name ∧ entry.2.algorithm = algorithm) (other : SecurityAlgorithm) :
    other ∈ algorithmsOf keyset names ↔ other = algorithm := by
  constructor
  · intro member
    rcases List.mem_map.mp member with ⟨entry, kept, same⟩
    rcases List.mem_filter.mp kept with ⟨listed, among⟩
    have inNames : entry.1 ∈ names := by simpa using among
    rcases named entry.1 inNames with ⟨found, present, sameName, hasAlgorithm⟩
    have one : found = entry :=
      List.inj_on_of_nodup_map distinct present listed sameName
    rw [← same, ← hasAlgorithm, one]
  · rintro rfl
    rcases List.exists_mem_of_ne_nil names nonempty with ⟨name, member⟩
    rcases named name member with ⟨entry, present, sameName, hasAlgorithm⟩
    rw [← hasAlgorithm]
    apply List.mem_map_of_mem (f := fun entry : String × Key => entry.2.algorithm)
    apply List.mem_filter.mpr
    refine ⟨present, ?_⟩
    simpa [sameName] using member

/-! ## New keys -/

/-- The algorithm that the configuration asks for. -/
def KeyParameters.securityAlgorithm : KeyParameters → SecurityAlgorithm
  | .rsaSha256 _ => 8
  | .rsaSha512 _ => 10
  | .ecdsaP256Sha256 => 13
  | .ecdsaP384Sha384 => 14
  | .ed25519 => 15
  | .ed448 => 16

theorem toGenerateParams_algorithm {State : Type} (parameters : KeyParameters) :
    Yields (fun params => params.algorithm = parameters.securityAlgorithm)
      (parameters.toGenerateParams : Effect State Fault GenerateParams) := by
  cases parameters with
  | rsaSha256 bits =>
      simp only [KeyParameters.toGenerateParams]
      split
      · exact yields_pure rfl
      · exact yields_throw _
  | rsaSha512 bits =>
      simp only [KeyParameters.toGenerateParams]
      split
      · exact yields_pure rfl
      · exact yields_throw _
  | ecdsaP256Sha256 => exact yields_pure rfl
  | ecdsaP384Sha384 => exact yields_pure rfl
  | ed25519 => exact yields_pure rfl
  | ed448 => exact yields_pure rfl

section NewKeys

variable {env : Environment} (generates : GeneratesAsAsked env)

include generates

theorem generateUnique_algorithm (keyset : KeySet) (params : GenerateParams)
    (flags retries : Nat) :
    Yields (fun key => key.algorithm = params.algorithm)
      (generateUnique env keyset params flags retries) := by
  induction retries with
  | zero => exact yields_throw _
  | succ retries induction =>
      refine yields_next fun call => ?_
      refine yields_bind (yields_mapErr _ _) fun key generated => ?_
      split
      · exact induction
      · exact yields_pure (generates.software _ _ _ _ generated)

theorem generateUniquePair_algorithm (serverId : String) (params : GenerateParams)
    (flags retries : Nat) :
    Yields (fun pair => pair.dnskey.algorithm = params.algorithm)
      (generateUniquePair env serverId params flags retries) := by
  induction retries with
  | zero => exact yields_throw _
  | succ retries induction =>
      refine yields_next fun ws => ?_
      split
      · exact yields_throw _
      · refine yields_next fun call => ?_
        refine yields_bind (yields_mapErr _ _) fun pair generated => ?_
        refine yields_next fun _ => ?_
        split
        · exact induction
        · exact yields_next fun _ => yields_pure (generates.hsm _ _ _ _ generated)

/-- New key material is made with the configured algorithm; the key set is left alone. -/
theorem newKeys_ok {makeKsk : Bool} {ws final : WorkSpace} {keys : NewKeys}
    (run : exec (newKeys env makeKsk) ws = (.ok keys, final)) :
    keys.algorithm = ws.config.algorithm.securityAlgorithm ∧ final.config = ws.config ∧
      final.state.keyset = ws.state.keyset := by
  have depot : Depot env
      (fun state => state.config = ws.config ∧ state.state.keyset = ws.state.keyset)
      (fun _ _ => True) fun _ => True := {
    fails := fun _ _ _ _ => trivial
    calls := fun _ _ same => same
    relabeled := fun _ _ same => same
    absent := fun _ _ _ _ => trivial
    newFile := fun _ _ _ _ _ _ _ _ => trivial
    newPair := fun _ _ _ _ _ => ⟨fun _ _ => trivial, fun _ _ => trivial⟩
    keyStore := fun _ _ _ same _ => same }
  have kept := (newKeys_triple depot makeKsk).ok ⟨rfl, rfl⟩ run
  refine ⟨?_, kept.1⟩
  unfold newKeys at run
  rw [exec_bind_of_ok (exec_get ws)] at run
  refine Yields.ok (?_ : Yields (fun keys : NewKeys =>
    keys.algorithm = ws.config.algorithm.securityAlgorithm) _) run
  refine yields_bind (toGenerateParams_algorithm _) fun params asked => ?_
  cases ws.state.kmip.defaultServerId with
  | some serverId =>
      refine yields_next fun _ => ?_
      refine yields_bind (generateUniquePair_algorithm generates serverId params _ _)
        fun pair made => ?_
      exact yields_pure (made.trans asked)
  | none =>
      have generated : Yields (fun key => key.algorithm = params.algorithm)
          (perform (generateUnique env ws.state.keyset params
            (if makeKsk then 257 else 256) maxKeyTagTries)) :=
        yields_zoom (generateUnique_algorithm generates _ params _ _)
      refine yields_bind generated fun key made => ?_
      refine yields_next fun _ => yields_next fun _ => yields_next fun _ => yields_next fun _ =>
        yields_next fun _ => yields_next fun _ => yields_next fun _ => ?_
      exact yields_pure (made.trans asked)

end NewKeys

/-- Keys with the given algorithm have been added under the given references. -/
structure Added (algorithm : SecurityAlgorithm) (names : List String)
    (before after : KeySet) : Prop where
  distinct : DistinctKeys before → DistinctKeys after
  rolls : ∀ roll, (after.rollstates roll).isSome = (before.rollstates roll).isSome
  kept : ∀ entry ∈ before.keys, entry ∈ after.keys
  known : ∀ entry ∈ after.keys, entry ∈ before.keys ∨ entry.2.algorithm = algorithm
  named : ∀ name ∈ names, ∃ entry ∈ after.keys,
    entry.1 = name ∧ entry.2.algorithm = algorithm

theorem Added.trans {algorithm : SecurityAlgorithm} {one other : List String}
    {before middle after : KeySet} (first : Added algorithm one before middle)
    (second : Added algorithm other middle after) :
    Added algorithm (one ++ other) before after where
  distinct := fun holds => second.distinct (first.distinct holds)
  rolls := fun roll => (second.rolls roll).trans (first.rolls roll)
  kept := fun entry member => second.kept entry (first.kept entry member)
  known := by
    intro entry member
    rcases second.known entry member with earlier | same
    · exact first.known entry earlier
    · exact Or.inr same
  named := by
    intro name member
    rcases List.mem_append.mp member with inOne | inOther
    · rcases first.named name inOne with ⟨entry, present, found⟩
      exact ⟨entry, second.kept entry present, found⟩
    · exact second.named name inOther

section Adding

variable {platform : Platform} (laws : StartLaws platform)
variable {env : Environment} (same : env.toPlatform = platform)
variable (generates : GeneratesAsAsked env)

include laws same generates

theorem addNewKey_ok {key : KeyVariant} {makeKsk : Bool} {now : UnixTime}
    {ws final : WorkSpace} {keys : NewKeys}
    (run : exec (addNewKey env key makeKsk now) ws = (.ok keys, final)) :
    final.config = ws.config ∧
      Added ws.config.algorithm.securityAlgorithm [env.showUrl keys.publicUrl]
        ws.state.keyset final.state.keyset := by
  subst same
  unfold addNewKey at run
  rcases exec_bind_eq_ok.mp run with ⟨made, stored, making, rest⟩
  rcases newKeys_ok generates making with ⟨asked, config, keyset⟩
  have origin := (newKeys_origin env makeKsk).ok making
  rcases exec_bind_eq_ok.mp rest with ⟨_, added, adding, returns⟩
  cases returns
  unfold onKeySet at adding
  rw [exec_bind_of_ok (exec_get stored)] at adding
  cases outcome : env.keySet.addKey key (env.showUrl keys.publicUrl)
      (some (env.showUrl keys.privateUrl)) keys.algorithm keys.keyTag now
      stored.state.keyset with
  | error reason =>
      simp only [outcome] at adding
      cases adding
  | ok next =>
      simp only [outcome] at adding
      cases adding
      rw [keyset] at outcome
      have change : PlainChange env ws.state.keyset next := .addKey origin outcome
      rcases laws.adds _ _ _ _ _ _ _ _ outcome with ⟨entry, algorithm, members⟩
      refine ⟨config, ?_⟩
      constructor
      · exact laws.distinct env rfl none _ _ (.plain change)
      · exact laws.plain env rfl _ _ change
      · exact fun other member => (members other).mpr (Or.inr member)
      · intro other member
        rcases (members other).mp member with rfl | earlier
        · exact Or.inr (algorithm.trans asked)
        · exact Or.inl earlier
      · intro name member
        rw [List.mem_singleton] at member
        subst member
        exact ⟨_, (members _).mpr (Or.inl rfl), rfl, algorithm.trans asked⟩

theorem newCskOrKskZsk_ok {ws final : WorkSpace} {new created : List Url}
    (run : exec (newCskOrKskZsk env) ws = (.ok (new, created), final)) :
    new ≠ [] ∧ final.config = ws.config ∧
      Added ws.config.algorithm.securityAlgorithm (new.map env.showUrl)
        ws.state.keyset final.state.keyset := by
  unfold newCskOrKskZsk at run
  rw [exec_bind_of_ok (exec_get ws), exec_bind_of_ok (exec_now env ws)] at run
  cases useCsk : ws.config.useCsk with
  | true =>
      rw [if_pos useCsk] at run
      rcases exec_bind_eq_ok.mp run with ⟨csk, added, adding, returns⟩
      cases returns
      have cskAdded := addNewKey_ok laws same generates adding
      exact ⟨List.cons_ne_nil _ _, cskAdded⟩
  | false =>
      rw [if_neg (by simp [useCsk])] at run
      rcases exec_bind_eq_ok.mp run with ⟨ksk, first, addingKsk, rest⟩
      rcases exec_bind_eq_ok.mp rest with ⟨zsk, second, addingZsk, returns⟩
      cases returns
      rcases addNewKey_ok laws same generates addingKsk with ⟨kskConfig, kskAdded⟩
      rcases addNewKey_ok laws same generates addingZsk with ⟨zskConfig, zskAdded⟩
      rw [kskConfig] at zskAdded
      exact ⟨List.cons_ne_nil _ _, zskConfig.trans kskConfig, kskAdded.trans zskAdded⟩

theorem newKeysOfRoll_ok {variant : RollVariant} {now : UnixTime} {ws final : WorkSpace}
    {new created : List Url}
    (run : exec (variant.newKeys env now) ws = (.ok (new, created), final)) :
    new ≠ [] ∧ final.config = ws.config ∧
      Added ws.config.algorithm.securityAlgorithm (new.map env.showUrl)
        ws.state.keyset final.state.keyset := by
  have single : ∀ key makeKsk, exec (do
      let keys ← addNewKey env key makeKsk now
      return keys.urls) ws = (.ok (new, created), final) →
      new ≠ [] ∧ final.config = ws.config ∧
        Added ws.config.algorithm.securityAlgorithm (new.map env.showUrl)
          ws.state.keyset final.state.keyset := by
    intro key makeKsk run
    rcases exec_bind_eq_ok.mp run with ⟨keys, added, adding, returns⟩
    cases returns
    exact ⟨List.cons_ne_nil _ _, addNewKey_ok laws same generates adding⟩
  cases variant with
  | ksk => exact single _ _ run
  | zsk => exact single _ _ run
  | csk => exact newCskOrKskZsk_ok laws same generates run
  | algorithm => exact newCskOrKskZsk_ok laws same generates run

end Adding

/-! ## What the phases look at -/

/-- A phase looks at the rolls that the key set looks at and at keys that its roll
replaces. -/
structure StartPhase.Fits (config : KeySetConfig) (phase : StartPhase) : Prop where
  conflicts : ∀ other, phase.conflictingRoll other =
    !runsBeside (phase.variant.rollVariantToRoll config) other
  replaces : ∀ keytype state, phase.matchKeytype keytype = some state →
    state.stale = false → phase.variant.takesPart keytype = true
  useCsk : phase.variant.single = true → config.useCsk = false

theorem fullPhase_fits {config : KeySetConfig} {phase : StartPhase} (need : Bool)
    (full : phase.variant = fullVariant need) (any : phase.conflictingRoll = anyRoll)
    (replaces : ∀ keytype state, phase.matchKeytype keytype = some state →
      state.stale = false → activeAny keytype = true) :
    phase.Fits config where
  conflicts := by
    intro other
    rw [full, any]
    cases need <;> rfl
  replaces := by
    intro keytype state matched fresh
    rw [full]
    have takesPart : (fullVariant need).takesPart = activeAny := by cases need <;> rfl
    rw [takesPart]
    exact replaces keytype state matched fresh
  useCsk := by
    intro single
    rw [full] at single
    cases need <;> cases single

theorem matchKsk_active {keytype : KeyType} {state : KeyState}
    (matched : matchKsk keytype = some state) (fresh : state.stale = false) :
    activeKsk keytype = true ∧ activeAny keytype = true := by
  cases keytype <;> cases matched
  simp [activeKsk, activeAny, fresh]

theorem matchZsk_active {keytype : KeyType} {state : KeyState}
    (matched : matchZsk keytype = some state) (fresh : state.stale = false) :
    activeZsk keytype = true ∧ activeAny keytype = true := by
  cases keytype <;> cases matched
  simp [activeZsk, activeAny, fresh]

theorem matchCsk_active {keytype : KeyType} {state : KeyState}
    (matched : matchCsk keytype = some state) (fresh : state.stale = false) :
    activeAny keytype = true := by
  cases keytype <;> cases matched
  simp [activeAny, fresh]

theorem takesPart_active {variant : RollVariant} {keytype : KeyType}
    (takesPart : variant.takesPart keytype = true) : activeAny keytype = true := by
  cases variant with
  | ksk =>
      cases keytype with
      | ksk state => exact takesPart
      | _ => cases takesPart
  | zsk =>
      cases keytype with
      | zsk state => exact takesPart
      | _ => cases takesPart
  | csk => exact takesPart
  | algorithm => exact takesPart

theorem startPhases_fit {config : KeySetConfig} {need : Bool} {phase : StartPhase}
    (member : phase ∈ startPhases config need) :
    phase.Fits config ∧ (need = true → phase.variant = .algorithm) := by
  have last : phase = ⟨config.cskValidity, autoFull config need, anyRoll, matchCsk,
      fullVariant need⟩ → phase.Fits config ∧ (need = true → phase.variant = .algorithm) := by
    rintro rfl
    refine ⟨fullPhase_fits need rfl rfl fun _ _ matched => matchCsk_active matched, ?_⟩
    rintro rfl
    rfl
  cases full : config.useCsk || need with
  | true =>
      simp only [startPhases, full, if_true, List.cons_append, List.nil_append, List.mem_cons,
        List.not_mem_nil, or_false] at member
      rcases member with rfl | rfl | csk
      · refine ⟨fullPhase_fits need rfl rfl fun _ _ matched fresh =>
          (matchKsk_active matched fresh).2, ?_⟩
        rintro rfl
        rfl
      · refine ⟨fullPhase_fits need rfl rfl fun _ _ matched fresh =>
          (matchZsk_active matched fresh).2, ?_⟩
        rintro rfl
        rfl
      · exact last csk
  | false =>
      rcases Bool.or_eq_false_iff.mp full with ⟨useCsk, plain⟩
      simp only [startPhases, full, Bool.false_eq_true, if_false, List.cons_append,
        List.nil_append, List.mem_cons, List.not_mem_nil, or_false] at member
      rcases member with rfl | rfl | csk
      · refine ⟨⟨?_, ?_, fun _ => useCsk⟩, fun needed => ?_⟩
        · intro other
          simp only [RollVariant.rollVariantToRoll]
          cases config.kskRollType <;> cases other <;> rfl
        · exact fun _ _ matched fresh => (matchKsk_active matched fresh).1
        · rw [needed] at plain
          cases plain
      · refine ⟨⟨?_, ?_, fun _ => useCsk⟩, fun needed => ?_⟩
        · intro other
          simp only [RollVariant.rollVariantToRoll]
          cases config.zskRollType <;> cases other <;> rfl
        · exact fun _ _ matched fresh => (matchZsk_active matched fresh).1
        · rw [needed] at plain
          cases plain
      · exact last csk

theorem mem_rollTypes (roll : RollType) : roll ∈ RollType.all := by
  cases roll <;> decide

/-- A phase that decides to start a roll has found an expired key and no conflict. -/
theorem decides_found {env : Environment} {phase : StartPhase} {ws : WorkSpace}
    (decides : phase.decides env ws = true) :
    (∀ other, (ws.state.keyset.rollstates other).isSome = true →
      phase.conflictingRoll other = false) ∧
    ∃ entry ∈ ws.state.keyset.keys, ∃ state,
      phase.matchKeytype entry.2.keytype = some state ∧ state.stale = false := by
  unfold StartPhase.decides at decides
  cases lifetime : phase.validity with
  | none => simp [lifetime] at decides
  | some validity =>
      simp only [lifetime, Option.any_some, Bool.and_eq_true, Bool.not_eq_true'] at decides
      rcases decides with ⟨⟨_, free⟩, expired⟩
      constructor
      · intro other running
        unfold rollInProgress at free
        have clear := List.any_eq_false.mp free other (mem_rollTypes other)
        rw [running, Bool.true_and] at clear
        simpa using clear
      · unfold StartPhase.expired at expired
        cases isMin : earliestExpiry ws.state.keyset phase.matchKeytype validity with
        | none => simp [isMin] at expired
        | some earliest =>
            rcases List.mem_filterMap.mp (List.min?_mem isMin) with ⟨entry, listed, matched⟩
            refine ⟨entry, listed, ?_⟩
            cases state? : phase.matchKeytype entry.2.keytype with
            | none =>
                simp only [state?] at matched
                cases matched
            | some state =>
                refine ⟨state, rfl, ?_⟩
                simp only [state?] at matched
                cases stale : state.stale with
                | true => simp [stale] at matched
                | false => rfl

/-! ## From one phase to the next -/

/-- The keys in use have the algorithm that new keys are going to have. -/
def OneAlgorithm (config : KeySetConfig) (keyset : KeySet) : Prop :=
  ∀ entry ∈ keyset.keys, activeAny entry.2.keytype = true →
    entry.2.algorithm = config.algorithm.securityAlgorithm

/-- What the decision about the algorithm roll, which is made once, says in every phase. -/
def AlgorithmDecided (config : KeySetConfig) (need : Bool) (ws : WorkSpace) : Prop :=
  ws.config = config ∧ DistinctKeys ws.state.keyset ∧
    (need = false → OneAlgorithm config ws.state.keyset)

theorem algorithmDecided_rebuilding (env : Environment) (config : KeySetConfig) (need : Bool) :
    Rebuilding env (AlgorithmDecided config need) fun _ _ => True where
  fails := fun _ _ _ _ => trivial
  calls := fun _ _ settled => settled
  runUpdateDsCommand := fun _ settled => settled
  dnskeyRrset := fun _ _ _ _ settled _ => settled
  cdsRrset := fun _ _ _ _ settled _ => settled
  cdsRemoved := fun _ settled => settled
  dsRrset := fun _ _ _ _ settled _ _ => settled

/-- An algorithm roll is not needed when all keys in use have the configured algorithm. -/
theorem algorithmRollNeeded_ok {ws final : WorkSpace} {need : Bool}
    (run : exec algorithmRollNeeded ws = (.ok need, final)) :
    final = ws ∧ (need = false → OneAlgorithm ws.config ws.state.keyset) := by
  unfold algorithmRollNeeded at run
  rw [exec_bind_of_ok (exec_get ws)] at run
  rcases exec_bind_eq_ok.mp run with ⟨params, middle, asking, returns⟩
  have asked := (toGenerateParams_algorithm _).ok asking
  have unchanged : Preserves (fun state => state = ws)
      (ws.config.algorithm.toGenerateParams : Run GenerateParams) := by
    unfold KeyParameters.toGenerateParams
    split
    · exact keeps_ite (fun _ => keeps_pure _) fun _ => preserves_throw _
    · exact keeps_ite (fun _ => keeps_pure _) fun _ => preserves_throw _
    all_goals exact keeps_pure _
  have same := Keeps.ok unchanged rfl asking
  cases returns
  refine ⟨same, ?_⟩
  intro settled entry member active
  rcases Bool.or_eq_false_iff.mp settled with ⟨_, agree⟩
  have inUse : entry.2.algorithm ∈ currentAlgorithms ws.state.keyset := by
    apply List.mem_filterMap.mpr
    refine ⟨entry, member, ?_⟩
    rcases entry with ⟨name, key⟩
    cases keytype : key.keytype <;> simp_all [activeAny, KeyType.activeRole]
  have matching := List.any_eq_false.mp agree _ inUse
  rw [← asked]
  simpa using matching

theorem startRoll_ok {env : Environment} {roll : RollType} {old : List String}
    {new created : List Url} {message : String → String} {ws final : WorkSpace}
    {actions : List Action}
    (run : exec (startRoll env roll old new created message) ws = (.ok actions, final)) :
    ∃ keyset calls, env.keySet.startRoll (env.clock ws.calls) roll old
        (new.map env.showUrl) ws.state.keyset = .ok (actions, keyset) ∧
      final = { ws with state.keyset := keyset, calls := calls } := by
  have clock : exec (perform (wallClock env)) ws = (.ok (env.clock ws.calls), ws.ticked) := rfl
  unfold startRoll at run
  rw [exec_bind_of_ok clock, exec_bind_of_ok (exec_get _)] at run
  cases outcome : env.keySet.startRoll (env.clock ws.calls) roll old
      (new.map env.showUrl) ws.ticked.state.keyset with
  | error reason =>
      simp only [outcome] at run
      rcases exec_bind_eq_ok.mp run with ⟨_, removed, _, stops⟩
      cases stops
  | ok result =>
      rcases result with ⟨begun, keyset⟩
      simp only [outcome] at run
      cases run
      exact ⟨keyset, _, outcome, rfl⟩

section Phases

variable {platform : Platform} (laws : StartLaws platform)
variable {env : Environment} (same : env.toPlatform = platform)
variable (generates : GeneratesAsAsked env)
variable {config : KeySetConfig} {need : Bool}

include laws same generates

theorem start_algorithmDecided {variant : RollVariant} {ws final : WorkSpace}
    {actions : List Action}
    (settled : AlgorithmDecided config need ws)
    (run : exec (variant.start env) ws = (.ok actions, final)) :
    AlgorithmDecided config need final := by
  subst same
  by_cases passes : PassesChecks variant ws
  · rcases @exec_start env _ _ passes with ⟨now, calls, whole⟩
    rw [whole] at run
    unfold RollVariant.bringIn at run
    rcases exec_bind_eq_ok.mp run with ⟨⟨new, created⟩, made, making, rest⟩
    rcases exec_bind_eq_ok.mp rest with ⟨begun, started, starting, finishing⟩
    rcases newKeysOfRoll_ok laws rfl generates making with ⟨_, madeConfig, added⟩
    rcases startRoll_ok starting with ⟨keyset, calls, accepted, rfl⟩
    rcases settled with ⟨known, distinct, oneAlgorithm⟩
    have begins : AlgorithmDecided config need
        { made with state.keyset := keyset, calls := calls } := by
      refine ⟨madeConfig.trans known, ?_, ?_⟩
      · apply laws.distinct env rfl _ _ _ (.startRoll accepted)
        exact added.distinct distinct
      · intro settles entry member active
        rcases laws.started _ _ _ _ _ _ _ accepted entry member active with
          ⟨earlier, listed, wasActive, sameAlgorithm⟩
        rw [← sameAlgorithm, ← known]
        rcases added.known earlier listed with before | hasAlgorithm
        · rw [known]
          exact oneAlgorithm settles earlier before wasActive
        · exact hasAlgorithm
    exact (finishStart_keeps (algorithmDecided_rebuilding env config need) (fun _ _ holds => holds)
      _ _).ok begins finishing
  · rcases @start_refused env _ _ passes with ⟨fault, calls, refused⟩
    rw [refused] at run
    cases run

theorem startPhase_algorithmDecided {phase : StartPhase} {ws final : WorkSpace}
    (settled : AlgorithmDecided config need ws)
    (run : exec (phase.run env) ws = (.ok ⟨⟩, final)) : AlgorithmDecided config need final := by
  rw [exec_startPhase] at run
  cases decided : phase.decides env ws with
  | false =>
      rw [decided] at run
      cases run
      exact settled
  | true =>
      rw [decided] at run
      rcases exec_bind_eq_ok.mp run with ⟨actions, started, starting, marking⟩
      cases marking
      have begun : AlgorithmDecided config need ws.ticked := settled
      have after := start_algorithmDecided laws same generates begun starting
      exact after

theorem runPhases_algorithmDecided {phases : List StartPhase} {ws final : WorkSpace}
    (settled : AlgorithmDecided config need ws)
    (run : exec (runPhases env phases) ws = (.ok ⟨⟩, final)) :
    AlgorithmDecided config need final := by
  induction phases generalizing ws with
  | nil =>
      cases run
      exact settled
  | cons phase phases induction =>
      rcases exec_bind_eq_ok.mp run with ⟨_, middle, first, rest⟩
      exact induction (startPhase_algorithmDecided laws same generates settled first) rest

/-- The key set accepts what a fitting phase decides. -/
theorem accepted_of_decides {phase : StartPhase} {ws : WorkSpace}
    (settled : AlgorithmDecided config need ws) (fits : phase.Fits config)
    (algorithm : need = true → phase.variant = .algorithm)
    (decided : phase.decides env ws = true)
    (noCsk : phase.variant.single = true → holdsCsk ws.state.keyset = false) :
    Accepted env phase.variant ws := by
  subst same
  rcases settled with ⟨known, distinct, oneAlgorithm⟩
  rcases decides_found decided with ⟨free, entry, listed, state, matched, fresh⟩
  have replaced := fits.replaces _ _ matched fresh
  refine ⟨⟨?_, ?_, noCsk⟩, ?_⟩
  · rw [List.isEmpty_eq_false_iff]
    exact List.ne_nil_of_mem listed
  · rw [known]
    exact fits.useCsk
  · intro now calls new created made clock making
    rcases newKeysOfRoll_ok laws rfl generates making with ⟨nonempty, _, added⟩
    cases outcome : env.keySet.startRoll clock (phase.variant.rollVariantToRoll ws.config)
        (activeKeys ws.state.keyset phase.variant.takesPart) (new.map env.showUrl)
        made.state.keyset with
    | ok result => exact ⟨result, rfl⟩
    | error reason =>
        exfalso
        rcases laws.refuses _ _ _ _ _ _ outcome with ⟨other, running, conflict⟩ |
          ⟨notAlgorithm, differ⟩
        · rw [added.rolls] at running
          have beside := free other running
          rw [fits.conflicts, ← known, conflict] at beside
          cases beside
        · have settles : need = false := by
            cases needed : need with
            | false => rfl
            | true =>
                rw [algorithm needed] at notAlgorithm
                exact absurd rfl notAlgorithm
          have madeDistinct := added.distinct distinct
          apply differ
          intro value
          have someOld : activeKeys ws.state.keyset phase.variant.takesPart ≠ [] := by
            apply List.ne_nil_of_mem
            exact List.mem_map_of_mem (List.mem_filter.mpr ⟨listed, replaced⟩)
          have someNew : new.map env.showUrl ≠ [] := by simpa using nonempty
          have oldKeys : ∀ name ∈ activeKeys ws.state.keyset phase.variant.takesPart,
              ∃ entry ∈ made.state.keyset.keys, entry.1 = name ∧
                entry.2.algorithm = ws.config.algorithm.securityAlgorithm := by
            intro name member
            rcases List.mem_map.mp member with ⟨other, kept, named⟩
            rcases List.mem_filter.mp kept with ⟨present, takesPart⟩
            refine ⟨other, added.kept other present, named, ?_⟩
            rw [known]
            exact oneAlgorithm settles other present (takesPart_active takesPart)
          rw [mem_algorithmsOf madeDistinct someOld oldKeys,
            mem_algorithmsOf madeDistinct someNew added.named]

end Phases

/-! ## Automatic starts -/

/-- What cron does before the phases that start rolls. -/
def beforeAutoStart (env : Environment) : Run Unit := do
  loadFiles env
  let ws ← get
  let now ← perform (faketimeOrNow env ws.config)
  renewPhase env now

def ComesToAutoStart (env : Environment) (system : System) (ws : WorkSpace) : Prop :=
  exec (beforeAutoStart env) system.load = (.ok ⟨⟩, ws)

/-- In the given workspace, a phase of cron decides to start a roll. -/
def CronDecides (env : Environment) (system : System) (phase : StartPhase) (ws : WorkSpace) :
    Prop :=
  ∃ begun need before after, ComesToAutoStart env system begun ∧
    exec algorithmRollNeeded begun = (.ok need, begun) ∧
    startPhases begun.config need = before ++ phase :: after ∧
    exec (runPhases env before) begun = (.ok ⟨⟩, ws) ∧ phase.decides env ws = true

/-- A start that fails makes the whole invocation fail. -/
theorem CronDecides.invoke_fails {env : Environment} {system : System} {phase : StartPhase}
    {ws final : WorkSpace} {fault : Fault} (decided : CronDecides env system phase ws)
    (fails : exec (phase.variant.start env) ws.ticked = (.error fault, final)) :
    (invoke env .cron system).1 = .error fault := by
  rcases decided with ⟨begun, need, before, after, comes, needed, split, earlier, decides⟩
  rcases exec_bind_eq_ok.mp comes with ⟨_, loaded, loads, rest⟩
  rw [exec_bind_of_ok (exec_get loaded)] at rest
  rcases exec_bind_eq_ok.mp rest with ⟨now, counted, reading, renewing⟩
  have stops : exec (runPhases env (phase :: after)) ws = (.error fault, final) := by
    refine exec_bind_of_error ?_
    rw [exec_startPhase, decides, if_pos rfl]
    exact exec_bind_of_error fails
  have along : ∀ phases (start : WorkSpace), exec (runPhases env phases) start = (.ok ⟨⟩, ws) →
      exec (runPhases env (phases ++ phase :: after)) start = (.error fault, final) := by
    intro phases
    induction phases with
    | nil =>
        intro start nothing
        cases nothing
        exact stops
    | cons first phases induction =>
        intro start runs
        rcases exec_bind_eq_ok.mp runs with ⟨_, middle, one, others⟩
        exact (exec_bind_of_ok one).trans (induction middle others)
  have started : exec (autoStartPhase env) begun = (.error fault, final) := by
    rw [autoStartPhase_eq, exec_bind_of_ok needed, exec_bind_of_ok (exec_get begun), split]
    exact along before begun earlier
  have cronFails : exec (cron env now) counted = (.error fault, final) := by
    unfold cron
    rw [exec_bind_of_ok renewing]
    exact exec_bind_of_error started
  have computing : exec (compute env .cron) loaded = (.error fault, final) := by
    unfold compute
    rw [exec_bind_of_ok (exec_get loaded), exec_bind_of_ok reading]
    exact exec_bind_of_error cronFails
  have whole : exec (do loadFiles env; run env .cron) system.load = (.error fault, final) := by
    rw [exec_bind_of_ok loads]
    exact exec_bind_of_error computing
  unfold invoke
  rw [whole]

/-- A roll that cron decides to start is accepted unless it is a KSK or a ZSK roll of a
zone that has a CSK in use. -/
theorem auto_start_accepted_iff {platform : Platform} (laws : StartLaws platform)
    {system : System} (reachable : Reachable platform system) {env : Environment}
    (same : env.toPlatform = platform) (generates : GeneratesAsAsked env)
    {phase : StartPhase} {ws : WorkSpace} (decided : CronDecides env system phase ws) :
    Accepted env phase.variant ws ↔
      (phase.variant.single = true → holdsCsk ws.state.keyset = false) := by
  constructor
  · exact fun accepted => accepted.noCsk
  · intro noCsk
    rcases decided with ⟨begun, need, before, after, comes, needed, split, earlier, decides⟩
    have distinct := reachable_distinctKeys laws reachable
    have stable : Stable env fun other => other.config = system.config ∧
        DistinctKeys other.state.keyset := by
      intro other next holds change
      have lasting := (distinctKeys_lasting laws env same).change other next holds.2 change
      exact ⟨change.files.1.trans holds.1, lasting⟩
    have marks := markStateChanged_keeps stable.routine.toEditing
    have dnskey := updateDnskeyRrset_keeps stable.routine.toSigning
    have cds := createCdsRrset_keeps stable.routine.toSigning
    have reached : Preserves (fun other => other.config = system.config ∧
        DistinctKeys other.state.keyset) (beforeAutoStart env) :=
      keeps_bind (perform_preserves stable _) fun _ => keeps_bind keeps_get fun _ =>
        keeps_bind (perform_preserves stable _) fun _ => keeps_bind keeps_get fun _ =>
          keeps_bind (onlyIf_keeps (keeps_bind dnskey fun _ => marks)) fun _ =>
            keeps_bind keeps_get fun _ => onlyIf_keeps (keeps_bind cds fun _ => marks)
    have begins := Keeps.ok reached ⟨rfl, distinct⟩ comes
    have settled : AlgorithmDecided begun.config need begun :=
      ⟨rfl, begins.2, (algorithmRollNeeded_ok needed).2⟩
    have fits := @startPhases_fit begun.config need phase (by rw [split]; simp)
    have arrived := runPhases_algorithmDecided laws same generates settled earlier
    exact accepted_of_decides laws same generates arrived fits.1 fits.2 decides noCsk

/-! ## The worked platform with all rolls -/

namespace Reference

/-- Rolls of all types start unless they conflict or change the algorithm. -/
def startAnyRoll (now : UnixTime) (roll : RollType) (old new : List String)
    (keyset : KeySet) : Except KeySetError (List Action × KeySet) :=
  if rollInProgress keyset (conflicts roll) then
    .error (.other "conflicting roll in progress")
  else if roll != .algorithmRoll &&
      !((algorithmsOf keyset old).all (algorithmsOf keyset new).contains &&
        (algorithmsOf keyset new).all (algorithmsOf keyset old).contains) then
    .error (.other "algorithm sets differ")
  else
    let keys := keyset.keys.map fun entry =>
      if new.contains entry.1 then (entry.1, introduce roll now entry.2) else entry
    .ok (actions roll .propagation1, setRoll roll (some .propagation1) { keyset with keys })

def openPlatform : Platform :=
  { platform with keySet := { keySet with startRoll := startAnyRoll } }

theorem conflicts_eq (roll other : RollType) :
    conflicts roll other = !runsBeside roll other := by
  cases roll <;> cases other <;> rfl

theorem active_introduce {roll : RollType} {now : UnixTime} {key : Key}
    (active : activeAny (introduce roll now key).keytype = true) :
    activeAny key.keytype = true := by
  rcases key with ⟨privref, decoupled, keytype, algorithm, keyTag, timestamps⟩
  cases roll <;> cases keytype <;> exact active

theorem algorithm_introduce (roll : RollType) (now : UnixTime) (key : Key) :
    (introduce roll now key).algorithm = key.algorithm := by
  cases roll <;> rfl

theorem insertKey_ok {pubref : String} {key : Key} {keyset next : KeySet}
    (inserted : insertKey pubref key keyset = .ok next) :
    pubref ∉ keyset.keys.map Prod.fst ∧ next.keys = keyset.keys ++ [(pubref, key)] := by
  unfold insertKey at inserted
  split at inserted
  · cases inserted
  · next absent =>
      split at inserted <;> cases inserted
      refine ⟨?_, rfl⟩
      intro member
      rcases List.mem_map.mp member with ⟨entry, listed, same⟩
      exact absent (List.any_eq_true.mpr ⟨entry, listed, by simpa using same⟩)

theorem distinct_insertKey {pubref : String} {key : Key} {keyset next : KeySet}
    (inserted : insertKey pubref key keyset = .ok next) (distinct : DistinctKeys keyset) :
    DistinctKeys next := by
  rcases insertKey_ok inserted with ⟨absent, keys⟩
  unfold DistinctKeys
  rw [keys, List.map_append]
  refine List.Nodup.append distinct (List.nodup_singleton _) ?_
  intro name listed new
  rw [List.map_singleton, List.mem_singleton] at new
  rw [new] at listed
  exact absent listed

/-- Keys that keep their references stay distinct. -/
theorem distinct_map {keyset : KeySet} {change : String × Key → String × Key}
    {rollstates : RollType → Option RollState} (names : ∀ entry, (change entry).1 = entry.1)
    (distinct : DistinctKeys keyset) :
    DistinctKeys ⟨keyset.name, keyset.keys.map change, rollstates⟩ := by
  have same : (keyset.keys.map change).map Prod.fst = keyset.keys.map Prod.fst := by
    rw [List.map_map]
    exact List.map_congr_left fun entry _ => names entry
  unfold DistinctKeys
  rw [same]
  exact distinct

theorem distinct_changeKey {pubref : String} {change : Key → Key} {keyset next : KeySet}
    (changed : changeKey pubref change keyset = .ok next) (distinct : DistinctKeys keyset) :
    DistinctKeys next := by
  unfold changeKey at changed
  split at changed <;> cases changed
  refine distinct_map (fun entry => ?_) distinct
  split <;> rfl

theorem distinct_deleteKey {pubref : String} {keyset next : KeySet}
    (deleted : deleteKey pubref keyset = .ok next) (distinct : DistinctKeys keyset) :
    DistinctKeys next := by
  unfold deleteKey at deleted
  split at deleted
  · cases deleted
  · split at deleted <;> cases deleted
    exact distinct.sublist (List.filter_sublist.map Prod.fst)

theorem distinct_plain {env : Environment} (same : env.toPlatform = openPlatform)
    {keyset next : KeySet} (change : PlainChange env keyset next)
    (distinct : DistinctKeys keyset) : DistinctKeys next := by
  have ops : env.keySet = openPlatform.keySet := congrArg Platform.keySet same
  cases change with
  | addKey origin result =>
      rw [ops] at result
      exact distinct_insertKey result distinct
  | addPublicKey origin result =>
      rw [ops] at result
      exact distinct_insertKey result distinct
  | deleteKey result =>
      rw [ops] at result
      exact distinct_deleteKey result distinct
  | propagation1Complete result =>
      rw [ops] at result
      simp only [openPlatform, keySet, propagation1Complete] at result
      split at result <;> cases result
      exact distinct_map (fun _ => rfl) distinct
  | propagation2Complete result =>
      rw [ops] at result
      simp only [openPlatform, keySet, propagation2Complete] at result
      split at result <;> cases result
      exact distinct_map (fun _ => rfl) distinct
  | cacheExpired1 result =>
      rw [ops] at result
      simp only [openPlatform, keySet, cacheExpired1] at result
      split at result
      · split at result <;> cases result
        exact distinct_map (fun _ => rfl) distinct
      · cases result
  | cacheExpired2 result =>
      rw [ops] at result
      simp only [openPlatform, keySet, cacheExpired2] at result
      split at result
      · split at result <;> cases result
        exact distinct_map (fun _ => rfl) distinct
      · cases result
  | _ result =>
      rw [ops] at result
      simp only [openPlatform, keySet] at result
      exact distinct_changeKey result distinct

theorem startLaws : StartLaws openPlatform where
  starts := by
    intro now roll old new keyset actions next result other
    simp only [openPlatform, startAnyRoll] at result
    split at result
    · cases result
    · split at result <;> cases result
      exact isSome_setRoll
  ends := by
    intro now roll keyset actions next result other
    exact @ends_rollstates now _ _ _ _ result other
  plain := by
    intro env same keyset next change
    exact @plain_rollstates env startAnyRoll (congrArg Platform.keySet same) _ _ change
  refuses := by
    intro now roll old new keyset reason result
    simp only [openPlatform, startAnyRoll] at result
    split at result
    · next conflict =>
        left
        rcases List.any_eq_true.mp conflict with ⟨other, _, both⟩
        rw [Bool.and_eq_true, conflicts_eq] at both
        exact ⟨other, both.1, by simpa using both.2⟩
    · split at result
      · next differ =>
          right
          rw [Bool.and_eq_true] at differ
          refine ⟨by simpa using differ.1, ?_⟩
          intro sets
          have each : (algorithmsOf keyset old).all (algorithmsOf keyset new).contains = true ∧
              (algorithmsOf keyset new).all (algorithmsOf keyset old).contains = true := by
            simp only [List.all_eq_true, List.contains_iff_mem]
            exact ⟨fun value => (sets value).mp, fun value => (sets value).mpr⟩
          rw [each.1, each.2] at differ
          cases differ.2
      · cases result
  started := by
    intro now roll old new keyset actions next result entry member active
    simp only [openPlatform, startAnyRoll] at result
    split at result
    · cases result
    · split at result <;> cases result
      rcases List.mem_map.mp member with ⟨before, listed, rfl⟩
      refine ⟨before, listed, ?_⟩
      cases brought : new.contains before.1 with
      | true =>
          simp only [brought, if_true] at active ⊢
          exact ⟨active_introduce active, (algorithm_introduce roll now before.2).symm⟩
      | false =>
          simp only [brought, Bool.false_eq_true, if_false] at active ⊢
          exact ⟨active, trivial⟩
  adds := by
    intro variant pubref privref algorithm keyTag now keyset next result
    rcases insertKey_ok result with ⟨_, keys⟩
    refine ⟨⟨privref, false, newKeyType variant, algorithm, keyTag, newTimestamps now⟩, rfl,
      fun entry => ?_⟩
    rw [keys, List.mem_append, List.mem_singleton]
    exact or_comm
  distinct := by
    intro env same started keyset next change distinct
    have ops : env.keySet = openPlatform.keySet := congrArg Platform.keySet same
    cases change with
    | plain change => exact distinct_plain same change distinct
    | startRoll result =>
        rw [ops] at result
        simp only [openPlatform, startAnyRoll] at result
        split at result
        · cases result
        · split at result <;> cases result
          refine distinct_map (fun entry => ?_) distinct
          split <;> rfl
    | rollDone result =>
        rw [ops] at result
        simp only [openPlatform, keySet, rollDone] at result
        split at result <;> cases result
        exact distinct

/-! ### A zone with KSK rolls every month -/

def openDay (number : Nat) (command : Commands) : Environment × Commands :=
  ({ environment number (fromSecs (1000000 + 86400 * number)) with
    toPlatform := openPlatform }, command)

theorem openDay_generates (number : Nat) (command : Commands) :
    GeneratesAsAsked (openDay number command).1 := by
  constructor
  · intro call params flags key generated
    cases generated
    rfl
  · intro call params flags pair generated
    cases generated
    rfl

/-- The zone gets its keys and the KSK is to be replaced after thirty days. -/
def settling : List (Environment × Commands) :=
  [openDay 1 .init,
    openDay 2 (.roll .algorithm (.propagation1Complete 3600)),
    openDay 3 (.roll .algorithm .cacheExpired1),
    openDay 4 (.roll .algorithm (.propagation2Complete 3600)),
    openDay 5 (.roll .algorithm .cacheExpired2),
    openDay 6 (.roll .algorithm .rollDone),
    openDay 7 (.set (.autoKsk ⟨true, false, false, false⟩)),
    openDay 8 (.set (.kskValidity (some (fromSecs 2592000))))]

def monthly : System := runAll settling created

theorem monthly_reachable : Reachable openPlatform monthly := by
  have start : Reachable openPlatform created := .create _ _ _ _ _
  have steps : AllMeet openPlatform (fun _ _ _ => True) settling created :=
    ⟨⟨rfl, trivial⟩, ⟨rfl, trivial⟩, ⟨rfl, trivial⟩, ⟨rfl, trivial⟩, ⟨rfl, trivial⟩,
      ⟨rfl, trivial⟩, ⟨rfl, trivial⟩, ⟨rfl, trivial⟩, trivial⟩
  exact start.runAll steps

/-- A CSK is imported as well. -/
def mixed : System :=
  runAll [openDay 9 (.importKey (.csk (.file "/keys/ksk.key" true none)))] monthly

theorem mixed_reachable : Reachable openPlatform mixed :=
  monthly_reachable.runAll ⟨⟨rfl, trivial⟩, trivial⟩

def nextMonth : Environment := (openDay 60 .cron).1

/-- The first phase of cron in both zones. -/
def kskPhase : StartPhase :=
  ⟨some (fromSecs 2592000), ⟨true, false, false, false⟩, conflictsWithKsk, matchKsk, .ksk⟩

theorem decides_first {env : Environment} {system : System}
    (facts : (exec (beforeAutoStart env) system.load).1.toOption = some ⟨⟩ ∧
      (exec algorithmRollNeeded (exec (beforeAutoStart env) system.load).2).1.toOption =
        some false ∧
      (exec (beforeAutoStart env) system.load).2.config.useCsk = false ∧
      (exec (beforeAutoStart env) system.load).2.config.kskValidity =
        some (fromSecs 2592000) ∧
      (exec (beforeAutoStart env) system.load).2.config.autoKsk =
        ⟨true, false, false, false⟩ ∧
      kskPhase.decides env (exec (beforeAutoStart env) system.load).2 = true) :
    CronDecides env system kskPhase (exec (beforeAutoStart env) system.load).2 := by
  rcases facts with ⟨comes, needed, useCsk, validity, auto, decides⟩
  generalize begun? : (exec (beforeAutoStart env) system.load).2 = begun at *
  have asked := exec_eq_of_toOption needed
  have unchanged := (algorithmRollNeeded_ok asked).1
  rw [unchanged] at asked
  have reached : ComesToAutoStart env system begun := by
    rw [← begun?]
    exact exec_eq_of_toOption comes
  refine ⟨begun, false, [], (startPhases begun.config false).tail, reached, asked, ?_, rfl,
    decides⟩
  simp [startPhases, useCsk, kskPhase, validity, auto]

theorem monthly_decides :
    CronDecides nextMonth monthly kskPhase
      (exec (beforeAutoStart nextMonth) monthly.load).2 :=
  decides_first (by decide +kernel)

theorem mixed_decides :
    CronDecides nextMonth mixed kskPhase
      (exec (beforeAutoStart nextMonth) mixed.load).2 :=
  decides_first (by decide +kernel)

end Reference

/-- The KSK of a zone without a CSK is rolled. -/
theorem monthly_roll_accepted :
    CronDecides Reference.nextMonth Reference.monthly Reference.kskPhase
        (exec (beforeAutoStart Reference.nextMonth) Reference.monthly.load).2 ∧
      (Accepted Reference.nextMonth .ksk
          (exec (beforeAutoStart Reference.nextMonth) Reference.monthly.load).2 ↔
        (RollVariant.single .ksk = true →
          holdsCsk (exec (beforeAutoStart Reference.nextMonth)
            Reference.monthly.load).2.state.keyset = false)) :=
  ⟨Reference.monthly_decides,
    auto_start_accepted_iff Reference.startLaws Reference.monthly_reachable rfl
      (Reference.openDay_generates 60 .cron) Reference.monthly_decides⟩

/-- With a CSK in the zone, cron decides to start the roll and then fails. -/
theorem mixed_roll_refused :
    StartLaws Reference.openPlatform ∧ Reachable Reference.openPlatform Reference.mixed ∧
      GeneratesAsAsked Reference.nextMonth ∧
      CronDecides Reference.nextMonth Reference.mixed Reference.kskPhase
        (exec (beforeAutoStart Reference.nextMonth) Reference.mixed.load).2 ∧
      ¬Accepted Reference.nextMonth .ksk
        (exec (beforeAutoStart Reference.nextMonth) Reference.mixed.load).2 ∧
      errorMessage (invoke Reference.nextMonth .cron Reference.mixed).1 =
        some "cannot start KskRoll roll, found CSK\n" := by
  refine ⟨Reference.startLaws, Reference.mixed_reachable, Reference.openDay_generates 60 .cron,
    Reference.mixed_decides, ?_, by decide +kernel⟩
  intro accepted
  have held : holdsCsk (exec (beforeAutoStart Reference.nextMonth)
      Reference.mixed.load).2.state.keyset = true := by decide +kernel
  have none := accepted.noCsk rfl
  rw [held] at none
  cases none

end Dnst.Keyset
