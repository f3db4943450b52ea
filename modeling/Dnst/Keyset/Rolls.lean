import Dnst.Keyset.Keys

/-! # Key rolls

Starting a roll, the steps of a roll and its end, as the roll subcommands and
the automation perform them.
-/

namespace Dnst.Keyset

/-- Which high-level key roll a command applies to. -/
inductive RollVariant where
  | ksk
  | zsk
  | csk
  | algorithm
  deriving DecidableEq, Repr

def KskRollType.roll : KskRollType → RollType
  | .doubleSignatureKskRoll => .kskRoll
  | .doubleDsKskRoll => .kskDoubleDsRoll

def ZskRollType.roll : ZskRollType → RollType
  | .prePublishZskRoll => .zskRoll
  | .doubleSignatureZskRoll => .zskDoubleSignatureRoll

/-- Return the right `RollType` for a `RollVariant`. -/
def RollVariant.rollVariantToRoll (config : KeySetConfig) : RollVariant → RollType
  | .ksk => config.kskRollType.roll
  | .zsk => config.zskRollType.roll
  | .csk => .cskRoll
  | .algorithm => .algorithmRoll

def RollType.debug : RollType → String
  | .kskRoll => "KskRoll"
  | .kskDoubleDsRoll => "KskDoubleDsRoll"
  | .zskRoll => "ZskRoll"
  | .zskDoubleSignatureRoll => "ZskDoubleSignatureRoll"
  | .cskRoll => "CskRoll"
  | .algorithmRoll => "AlgorithmRoll"

/-! ## Bookkeeping of a roll -/

/-- `expect` on an entry that is not there, in the automation and in `cron_next`. -/
def noEntry : String := "should not fail"

/-- The same in the status subcommand. -/
def noEntryShown : String := "should exist"

def insertInternal (roll : RollType) (reports : RollStateReports) : Run Unit :=
  modify fun ws =>
    { ws with state.internal := Function.update ws.state.internal roll (some reports) }

def removeInternal (roll : RollType) : Run Unit :=
  modify fun ws =>
    { ws with state.internal := Function.update ws.state.internal roll none }

/-! ## Starting a roll -/

def removeKeys (env : Environment) : List Url → Run Unit
  | [] => return ()
  | url :: urls => do
      removeKey env url
      removeKeys env urls

/-- Start the key roll. If that fails, remove the keys we just created. -/
def startRoll (env : Environment) (roll : RollType) (old : List String)
    (new created : List Url) (message : String → String) : Run (List Action) := do
  let now ← perform (wallClock env)
  let ws ← get
  match env.keySet.startRoll now roll old (new.map env.showUrl) ws.state.keyset with
  | .ok (actions, keyset) => do
      setKeySet keyset
      return actions
  | .error reason => do
      removeKeys env created
      bail (message reason.display)

def finishStart (env : Environment) (roll : RollType) (actions : List Action) :
    Run (List Action) := do
  handleActions env actions
  insertInternal roll .default
  return actions

def activeKeys (keyset : KeySet) (takesPart : KeyType → Bool) : List String :=
  (keyset.keys.filter fun (_, key) => takesPart key.keytype).map Prod.fst

def activeCsk : KeyType → Bool
  | .csk kskState _ => !kskState.stale
  | _ => false

def activeKsk : KeyType → Bool
  | .ksk state => !state.stale
  | _ => false

def activeZsk : KeyType → Bool
  | .zsk state => !state.stale
  | _ => false

/-- Assume that for a CSK it is sufficient to check one of the key states. -/
def activeAny : KeyType → Bool
  | .ksk state => !state.stale
  | .zsk state => !state.stale
  | .csk kskState _ => !kskState.stale
  | .include _ => false

def cannotStart (roll : RollType) (reason : String) : String :=
  s!"cannot start {roll.debug}: {reason}\n"

/-- Start a roll that replaces the keys of one type. -/
def startSingleRoll (env : Environment) (roll : RollType) (variant : KeyVariant)
    (makeKsk : Bool) (takesPart : KeyType → Bool) : Run (List Action) := do
  let ws ← get
  let now ← perform (faketimeOrNow env ws.config)
  assert (!ws.state.keyset.keys.isEmpty)
    "assertion failed: !self.state.keyset.keys().is_empty()"
  -- Check for CSK.
  refuseIf ws.config.useCsk "wrong key roll, use start-csk-roll\n"
  refuseIf (ws.state.keyset.keys.any fun (_, key) => activeCsk key.keytype)
    s!"cannot start {roll.debug} roll, found CSK\n"
  let keys ← addNewKey env variant makeKsk now
  let actions ← startRoll env roll (activeKeys ws.state.keyset takesPart)
    [keys.publicUrl] [keys.privateUrl, keys.publicUrl] (cannotStart roll)
  finishStart env roll actions

/-- Start a KSK roll. -/
def startKskRoll (env : Environment) : Run (List Action) := do
  let ws ← get
  startSingleRoll env ws.config.kskRollType.roll .ksk true activeKsk

/-- Start a ZSK roll. -/
def startZskRoll (env : Environment) : Run (List Action) := do
  let ws ← get
  startSingleRoll env ws.config.zskRollType.roll .zsk false activeZsk

/-- Start a roll that replaces all keys. -/
def startFullRoll (env : Environment) (roll : RollType) (message : String → String) :
    Run (List Action) := do
  let ws ← get
  assert (!ws.state.keyset.keys.isEmpty)
    "assertion failed: !self.state.keyset.keys().is_empty()"
  let (new, created) ← newCskOrKskZsk env
  let actions ← startRoll env roll (activeKeys ws.state.keyset activeAny) new created
    message
  finishStart env roll actions

/-- Start a CSK roll. -/
def startCskRoll (env : Environment) : Run (List Action) :=
  startFullRoll env .cskRoll (cannotStart .cskRoll)

/-- Start an algorithm roll. -/
def startAlgorithmRoll (env : Environment) : Run (List Action) :=
  startFullRoll env .algorithmRoll fun reason => s!"cannot start roll: {reason}\n"

/-! ## Steps and end of a roll -/

/-- Execute the done action. -/
def doDone (env : Environment) (roll : RollType) : Run Unit := do
  let now ← perform (wallClock env)
  let actions ← onRoll (fun reason => s!"Error reporting done: {reason}\n")
    (env.keySet.rollDone now roll)
  refuseIf (!actions.isEmpty) "List of actions after reporting done\n"
  -- Sometimes there is no space for a RemoveCdsRrset action. Just remove it
  -- anyhow.
  removeCdsRrset
  removeInternal roll

def propagationError (reason : String) : String :=
  s!"Error reporting propagation complete: {reason}\n"

def cacheExpiredError (reason : String) : String :=
  s!"Error reporting cache expired: {reason}\n"

inductive RollCommands where
  | startRoll
  | propagation1Complete (ttl : Ttl)
  | cacheExpired1
  | propagation2Complete (ttl : Ttl)
  | cacheExpired2
  | rollDone
  deriving DecidableEq, Repr

def RollVariant.start (env : Environment) : RollVariant → Run (List Action)
  | .ksk => startKskRoll env
  | .zsk => startZskRoll env
  | .csk => startCskRoll env
  | .algorithm => startAlgorithmRoll env

/-- A step that leads to actions, which are handled at once. -/
def rollStep (env : Environment) (message : String → String)
    (operation : UnixTime → KeySet → Except KeySetError (List Action × KeySet)) :
    Run Unit := do
  let now ← perform (wallClock env)
  let actions ← onRoll message (operation now)
  handleActions env actions
  markStateChanged

/-- The step command with the roll that it acts on made explicit. -/
def stepOnRoll (env : Environment) (roll : RollType) : RollCommands → Run Unit
  | .startRoll => return ()
  | .propagation1Complete ttl =>
      rollStep env propagationError fun now => env.keySet.propagation1Complete now roll ttl
  | .cacheExpired1 =>
      rollStep env cacheExpiredError fun now => env.keySet.cacheExpired1 now roll
  | .propagation2Complete ttl =>
      rollStep env propagationError fun now => env.keySet.propagation2Complete now roll ttl
  | .cacheExpired2 =>
      rollStep env cacheExpiredError fun now => env.keySet.cacheExpired2 now roll
  | .rollDone => do
      doDone env roll
      markStateChanged

/-- Execute the key roll subcommands. -/
def rollCommand (env : Environment) (command : RollCommands) (variant : RollVariant) :
    Run Unit := do
  let ws ← get
  let roll := variant.rollVariantToRoll ws.config
  match command with
  | .startRoll => do
      let _ ← variant.start env
      markStateChanged
  | .propagation1Complete ttl =>
      rollStep env propagationError fun now => env.keySet.propagation1Complete now roll ttl
  | .cacheExpired1 =>
      rollStep env cacheExpiredError fun now => env.keySet.cacheExpired1 now roll
  | .propagation2Complete ttl =>
      rollStep env propagationError fun now => env.keySet.propagation2Complete now roll ttl
  | .cacheExpired2 =>
      rollStep env cacheExpiredError fun now => env.keySet.cacheExpired2 now roll
  | .rollDone => do
      doDone env roll
      markStateChanged

/-! ## Algorithms in use -/

def KeyType.activeRole : KeyType → Option KeyState
  | .ksk state => some state
  | .zsk state => some state
  | .csk kskState _ => some kskState
  | .include _ => none

/-- The algorithms of all active keys. -/
def currentAlgorithms (keyset : KeySet) : List SecurityAlgorithm :=
  keyset.keys.filterMap fun (_, key) =>
    match key.keytype.activeRole with
    | some state => if state.stale then none else some key.algorithm
    | none => none

/-- An algorithm roll is needed if the algorithm listed in config is different
from the set of algorithms in the collection of active keys. -/
def algorithmRollNeeded : Run Bool := do
  let ws ← get
  let params ← ws.config.algorithm.toGenerateParams
  let current := currentAlgorithms ws.state.keyset
  return current.isEmpty || current.any (· != params.algorithm)

end Dnst.Keyset
