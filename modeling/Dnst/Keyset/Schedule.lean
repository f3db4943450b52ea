import Dnst.Keyset.Automation

/-! # Renewal of signatures and the next cron run

The tests that decide what `cron` does, and their counterparts that compute when
`cron` has to run next.
-/

namespace Dnst.Keyset

/-! ## Signatures -/

/-- Check whether signatures need to be renewed. -/
def sigRenew (rrset : List Record) (remainTime : Duration) (now : UnixTime) : Bool :=
  let renew := asSecs now + asSecs remainTime
  (rrset.filterMap Record.rrsig?).any fun signature => signature.expiration < renew

/-- The RRsets that are published with signatures. -/
inductive SignedRrset where
  | dnskey
  | cds
  deriving DecidableEq, Repr

namespace SignedRrset

def of : SignedRrset → KeySetState → List Record
  | dnskey => KeySetState.dnskeyRrset
  | cds => KeySetState.cdsRrset

/-- The records that are built and signed for a workspace. -/
def records (env : Environment) : SignedRrset → WorkSpace → Step (List Record)
  | dnskey => dnskeyRrset env
  | cds => cdsRrset env

/-- The signatures have to be renewed. -/
def due (config : KeySetConfig) (state : KeySetState) (now : UnixTime) : SignedRrset → Bool
  | dnskey => sigRenew state.dnskeyRrset config.dnskeyRemainTime now
  | cds => sigRenew state.cdsRrset config.cdsRemainTime now

end SignedRrset

/-- Compute when the cron subcommand should be called to refresh signatures for
an RRset. -/
def computeCronNext (platform : Platform) (rrset : List Record) (remainTime : Duration)
    (now : UnixTime) : Option UnixTime :=
  let expirations := (rrset.filterMap Record.rrsig?).map fun signature =>
    platform.toSystemTime signature.expiration now
  -- Map to the Unix epoch in case of failure.
  expirations.min?.map fun expiration => (expiration - (remainTime : Int)).toNat

/-! ## Which rolls start automatically -/

def matchKsk : KeyType → Option KeyState
  | .ksk state => some state
  | _ => none

def matchZsk : KeyType → Option KeyState
  | .zsk state => some state
  | _ => none

def matchCsk : KeyType → Option KeyState
  | .csk kskState _ => some kskState
  | _ => none

def anyRoll : RollType → Bool := fun _ => true

def conflictsWithKsk (roll : RollType) : Bool :=
  roll != .zskRoll && roll != .zskDoubleSignatureRoll

def conflictsWithZsk (roll : RollType) : Bool :=
  roll != .kskRoll && roll != .kskDoubleDsRoll

/-- The automation that applies when all keys are replaced. -/
def autoFull (config : KeySetConfig) (needAlgorithmRoll : Bool) : AutoConfig :=
  if needAlgorithmRoll then config.autoAlgorithm else config.autoCsk

def startFull (env : Environment) (needAlgorithmRoll : Bool) : Run (List Action) :=
  if needAlgorithmRoll then startAlgorithmRoll env else startCskRoll env

def kskRolls : List RollType := [.kskRoll, .kskDoubleDsRoll]

def zskRolls : List RollType := [.zskRoll, .zskDoubleSignatureRoll]

/-! ## The phases of cron -/

/-- Renew the signatures of one RRset when they are due. -/
def renewSignatures (due : Bool) (renew : Run Unit) : Run Unit :=
  onlyIf due do
    renew
    markStateChanged

def renewPhase (env : Environment) (now : UnixTime) : Run Unit := do
  let ws ← get
  renewSignatures (sigRenew ws.state.dnskeyRrset ws.config.dnskeyRemainTime now)
    (updateDnskeyRrset env)
  let ws ← get
  renewSignatures (sigRenew ws.state.cdsRrset ws.config.cdsRemainTime now)
    (createCdsRrset env)

def autoStartPhase (env : Environment) : Run Unit := do
  let need ← algorithmRollNeeded
  let ws ← get
  let config := ws.config
  if config.useCsk || need then do
    autoStart env config.kskValidity (autoFull config need) anyRoll matchKsk
      (startFull env need)
    autoStart env config.zskValidity (autoFull config need) anyRoll matchZsk
      (startFull env need)
  else do
    autoStart env config.kskValidity config.autoKsk conflictsWithKsk matchKsk
      (startKskRoll env)
    autoStart env config.zskValidity config.autoZsk conflictsWithZsk matchZsk
      (startZskRoll env)
  autoStart env config.cskValidity (autoFull config need) anyRoll matchCsk
    (startFull env need)

def autoReportExpireDonePhase (env : Environment) : Run Unit := do
  let ws ← get
  let config := ws.config
  autoReportExpireDone env config.autoKsk kskRolls
  autoReportExpireDone env config.autoZsk zskRolls
  autoReportExpireDone env config.autoCsk [.cskRoll]
  autoReportExpireDone env config.autoAlgorithm [.algorithmRoll]

/-- The keys whose removal delay has passed, with their private halves. -/
def removableKeys {State : Type} (now : UnixTime) (delay : Duration) :
    List (String × Key) → Effect State Fault (List (String × Option String))
  | [] => return []
  | (pubref, key) :: keys =>
      if key.keytype.mainState.stale then
        match key.timestamps.withdrawn with
        | none => panic "should be present if stale"
        | some withdrawn => do
            let others ← removableKeys now delay keys
            if withdrawn + delay ≤ now then
              return (pubref, key.privref) :: others
            else
              return others
      else
        removableKeys now delay keys

def removeByReference (env : Environment) (reference : String) : Run Unit := do
  let url ← parseReference env "URL" reference
  removeKey env url

/-- Remove one key from the key set and then its private and public halves. -/
def autoremoveKey (env : Environment) (pubref : String) (privref : Option String) :
    Run Unit := do
  onKeySet (fun reason => s!"unable to remove key {pubref}: {reason}\n")
    (env.keySet.deleteKey pubref)
  match privref with
  | none => removeByReference env pubref
  | some privref => do
      removeByReference env privref
      removeByReference env pubref

def autoremoveKeys (env : Environment) : List (String × Option String) → Run Unit
  | [] => return ()
  | (pubref, privref) :: keys => do
      autoremoveKey env pubref privref
      autoremoveKeys env keys

def autoremovePhase (env : Environment) : Run Unit := do
  let ws ← get
  let now ← perform (faketimeOrNow env ws.config)
  onlyIf ws.config.autoremove do
    let keys ← removableKeys now ws.config.autoremoveDelay ws.state.keyset.keys
    onlyIf (!keys.isEmpty) do
      autoremoveKeys env keys
      markStateChanged

/-- The cron subcommand. -/
def cron (env : Environment) (now : UnixTime) : Run Unit := do
  renewPhase env now
  autoStartPhase env
  autoReportExpireDonePhase env
  autoremovePhase env

/-! ## When cron has to run next -/

/-- When the next key roll should happen. It has the same logic as `auto_start`
but instead of starting a key roll, it (optionally) adds a timestamp. -/
def cronNextAutoStart (kss : KeySetState) (validity : Option Duration) (auto : AutoConfig)
    (conflictingRoll : RollType → Bool) (matchKeytype : KeyType → Option KeyState) :
    List (Option UnixTime) :=
  match validity with
  | none => []
  | some validity =>
      if auto.start && !rollInProgress kss.keyset conflictingRoll then
        [earliestExpiry kss.keyset matchKeytype validity]
      else
        []

def nextCheck (now : UnixTime) : AutoActionsResult → UnixTime
  -- All actions are ready. Request cron.
  | .ok => now
  | .wait waitUntil => waitUntil

def cronNextReport (platform : Platform) (kss : KeySetState) (now : UnixTime)
    (roll : RollType) : Run (List (Option UnixTime)) :=
  match kss.keyset.rollstates roll with
  | none => return []
  | some state =>
      match kss.internal roll with
      | none => panic noEntry
      | some reports =>
          let entry := fun (report : ReportState) =>
            [some (nextCheck now
              (checkAutoActions now report (platform.keySet.actions roll kss.keyset)))]
          match state with
          | .propagation1 => return entry reports.propagation1
          | .propagation2 => return entry reports.propagation2
          | _ => return []

/-- Try to issue the cache_expired[12] method on a clone of the key set. -/
def cronNextExpire (platform : Platform) (now clock : UnixTime) (roll : RollType)
    (keyset : KeySet) : Run (List (Option UnixTime) × KeySet) :=
  let entry := fun (result : Except KeySetError (List Action × KeySet)) =>
    match result with
    | .error (.wait remaining) => return ([some (now + remaining)], keyset)
    | .error reason => bail (expireError roll reason.display)
    -- Time to call cron. Report the current time.
    | .ok (_, moved) => return ([some now], moved)
  match keyset.rollstates roll with
  | some (.cacheExpire1 _) => entry (platform.keySet.cacheExpired1 clock roll keyset)
  | some (.cacheExpire2 _) => entry (platform.keySet.cacheExpired2 clock roll keyset)
  | _ => return ([], keyset)

def cronNextExpires (env : Environment) (now : UnixTime) :
    List RollType → KeySet → Run (List (Option UnixTime))
  | [], _ => return []
  | roll :: rolls, keyset => do
      let clock ← perform (wallClock env)
      let (entries, keyset) ← cronNextExpire env.toPlatform now clock roll keyset
      let others ← cronNextExpires env now rolls keyset
      return entries ++ others

def cronNextDone (platform : Platform) (kss : KeySetState) (now : UnixTime)
    (roll : RollType) : Run (List (Option UnixTime)) :=
  match kss.keyset.rollstates roll with
  | some .done =>
      match kss.internal roll with
      | none => panic noEntry
      | some reports =>
          return [some (nextCheck now
            (checkAutoActions now reports.done (platform.keySet.actions roll kss.keyset)))]
  | _ => return []

/-- No entries for what is not automatic. -/
def entriesIf (condition : Bool) (entries : Run (List (Option UnixTime))) :
    Run (List (Option UnixTime)) :=
  if condition then entries else return []

def entriesOfRolls (entries : RollType → Run (List (Option UnixTime))) :
    List RollType → Run (List (Option UnixTime))
  | [] => return []
  | roll :: rolls => do
      let first ← entries roll
      let others ← entriesOfRolls entries rolls
      return first ++ others

/-- This function computes when next to try to move to the next state. -/
def cronNextAutoReportExpireDone (env : Environment) (kss : KeySetState)
    (auto : AutoConfig) (rollList : List RollType) : Run (List (Option UnixTime)) := do
  let ws ← get
  let now ← perform (faketimeOrNow env ws.config)
  let reports ← entriesIf auto.report
    (entriesOfRolls (cronNextReport env.toPlatform kss now) rollList)
  let expires ← entriesIf auto.expire (cronNextExpires env now rollList kss.keyset)
  let dones ← entriesIf auto.done
    (entriesOfRolls (cronNextDone env.toPlatform kss now) rollList)
  return reports ++ expires ++ dones

/-- When the stale keys can be removed. -/
def removalTimes {State : Type} (delay : Duration) :
    List (String × Key) → Effect State Fault (List (Option UnixTime))
  | [] => return []
  | (_, key) :: keys =>
      if key.keytype.mainState.stale then
        match key.timestamps.withdrawn with
        | none => panic "should be set when stale"
        | some withdrawn => do
            let others ← removalTimes delay keys
            return some (withdrawn + delay) :: others
      else
        removalTimes delay keys

def cronNextStarts (kss : KeySetState) (config : KeySetConfig) (need : Bool) :
    List (Option UnixTime) :=
  (if config.useCsk || need then
      cronNextAutoStart kss config.kskValidity (autoFull config need) anyRoll matchKsk ++
        cronNextAutoStart kss config.zskValidity (autoFull config need) anyRoll matchZsk
    else
      cronNextAutoStart kss config.kskValidity config.autoKsk conflictsWithKsk matchKsk ++
        cronNextAutoStart kss config.zskValidity config.autoZsk conflictsWithZsk
          matchZsk) ++
    cronNextAutoStart kss config.cskValidity (autoFull config need) anyRoll matchCsk

def cronNextSignatures (platform : Platform) (kss : KeySetState) (config : KeySetConfig)
    (now : UnixTime) : List (Option UnixTime) :=
  [computeCronNext platform kss.dnskeyRrset config.dnskeyRemainTime now,
    computeCronNext platform kss.cdsRrset config.cdsRemainTime now]

/-- All times at which cron may have something to do. -/
def cronNextEntries (env : Environment) (now : UnixTime) :
    Run (List (Option UnixTime)) := do
  let ws ← get
  let config := ws.config
  let need ← algorithmRollNeeded
  let ksk ← cronNextAutoReportExpireDone env ws.state config.autoKsk kskRolls
  let zsk ← cronNextAutoReportExpireDone env ws.state config.autoZsk zskRolls
  let csk ← cronNextAutoReportExpireDone env ws.state config.autoCsk [.cskRoll]
  let algorithm ←
    cronNextAutoReportExpireDone env ws.state config.autoAlgorithm [.algorithmRoll]
  let removals ← entriesIf config.autoremove
    (removalTimes config.autoremoveDelay ws.state.keyset.keys)
  return cronNextSignatures env.toPlatform ws.state config now ++
    cronNextStarts ws.state config need ++ ksk ++ zsk ++ csk ++ algorithm ++ removals

/-- Recompute `cron_next`. -/
def updateCronNext (env : Environment) (now : UnixTime) : Run Unit := do
  let entries ← cronNextEntries env now
  let ws ← get
  let cronNext := (entries.filterMap id).min?
  if cronNext = ws.state.cronNext then
    return ()
  else do
    modify fun ws => { ws with state.cronNext := cronNext }
    markStateChanged

end Dnst.Keyset
