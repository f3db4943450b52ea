import Dnst.Keyset.Command
import Mathlib.Algebra.Group.Int.Defs

/-! # A worked platform

A key set that steps through the KSK rolls, the pre-publish ZSK roll and the
algorithm roll that `init` starts, with URLs that can be read back and an
environment in which nothing fails. Results about arbitrary platforms are tried
out on it.
-/

namespace Dnst.Keyset.Reference

/-! ## Keys -/

def newState : KeyState := ⟨false, false, false, false⟩

def newTimestamps (creation : UnixTime) : KeyTimestamps :=
  ⟨some creation, none, none, none, none, none⟩

def newKeyType : KeyVariant → KeyType
  | .ksk => .ksk newState
  | .zsk => .zsk newState
  | .csk => .csk newState newState

/-- Add a key under a reference and with a key tag that are not in use. -/
def insertKey (pubref : String) (key : Key) (keyset : KeySet) :
    Except KeySetError KeySet :=
  if keyset.keys.any fun entry => entry.1 == pubref then
    .error (.other "key already exists")
  else if tagInUse keyset key.keyTag then
    .error (.other "duplicate key tag")
  else
    .ok { keyset with keys := keyset.keys ++ [(pubref, key)] }

def mapKeys (change : Key → Key) (keyset : KeySet) : KeySet :=
  { keyset with keys := keyset.keys.map fun entry => (entry.1, change entry.2) }

def changeKey (pubref : String) (change : Key → Key) (keyset : KeySet) :
    Except KeySetError KeySet :=
  if keyset.keys.any fun entry => entry.1 == pubref then
    .ok { keyset with
      keys := keyset.keys.map fun entry =>
        if entry.1 = pubref then (entry.1, change entry.2) else entry }
  else
    .error (.other "key not found")

def mapStates (change : KeyState → KeyState) : KeyType → KeyType
  | .ksk state => .ksk (change state)
  | .zsk state => .zsk (change state)
  | .csk kskState zskState => .csk (change kskState) (change zskState)
  | .include state => .include (change state)

def mapKskState (change : KeyState → KeyState) : KeyType → KeyType
  | .ksk state => .ksk (change state)
  | .csk kskState zskState => .csk (change kskState) zskState
  | keytype => keytype

def mapZskState (change : KeyState → KeyState) : KeyType → KeyType
  | .zsk state => .zsk (change state)
  | .csk kskState zskState => .csk kskState (change zskState)
  | keytype => keytype

def deleteKey (pubref : String) (keyset : KeySet) : Except KeySetError KeySet :=
  match keyset.keys.lookup pubref with
  | none => .error (.other "key not found")
  | some key =>
      if key.keytype.isStale then
        .ok { keyset with keys := keyset.keys.filter fun entry => entry.1 != pubref }
      else
        .error (.other "key not old")

/-! ## Rolls -/

def setRoll (roll : RollType) (state : Option RollState) (keyset : KeySet) : KeySet :=
  { keyset with rollstates := Function.update keyset.rollstates roll state }

/-- Rolls that cannot be in progress when this one starts. -/
def conflicts : RollType → RollType → Bool
  | .kskRoll => conflictsWithKsk
  | .kskDoubleDsRoll => conflictsWithKsk
  | .zskRoll => conflictsWithZsk
  | .zskDoubleSignatureRoll => conflictsWithZsk
  | .cskRoll => anyRoll
  | .algorithmRoll => anyRoll

def actions (roll : RollType) (state : RollState) : List Action :=
  match roll, state with
  | .kskRoll, .propagation1 => [.updateDnskeyRrset, .reportDnskeyPropagated]
  | .kskRoll, .propagation2 => [.createCdsRrset, .updateDsRrset, .reportDsPropagated]
  | .kskRoll, .done => [.removeCdsRrset, .updateDnskeyRrset, .waitDnskeyPropagated]
  | .kskDoubleDsRoll, .propagation1 =>
      [.createCdsRrset, .updateDsRrset, .reportDsPropagated]
  | .kskDoubleDsRoll, .propagation2 => [.updateDnskeyRrset, .reportDnskeyPropagated]
  | .kskDoubleDsRoll, .done => [.createCdsRrset, .updateDsRrset]
  | .zskRoll, .propagation1 => [.updateDnskeyRrset, .reportDnskeyPropagated]
  | .zskRoll, .propagation2 => [.updateRrsig, .reportRrsigPropagated]
  | .zskRoll, .done => [.updateDnskeyRrset, .waitDnskeyPropagated]
  | .algorithmRoll, .propagation1 =>
      [.updateDnskeyRrset, .updateRrsig, .reportDnskeyPropagated, .reportRrsigPropagated]
  | .algorithmRoll, .propagation2 =>
      [.createCdsRrset, .updateDsRrset, .reportDsPropagated]
  | .algorithmRoll, .done => [.removeCdsRrset]
  | _, _ => []

def onKeyType (change : KeyType → KeyType) (key : Key) : Key :=
  { key with keytype := change key.keytype }

def publish (now : UnixTime) (key : Key) : Key :=
  { key with
    timestamps := { key.timestamps with published := some (key.timestamps.published.getD now) } }

def see (now : UnixTime) (key : Key) : Key :=
  { key with
    timestamps := { key.timestamps with visible := some (key.timestamps.visible.getD now) } }

def seeDs (now : UnixTime) (key : Key) : Key :=
  { key with
    timestamps := { key.timestamps with dsVisible := some (key.timestamps.dsVisible.getD now) } }

def seeRrsig (now : UnixTime) (key : Key) : Key :=
  { key with
    timestamps :=
      { key.timestamps with rrsigVisible := some (key.timestamps.rrsigVisible.getD now) } }

/-- Retire the key in its role when `gone` holds. -/
def withdraw (role : (KeyState → KeyState) → KeyType → KeyType) (gone : KeyState → Bool)
    (now : UnixTime) (key : Key) : Key :=
  let retired := onKeyType
    (role fun state => if gone state then ⟨true, false, false, false⟩ else state) key
  if retired.keytype = key.keytype then key
  else { retired with timestamps := { retired.timestamps with withdrawn := some now } }

/-- What starting a roll makes of a new key. -/
def introduce (roll : RollType) (now : UnixTime) (key : Key) : Key :=
  match roll with
  | .kskRoll =>
      publish now (onKeyType (mapKskState fun state =>
        { state with present := true, signer := true }) key)
  | .kskDoubleDsRoll =>
      onKeyType (mapKskState fun state => { state with atParent := true }) key
  | .zskRoll =>
      publish now (onKeyType (mapZskState fun state => { state with present := true }) key)
  | _ =>
      publish now (onKeyType (mapStates fun state =>
        { state with present := true, signer := true }) key)

/-- The second half of a roll swaps the roles of old and new keys. -/
def swap (roll : RollType) (now : UnixTime) (key : Key) : Key :=
  match roll with
  | .kskDoubleDsRoll =>
      let swapped := onKeyType (mapKskState fun state =>
        if state.atParent then
          { state with present := !state.present, signer := !state.signer }
        else state) key
      if swapped.keytype.mainState.present then publish now swapped else swapped
  | .zskRoll =>
      onKeyType (mapZskState fun state =>
        if state.present then { state with signer := !state.signer } else state) key
  | _ =>
      onKeyType (mapKskState fun state =>
        if state.present then { state with atParent := !state.atParent } else state) key

/-- What the end of a roll makes of a key. -/
def retire (roll : RollType) (now : UnixTime) (key : Key) : Key :=
  match roll with
  | .kskDoubleDsRoll =>
      withdraw mapKskState (fun state => state.atParent && !state.present) now key
  | .zskRoll => withdraw mapZskState (fun state => state.present && !state.signer) now key
  | _ => withdraw mapKskState (fun state => state.present && !state.atParent) now key

/-- When a key has been seen at the place that the step waits for. -/
def seenAt (roll : RollType) (second : Bool) (timestamps : KeyTimestamps) :
    Option UnixTime :=
  match roll, second with
  | .kskDoubleDsRoll, false => timestamps.dsVisible
  | .kskDoubleDsRoll, true => timestamps.visible
  | .zskRoll, false => timestamps.visible
  | .zskRoll, true => timestamps.rrsigVisible
  | _, false => timestamps.visible
  | _, true => timestamps.dsVisible

def see? (roll : RollType) (second : Bool) (now : UnixTime) (key : Key) : Key :=
  match roll, second with
  | .kskDoubleDsRoll, false => seeDs now key
  | .zskRoll, true => seeRrsig now key
  | .kskDoubleDsRoll, true => see now key
  | _, false => see now key
  | _, true => seeDs now key

/-- The time when the last key was seen. -/
def lastSeen (roll : RollType) (second : Bool) (keyset : KeySet) : UnixTime :=
  ((keyset.keys.filterMap fun entry => seenAt roll second entry.2.timestamps).max?).getD 0

def supported : RollType → Bool
  | .kskRoll => true
  | .kskDoubleDsRoll => true
  | .zskRoll => true
  | .algorithmRoll => true
  | _ => false

def startRoll (now : UnixTime) (roll : RollType) (old new : List String) (keyset : KeySet) :
    Except KeySetError (List Action × KeySet) :=
  if rollInProgress keyset (conflicts roll) then
    .error (.other "conflicting roll in progress")
  else if !supported roll || (roll == .algorithmRoll && !old.isEmpty) then
    .error (.other "roll is not worked out")
  else
    let keys := keyset.keys.map fun entry =>
      if new.contains entry.1 then (entry.1, introduce roll now entry.2) else entry
    .ok (actions roll .propagation1, setRoll roll (some .propagation1) { keyset with keys })

def wrongState : Except KeySetError (List Action × KeySet) :=
  .error (.other "wrong state for roll operation")

def propagation1Complete (now : UnixTime) (roll : RollType) (ttl : Ttl) (keyset : KeySet) :
    Except KeySetError (List Action × KeySet) :=
  if keyset.rollstates roll = some .propagation1 then
    .ok ([], setRoll roll (some (.cacheExpire1 ttl)) (mapKeys (see? roll false now) keyset))
  else
    wrongState

def propagation2Complete (now : UnixTime) (roll : RollType) (ttl : Ttl) (keyset : KeySet) :
    Except KeySetError (List Action × KeySet) :=
  if keyset.rollstates roll = some .propagation2 then
    .ok ([], setRoll roll (some (.cacheExpire2 ttl)) (mapKeys (see? roll true now) keyset))
  else
    wrongState

def cacheExpired1 (now : UnixTime) (roll : RollType) (keyset : KeySet) :
    Except KeySetError (List Action × KeySet) :=
  match keyset.rollstates roll with
  | some (.cacheExpire1 ttl) =>
      let expires := lastSeen roll false keyset + fromSecs ttl
      if now < expires then
        .error (.wait (expires - now))
      else
        .ok (actions roll .propagation2,
          setRoll roll (some .propagation2) (mapKeys (swap roll now) keyset))
  | _ => wrongState

def cacheExpired2 (now : UnixTime) (roll : RollType) (keyset : KeySet) :
    Except KeySetError (List Action × KeySet) :=
  match keyset.rollstates roll with
  | some (.cacheExpire2 ttl) =>
      let expires := lastSeen roll true keyset + fromSecs ttl
      if now < expires then
        .error (.wait (expires - now))
      else
        .ok (actions roll .done,
          setRoll roll (some .done) (mapKeys (retire roll now) keyset))
  | _ => wrongState

def rollDone (_now : UnixTime) (roll : RollType) (keyset : KeySet) :
    Except KeySetError (List Action × KeySet) :=
  if keyset.rollstates roll = some .done then .ok ([], setRoll roll none keyset)
  else wrongState

def keySet : KeySetOps where
  addKey := fun variant pubref privref algorithm keyTag now =>
    insertKey pubref
      ⟨privref, false, newKeyType variant, algorithm, keyTag, newTimestamps now⟩
  addPublicKey := fun pubref algorithm keyTag now =>
    insertKey pubref ⟨none, false, .include newState, algorithm, keyTag, newTimestamps now⟩
  deleteKey := deleteKey
  setPresent := fun pubref value =>
    changeKey pubref (onKeyType (mapStates fun state => { state with present := value }))
  setSigner := fun pubref value =>
    changeKey pubref (onKeyType (mapStates fun state => { state with signer := value }))
  setAtParent := fun pubref value =>
    changeKey pubref (onKeyType (mapKskState fun state => { state with atParent := value }))
  setDecoupled := fun pubref value =>
    changeKey pubref fun key => { key with decoupled := value }
  setVisible := fun pubref now => changeKey pubref (see now)
  setDsVisible := fun pubref now => changeKey pubref (seeDs now)
  setRrsigVisible := fun pubref now => changeKey pubref (seeRrsig now)
  setStale := fun pubref =>
    changeKey pubref (onKeyType (mapStates fun _ => ⟨true, false, false, false⟩))
  startRoll := startRoll
  propagation1Complete := propagation1Complete
  cacheExpired1 := cacheExpired1
  propagation2Complete := propagation2Complete
  cacheExpired2 := cacheExpired2
  rollDone := rollDone
  actions := fun roll keyset => ((keyset.rollstates roll).map (actions roll)).getD []

/-! ## URLs and times -/

def showUrl : Url → String
  | .file path ending => "file://" ++ path ++ ending
  | .kmip serverId keyId => "kmip://" ++ serverId ++ "/" ++ keyId
  | .other scheme => scheme

def parseUrl (text : String) : Except String Url :=
  match text.toList with
  | 'f' :: 'i' :: 'l' :: 'e' :: ':' :: '/' :: '/' :: path => .ok (.file (String.ofList path))
  | 'k' :: 'm' :: 'i' :: 'p' :: ':' :: '/' :: '/' :: rest =>
      let (serverId, keyId) := rest.span (· != '/')
      .ok (.kmip (String.ofList serverId) (String.ofList (keyId.drop 1)))
  | _ => .ok (.other text)

/-- The instant that is closest to the reference and agrees with the timestamp
modulo `2 ^ 32` seconds. -/
def toSystemTime (timestamp : Nat) (reference : UnixTime) : Int :=
  let seconds : Int := asSecs reference
  let offset : Int := ((timestamp : Int) - seconds + 2 ^ 31) % 2 ^ 32 - 2 ^ 31
  (seconds + offset) * (nanosPerSec : Int)

def platform : Platform where
  keySet := keySet
  parseUrl := parseUrl
  showUrl := showUrl
  absolute := id
  digest := fun key digestType => .ok (key.publicKey + digestType)
  spanFits := fun duration => duration ≤ fromSecs 631107417600
  toSystemTime := toSystemTime

/-! ## An environment in which nothing fails -/

def offline : Network where
  queryNs := fun _ _ => .error "offline"
  querySoaOwner := fun _ _ => .error "offline"
  querySoa := fun _ _ => .error "offline"
  lookupHost := fun _ _ => .error "offline"
  queryAt := fun _ _ _ _ => .error "offline"
  connect := fun _ _ => .error "offline"
  axfr := fun _ _ => []

/-- The key that the n-th call to the key generator comes up with. -/
def generate (seed call : Nat) (params : GenerateParams) (flags : Nat) : Dnskey :=
  let number := 100 * seed + call
  { flags, algorithm := params.algorithm, publicKey := number, keyTag := number % 2 ^ 16 }

def environment (seed : Nat) (now : UnixTime) : Environment where
  toPlatform := platform
  keysetConf := "/keys/config"
  clock := fun _ => now
  failure := fun _ => none
  generate := fun call params flags => .ok (generate seed call params flags)
  kmipGenerate := fun call params flags =>
    let key := generate seed call params flags
    .ok ⟨.kmip "hsm" s!"{key.keyTag}_pub", .kmip "hsm" s!"{key.keyTag}", key⟩
  relabel := fun _ => .renamed
  network := offline

/-! ## A zone with imported keys -/

def zone : Name := ["example", "com"]

def importedKsk : Dnskey := ⟨257, 13, 1, 1⟩

def importedZsk : Dnskey := ⟨256, 13, 2, 2⟩

/-- The files of a KSK and a ZSK. -/
def importedFiles : KeyStore
  | .file "/keys/ksk.key" => some (.publicKey zone importedKsk)
  | .file "/keys/ksk.private" => some (.privateKey importedKsk)
  | .file "/keys/zsk.key" => some (.publicKey zone importedZsk)
  | .file "/keys/zsk.private" => some (.privateKey importedZsk)
  | _ => none

/-- The n-th command, a day after the one before. -/
def day (number : Nat) (command : Commands) : Environment × Commands :=
  (environment number (fromSecs (1000000 + 86400 * number)), command)

def importing (coupled : Bool) : List (Environment × Commands) :=
  [day 1 (.importKey (.ksk (.file "/keys/ksk.key" coupled none))),
    day 2 (.importKey (.zsk (.file "/keys/zsk.key" coupled none))),
    day 3 .init]

def created : System := create zone "/keys/state" "/keys" ⟨[]⟩ importedFiles

/-- The zone after it has been initialised with the imported keys. -/
def initialised (coupled : Bool) : System := runAll (importing coupled) created

theorem initialised_reachable (coupled : Bool) :
    Reachable platform (initialised coupled) := by
  have start : Reachable platform created := .create _ _ _ _ _
  have steps : AllMeet platform (fun _ _ _ => True) (importing coupled) created :=
    ⟨⟨rfl, trivial⟩, ⟨rfl, trivial⟩, ⟨rfl, trivial⟩, trivial⟩
  exact start.runAll steps

end Dnst.Keyset.Reference
