import Dnst.Signzone.Zonemd
import Mathlib.Data.List.Infix

/-! # NSEC3 hashes of owner names

With NSEC3, the owner names of the zone and the empty non-terminals are hashed once more
for ordering and comments.
-/

namespace Dnst.Signzone

open Keyset (Fault)

structure Nsec3HashInfo where
  unhashedOwnerName : Name
  isEmptyNonTerminal : Bool

/-- Hashed names, each with the name it is the hash of. -/
abbrev Nsec3HashMap := List (Name × Nsec3HashInfo)

namespace Nsec3HashMap

def get (hashes : Nsec3HashMap) (hashedName : Name) : Option Nsec3HashInfo :=
  (hashes.find? (·.1 = hashedName)).map (·.2)

def insert (hashes : Nsec3HashMap) (hashedName : Name) (info : Nsec3HashInfo) : Nsec3HashMap :=
  (hashedName, info) :: hashes.filter (·.1 ≠ hashedName)

def getIfEnt (hashes : Nsec3HashMap) (hashedName : Name) : Option Name :=
  ((hashes.get hashedName).filter (·.isEmptyNonTerminal)).map (·.unhashedOwnerName)

end Nsec3HashMap

/-- From the name itself up to the root. -/
def Name.suffixes (name : Name) : List Name := name.inits.reverse

/-- The hashes so far, the last name that was hashed and the delegation it is at. -/
structure HashState where
  hashes : Nsec3HashMap
  prevName : Option Name
  delegation : Option Name

def hashName (domain : Domain) (options : SignZone) (apex name : Name) : Except Fault Name :=
  (domain.nsec3Hash name options.algorithm options.iterations options.salt apex).mapError
    fun reason => .error s!"NSEC3 error: {reason}"

/-- Insert the empty non-terminals above a name. -/
def insertEmptyNonTerminals (domain : Domain) (options : SignZone) (apex owner : Name)
    (hashes : Nsec3HashMap) : List Name → Except Fault Nsec3HashMap
  | [] => return hashes
  | suffix :: others =>
      if suffix = owner then insertEmptyNonTerminals domain options apex owner hashes others
      else if suffix = apex then return hashes
      else do
        let hashedName ← hashName domain options apex suffix
        if (hashes.get hashedName).isSome then return hashes
        else
          insertEmptyNonTerminals domain options apex owner
            (hashes.insert hashedName ⟨suffix, true⟩) others

/-- Is the owner below the delegation, so that it has no hash? -/
def belowDelegation (delegation : Option Name) (owner : Name) : Bool :=
  delegation.any fun name => owner ≠ name ∧ owner.endsWith name

def hashOwner (domain : Domain) (options : SignZone) (apex owner : Name) (state : HashState) :
    Except Fault HashState := do
  let hashedName ← hashName domain options apex owner
  let hashes := state.hashes.insert hashedName ⟨owner, false⟩
  if owner = apex then return { state with hashes }
  else
    let hashes ← insertEmptyNonTerminals domain options apex owner hashes owner.suffixes
    return { state with hashes }

def hashRrset (domain : Domain) (options : SignZone) (apex : Name) (state : HashState)
    (rrset : Rrset) : Except Fault HashState :=
  let owner := rrset.owner
  let delegates : Bool := rrset.rtype = Rtype.ns ∧ owner ≠ apex
  if state.prevName = some owner then
    -- The owner has been hashed with another type.
    return if delegates then { state with delegation := some owner } else state
  else if belowDelegation state.delegation owner then return state
  else
    let delegation := if delegates then some owner else state.delegation.filter (· = owner)
    if delegates ∧ options.nsec3OptOut then
      -- Another type at the same owner still counts.
      return { state with prevName := none, delegation }
    else hashOwner domain options apex owner { state with prevName := some owner, delegation }

/-- The hashes, when they are needed for the output. -/
def nsec3Hashes (domain : Domain) (options : SignZone) (apex : Name) (records : SortedRecords) :
    Except Fault (Option Nsec3HashMap) :=
  if options.useNsec3 ∧ (options.extraComments ∨ options.preceedZoneWithHashList ∨
      options.orderNsec3RrsByUnhashedOwnerName) then do
    let rrsets := records.rrsets.filterMap Rrset.ofList
    let state ← rrsets.foldlM (hashRrset domain options apex) ⟨[], none, none⟩
    return some state.hashes
  else return none

/-- Compare owners by their unhashed names; a hashed name comes after the same name unhashed. -/
def compareOwners (hashes : Nsec3HashMap) (one other : Name) : Ordering :=
  let unhashedOne := (hashes.get one).elim one (·.unhashedOwnerName)
  let unhashedOther := (hashes.get other).elim other (·.unhashedOwnerName)
  match compare unhashedOne unhashedOther with
  | .lt => .lt
  | .gt => .gt
  | .eq =>
      match (hashes.get one).isSome, (hashes.get other).isSome with
      | true, false => .gt
      | false, true => .lt
      | _, _ => .eq

end Dnst.Signzone
