import Dnst.Signzone.KeyInsertion

/-! # Panics

Besides what is done with the keys, one more step can panic: the SOA record of the apex
need not be parsed as one. The others end with a result or an error.
-/

namespace Dnst.Signzone

open Effect (bind_eq_ok)
open Keyset (Fault)

/-! ## Hashing and signing the zone -/

section Sign

variable {domain : Domain} {env : Env} {options : SignZone}

theorem hashName_neverPanics (apex name : Name) :
    NeverPanics (hashName domain options apex name) := neverPanics_mapError _ _

theorem insertEmptyNonTerminals_neverPanics (apex owner : Name) (hashes : Nsec3HashMap)
    (suffixes : List Name) :
    NeverPanics (insertEmptyNonTerminals domain options apex owner hashes suffixes) := by
  induction suffixes generalizing hashes with
  | nil => exact neverPanics_ok hashes
  | cons suffix others induction =>
      rw [insertEmptyNonTerminals]
      split
      · exact induction hashes
      · split
        · exact neverPanics_ok hashes
        · apply neverPanics_bind (hashName_neverPanics apex suffix)
          intro hashedName _
          split
          · exact neverPanics_ok hashes
          · exact induction _

theorem hashOwner_neverPanics (apex owner : Name) (state : HashState) :
    NeverPanics (hashOwner domain options apex owner state) := by
  unfold hashOwner
  apply neverPanics_bind (hashName_neverPanics apex owner)
  intro hashedName _
  dsimp only
  split
  · exact neverPanics_ok _
  · apply neverPanics_bind (insertEmptyNonTerminals_neverPanics apex owner _ _)
    intro hashes _
    exact neverPanics_ok _

theorem hashRrset_neverPanics (apex : Name) (state : HashState) (rrset : Rrset) :
    NeverPanics (hashRrset domain options apex state rrset) := by
  unfold hashRrset
  dsimp only
  split
  · exact neverPanics_ok _
  · split
    · exact neverPanics_ok _
    · split
      · exact neverPanics_ok _
      · exact hashOwner_neverPanics apex _ _

theorem nsec3Hashes_neverPanics (apex : Name) (records : SortedRecords) :
    NeverPanics (nsec3Hashes domain options apex records) := by
  unfold nsec3Hashes
  split
  · apply neverPanics_bind (neverPanics_foldlM (hashRrset_neverPanics apex) _)
    intro state _
    exact neverPanics_ok _
  · exact neverPanics_ok _

theorem createZonemdDigestAndRecords_neverPanics (zone : Zone) (records : SortedRecords)
    (zonemd : List ZonemdTuple) :
    NeverPanics (createZonemdDigestAndRecords domain zone records zonemd) := by
  apply neverPanics_mapM
  intro tuple _
  split
  · exact neverPanics_error _
  · apply neverPanics_bind
    · unfold createZonemdDigestSimple
      split
      · exact neverPanics_ok _
      · exact neverPanics_error _
    · intro digest _
      exact neverPanics_ok _

/-- With a key there is a signature to pop. -/
theorem updateZonemdRrsig_neverPanics {keys : List SigningKey} (some_ : keys ≠ []) (zone : Zone)
    (records : SortedRecords) (zonemdRrs : List Record) :
    NeverPanics (updateZonemdRrsig domain options zone records keys zonemdRrs) := by
  unfold updateZonemdRrsig
  split
  · exact neverPanics_ok records
  · next rrset _ =>
      apply neverPanics_bind (neverPanics_mapError _ _)
      intro rrsigs signed
      have popped : rrsigs ≠ [] := by
        cases each : keys.mapM fun key =>
            domain.signRrset key rrset options.inception options.expiration with
        | error reason =>
            rw [each] at signed
            cases signed
        | ok made =>
            rw [each] at signed
            cases signed
            exact mapM_ne_nil each some_
      split
      · exact neverPanics_ok _
      · next none_ => exact absurd (List.getLast?_eq_none_iff.mp none_) popped

theorem finishZonemd_neverPanics {mode : SigningMode} {keys : List SigningKey}
    (some_ : mode = .hashAndSign → keys ≠ []) (zone : Zone) (zonemd : List ZonemdTuple)
    (records : SortedRecords) :
    NeverPanics (finishZonemd domain options mode zone keys zonemd records) := by
  unfold finishZonemd
  apply neverPanics_bind (createZonemdDigestAndRecords_neverPanics zone _ zonemd)
  intro zonemdRrs _
  dsimp only
  split
  · next signs => exact updateZonemdRrsig_neverPanics (some_ signs) zone _ _
  · exact neverPanics_ok _

/-- There are keys when the zone is signed. -/
def Prepared.HasKeys (prepared : Prepared) : Prop :=
  prepared.mode = .hashAndSign → prepared.zoneSigningKeys ≠ []

theorem sign_neverPanics {prepared : Prepared} (hasKeys : prepared.HasKeys) :
    NeverPanics (sign domain options prepared) := by
  unfold sign
  apply neverPanics_bind (nsec3Hashes_neverPanics _ _)
  intro hashes _
  apply neverPanics_bind
  · unfold signRecords
    apply neverPanics_bind (neverPanics_mapError _ _)
    intro added _
    exact neverPanics_ok _
  · intro records _
    split
    · exact neverPanics_ok _
    · apply neverPanics_bind (finishZonemd_neverPanics hasKeys _ _ _)
      intro records _
      exact neverPanics_ok _

theorem writeZone_neverPanics (output : Output) (records : SortedRecords) :
    NeverPanics (writeZone domain output records) := by
  unfold writeZone
  dsimp only
  split
  · exact neverPanics_ok _
  · exact neverPanics_error _

theorem createOutput_neverPanics : NeverPanics (createOutput env options) := by
  unfold createOutput
  split
  · exact neverPanics_ok ()
  · exact neverPanics_mapError _ _

end Sign

/-! ## The command -/

section Execute

variable {domain : Domain} {env : Env} {options : SignZone}

theorem addKeys_hasKeys {zone : Zone} {keyed : KeyedZone} (some_ : options.keyPaths ≠ [])
    (added : addKeys domain env options zone = .ok keyed) : keyed.zoneSigningKeys ≠ [] := by
  rw [addKeys_eq] at added
  have ⟨keys, loaded, rest⟩ := bind_eq_ok added
  have ⟨_, _, rest⟩ := bind_eq_ok rest
  have ⟨_, _, rest⟩ := bind_eq_ok rest
  have ⟨_, _, rest⟩ := bind_eq_ok rest
  have ⟨_, _, rest⟩ := bind_eq_ok rest
  have ⟨_, _, rest⟩ := bind_eq_ok rest
  have ⟨_, _, made⟩ := bind_eq_ok rest
  cases made
  exact splitKeys_zoneSigning (mapM_ne_nil loaded some_)

/-- The argument parsers ask for keys when the zone is to be signed. -/
def KeysGiven (options : SignZone) : Prop :=
  signingMode options = .ok .hashAndSign → options.keyPaths ≠ []

theorem prepare_hasKeys {prepared : Prepared} (given : KeysGiven options)
    (ready : prepare domain env options = .ok prepared) : prepared.HasKeys := by
  intro signs
  have ⟨mode, isMode, rest⟩ := bind_eq_ok ready
  have ⟨zone, read, rest⟩ := bind_eq_ok rest
  split at rest
  · next isSign =>
      have ⟨keyed, added, made⟩ := bind_eq_ok rest
      cases made
      rw [isSign] at isMode
      exact addKeys_hasKeys (given isMode) added
  · next notSign =>
      cases rest
      exact absurd signs notSign

/-- The SOA record is parsed, and where the zone is signed, the keys fit the zone and each
other. -/
structure Fits (domain : Domain) (env : Env) (options : SignZone) : Prop where
  soa : SoaParsed env options
  keys : signingMode options = .ok .hashAndSign → ∀ zone keys,
    readZone env options = .ok zone → loadKeys domain env options zone = .ok keys →
      KeysFit domain options zone keys

theorem prepare_neverPanics_iff (signsType : SignsType domain) : NeverPanics (prepare domain env options) ↔
    ∀ mode, signingMode options = .ok mode → Fits domain env options := by
  unfold prepare
  rw [neverPanics_bind_iff]
  constructor
  · intro never mode isMode
    have ⟨reads, rest⟩ := neverPanics_bind_iff.mp (never.2 mode isMode)
    constructor
    · exact readZone_neverPanics_iff.mp reads
    · intro signs zone keys read loaded
      rw [signs] at isMode
      cases isMode
      have adds := rest zone read
      rw [if_pos rfl, neverPanics_bind_iff] at adds
      exact (addKeys_neverPanics_iff read signsType).mp adds.1 keys loaded
  · intro fits
    apply And.intro signingMode_neverPanics
    intro mode isMode
    have fit := fits mode isMode
    apply neverPanics_bind (readZone_neverPanics_iff.mpr fit.soa)
    intro zone read
    split
    · next signs =>
        rw [signs] at isMode
        apply neverPanics_bind ((addKeys_neverPanics_iff read signsType).mpr fun keys loaded =>
          fit.keys isMode zone keys read loaded)
        intro keyed _
        exact neverPanics_ok _
    · exact neverPanics_ok _

/-- The command never panics exactly when what is under `expect` succeeds. -/
theorem execute_neverPanics_iff (given : KeysGiven options) (signsType : SignsType domain) :
    NeverPanics (options.execute domain env) ↔
      ∀ mode, signingMode options = .ok mode → Fits domain env options := by
  rw [← prepare_neverPanics_iff signsType]
  unfold SignZone.execute
  rw [neverPanics_bind_iff]
  constructor
  · intro never
    exact never.1
  · intro never
    apply And.intro never
    intro prepared ready
    apply neverPanics_bind createOutput_neverPanics
    intro _ _
    apply neverPanics_bind (sign_neverPanics (prepare_hasKeys given ready))
    intro signed _
    exact writeZone_neverPanics _ _

end Execute

namespace Reference

theorem timedDomain_signsType : SignsType timedDomain := by
  intro key rrset inception expiration rrsig signed
  change (if _ then _ else _) = _ at signed
  split at signed
  · cases signed
  · cases signed
    rfl

def repeatedKey : SignZone := { options with keyPaths := ["one", "one"] }

def panics {Value : Type} : Except Fault Value → Bool
  | .error (.panic _) => true
  | _ => false

theorem not_neverPanics_of_panics {Value : Type} {result : Except Fault Value}
    (panicked : panics result = true) : ¬NeverPanics result := by
  intro never
  unfold panics at panicked
  split at panicked
  · next message => exact never message rfl
  · cases panicked

end Reference

open Reference in
/-- The two keys of the reference zone. -/
theorem execute_neverPanics_reference :
    NeverPanics (options.execute timedDomain (env [soaRecord apex 1])) ↔
      ∀ mode, signingMode options = .ok mode →
        Fits timedDomain (env [soaRecord apex 1]) options :=
  execute_neverPanics_iff (fun _ => List.cons_ne_nil _ _) timedDomain_signsType

open Reference in
/-- A key that is given twice is added twice, and a signature that expires before its
inception is not made. -/
theorem execute_panics :
    ¬NeverPanics (repeatedKey.execute timedDomain (env [soaRecord apex 1])) ∧
      ¬NeverPanics (expired.execute timedDomain (env [soaRecord apex 1])) := by
  constructor
  · apply not_neverPanics_of_panics
    decide +kernel
  · apply not_neverPanics_of_panics
    decide +kernel

end Dnst.Signzone
