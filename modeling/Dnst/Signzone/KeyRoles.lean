import Dnst.Signzone.Reference

/-! # The roles of the signing keys

The keys are divided by the SEP flag. Either half stands in for the other when that is
empty, and the options add keys of one half to the other.
-/

namespace Dnst.Signzone

/-! ## One more key for each algorithm -/

section AddAlgorithms

variable {keys others : List SigningKey} {key : SigningKey}

theorem mem_addAlgorithms_of_mem (member : key ∈ keys) : key ∈ addAlgorithms keys others := by
  induction others generalizing keys with
  | nil => exact member
  | cons other others induction =>
      unfold addAlgorithms
      split
      · exact induction member
      · exact induction (List.mem_append_left _ member)

/-- A key is only added while no other key has its algorithm. -/
theorem addAlgorithms_nodup (distinct : keys.Nodup) : (addAlgorithms keys others).Nodup := by
  induction others generalizing keys with
  | nil => exact distinct
  | cons other others induction =>
      unfold addAlgorithms
      split
      · exact induction distinct
      · next missing =>
          apply induction
          have absent : other ∉ keys := by
            intro listed
            apply missing
            exact List.any_eq_true.mpr ⟨other, listed, by simp⟩
          apply List.nodup_append.mpr
          apply And.intro distinct
          apply And.intro (List.nodup_singleton other)
          intro first listed second added same
          rw [same, List.mem_singleton.mp added] at listed
          exact absent listed

/-- Some key of the list has the algorithm. -/
def HasAlgorithm (keys : List SigningKey) (algorithm : Nat) : Prop :=
  ∃ key ∈ keys, key.algorithm = algorithm

theorem HasAlgorithm.add {algorithm : Nat} (has : HasAlgorithm keys algorithm) :
    HasAlgorithm (addAlgorithms keys others) algorithm := by
  have ⟨key, member, same⟩ := has
  exact ⟨key, mem_addAlgorithms_of_mem member, same⟩

theorem hasAlgorithm_addAlgorithms (member : key ∈ others) :
    HasAlgorithm (addAlgorithms keys others) key.algorithm := by
  induction others generalizing keys with
  | nil => cases member
  | cons other others induction =>
      cases List.mem_cons.mp member with
      | inl head =>
          rw [head]
          unfold addAlgorithms
          split
          · next present =>
              have ⟨found, listed, same⟩ := List.any_eq_true.mp present
              exact HasAlgorithm.add ⟨found, listed, by simpa using same⟩
          · exact ⟨other, mem_addAlgorithms_of_mem (by simp), rfl⟩
      | inr later =>
          unfold addAlgorithms
          split
          · exact induction later
          · exact induction later

end AddAlgorithms

/-! ## The split -/

section Split

variable {options : SignZone} {signingKeys : List SigningKey}

def keySigningKeys (signingKeys : List SigningKey) : List SigningKey :=
  signingKeys.filter (·.isSecureEntryPoint)

def zoneSigningKeys (signingKeys : List SigningKey) : List SigningKey :=
  signingKeys.filter (!·.isSecureEntryPoint)

theorem mem_halves {key : SigningKey} (member : key ∈ signingKeys) :
    key ∈ keySigningKeys signingKeys ∨ key ∈ zoneSigningKeys signingKeys := by
  unfold keySigningKeys zoneSigningKeys
  cases sep : key.isSecureEntryPoint with
  | true => exact Or.inl (List.mem_filter.mpr ⟨member, sep⟩)
  | false => exact Or.inr (List.mem_filter.mpr ⟨member, by simp [sep]⟩)

theorem halves_disjoint {key : SigningKey} (sep : key ∈ keySigningKeys signingKeys) :
    key ∉ zoneSigningKeys signingKeys := by
  intro member
  have set := (List.mem_filter.mp sep).2
  have unset := (List.mem_filter.mp member).2
  simp [set] at unset

/-- The keys that sign the RRsets about keys before algorithms are added. -/
def dnskeySigners (options : SignZone) (signingKeys : List SigningKey) : List SigningKey :=
  if options.signDnskeysWithAllKeys then
    keySigningKeys signingKeys ++ zoneSigningKeys signingKeys
  else
    keySigningKeys signingKeys

theorem dnskeySigners_nodup (distinct : signingKeys.Nodup) :
    (dnskeySigners options signingKeys).Nodup := by
  unfold dnskeySigners
  split
  · apply List.nodup_append.mpr
    apply And.intro (distinct.filter _)
    apply And.intro (distinct.filter _)
    intro sep inKeys other inZone same
    rw [← same] at inZone
    exact halves_disjoint inKeys inZone
  · exact distinct.filter _

theorem mem_dnskeySigners {key : SigningKey} (sep : key ∈ keySigningKeys signingKeys) :
    key ∈ dnskeySigners options signingKeys := by
  unfold dnskeySigners
  split
  · exact List.mem_append_left _ sep
  · exact sep

/-- What the options promise of the keys that sign the RRsets about keys and of those
that sign the rest of the zone. -/
structure CoversRoles (options : SignZone) (signingKeys : List SigningKey)
    (roles : List SigningKey × List SigningKey) : Prop where
  keySigning : roles.1 ≠ []
  zoneSigning : roles.2 ≠ []
  keySigningNodup : roles.1.Nodup
  zoneSigningNodup : roles.2.Nodup
  everyAlgorithm : options.signWithEveryUniqueAlgorithm = true →
    ∀ key ∈ signingKeys,
      HasAlgorithm roles.1 key.algorithm ∧ HasAlgorithm roles.2 key.algorithm
  allKeys : options.signDnskeysWithAllKeys = true → ∀ key ∈ signingKeys, key ∈ roles.1
  halves : options.signWithEveryUniqueAlgorithm = false →
    options.signDnskeysWithAllKeys = false →
      keySigningKeys signingKeys ≠ [] → zoneSigningKeys signingKeys ≠ [] →
        roles = (keySigningKeys signingKeys, zoneSigningKeys signingKeys)

/-- Keys of one kind have both roles. -/
theorem coversRoles_same {keys : List SigningKey} (some_ : keys ≠ []) (distinct : keys.Nodup)
    (all : ∀ key ∈ signingKeys, key ∈ keys)
    (oneKind : keySigningKeys signingKeys = [] ∨ zoneSigningKeys signingKeys = []) :
    CoversRoles options signingKeys (keys, keys) where
  keySigning := some_
  zoneSigning := some_
  keySigningNodup := distinct
  zoneSigningNodup := distinct
  everyAlgorithm := by
    intro _ key member
    have found : HasAlgorithm keys key.algorithm := ⟨key, all key member, rfl⟩
    exact ⟨found, found⟩
  allKeys := fun _ => all
  halves := by
    intro _ _ sep unset
    cases oneKind with
    | inl none => exact absurd none sep
    | inr none => exact absurd none unset

theorem coversRoles_algorithms (distinct : signingKeys.Nodup)
    (sep : keySigningKeys signingKeys ≠ []) (unset : zoneSigningKeys signingKeys ≠ [])
    (every : options.signWithEveryUniqueAlgorithm = true) :
    CoversRoles options signingKeys
      (addAlgorithms (dnskeySigners options signingKeys) (zoneSigningKeys signingKeys),
        addAlgorithms (zoneSigningKeys signingKeys)
          (addAlgorithms (dnskeySigners options signingKeys) (zoneSigningKeys signingKeys))) where
  keySigning := by
    have ⟨key, member⟩ := List.exists_mem_of_ne_nil _ sep
    exact List.ne_nil_of_mem (mem_addAlgorithms_of_mem (mem_dnskeySigners member))
  zoneSigning := by
    have ⟨key, member⟩ := List.exists_mem_of_ne_nil _ unset
    exact List.ne_nil_of_mem (mem_addAlgorithms_of_mem member)
  keySigningNodup := addAlgorithms_nodup (dnskeySigners_nodup distinct)
  zoneSigningNodup := addAlgorithms_nodup (distinct.filter _)
  everyAlgorithm := by
    intro _ key member
    cases mem_halves member with
    | inl inKeys =>
        have signs : key ∈ addAlgorithms (dnskeySigners options signingKeys)
            (zoneSigningKeys signingKeys) :=
          mem_addAlgorithms_of_mem (mem_dnskeySigners inKeys)
        exact ⟨⟨key, signs, rfl⟩, hasAlgorithm_addAlgorithms signs⟩
    | inr inZone =>
        exact ⟨hasAlgorithm_addAlgorithms inZone, key, mem_addAlgorithms_of_mem inZone, rfl⟩
  allKeys := by
    intro all key member
    apply mem_addAlgorithms_of_mem
    unfold dnskeySigners
    rw [if_pos all]
    exact List.mem_append.mpr (mem_halves member)
  halves := by
    intro none
    rw [every] at none
    cases none

theorem coversRoles_halves (distinct : signingKeys.Nodup)
    (sep : keySigningKeys signingKeys ≠ []) (unset : zoneSigningKeys signingKeys ≠ [])
    (notEvery : options.signWithEveryUniqueAlgorithm = false) :
    CoversRoles options signingKeys
      (dnskeySigners options signingKeys, zoneSigningKeys signingKeys) where
  keySigning := by
    have ⟨key, member⟩ := List.exists_mem_of_ne_nil _ sep
    exact List.ne_nil_of_mem (mem_dnskeySigners member)
  zoneSigning := unset
  keySigningNodup := dnskeySigners_nodup distinct
  zoneSigningNodup := distinct.filter _
  everyAlgorithm := by
    intro every
    rw [notEvery] at every
    cases every
  allKeys := by
    intro all key member
    unfold dnskeySigners
    rw [if_pos all]
    exact List.mem_append.mpr (mem_halves member)
  halves := by
    intro _ notAll _ _
    unfold dnskeySigners
    rw [notAll]
    rfl

/-- The split in terms of the two halves. -/
theorem splitKeys_eq (options : SignZone) (signingKeys : List SigningKey) :
    splitKeys options signingKeys =
      if keySigningKeys signingKeys = [] then
        (zoneSigningKeys signingKeys, zoneSigningKeys signingKeys)
      else if zoneSigningKeys signingKeys = [] then
        (keySigningKeys signingKeys, keySigningKeys signingKeys)
      else if options.signWithEveryUniqueAlgorithm then
        (addAlgorithms (dnskeySigners options signingKeys) (zoneSigningKeys signingKeys),
          addAlgorithms (zoneSigningKeys signingKeys)
            (addAlgorithms (dnskeySigners options signingKeys) (zoneSigningKeys signingKeys)))
      else
        (dnskeySigners options signingKeys, zoneSigningKeys signingKeys) := by
  unfold splitKeys
  simp only [List.isEmpty_iff]
  rfl

/-- Somebody signs the rest of the zone. -/
theorem splitKeys_zoneSigning (some_ : signingKeys ≠ []) :
    (splitKeys options signingKeys).2 ≠ [] := by
  have ⟨key, member⟩ := List.exists_mem_of_ne_nil _ some_
  rw [splitKeys_eq]
  split
  · next noKeySigning =>
      cases mem_halves member with
      | inl sep =>
          rw [noKeySigning] at sep
          cases sep
      | inr unset => exact List.ne_nil_of_mem unset
  · next someKeySigning =>
      split
      · exact someKeySigning
      · next someZoneSigning =>
          split
          · have ⟨first, inZone⟩ := List.exists_mem_of_ne_nil _ someZoneSigning
            exact List.ne_nil_of_mem (mem_addAlgorithms_of_mem inZone)
          · exact someZoneSigning

theorem splitKeys_coversRoles (some_ : signingKeys ≠ []) (distinct : signingKeys.Nodup) :
    CoversRoles options signingKeys (splitKeys options signingKeys) := by
  have ⟨key, member⟩ := List.exists_mem_of_ne_nil _ some_
  rw [splitKeys_eq]
  by_cases noKeySigning : keySigningKeys signingKeys = []
  · have all : ∀ other ∈ signingKeys, other ∈ zoneSigningKeys signingKeys := by
      intro other listed
      cases mem_halves listed with
      | inl sep =>
          rw [noKeySigning] at sep
          cases sep
      | inr unset => exact unset
    rw [if_pos noKeySigning]
    exact coversRoles_same (List.ne_nil_of_mem (all key member)) (distinct.filter _) all
      (Or.inl noKeySigning)
  · rw [if_neg noKeySigning]
    by_cases noZoneSigning : zoneSigningKeys signingKeys = []
    · have all : ∀ other ∈ signingKeys, other ∈ keySigningKeys signingKeys := by
        intro other listed
        cases mem_halves listed with
        | inl sep => exact sep
        | inr unset =>
            rw [noZoneSigning] at unset
            cases unset
      rw [if_pos noZoneSigning]
      exact coversRoles_same noKeySigning (distinct.filter _) all (Or.inr noZoneSigning)
    · rw [if_neg noZoneSigning]
      cases every : options.signWithEveryUniqueAlgorithm with
      | true =>
          rw [if_pos rfl]
          exact coversRoles_algorithms distinct noKeySigning noZoneSigning every
      | false => exact coversRoles_halves distinct noKeySigning noZoneSigning every

end Split

namespace Reference

def everyAlgorithm : SignZone := { options with signWithEveryUniqueAlgorithm := true }

def sepKey : SigningKey := ⟨apex, 257, ⟨13, [1]⟩, 13, [1]⟩

def zoneKey : SigningKey := ⟨apex, 256, ⟨8, [2]⟩, 8, [2]⟩

end Reference

/-- Two keys of different kinds and algorithms get both roles. -/
theorem splitKeys_coversRoles_mixed :
    CoversRoles Reference.everyAlgorithm [Reference.sepKey, Reference.zoneKey]
      ([Reference.sepKey, Reference.zoneKey], [Reference.zoneKey, Reference.sepKey]) := by
  have split : splitKeys Reference.everyAlgorithm [Reference.sepKey, Reference.zoneKey] =
      ([Reference.sepKey, Reference.zoneKey], [Reference.zoneKey, Reference.sepKey]) := by decide
  rw [← split]
  exact splitKeys_coversRoles (by decide) (by decide)

end Dnst.Signzone
