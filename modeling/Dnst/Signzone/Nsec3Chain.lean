import Dnst.Signzone.Nsec3Walk
import Dnst.Signzone.Reference

/-! # The hash map and the NSEC3 chain

The names that have NSEC3 records, compared with those that the walk enters into the
hash map.
-/

namespace Dnst.Signzone

/-! ## The chain -/

section Chain

variable (records : List Record) (apex : Name) (optOut : Bool)

def Owns (name : Name) : Prop := ∃ record ∈ records, record.owner = name

def OwnsRtype (name : Name) (rtype : Rtype) : Prop :=
  ∃ record ∈ records, record.owner = name ∧ record.rtype = rtype

/-- A name of the zone that is delegated to another one. -/
def IsDelegation (name : Name) : Prop :=
  OwnsRtype records name Rtype.ns ∧ apex <+: name ∧ name ≠ apex

/-- The zone answers for this owner, or delegates it. -/
def Authoritative (name : Name) : Prop :=
  Owns records name ∧ apex <+: name ∧
    ¬∃ cut, IsDelegation records apex cut ∧ cut ≠ name ∧ cut <+: name

def UnsignedDelegation (name : Name) : Prop :=
  IsDelegation records apex name ∧ ¬OwnsRtype records name Rtype.ds

/-- With opt-out, unsigned delegations are left out. -/
def IsChainOwner (name : Name) : Prop :=
  Authoritative records apex name ∧ ¬(optOut = true ∧ UnsignedDelegation records apex name)

def EmptyNonTerminal (name : Name) : Prop :=
  ¬Owns records name ∧ ∃ owner, IsChainOwner records apex optOut owner ∧
    (apex <+: name ∧ apex ≠ name) ∧ (name <+: owner ∧ name ≠ owner)

/-- The names that have NSEC3 records. -/
def InChain (name : Name) : Prop :=
  IsChainOwner records apex optOut name ∨ EmptyNonTerminal records apex optOut name

/-- The map has the hashes of the chain, each with its name. -/
def HashesMatch (hash : Name → Name) (hashes : Nsec3HashMap) : Prop :=
  ∀ hashedName info, hashes.get hashedName = some info ↔
    InChain records apex optOut info.unhashedOwnerName ∧
      hash info.unhashedOwnerName = hashedName ∧
      (info.isEmptyNonTerminal = true ↔ ¬Owns records info.unhashedOwnerName)

/-- An NSEC3 record leads from a name of the chain to another one. -/
structure Links (domain : Domain) (hash : Name → Name) (record : Record) (nsec3 : Nsec3)
    (name next : Name) : Prop where
  name_mem : InChain records apex optOut name
  next_mem : InChain records apex optOut next
  owner : record.owner = hash name
  nextOwner : apex ++ [domain.nextOwnerLabel nsec3.nextOwner] = hash next

/-- The comments of the NSEC3 records tell both names. -/
def CommentsMatch (domain : Domain) (options : SignZone) (hash : Name → Name)
    (hashes : Nsec3HashMap) : Prop :=
  ∀ record nsec3 name next, Links records apex optOut domain hash record nsec3 name next →
    nsec3Comment domain ⟨options, apex, some hashes⟩ record nsec3 =
      .nsec3 nsec3.optOut (some (some name, some next))

end Chain

theorem commentsMatch_of_hashesMatch {records : List Record} {apex : Name} {optOut : Bool}
    {domain : Domain} {options : SignZone} {hash : Name → Name} {hashes : Nsec3HashMap}
    (hashesMatch : HashesMatch records apex optOut hash hashes) :
    CommentsMatch records apex optOut domain options hash hashes := by
  have known : ∀ name, InChain records apex optOut name →
      (hashes.get (hash name)).map (·.unhashedOwnerName) = some name := by
    intro name inChain
    by_cases owns : Owns records name
    · rw [(hashesMatch (hash name) ⟨name, false⟩).mpr ⟨inChain, rfl, by simpa using owns⟩]
      rfl
    · rw [(hashesMatch (hash name) ⟨name, true⟩).mpr ⟨inChain, rfl, by simpa using owns⟩]
      rfl
  intro record nsec3 name next links
  unfold nsec3Comment
  rw [links.owner, links.nextOwner, Option.map_some]
  dsimp only
  rw [known name links.name_mem, known next links.next_mem]

/-! ## The RRsets of the zone -/

section Rrsets

variable {records : SortedRecords} {apex name : Name} {optOut : Bool}

/-- The RRsets that are walked. -/
def walkedRrsets (records : SortedRecords) : List Rrset := records.rrsets.filterMap Rrset.ofList

theorem exists_rrset_iff (holds : Name → Rtype → Prop) :
    (∃ rrset ∈ walkedRrsets records, holds rrset.owner rrset.rtype) ↔
      ∃ record ∈ records.toList, holds record.owner record.rtype := by
  constructor
  · intro ⟨rrset, member, is⟩
    have ⟨run, inRuns, made⟩ := List.mem_filterMap.mp member
    cases run with
    | nil => cases made
    | cons first others =>
        cases made
        exact ⟨first, SortedList.mem_run inRuns List.mem_cons_self, is⟩
  · intro ⟨record, member, is⟩
    have ⟨run, inRuns, inRun⟩ : ∃ run ∈ records.rrsets, record ∈ run :=
      SortedList.exists_run member
    cases run with
    | nil => cases inRun
    | cons first others =>
        have ⟨sameOwner, sameType⟩ := Record.rrsetKey_eq_iff.mp
          (SortedList.kind_of_mem_run inRuns inRun List.mem_cons_self)
        have ⟨_, owner⟩ := Record.ownerKey_eq_iff.mp sameOwner
        refine ⟨⟨first, others⟩, List.mem_filterMap.mpr ⟨_, inRuns, rfl⟩, ?_⟩
        rw [owner, sameType] at is
        exact is

theorem firsts_sublist (runs : List (List Record)) :
    ((runs.filterMap Rrset.ofList).map Rrset.first).Sublist runs.flatten := by
  induction runs with
  | nil => exact List.Sublist.refl _
  | cons run runs induction =>
      cases run with
      | nil => exact induction
      | cons first others =>
          rw [List.filterMap_cons, List.flatten_cons]
          exact List.Sublist.cons_cons first (induction.trans (List.sublist_append_right _ _))

theorem walkedRrsets_ordered (sorted : SortedList.Ordered Record.owner records.toList) :
    (walkedRrsets records).Pairwise fun earlier later => earlier.owner ≤ later.owner := by
  have firsts := firsts_sublist records.rrsets
  unfold SortedRecords.rrsets at firsts
  rw [SortedList.flatten_runs] at firsts
  have ordered : ((walkedRrsets records).map Rrset.first).Pairwise fun earlier later =>
      earlier.owner ≤ later.owner := List.Pairwise.sublist firsts sorted
  exact (@List.pairwise_map _ _ Rrset.first _ _).mp ordered

theorem ownsType_iff {rtype : Rtype} :
    OwnsType (walkedRrsets records) name rtype ↔ OwnsRtype records.toList name rtype :=
  exists_rrset_iff fun owner type => owner = name ∧ type = rtype

/-- The collection is in the order of the owners when all records have one class. -/
theorem sorted_of_class (class' : Nat)
    (one : ∀ record ∈ records.toList, record.class' = class') :
    SortedList.Ordered Record.owner records.toList := by
  apply List.Pairwise.imp_of_mem _ records.ordered
  intro record other isRecord isOther below
  have sameClass := (one record isRecord).trans (one other isOther).symm
  cases Prod.Lex.le_iff.mp (Record.ownerKey_le_of_rrsetKey below) with
  | inl less => exact absurd sameClass (ne_of_lt less)
  | inr equal => exact equal.2

/-- Below NS records in the zone or above it. -/
def BelowNs (records : List Record) (apex name : Name) : Prop :=
  ∃ cut, (OwnsRtype records cut Rtype.ns ∧ cut ≠ apex) ∧ cut ≠ name ∧ cut <+: name

theorem belowCut_iff : BelowCut (walkedRrsets records) apex name ↔
    BelowNs records.toList apex name := by
  unfold BelowCut BelowNs Delegates
  simp only [ownsType_iff]

/-- The owner has a record that is not skipped. -/
def OwnsOther (records : List Record) (apex : Name) (optOut : Bool) (name : Name) : Prop :=
  ∃ record ∈ records, record.owner = name ∧
    ¬((record.rtype = Rtype.ns ∧ record.owner ≠ apex) ∧ optOut = true)

theorem hashed_iff : Hashed (walkedRrsets records) apex optOut name ↔
    OwnsOther records.toList apex optOut name ∧ ¬BelowNs records.toList apex name := by
  unfold Hashed
  rw [belowCut_iff]
  apply and_congr_left
  intro _
  exact exists_rrset_iff fun owner type =>
    owner = name ∧ ¬((type = Rtype.ns ∧ owner ≠ apex) ∧ optOut = true)

end Rrsets

/-! ## Zones that are walked like their chain -/

section WalkedLikeChain

variable {records : List Record} {apex name : Name} {optOut : Bool}

def OnlyNs (records : List Record) (name : Name) : Prop :=
  ∀ record ∈ records, record.owner = name → record.rtype = Rtype.ns

/-- No owner is outside of the zone, except for delegations with opt-out and what is below
them; no NS records are above the apex; and with opt-out, unsigned delegations have nothing
but NS records. -/
structure WalkedLikeChain (records : List Record) (apex : Name) (optOut : Bool) : Prop where
  inZone : ∀ name, Owns records name → ¬BelowNs records apex name →
    ¬(optOut = true ∧ OnlyNs records name) → apex <+: name
  notAbove : ∀ name, name <+: apex → name ≠ apex → ¬OwnsRtype records name Rtype.ns
  onlyNs : optOut = true → ∀ name, Authoritative records apex name →
    UnsignedDelegation records apex name → OnlyNs records name

theorem ownsOther_iff (notApex : name ≠ apex) : OwnsOther records apex optOut name ↔
    Owns records name ∧ ¬(optOut = true ∧ OnlyNs records name) := by
  unfold OwnsOther Owns OnlyNs
  constructor
  · intro ⟨record, member, owner, notSkipped⟩
    apply And.intro ⟨record, member, owner⟩
    intro ⟨isOptOut, onlyNs⟩
    exact notSkipped ⟨⟨onlyNs record member owner, owner ▸ notApex⟩, isOptOut⟩
  · intro ⟨⟨record, member, owner⟩, notOnly⟩
    by_cases isOptOut : optOut = true
    · by_contra none_
      apply notOnly
      apply And.intro isOptOut
      intro other isOther otherOwner
      by_contra notNs
      exact none_ ⟨other, isOther, otherOwner, fun skipped => notNs skipped.1.1⟩
    · exact ⟨record, member, owner, fun skipped => isOptOut skipped.2⟩

theorem ownsOther_apex : OwnsOther records apex optOut apex ↔ Owns records apex := by
  unfold OwnsOther Owns
  constructor
  · intro ⟨record, member, owner, _⟩
    exact ⟨record, member, owner⟩
  · intro ⟨record, member, owner⟩
    exact ⟨record, member, owner, fun skipped => skipped.1.2 owner⟩

/-- Without NS records above the apex, the cuts that matter are in the zone. -/
theorem belowNs_iff (notAbove : ∀ name, name <+: apex → name ≠ apex →
    ¬OwnsRtype records name Rtype.ns) (inZone : apex <+: name) :
    BelowNs records apex name ↔
      ∃ cut, IsDelegation records apex cut ∧ cut ≠ name ∧ cut <+: name := by
  unfold BelowNs IsDelegation
  constructor
  · intro ⟨cut, ⟨owns, notApex⟩, ne, above⟩
    refine ⟨cut, ⟨owns, ?_, notApex⟩, ne, above⟩
    cases List.prefix_or_prefix_of_prefix above inZone with
    | inl isAbove => exact absurd owns (notAbove cut isAbove notApex)
    | inr cutInZone => exact cutInZone
  · intro ⟨cut, ⟨owns, _, notApex⟩, below⟩
    exact ⟨cut, ⟨owns, notApex⟩, below⟩

theorem WalkedLikeChain.isChainOwner_iff (like : WalkedLikeChain records apex optOut) :
    IsChainOwner records apex optOut name ↔
      OwnsOther records apex optOut name ∧ ¬BelowNs records apex name := by
  unfold IsChainOwner Authoritative
  constructor
  · intro ⟨⟨owns, inZone, notBelow⟩, notLeftOut⟩
    rw [belowNs_iff like.notAbove inZone]
    refine ⟨?_, notBelow⟩
    by_cases isApex : name = apex
    · rw [isApex] at owns ⊢
      exact ownsOther_apex.mpr owns
    · apply (ownsOther_iff isApex).mpr
      apply And.intro owns
      intro ⟨isOptOut, onlyNs⟩
      have ⟨record, member, owner⟩ := owns
      apply notLeftOut
      refine ⟨isOptOut, ⟨⟨record, member, owner, onlyNs record member owner⟩, inZone, isApex⟩, ?_⟩
      intro ⟨other, isOther, otherOwner, isDs⟩
      have isNs := onlyNs other isOther otherOwner
      exact absurd (isDs.symm.trans isNs) (by decide)
  · intro ⟨ownsOther, notBelow⟩
    by_cases isApex : name = apex
    · rw [isApex] at ownsOther notBelow ⊢
      rw [belowNs_iff like.notAbove List.prefix_rfl] at notBelow
      exact ⟨⟨ownsOther_apex.mp ownsOther, List.prefix_rfl, notBelow⟩,
        fun leftOut => leftOut.2.1.2.2 rfl⟩
    · have ⟨owns, notOnly⟩ := (ownsOther_iff isApex).mp ownsOther
      have inZone := like.inZone name owns notBelow notOnly
      rw [belowNs_iff like.notAbove inZone] at notBelow
      refine ⟨⟨owns, inZone, notBelow⟩, ?_⟩
      intro ⟨isOptOut, unsigned⟩
      exact notOnly ⟨isOptOut, like.onlyNs isOptOut name ⟨owns, inZone, notBelow⟩ unsigned⟩

end WalkedLikeChain

/-! ## The names that are entered -/

section Entered

variable {records : SortedRecords} {apex name : Name} {optOut : Bool}

theorem between_iff {owner : Name} (inZone : apex <+: owner) :
    Between apex owner name ↔ (apex <+: name ∧ apex ≠ name) ∧ (name <+: owner ∧ name ≠ owner) := by
  unfold Between
  constructor
  · intro ⟨above, ne, stops⟩
    have notShort : ¬name <+: apex := fun short => stops ⟨inZone, short⟩
    have isLower := (List.prefix_or_prefix_of_prefix above inZone).resolve_left notShort
    refine ⟨⟨isLower, ?_⟩, above, ne⟩
    intro same
    rw [same] at notShort
    exact notShort List.prefix_rfl
  · intro ⟨⟨isLower, apexNe⟩, above, ne⟩
    refine ⟨above, ne, ?_⟩
    intro ⟨_, short⟩
    exact apexNe (isLower.eq_of_length_le short.length_le)

/-- A name above one that is walked is walked itself if it owns records. -/
theorem hashed_above {owner : Name} (hashed : Hashed (walkedRrsets records) apex optOut owner)
    (above : name <+: owner) (ne : name ≠ owner) (notApex : name ≠ apex)
    (owns : Owns records.toList name) : Hashed (walkedRrsets records) apex optOut name := by
  rw [hashed_iff, ownsOther_iff notApex]
  rw [hashed_iff, ← belowCut_iff] at hashed
  constructor
  · apply And.intro owns
    intro ⟨_, onlyNs⟩
    have ⟨record, member, isOwner⟩ := owns
    apply hashed.2
    rw [belowCut_iff]
    exact ⟨name, ⟨⟨record, member, isOwner, onlyNs record member isOwner⟩, notApex⟩, ne, above⟩
  · rw [← belowCut_iff]
    intro below
    exact hashed.2 (belowCut_below below above)

theorem WalkedLikeChain.entered_iff (like : WalkedLikeChain records.toList apex optOut) :
    Entered (walkedRrsets records) apex optOut name ↔
      InChain records.toList apex optOut name := by
  have isHashed : ∀ owner, Hashed (walkedRrsets records) apex optOut owner ↔
      IsChainOwner records.toList apex optOut owner :=
    fun owner => hashed_iff.trans like.isChainOwner_iff.symm
  unfold Entered InChain EmptyNonTerminal
  constructor
  · intro ⟨owner, hashed, is⟩
    have chainOwner := (isHashed owner).mp hashed
    cases is with
    | inl same =>
        rw [same]
        exact Or.inl chainOwner
    | inr between =>
        have ⟨⟨isLower, apexNe⟩, above, ne⟩ := (between_iff chainOwner.1.2.1).mp between
        by_cases owns : Owns records.toList name
        · exact Or.inl ((isHashed name).mp (hashed_above hashed above ne apexNe.symm owns))
        · exact Or.inr ⟨owns, owner, chainOwner, ⟨isLower, apexNe⟩, above, ne⟩
  · intro is
    cases is with
    | inl chainOwner => exact ⟨name, (isHashed name).mpr chainOwner, Or.inl rfl⟩
    | inr empty =>
        have ⟨_, owner, chainOwner, between⟩ := empty
        exact ⟨owner, (isHashed owner).mpr chainOwner,
          Or.inr ((between_iff chainOwner.1.2.1).mpr between)⟩

/-- Entered names are hashed as owners exactly when they own records. -/
theorem hashed_iff_owns (entered : Entered (walkedRrsets records) apex optOut name) :
    Hashed (walkedRrsets records) apex optOut name ↔ Owns records.toList name := by
  have ownsOfHashed : ∀ {owner}, Hashed (walkedRrsets records) apex optOut owner →
      Owns records.toList owner := by
    intro owner hashed
    have ⟨⟨record, member, isOwner, _⟩, _⟩ := hashed_iff.mp hashed
    exact ⟨record, member, isOwner⟩
  constructor
  · exact ownsOfHashed
  · intro owns
    have ⟨owner, hashed, is⟩ := entered
    cases is with
    | inl same =>
        rw [same]
        exact hashed
    | inr between =>
        have ⟨above, ne, stops⟩ := between
        apply hashed_above hashed above ne _ owns
        intro isApex
        rw [isApex] at above stops
        exact stops ⟨above, List.prefix_rfl⟩

/-- The walk enters exactly the chain of such zones. -/
theorem entered_iff_inChain_iff (apexOwns : Owns records.toList apex) :
    (∀ name, Entered (walkedRrsets records) apex optOut name ↔
      InChain records.toList apex optOut name) ↔
        WalkedLikeChain records.toList apex optOut := by
  constructor
  · intro same
    have inZone : ∀ {name}, InChain records.toList apex optOut name → apex <+: name := by
      intro name inChain
      cases inChain with
      | inl chainOwner => exact chainOwner.1.2.1
      | inr empty =>
          have ⟨_, _, _, ⟨isLower, _⟩, _⟩ := empty
          exact isLower
    have apexInChain : InChain records.toList apex optOut apex := by
      refine Or.inl ⟨⟨apexOwns, List.prefix_rfl, ?_⟩, fun leftOut => leftOut.2.1.2.2 rfl⟩
      intro ⟨cut, ⟨_, cutInZone, _⟩, ne, above⟩
      exact ne (above.eq_of_length_le cutInZone.length_le)
    have notAbove : ∀ name, name <+: apex → name ≠ apex →
        ¬OwnsRtype records.toList name Rtype.ns := by
      intro name above ne owns
      have ⟨owner, hashed, is⟩ := (same apex).mpr apexInChain
      have apexAbove : apex <+: owner := by
        cases is with
        | inl equal => rw [equal]
        | inr between => exact between.1
      refine (hashed_iff.mp hashed).2 ⟨name, ⟨owns, ne⟩, ?_, above.trans apexAbove⟩
      intro equal
      rw [equal] at above ne
      exact ne (above.eq_of_length_le apexAbove.length_le)
    constructor
    · intro name owns notBelow notOnly
      by_cases isApex : name = apex
      · rw [isApex]
      · apply inZone
        apply (same name).mp
        exact ⟨name, hashed_iff.mpr ⟨(ownsOther_iff isApex).mpr ⟨owns, notOnly⟩, notBelow⟩,
          Or.inl rfl⟩
    · exact notAbove
    · intro isOptOut name authoritative unsigned
      by_contra notOnly
      have ⟨owns, nameInZone, notBelow⟩ := authoritative
      rw [← belowNs_iff notAbove nameInZone] at notBelow
      have hashed : Hashed (walkedRrsets records) apex optOut name := hashed_iff.mpr
        ⟨(ownsOther_iff unsigned.1.2.2).mpr ⟨owns, fun only => notOnly only.2⟩, notBelow⟩
      cases (same name).mp ⟨name, hashed, Or.inl rfl⟩ with
      | inl chainOwner => exact chainOwner.2 ⟨isOptOut, unsigned⟩
      | inr empty => exact empty.1 owns
  · intro like name
    exact like.entered_iff

end Entered

/-! ## The map -/

section Map

variable {domain : Domain} {options : SignZone} {apex : Name} {hash : Name → Name}
variable {records : SortedRecords}

/-- The options for which the hashes are needed. -/
def NeedsHashes (options : SignZone) : Prop :=
  options.useNsec3 = true ∧ (options.extraComments = true ∨
    options.preceedZoneWithHashList = true ∨ options.orderNsec3RrsByUnhashedOwnerName = true)

/-- No two names at or above the owners have the same hash. -/
def HashesApart (hash : Name → Name) (records : List Record) : Prop :=
  ∀ one other, (∃ record ∈ records, one <+: record.owner) →
    (∃ record ∈ records, other <+: record.owner) → hash one = hash other → one = other

theorem nsec3Hashes_stores (needs : NeedsHashes options)
    (supports : Supports domain options apex hash)
    (sorted : SortedList.Ordered Record.owner records.toList)
    (hashesApart : HashesApart hash records.toList) :
    ∃ hashes, nsec3Hashes domain options apex records = .ok (some hashes) ∧
      Stores hash hashes (Entered (walkedRrsets records) apex options.nsec3OptOut)
        fun name => ¬Owns records.toList name := by
  have noCollisions : NoCollisions hash ([] ++ walkedRrsets records) := by
    intro one other inOne inOther
    exact hashesApart one other
      ((exists_rrset_iff fun owner _ => one <+: owner).mp inOne)
      ((exists_rrset_iff fun owner _ => other <+: owner).mp inOther)
  have ⟨last, ran, walked⟩ : ∃ last,
      (walkedRrsets records).foldlM (hashRrset domain options apex) ⟨[], none, none⟩ = .ok last ∧
        Walked hash apex options.nsec3OptOut ([] ++ walkedRrsets records) last :=
    (walked_start options.nsec3OptOut).run supports (walkedRrsets_ordered sorted) noCollisions
  apply Exists.intro last.hashes
  constructor
  · unfold NeedsHashes at needs
    unfold nsec3Hashes
    rw [if_pos needs]
    change ((walkedRrsets records).foldlM (hashRrset domain options apex) ⟨[], none, none⟩ >>=
      _) = _
    rw [ran]
    rfl
  · apply walked.stores.congr fun _ => Iff.rfl
    intro name entered
    exact not_congr (hashed_iff_owns entered)

theorem hashesMatch_iff {optOut : Bool} {hashes : Nsec3HashMap}
    (stores : Stores hash hashes (Entered (walkedRrsets records) apex optOut)
      fun name => ¬Owns records.toList name) :
    HashesMatch records.toList apex optOut hash hashes ↔
      ∀ name, Entered (walkedRrsets records) apex optOut name ↔
        InChain records.toList apex optOut name := by
  constructor
  · intro hashesMatch name
    have flagged : ∃ flag : Bool, flag = true ↔ ¬Owns records.toList name := by
      by_cases owns : Owns records.toList name
      · exact ⟨false, by simpa using owns⟩
      · exact ⟨true, by simpa using owns⟩
    have ⟨flag, isFlag⟩ := flagged
    constructor
    · intro entered
      have found := (stores (hash name) ⟨name, flag⟩).mpr ⟨entered, rfl, isFlag⟩
      exact ((hashesMatch _ _).mp found).1
    · intro inChain
      have found := (hashesMatch (hash name) ⟨name, flag⟩).mpr ⟨inChain, rfl, isFlag⟩
      exact ((stores _ _).mp found).1
  · intro same hashedName info
    rw [stores hashedName info, same]

/-- The hash map matches the NSEC3 chain exactly for zones that are walked like their
chain. -/
theorem nsec3Hashes_match_iff (needs : NeedsHashes options)
    (supports : Supports domain options apex hash)
    (sorted : SortedList.Ordered Record.owner records.toList)
    (apexOwns : Owns records.toList apex) (hashesApart : HashesApart hash records.toList) :
    ∃ hashes, nsec3Hashes domain options apex records = .ok (some hashes) ∧
      ((HashesMatch records.toList apex options.nsec3OptOut hash hashes ∧
          CommentsMatch records.toList apex options.nsec3OptOut domain options hash hashes) ↔
        WalkedLikeChain records.toList apex options.nsec3OptOut) := by
  have ⟨hashes, ran, stores⟩ := nsec3Hashes_stores needs supports sorted hashesApart
  apply Exists.intro hashes
  apply And.intro ran
  rw [and_iff_left_of_imp commentsMatch_of_hashesMatch, hashesMatch_iff stores]
  exact entered_iff_inChain_iff apexOwns

end Map

/-! ### Zones -/

namespace Reference

/-- Names in wire format stand for their hashes. -/
def hashedOwner (name : Name) : Name := apex ++ [name.canonical]

def hashingDomain : Domain := { domain with nsec3Hash := fun name _ _ _ _ => .ok (hashedOwner name) }

/-- NSEC3 with comments, and unsigned delegations left out. -/
def optOutOptions : SignZone :=
  { options with useNsec3 := true, nsec3OptOut := true, extraComments := true }

def record (owner : Name) (rtype : Rtype) : Record :=
  { owner, class' := 1, ttl := 3600, data := .unknown rtype [1] }

/-- An unsigned delegation. -/
def delegatingZone : List Record := [soaRecord apex 1, record child Rtype.ns]

/-- The name server of the delegation has its name. -/
def gluedZone : List Record := [soaRecord apex 1, record child 1, record child Rtype.ns]

/-- A record of another zone. -/
def foreignZone : List Record := [soaRecord apex 1, record [[102]] 1]

theorem labels_injective {one other : List Octets}
    (same : one.flatMap (fun label => label.length :: label) =
      other.flatMap fun label => label.length :: label) : one = other := by
  induction one generalizing other with
  | nil =>
      cases other with
      | nil => rfl
      | cons label rest => cases same
  | cons label rest induction =>
      cases other with
      | nil => cases same
      | cons otherLabel otherRest =>
          rw [List.flatMap_cons, List.flatMap_cons] at same
          have ⟨lengths, rests⟩ := List.cons_eq_cons.mp same
          have ⟨sameLabel, sameRest⟩ := List.append_inj rests lengths
          rw [sameLabel, induction sameRest]

theorem hashedOwner_injective {one other : Name} (same : hashedOwner one = hashedOwner other) :
    one = other := by
  have labels := List.cons.inj (List.append_cancel_left same)
  unfold Name.canonical at labels
  exact List.reverse_injective (labels_injective (List.append_cancel_right labels.1))

theorem not_inChain_outside {records : List Record} {apex name : Name} {optOut : Bool}
    (outside : ¬apex <+: name) : ¬InChain records apex optOut name := by
  intro inChain
  cases inChain with
  | inl chainOwner => exact outside chainOwner.1.2.1
  | inr empty =>
      have ⟨_, _, _, ⟨isLower, _⟩, _⟩ := empty
      exact outside isLower

theorem not_inChain_unsigned {records : List Record} {apex name : Name}
    (unsigned : UnsignedDelegation records apex name) : ¬InChain records apex true name := by
  intro inChain
  cases inChain with
  | inl chainOwner => exact chainOwner.2 ⟨rfl, unsigned⟩
  | inr empty =>
      have ⟨record, member, owner, _⟩ := unsigned.1.1
      exact empty.1 ⟨record, member, owner⟩

end Reference

open Reference in
theorem nsec3Hashes_match_delegating :
    ∃ hashes, nsec3Hashes hashingDomain optOutOptions apex (.ofList delegatingZone) =
        .ok (some hashes) ∧
      ((HashesMatch (SortedRecords.ofList delegatingZone).toList apex true hashedOwner hashes ∧
          CommentsMatch (SortedRecords.ofList delegatingZone).toList apex true hashingDomain
            optOutOptions hashedOwner hashes) ↔
        WalkedLikeChain (SortedRecords.ofList delegatingZone).toList apex true) :=
  @nsec3Hashes_match_iff hashingDomain optOutOptions apex hashedOwner (.ofList delegatingZone)
    ⟨rfl, Or.inl rfl⟩ (fun _ => rfl) (sorted_of_class 1 (by decide +kernel))
    ⟨soaRecord apex 1, by decide +kernel, rfl⟩ (fun _ _ _ _ => hashedOwner_injective)

open Reference in
/-- The glue has the unsigned delegation hashed, and a record of another zone is hashed like
those of the zone. -/
theorem nsec3Hashes_differ :
    (∃ hashes, nsec3Hashes hashingDomain optOutOptions apex (.ofList gluedZone) =
        .ok (some hashes) ∧
      ¬HashesMatch (SortedRecords.ofList gluedZone).toList apex true hashedOwner hashes) ∧
    ∃ hashes, nsec3Hashes hashingDomain optOutOptions apex (.ofList foreignZone) =
        .ok (some hashes) ∧
      ¬HashesMatch (SortedRecords.ofList foreignZone).toList apex true hashedOwner hashes := by
  constructor
  · refine ⟨_, rfl, ?_⟩
    intro hashesMatch
    have ⟨inChain, _⟩ := (hashesMatch (hashedOwner child) ⟨child, false⟩).mp rfl
    apply not_inChain_unsigned _ inChain
    refine ⟨⟨⟨record child Rtype.ns, by decide +kernel, rfl, rfl⟩, by decide, by decide⟩, ?_⟩
    intro ⟨one, member, _, isDs⟩
    have types : ∀ one ∈ (SortedRecords.ofList gluedZone).toList, one.rtype ≠ Rtype.ds := by
      decide +kernel
    exact types one member isDs
  · refine ⟨_, rfl, ?_⟩
    intro hashesMatch
    have ⟨inChain, _⟩ := (hashesMatch (hashedOwner [[102]]) ⟨[[102]], false⟩).mp rfl
    exact not_inChain_outside (by decide) inChain

end Dnst.Signzone
