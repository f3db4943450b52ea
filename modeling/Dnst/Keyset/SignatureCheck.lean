import Dnst.Foundation.PrefixOrder
import Dnst.Keyset.Propagation
import Mathlib.Data.List.Nodup
import Mathlib.Data.Set.Insert
import Mathlib.Data.String.Basic

/-! # What the signature check decides

`checkRrsigs` walks the names of a zone once, in canonical order. It remembers one
delegation on its way, and that is enough to leave out everything that the zone is not
authoritative for.
-/

namespace Dnst.Keyset

/-! ## Authoritative RRsets -/

/-- The names and types of a zone's RRsets. -/
abbrev RRsets := Name → Rtype → Prop

/-- The algorithms and key tags of the RRSIGs that cover a type at a name. -/
abbrev Tags := Name → Rtype → SecurityAlgorithm × Nat → Prop

def Treemap.Has (treemap : Treemap) : RRsets := fun name rtype =>
  ∃ entry ∈ treemap, entry.1 = name ∧ rtype ∈ entry.2

def Sigmap.Has (sigmap : Sigmap) : Tags := fun name rtype tag =>
  tag ∈ (sigmap.lookup (name, rtype)).getD []

def IsDelegation (zone : Name) (rrsets : RRsets) (name : Name) : Prop :=
  rrsets name .ns ∧ name ≠ zone

def BelowDelegation (zone : Name) (rrsets : RRsets) (name : Name) : Prop :=
  ∃ cut, IsDelegation zone rrsets cut ∧ cut <:+ name ∧ cut ≠ name

/-- The zone signs these RRsets with its ZSKs. -/
structure Authoritative (zone : Name) (rrsets : RRsets) (name : Name)
    (rtype : Rtype) : Prop where
  served : rrsets name rtype
  notBelow : ¬ BelowDelegation zone rrsets name
  atDelegation : IsDelegation zone rrsets name → rtype = .ds ∨ rtype = .nsec
  notKskSigned : name = zone → rtype ≠ .dnskey ∧ rtype ≠ .cds ∧ rtype ≠ .cdnskey

/-- The RRSIGs of an RRset are exactly the expected ones. -/
def SignedAsExpected (tags : Tags) (expected : List (SecurityAlgorithm × Nat))
    (name : Name) (rtype : Rtype) : Prop :=
  ∀ tag, tags name rtype tag ↔ tag ∈ expected

def CompletelySigned (rrsets : RRsets) (tags : Tags) (zone : Name)
    (expected : List (SecurityAlgorithm × Nat)) : Prop :=
  ∀ name rtype, Authoritative zone rrsets name rtype →
    SignedAsExpected tags expected name rtype

/-- An authoritative RRset whose signatures are not the expected ones. -/
structure Mismatch (rrsets : RRsets) (tags : Tags) (zone : Name)
    (expected : List (SecurityAlgorithm × Nat)) (name : Name) (rtype : Rtype) : Prop where
  authoritative : Authoritative zone rrsets name rtype
  differs : ¬ SignedAsExpected tags expected name rtype

/-- The path from the root that the canonical order compares. -/
def canonicalPath {Rank : Type} (rank : String → Rank) (name : Name) : List Rank :=
  name.reverse.map rank

/-- Names come in canonical order, for some order on labels. -/
def CanonicalOrder {Rank : Type} [LinearOrder Rank] (rank : String → Rank)
    (treemap : Treemap) : Prop :=
  PrefixOrder.Ordered (canonicalPath rank) (treemap.map Prod.fst)

theorem sameSet_iff {Item : Type} [BEq Item] [LawfulBEq Item] {left right : List Item} :
    sameSet left right = true ↔ ∀ item, item ∈ left ↔ item ∈ right := by
  unfold sameSet
  rw [Bool.and_eq_true, List.all_eq_true, List.all_eq_true]
  constructor
  · rintro ⟨into, back⟩ item
    constructor
    · intro member
      simpa using into item member
    · intro member
      simpa using back item member
  · intro same
    constructor
    · intro item member
      simpa using (same item).mp member
    · intro item member
      simpa using (same item).mpr member

/-! ## The walk over the types of one name -/

/-- The walk so far: only NSEC3 RRsets differed. -/
inductive OnlyNsec3 (differing : Set (Name × Rtype)) : CheckRrsigsResult → Prop where
  | done (none : ∀ rrset, rrset ∉ differing) : OnlyNsec3 differing .done
  | waitNextSerial (notice : String) (rrset : Name × Rtype) (member : rrset ∈ differing)
      (nsec3 : ∀ other ∈ differing, other.2 = .nsec3) :
      OnlyNsec3 differing (.waitNextSerial notice)

/-- The walk is over at once: this RRset differs. -/
inductive Stopped (differing : Set (Name × Rtype)) : CheckRrsigsResult → Prop where
  | waitRecord (name : Name) (rtype : Rtype) (notice : String)
      (member : (name, rtype) ∈ differing) (notNsec3 : rtype ≠ .nsec3) :
      Stopped differing (.waitRecord name rtype notice)

theorem OnlyNsec3.nsec3 {differing : Set (Name × Rtype)} {result : CheckRrsigsResult}
    (only : OnlyNsec3 differing result) :
    ∀ rrset ∈ differing, rrset.2 = .nsec3 := by
  intro rrset member
  cases only with
  | done none => exact absurd member (none rrset)
  | waitNextSerial _ _ _ nsec3 => exact nsec3 rrset member

theorem Stopped.mono {some all : Set (Name × Rtype)} {result : CheckRrsigsResult}
    (stopped : Stopped some result) (subset : some ⊆ all) : Stopped all result := by
  cases stopped with
  | waitRecord name rtype notice member notNsec3 =>
      exact .waitRecord name rtype notice (subset member) notNsec3

/-- The RRsets of one name that are checked and differ. -/
def differingAt (sigmap : Sigmap) (zone : Name)
    (expected : List (SecurityAlgorithm × Nat)) (key : Name) (inDelegation : Bool)
    (rtypes : List Rtype) : Set (Name × Rtype) :=
  { rrset | rrset.1 = key ∧ rrset.2 ∈ rtypes ∧
      isChecked zone key inDelegation rrset.2 = true ∧
      ¬ SignedAsExpected sigmap.Has expected key rrset.2 }

theorem checkRtypes_spec (sigmap : Sigmap) (zone : Name)
    (expected : List (SecurityAlgorithm × Nat)) (key : Name) (inDelegation : Bool) (rtypes : List Rtype)
    {seen : Set (Name × Rtype)} {result : CheckRrsigsResult} (only : OnlyNsec3 seen result) :
    (∃ next, checkRtypes sigmap zone expected key inDelegation rtypes result = .ok next ∧
        OnlyNsec3 (seen ∪ differingAt sigmap zone expected key inDelegation rtypes) next) ∨
      ∃ early, checkRtypes sigmap zone expected key inDelegation rtypes result =
          .error early ∧
        Stopped (differingAt sigmap zone expected key inDelegation rtypes) early := by
  induction rtypes generalizing seen result with
  | nil =>
      have same : seen ∪ differingAt sigmap zone expected key inDelegation [] = seen := by
        simp [differingAt]
      rw [same]
      exact Or.inl ⟨result, rfl, only⟩
  | cons rtype rtypes induction =>
      unfold checkRtypes
      have weaken : differingAt sigmap zone expected key inDelegation rtypes ⊆
          differingAt sigmap zone expected key inDelegation (rtype :: rtypes) := by
        rintro rrset ⟨atKey, member, rest⟩
        exact ⟨atKey, List.mem_cons_of_mem rtype member, rest⟩
      -- Passing over a type that does not differ leaves the same RRsets.
      have passed (agrees : isChecked zone key inDelegation rtype = true →
          SignedAsExpected sigmap.Has expected key rtype) :
          differingAt sigmap zone expected key inDelegation (rtype :: rtypes) =
            differingAt sigmap zone expected key inDelegation rtypes := by
        apply Set.Subset.antisymm _ weaken
        rintro rrset ⟨atKey, member, checked, differs⟩
        rcases List.mem_cons.mp member with same | member
        · rw [same] at checked differs
          exact absurd (agrees checked) differs
        · exact ⟨atKey, member, checked, differs⟩
      by_cases checked : isChecked zone key inDelegation rtype = true
      · rw [if_pos checked]
        by_cases agrees : SignedAsExpected sigmap.Has expected key rtype
        · have same := sameSet_iff.mpr agrees
          simp only [same, if_true]
          rw [passed fun _ => agrees]
          exact induction only
        · have other : sameSet ((sigmap.lookup (key, rtype)).getD []) expected = false := by
            apply Bool.eq_false_iff.mpr
            intro same
            exact agrees (sameSet_iff.mp same)
          have differs : (key, rtype) ∈
              differingAt sigmap zone expected key inDelegation (rtype :: rtypes) :=
            ⟨rfl, List.mem_cons_self, checked, agrees⟩
          simp only [other, Bool.false_eq_true, if_false]
          by_cases nsec3 : rtype = .nsec3
          · simp only [nsec3, ne_eq, not_true, if_false]
            subst nsec3
            have all : seen ∪
                differingAt sigmap zone expected key inDelegation (.nsec3 :: rtypes) =
                insert (key, .nsec3) seen ∪
                  differingAt sigmap zone expected key inDelegation rtypes := by
              apply Set.Subset.antisymm
              · rintro rrset (member | ⟨atKey, member, rest⟩)
                · exact Or.inl (Set.mem_insert_of_mem _ member)
                · rcases List.mem_cons.mp member with same | member
                  · left
                    left
                    exact Prod.ext atKey same
                  · exact Or.inr ⟨atKey, member, rest⟩
              · rintro rrset ((rfl | member) | member)
                · exact Or.inr differs
                · exact Or.inl member
                · exact Or.inr (weaken member)
            rw [all]
            have noted (notice : String) :
                OnlyNsec3 (insert (key, .nsec3) seen) (.waitNextSerial notice) := by
              apply OnlyNsec3.waitNextSerial notice (key, .nsec3) (Set.mem_insert _ _)
              rintro rrset (rfl | member)
              · rfl
              · exact only.nsec3 rrset member
            rcases induction (noted _) with ⟨next, run, onlyNext⟩ | ⟨early, run, stopped⟩
            · exact Or.inl ⟨next, run, onlyNext⟩
            · exact Or.inr ⟨early, run, stopped.mono weaken⟩
          · simp only [ne_eq, nsec3, not_false_eq_true, if_true]
            exact Or.inr ⟨_, rfl, .waitRecord key rtype _ differs nsec3⟩
      · rw [if_neg checked]
        rw [passed fun yes => absurd yes checked]
        rcases induction only with ⟨next, run, onlyNext⟩ | ⟨early, run, stopped⟩
        · exact Or.inl ⟨next, run, onlyNext⟩
        · exact Or.inr ⟨early, run, stopped⟩

/-! ## The walk over the names -/

section Names

variable {Rank : Type} {rank : String → Rank}
  {treemap visited rest : Treemap} {sigmap : Sigmap} {zone key : Name}
  {expected : List (SecurityAlgorithm × Nat)} {rtypes : List Rtype}

theorem canonicalPath_prefix_iff (injective : Function.Injective rank) {top name : Name} :
    canonicalPath rank top <+: canonicalPath rank name ↔ top <:+ name := by
  unfold canonicalPath
  rw [List.prefix_map_iff_of_injective injective, List.reverse_prefix]

theorem canonicalPath_injective (injective : Function.Injective rank) :
    Function.Injective (canonicalPath rank) := by
  intro one other same
  unfold canonicalPath at same
  exact List.reverse_injective (List.map_injective_iff.mpr injective same)

/-- Below a delegation in the sense of the walk, or of the zone. -/
theorem below_iff (injective : Function.Injective rank) {name : Name} :
    PrefixOrder.Below (canonicalPath rank) (IsDelegation zone treemap.Has)
        (treemap.map Prod.fst) name ↔
      BelowDelegation zone treemap.Has name := by
  constructor
  · rintro ⟨top, _, delegation, above, ne⟩
    refine ⟨top, delegation, (canonicalPath_prefix_iff injective).mp above, ?_⟩
    intro same
    exact ne (congrArg (canonicalPath rank) same)
  · rintro ⟨top, delegation, above, ne⟩
    obtain ⟨⟨entry, member, rfl, isCut⟩, notZone⟩ := delegation
    refine ⟨entry.1, List.mem_map_of_mem member, ⟨⟨entry, member, rfl, isCut⟩, notZone⟩,
      (canonicalPath_prefix_iff injective).mpr above, ?_⟩
    intro same
    exact ne (canonicalPath_injective injective same)

theorem covers_iff (injective : Function.Injective rank) {delegation : Option Name} :
    (delegation.any fun name => name.isSuffixOf key) = true ↔
      PrefixOrder.Covers (canonicalPath rank) delegation key := by
  unfold PrefixOrder.Covers
  cases delegation with
  | none => simp
  | some name =>
      rw [Option.any_some, List.isSuffixOf_iff_suffix]
      simp [canonicalPath_prefix_iff injective]

variable [LinearOrder Rank]

theorem CanonicalOrder.nodup (ordered : CanonicalOrder rank treemap) :
    (treemap.map Prod.fst).Nodup := by
  apply List.Pairwise.imp _ ordered
  intro one other before same
  rw [same] at before
  exact lt_irrefl _ before

theorem CanonicalOrder.entry_eq (ordered : CanonicalOrder rank treemap)
    {one other : Name × List Rtype} (member : one ∈ treemap) (other_mem : other ∈ treemap)
    (same : one.1 = other.1) : one = other :=
  List.inj_on_of_nodup_map ordered.nodup member other_mem same

/-- The RRsets that differ at the names visited so far. -/
def differingAmong (treemap : Treemap) (sigmap : Sigmap) (zone : Name)
    (expected : List (SecurityAlgorithm × Nat)) (visited : Treemap) :
    Set (Name × Rtype) :=
  { rrset | Mismatch treemap.Has sigmap.Has zone expected rrset.1 rrset.2 ∧
      rrset.1 ∈ visited.map Prod.fst }

theorem isChecked_iff (delegation : Bool) (rtype : Rtype) :
    isChecked zone key delegation rtype = true ↔
      (delegation = true → rtype = .ds ∨ rtype = .nsec) ∧
        (key = zone → rtype ≠ .dnskey ∧ rtype ≠ .cds ∧ rtype ≠ .cdnskey) := by
  unfold isChecked
  cases delegation <;> simp <;> grind

theorem delegation_eq_some_iff {top : Name} :
    (if rtypes.contains .ns && key != zone then some key else none) = some top ↔
      top = key ∧ .ns ∈ rtypes ∧ key ≠ zone := by
  by_cases cut : (rtypes.contains .ns && key != zone) = true
  · rw [if_pos cut]
    have delegates : .ns ∈ rtypes ∧ key ≠ zone := by
      simpa using cut
    constructor
    · intro same
      cases same
      exact ⟨rfl, delegates⟩
    · rintro ⟨rfl, _⟩
      rfl
  · rw [if_neg cut]
    constructor
    · intro same
      cases same
    · rintro ⟨_, member, ne⟩
      apply absurd _ cut
      simp [member, ne]

theorem isDelegation_iff (ordered : CanonicalOrder rank treemap)
    (member : (key, rtypes) ∈ treemap) :
    IsDelegation zone treemap.Has key ↔ .ns ∈ rtypes ∧ key ≠ zone := by
  constructor
  · rintro ⟨⟨entry, inTreemap, atKey, isCut⟩, ne⟩
    rw [ordered.entry_eq inTreemap member atKey] at isCut
    exact ⟨isCut, ne⟩
  · rintro ⟨isCut, ne⟩
    exact ⟨⟨(key, rtypes), member, rfl, isCut⟩, ne⟩

/-- At a name that is not below a delegation, the walk finds what differs there. -/
theorem differingAt_eq (sigmap : Sigmap) (expected : List (SecurityAlgorithm × Nat))
    (ordered : CanonicalOrder rank treemap)
    (member : (key, rtypes) ∈ treemap) (notBelow : ¬ BelowDelegation zone treemap.Has key)
    (inDelegation : Bool)
    (isDelegation : inDelegation = true ↔ .ns ∈ rtypes ∧ key ≠ zone) :
    differingAt sigmap zone expected key inDelegation rtypes =
      { rrset | Mismatch treemap.Has sigmap.Has zone expected rrset.1 rrset.2 ∧ rrset.1 = key } := by
  have delegation_iff : IsDelegation zone treemap.Has key ↔ inDelegation = true := by
    rw [isDelegation, isDelegation_iff ordered member]
  ext ⟨name, rtype⟩
  constructor
  · rintro ⟨rfl, inRtypes, checked, differs⟩
    obtain ⟨atDelegation, notKskSigned⟩ := (isChecked_iff inDelegation rtype).mp checked
    have authoritative : Authoritative zone treemap.Has name rtype := by
      refine ⟨⟨(name, rtypes), member, rfl, inRtypes⟩, notBelow, ?_, notKskSigned⟩
      intro delegated
      exact atDelegation (delegation_iff.mp delegated)
    exact ⟨⟨authoritative, differs⟩, rfl⟩
  · rintro ⟨⟨authoritative, differs⟩, rfl⟩
    obtain ⟨entry, inTreemap, atKey, inRtypes⟩ := authoritative.served
    have same := ordered.entry_eq inTreemap member atKey
    rw [same] at inRtypes
    have checked : isChecked zone name inDelegation rtype = true := by
      apply (isChecked_iff inDelegation rtype).mpr
      refine ⟨?_, authoritative.notKskSigned⟩
      intro inside
      exact authoritative.atDelegation (delegation_iff.mpr inside)
    exact ⟨rfl, inRtypes, checked, differs⟩

theorem differingAmong_append_eq :
    differingAmong treemap sigmap zone expected (visited ++ [(key, rtypes)]) =
      differingAmong treemap sigmap zone expected visited ∪
        { rrset | Mismatch treemap.Has sigmap.Has zone expected rrset.1 rrset.2 ∧
            rrset.1 = key } := by
  ext rrset
  simp [differingAmong]
  grind

theorem checkNames_spec (injective : Function.Injective rank)
    (ordered : CanonicalOrder rank (visited ++ rest)) {delegation : Option Name}
    (remembers : PrefixOrder.Remembers (canonicalPath rank)
      (IsDelegation zone (Treemap.Has (visited ++ rest))) (visited.map Prod.fst) delegation)
    {result : CheckRrsigsResult}
    (only : OnlyNsec3
      (differingAmong (visited ++ rest) sigmap zone expected visited) result) :
    OnlyNsec3 (differingAmong (visited ++ rest) sigmap zone expected (visited ++ rest))
        (checkNames sigmap zone expected rest delegation result) ∨
      Stopped (differingAmong (visited ++ rest) sigmap zone expected (visited ++ rest))
        (checkNames sigmap zone expected rest delegation result) := by
  induction rest generalizing visited delegation result with
  | nil =>
      rw [List.append_nil] at only ⊢
      exact Or.inl only
  | cons entry rest induction =>
      obtain ⟨key, rtypes⟩ := entry
      have regroup : visited ++ (key, rtypes) :: rest = (visited ++ [(key, rtypes)]) ++ rest := by
        simp
      have member : (key, rtypes) ∈ visited ++ (key, rtypes) :: rest := by simp
      have names : (visited ++ (key, rtypes) :: rest).map Prod.fst =
          visited.map Prod.fst ++ key :: rest.map Prod.fst := by simp
      have orderedNames := ordered
      unfold CanonicalOrder at orderedNames
      rw [names] at orderedNames
      have below := remembers.covers_iff orderedNames
      rw [← names, below_iff injective, ← covers_iff injective] at below
      have after : ∀ earlier ∈ visited.map Prod.fst,
          canonicalPath rank earlier < canonicalPath rank key := by
        intro earlier seen
        exact (List.pairwise_append.mp orderedNames).2.2 earlier seen key List.mem_cons_self
      unfold checkNames
      by_cases covered : (delegation.any fun name => name.isSuffixOf key) = true
      · rw [if_pos covered]
        have remembersNext := remembers.skip ((covers_iff injective).mp covered)
        have nothing : differingAmong (visited ++ (key, rtypes) :: rest) sigmap zone expected
            (visited ++ [(key, rtypes)]) =
            differingAmong (visited ++ (key, rtypes) :: rest) sigmap zone expected visited := by
          rw [differingAmong_append_eq]
          apply Set.union_eq_self_of_subset_right
          rintro ⟨name, rtype⟩ ⟨mismatch, atKey⟩
          dsimp only at atKey
          subst atKey
          exact absurd (below.mp covered) mismatch.authoritative.notBelow
        rw [← nothing] at only
        rw [regroup] at ordered only remembersNext ⊢
        apply induction ordered _ only
        simpa using remembersNext
      · rw [if_neg covered]
        have notBelow := fun isBelow => covered (below.mpr isBelow)
        dsimp only
        have isNext : ∀ top,
            (if rtypes.contains .ns && key != zone then some key else none) = some top ↔
              top = key ∧ IsDelegation zone (Treemap.Has (visited ++ (key, rtypes) :: rest)) key := by
          intro top
          rw [isDelegation_iff ordered member]
          exact delegation_eq_some_iff
        have inDelegation :
            (if rtypes.contains .ns && key != zone then some key else none).isSome = true ↔
              (.ns ∈ rtypes ∧ key ≠ zone) := by
          rw [Option.isSome_iff_exists]
          simp only [delegation_eq_some_iff, exists_eq_left]
        have remembersNext := remembers.visit after
          (fun covers => covered ((covers_iff injective).mpr covers)) isNext
        have atKey := differingAt_eq sigmap expected ordered member notBelow _ inDelegation
        rcases checkRtypes_spec sigmap zone expected key _ rtypes only with
          ⟨next, run, onlyNext⟩ | ⟨early, run, stopped⟩
        · rw [run]
          rw [atKey, ← differingAmong_append_eq] at onlyNext
          rw [regroup] at ordered onlyNext remembersNext ⊢
          apply induction ordered _ onlyNext
          simpa using remembersNext
        · rw [run]
          right
          apply stopped.mono
          rw [atKey]
          rintro ⟨name, rtype⟩ ⟨mismatch, atName⟩
          dsimp only at atName
          subst atName
          exact ⟨mismatch, List.mem_map_of_mem member⟩

theorem checkRrsigs_spec (sigmap : Sigmap) (zone : Name)
    (expected : List (SecurityAlgorithm × Nat)) (injective : Function.Injective rank)
    (ordered : CanonicalOrder rank treemap) :
    OnlyNsec3 { rrset | Mismatch treemap.Has sigmap.Has zone expected rrset.1 rrset.2 }
        (checkRrsigs treemap sigmap zone expected) ∨
      Stopped { rrset | Mismatch treemap.Has sigmap.Has zone expected rrset.1 rrset.2 }
        (checkRrsigs treemap sigmap zone expected) := by
  have all : differingAmong treemap sigmap zone expected treemap =
      { rrset | Mismatch treemap.Has sigmap.Has zone expected rrset.1 rrset.2 } := by
    ext rrset
    constructor
    · intro member
      exact member.1
    · intro mismatch
      obtain ⟨entry, member, atName, _⟩ := mismatch.authoritative.served
      exact ⟨mismatch, atName ▸ List.mem_map_of_mem member⟩
  have nothing : OnlyNsec3 (differingAmong ([] ++ treemap) sigmap zone expected []) .done := by
    apply OnlyNsec3.done
    rintro rrset ⟨_, member⟩
    cases member
  have orderedAll : CanonicalOrder rank ([] ++ treemap) := ordered
  rw [← all]
  exact checkNames_spec injective orderedAll PrefixOrder.Remembers.start nothing

theorem completelySigned_iff {rrsets : RRsets} {tags : Tags} :
    CompletelySigned rrsets tags zone expected ↔
      ∀ name rtype, ¬ Mismatch rrsets tags zone expected name rtype := by
  constructor
  · intro complete name rtype mismatch
    exact mismatch.differs (complete name rtype mismatch.authoritative)
  · intro none name rtype authoritative
    by_contra differs
    exact none name rtype ⟨authoritative, differs⟩

theorem checkRrsigs_eq_done_iff (sigmap : Sigmap) (zone : Name)
    (expected : List (SecurityAlgorithm × Nat)) (injective : Function.Injective rank)
    (ordered : CanonicalOrder rank treemap) :
    checkRrsigs treemap sigmap zone expected = .done ↔
      CompletelySigned treemap.Has sigmap.Has zone expected := by
  rw [completelySigned_iff]
  rcases checkRrsigs_spec sigmap zone expected injective ordered with only | stopped
  · generalize checkRrsigs treemap sigmap zone expected = result at only
    cases only with
    | done none =>
        constructor
        · intro _ name rtype
          exact none (name, rtype)
        · intro _
          rfl
    | waitNextSerial notice rrset mismatch nsec3 =>
        constructor
        · intro same
          cases same
        · intro none
          exact absurd mismatch (none rrset.1 rrset.2)
  · generalize checkRrsigs treemap sigmap zone expected = result at stopped
    cases stopped with
    | waitRecord name rtype notice mismatch notNsec3 =>
        constructor
        · intro same
          cases same
        · intro none
          exact absurd mismatch (none name rtype)

/-- The verdict is exact: complete, an RRset that differs and can be asked for, or only
NSEC3 RRsets that differ. -/
theorem checkRrsigs_decides_completeness (sigmap : Sigmap) (zone : Name)
    (expected : List (SecurityAlgorithm × Nat)) (injective : Function.Injective rank)
    (ordered : CanonicalOrder rank treemap) :
    (checkRrsigs treemap sigmap zone expected = .done ↔
        CompletelySigned treemap.Has sigmap.Has zone expected) ∧
      ((∃ name rtype,
          Mismatch treemap.Has sigmap.Has zone expected name rtype ∧ rtype ≠ .nsec3) →
        ∃ name rtype notice,
          checkRrsigs treemap sigmap zone expected = .waitRecord name rtype notice ∧
            Mismatch treemap.Has sigmap.Has zone expected name rtype) ∧
      ((∃ notice, checkRrsigs treemap sigmap zone expected = .waitNextSerial notice) ↔
        (∃ name rtype, Mismatch treemap.Has sigmap.Has zone expected name rtype) ∧
          ∀ name rtype, Mismatch treemap.Has sigmap.Has zone expected name rtype →
            rtype = .nsec3) := by
  refine ⟨checkRrsigs_eq_done_iff sigmap zone expected injective ordered, ?_⟩
  rcases checkRrsigs_spec sigmap zone expected injective ordered with only | stopped
  · generalize checkRrsigs treemap sigmap zone expected = result at only
    constructor
    · rintro ⟨name, rtype, mismatch, notNsec3⟩
      exact absurd (only.nsec3 (name, rtype) mismatch) notNsec3
    · cases only with
      | done none =>
          constructor
          · rintro ⟨_, same⟩
            cases same
          · rintro ⟨⟨name, rtype, mismatch⟩, _⟩
            exact absurd mismatch (none (name, rtype))
      | waitNextSerial notice rrset mismatch nsec3 =>
          constructor
          · intro _
            exact ⟨⟨rrset.1, rrset.2, mismatch⟩, fun name rtype => nsec3 (name, rtype)⟩
          · intro _
            exact ⟨notice, rfl⟩
  · generalize checkRrsigs treemap sigmap zone expected = result at stopped
    cases stopped with
    | waitRecord name rtype notice mismatch notNsec3 =>
        constructor
        · intro _
          exact ⟨name, rtype, notice, rfl, mismatch⟩
        · constructor
          · rintro ⟨_, same⟩
            cases same
          · rintro ⟨_, nsec3⟩
            exact absurd (nsec3 name rtype mismatch) notNsec3

end Names

/-- A zone with a delegation, glue below it and a name behind it. -/
def delegatingZone : Treemap :=
  [(["test"], [.soa, .ns, .dnskey]), (["sub", "test"], [.ns, .ds]),
    (["ns", "sub", "test"], [.a]), (["www", "test"], [.a])]

def delegatingZoneSignatures : Sigmap :=
  [((["test"], .soa), [(13, 1)]), ((["test"], .ns), [(13, 1)]),
    ((["test"], .dnskey), [(13, 2)]), ((["sub", "test"], .ds), [(13, 1)]),
    ((["www", "test"], .a), [(13, 1)])]

theorem delegatingZone_ordered : CanonicalOrder id delegatingZone := by
  unfold CanonicalOrder PrefixOrder.Ordered
  decide +kernel

theorem checkRrsigs_accepts_delegatingZone :
    CompletelySigned delegatingZone.Has delegatingZoneSignatures.Has ["test"] [(13, 1)] :=
  (checkRrsigs_decides_completeness delegatingZoneSignatures ["test"] [(13, 1)]
    Function.injective_id delegatingZone_ordered).1.mp
      (by decide +kernel)

end Dnst.Keyset
