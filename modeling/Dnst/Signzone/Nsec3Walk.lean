import Dnst.Foundation.PrefixOrder
import Dnst.Signzone.Nsec3Hashes

/-! # The walk over the owner names

The names that the walk enters into the hash map, told by the RRsets that it has seen.
-/

namespace Dnst.Signzone

/-! ## Names of the zone -/

section Names

variable (rrsets : List Rrset) (apex : Name) (optOut : Bool)

def OwnsType (name : Name) (rtype : Rtype) : Prop :=
  ∃ rrset ∈ rrsets, rrset.owner = name ∧ rrset.rtype = rtype

/-- NS records away from the apex. -/
def Delegates (name : Name) : Prop := OwnsType rrsets name Rtype.ns ∧ name ≠ apex

def BelowCut (name : Name) : Prop :=
  ∃ cut, Delegates rrsets apex cut ∧ cut ≠ name ∧ cut <+: name

/-- Delegations are skipped with opt-out. -/
def Skips (rrset : Rrset) : Prop :=
  (rrset.rtype = Rtype.ns ∧ rrset.owner ≠ apex) ∧ optOut = true

/-- The owner has an RRset that is neither skipped nor below a cut. -/
def Hashed (name : Name) : Prop :=
  (∃ rrset ∈ rrsets, rrset.owner = name ∧ ¬Skips apex optOut rrset) ∧
    ¬BelowCut rrsets apex name

/-- A suffix that is looked at for an owner. -/
def Between (owner name : Name) : Prop :=
  name <+: owner ∧ name ≠ owner ∧ ¬(apex <+: owner ∧ name <+: apex)

def Entered (name : Name) : Prop :=
  ∃ owner, Hashed rrsets apex optOut owner ∧ (name = owner ∨ Between apex owner name)

end Names

section Append

variable {seen : List Rrset} {rrset : Rrset} {apex name : Name} {optOut : Bool}

/-- The owners so far do not come after this name. -/
def UpTo (seen : List Rrset) (name : Name) : Prop := ∀ rrset ∈ seen, rrset.owner ≤ name

theorem ownsType_append {rtype : Rtype} : OwnsType (seen ++ [rrset]) name rtype ↔
    OwnsType seen name rtype ∨ (rrset.owner = name ∧ rrset.rtype = rtype) := by
  unfold OwnsType
  constructor
  · intro ⟨one, member, owns⟩
    cases List.mem_append.mp member with
    | inl before => exact Or.inl ⟨one, before, owns⟩
    | inr last =>
        cases List.mem_singleton.mp last
        exact Or.inr owns
  · intro owns
    cases owns with
    | inl before =>
        have ⟨one, member, owns⟩ := before
        exact ⟨one, List.mem_append_left _ member, owns⟩
    | inr last => exact ⟨rrset, List.mem_append_right _ List.mem_cons_self, last⟩

theorem belowCut_append : BelowCut (seen ++ [rrset]) apex name ↔
    BelowCut seen apex name ∨
      ((rrset.rtype = Rtype.ns ∧ rrset.owner ≠ apex) ∧ rrset.owner ≠ name ∧
        rrset.owner <+: name) := by
  unfold BelowCut Delegates
  constructor
  · intro ⟨cut, ⟨owns, notApex⟩, ne, above⟩
    cases ownsType_append.mp owns with
    | inl before => exact Or.inl ⟨cut, ⟨before, notApex⟩, ne, above⟩
    | inr last =>
        cases last.1
        exact Or.inr ⟨⟨last.2, notApex⟩, ne, above⟩
  · intro below
    cases below with
    | inl before =>
        have ⟨cut, ⟨owns, notApex⟩, rest⟩ := before
        exact ⟨cut, ⟨ownsType_append.mpr (Or.inl owns), notApex⟩, rest⟩
    | inr last =>
        have ⟨⟨isNs, notApex⟩, rest⟩ := last
        exact ⟨rrset.owner, ⟨ownsType_append.mpr (Or.inr ⟨rfl, isNs⟩), notApex⟩, rest⟩

/-- A cut changes nothing for the names up to it. -/
theorem belowCut_append_of_le (le : name ≤ rrset.owner) :
    BelowCut (seen ++ [rrset]) apex name ↔ BelowCut seen apex name := by
  rw [belowCut_append]
  constructor
  · intro below
    cases below with
    | inl before => exact before
    | inr last => exact absurd (PrefixOrder.lt_of_prefix last.2.2 last.2.1) (not_lt.mpr le)
  · exact Or.inl

theorem hashed_append (ordered : UpTo seen rrset.owner) :
    Hashed (seen ++ [rrset]) apex optOut name ↔
      Hashed seen apex optOut name ∨
        (name = rrset.owner ∧ ¬Skips apex optOut rrset ∧ ¬BelowCut seen apex name) := by
  unfold Hashed
  constructor
  · intro ⟨⟨one, member, owner, notSkipped⟩, notBelow⟩
    cases List.mem_append.mp member with
    | inl before =>
        have le := ordered one before
        rw [owner] at le
        rw [belowCut_append_of_le le] at notBelow
        exact Or.inl ⟨⟨one, before, owner, notSkipped⟩, notBelow⟩
    | inr last =>
        cases List.mem_singleton.mp last
        rw [belowCut_append_of_le (le_of_eq owner.symm)] at notBelow
        exact Or.inr ⟨owner.symm, notSkipped, notBelow⟩
  · intro hashed
    cases hashed with
    | inl before =>
        have ⟨⟨one, member, owner, notSkipped⟩, notBelow⟩ := before
        have le := ordered one member
        rw [owner] at le
        rw [belowCut_append_of_le le]
        exact ⟨⟨one, List.mem_append_left _ member, owner, notSkipped⟩, notBelow⟩
    | inr last =>
        have ⟨owner, notSkipped, notBelow⟩ := last
        rw [belowCut_append_of_le (le_of_eq owner)]
        exact ⟨⟨rrset, List.mem_append_right _ List.mem_cons_self, owner.symm, notSkipped⟩, notBelow⟩

end Append

/-! ## Suffixes -/

section Between

variable {apex owner name other : Name}

theorem not_between_apex : ¬Between apex apex name :=
  fun between => between.2.2 ⟨List.prefix_rfl, between.1⟩

theorem between_trans (upper : Between apex owner name) (lower : Between apex name other) :
    Between apex owner other := by
  have ⟨above, ne, stops⟩ := upper
  have ⟨otherAbove, otherNe, otherStops⟩ := lower
  apply And.intro (otherAbove.trans above)
  constructor
  · intro same
    rw [same] at otherAbove
    exact ne (above.eq_of_length_le otherAbove.length_le)
  · intro ⟨apexAbove, otherShort⟩
    cases List.prefix_or_prefix_of_prefix above apexAbove with
    | inl short => exact stops ⟨apexAbove, short⟩
    | inr inZone => exact otherStops ⟨inZone, otherShort⟩

theorem entered_closed {rrsets : List Rrset} {optOut : Bool}
    (entered : Entered rrsets apex optOut name) (between : Between apex name other) :
    Entered rrsets apex optOut other := by
  have ⟨owner, hashed, is⟩ := entered
  cases is with
  | inl same =>
      rw [same] at between
      exact ⟨owner, hashed, Or.inr between⟩
  | inr upper => exact ⟨owner, hashed, Or.inr (between_trans upper between)⟩

end Between

/-! ## The map -/

/-- The names are entered under their hashes, some of them as empty. -/
def Stores (hash : Name → Name) (hashes : Nsec3HashMap) (names empty : Name → Prop) : Prop :=
  ∀ hashedName info, hashes.get hashedName = some info ↔
    names info.unhashedOwnerName ∧ hash info.unhashedOwnerName = hashedName ∧
      (info.isEmptyNonTerminal = true ↔ empty info.unhashedOwnerName)

theorem Nsec3HashMap.get_insert (hashes : Nsec3HashMap) (hashedName other : Name)
    (info : Nsec3HashInfo) :
    (hashes.insert hashedName info).get other =
      if hashedName = other then some info else hashes.get other := by
  unfold Nsec3HashMap.insert Nsec3HashMap.get
  rw [List.find?_cons]
  by_cases same : hashedName = other
  · simp [same]
  · rw [if_neg same]
    simp only [same, decide_false]
    rw [List.find?_filter]
    congr 2
    funext entry
    by_cases found : entry.1 = other
    · simp [found, Ne.symm same]
    · simp [found]

section Stores

variable {hash : Name → Name} {hashes : Nsec3HashMap} {names names' empty empty' : Name → Prop}

theorem Stores.congr (stores : Stores hash hashes names empty)
    (sameNames : ∀ name, names name ↔ names' name)
    (sameEmpty : ∀ name, names name → (empty name ↔ empty' name)) :
    Stores hash hashes names' empty' := by
  intro hashedName info
  rw [stores hashedName info, ← sameNames]
  constructor
  · intro ⟨entered, isHash, flag⟩
    exact ⟨entered, isHash, flag.trans (sameEmpty _ entered)⟩
  · intro ⟨entered, isHash, flag⟩
    exact ⟨entered, isHash, flag.trans (sameEmpty _ entered).symm⟩

theorem Stores.insert (stores : Stores hash hashes names empty) {name : Name} {flag : Bool}
    (apart : ∀ other, names other → hash other = hash name → other = name)
    (flagged : flag = true ↔ empty' name)
    (others : ∀ other, names other → other ≠ name → (empty other ↔ empty' other)) :
    Stores hash (hashes.insert (hash name) ⟨name, flag⟩)
      (fun other => names other ∨ other = name) empty' := by
  intro hashedName info
  rw [Nsec3HashMap.get_insert]
  by_cases same : hash name = hashedName
  · rw [if_pos same]
    constructor
    · intro found
      cases found
      exact ⟨Or.inr rfl, same, flagged⟩
    · intro ⟨entered, isHash, isFlag⟩
      have isName : info.unhashedOwnerName = name := by
        cases entered with
        | inl before => exact apart _ before (isHash.trans same.symm)
        | inr equal => exact equal
      rw [isName] at isFlag
      have sameFlag : info.isEmptyNonTerminal = flag :=
        Bool.eq_iff_iff.mpr (isFlag.trans flagged.symm)
      rw [← isName, ← sameFlag]
  · rw [if_neg same, stores]
    constructor
    · intro ⟨entered, isHash, isFlag⟩
      have ne : info.unhashedOwnerName ≠ name := by
        intro equal
        rw [equal] at isHash
        exact same isHash
      exact ⟨Or.inl entered, isHash, isFlag.trans (others _ entered ne)⟩
    · intro ⟨entered, isHash, isFlag⟩
      cases entered with
      | inl before =>
          have ne : info.unhashedOwnerName ≠ name := by
            intro equal
            rw [equal] at isHash
            exact same isHash
          exact ⟨before, isHash, isFlag.trans (others _ before ne).symm⟩
      | inr equal =>
          rw [equal] at isHash
          exact absurd isHash same

/-- A hash that is there already is the hash of a name that is. -/
theorem Stores.isSome_iff (stores : Stores hash hashes names empty) {name : Name}
    (apart : ∀ other, names other → hash other = hash name → other = name) :
    (hashes.get (hash name)).isSome = true ↔ names name := by
  rw [Option.isSome_iff_exists]
  constructor
  · intro ⟨info, found⟩
    have ⟨entered, isHash, _⟩ := (stores _ info).mp found
    rw [apart _ entered isHash] at entered
    exact entered
  · intro entered
    by_cases isEmpty : empty name
    · exact ⟨⟨name, true⟩, (stores _ _).mpr ⟨entered, rfl, by simpa using isEmpty⟩⟩
    · exact ⟨⟨name, false⟩, (stores _ _).mpr ⟨entered, rfl, by simpa using isEmpty⟩⟩

end Stores

/-! ## Empty non-terminals -/

section Suffixes

variable {apex owner name : Name}

theorem inits_lengthen (name : Name) :
    name.inits.Pairwise fun short long => short <+: long ∧ short ≠ long := by
  induction name with
  | nil => exact List.pairwise_singleton _ _
  | cons label name induction =>
      rw [List.inits_cons, List.pairwise_cons]
      constructor
      · intro other member
        have ⟨tail, _, same⟩ := List.mem_map.mp member
        rw [← same]
        exact ⟨List.nil_prefix, (List.cons_ne_nil _ _).symm⟩
      · apply List.pairwise_map.mpr
        apply induction.imp
        intro short long ⟨above, ne⟩
        exact ⟨List.cons_prefix_cons.mpr ⟨rfl, above⟩, fun same => ne (List.cons_inj_right _ |>.mp same)⟩

theorem suffixes_shorten (name : Name) :
    name.suffixes.Pairwise fun long short => short <+: long ∧ short ≠ long :=
  List.pairwise_reverse.mpr (inits_lengthen name)

theorem mem_suffixes : name ∈ owner.suffixes ↔ name <+: owner := by
  unfold Name.suffixes
  rw [List.mem_reverse, List.mem_inits]

theorem suffixes_eq_cons (owner : Name) : ∃ others, owner.suffixes = owner :: others := by
  have inits : owner.inits.getLast? = some owner := by
    induction owner with
    | nil => rfl
    | cons label owner induction =>
        rw [List.inits_cons, List.getLast?_cons, List.getLast?_map, induction]
        rfl
  unfold Name.suffixes
  cases reversed : owner.inits.reverse with
  | nil =>
      rw [List.reverse_eq_nil_iff] at reversed
      rw [reversed] at inits
      cases inits
  | cons first others =>
      have head : owner.inits.reverse.head? = some owner := by
        rw [List.head?_reverse, inits]
      rw [reversed] at head
      cases head
      exact ⟨others, rfl⟩

/-- The suffixes that are looked at, from the longest on. -/
def emptyNames (apex owner : Name) : List Name := owner.suffixes.tail.takeWhile (· ≠ apex)

theorem mem_takeWhile_of_shorten {suffixes : List Name}
    (shorten : suffixes.Pairwise fun long short => short <+: long ∧ short ≠ long) :
    name ∈ suffixes.takeWhile (· ≠ apex) ↔
      name ∈ suffixes ∧ ¬(apex ∈ suffixes ∧ name <+: apex) := by
  induction suffixes with
  | nil => simp
  | cons suffix others induction =>
      have ⟨shorter, shortenOthers⟩ := List.pairwise_cons.mp shorten
      by_cases isApex : suffix = apex
      · rw [List.takeWhile_cons_of_neg (by simpa using isApex)]
        constructor
        · intro impossible
          cases impossible
        · intro ⟨member, stops⟩
          apply absurd _ stops
          rw [isApex]
          apply And.intro List.mem_cons_self
          cases List.mem_cons.mp member with
          | inl same =>
              rw [same, isApex]
          | inr later => exact isApex ▸ (shorter name later).1
      · rw [List.takeWhile_cons_of_pos (by simpa using isApex), List.mem_cons, List.mem_cons,
          List.mem_cons, induction shortenOthers]
        have ne : apex ≠ suffix := Ne.symm isApex
        constructor
        · intro is
          cases is with
          | inl same =>
              apply And.intro (Or.inl same)
              intro ⟨apexIn, short⟩
              cases apexIn with
              | inl equal => exact ne equal
              | inr later =>
                  have above := shorter apex later
                  rw [same] at short
                  exact ne (above.1.eq_of_length_le short.length_le)
          | inr rest =>
              apply And.intro (Or.inr rest.1)
              intro ⟨apexIn, short⟩
              exact rest.2 ⟨apexIn.resolve_left ne, short⟩
        · intro ⟨member, stops⟩
          apply member.imp_right
          intro later
          exact ⟨later, fun stop => stops ⟨Or.inr stop.1, stop.2⟩⟩

theorem mem_emptyNames (notApex : owner ≠ apex) :
    name ∈ emptyNames apex owner ↔ Between apex owner name := by
  have ⟨others, same⟩ := suffixes_eq_cons owner
  have shorten := suffixes_shorten owner
  have inTail : ∀ suffix, suffix ∈ owner.suffixes.tail ↔ suffix <+: owner ∧ suffix ≠ owner := by
    intro suffix
    rw [← mem_suffixes]
    rw [same] at shorten ⊢
    have ⟨shorter, _⟩ := List.pairwise_cons.mp shorten
    constructor
    · intro member
      exact ⟨List.mem_cons_of_mem _ member, (shorter suffix member).2⟩
    · intro ⟨member, ne⟩
      exact (List.mem_cons.mp member).resolve_left ne
  unfold emptyNames Between
  rw [mem_takeWhile_of_shorten (shorten.sublist (List.tail_sublist _)), inTail, inTail, and_assoc]
  apply and_congr_right
  intro _
  apply and_congr_right
  intro _
  apply not_congr
  constructor
  · intro ⟨⟨above, _⟩, short⟩
    exact ⟨above, short⟩
  · intro ⟨above, short⟩
    exact ⟨⟨above, Ne.symm notApex⟩, short⟩

theorem emptyNames_between (notApex : owner ≠ apex) :
    (emptyNames apex owner).Pairwise (Between apex) := by
  have shorten := (suffixes_shorten owner).sublist
    ((List.takeWhile_sublist (· ≠ apex)).trans (List.tail_sublist _))
  apply List.Pairwise.imp_of_mem _ shorten
  intro long short isLong isShort ⟨above, ne⟩
  have ⟨longAbove, _, _⟩ := (mem_emptyNames notApex).mp isLong
  have ⟨_, _, stops⟩ := (mem_emptyNames notApex).mp isShort
  exact ⟨above, ne, fun stop => stops ⟨stop.1.trans longAbove, stop.2⟩⟩

end Suffixes

section EmptyNonTerminals

variable {domain : Domain} {options : SignZone} {apex owner : Name} {hash : Name → Name}

/-- All names are hashed. -/
def Supports (domain : Domain) (options : SignZone) (apex : Name) (hash : Name → Name) : Prop :=
  ∀ name, domain.nsec3Hash name options.algorithm options.iterations options.salt apex =
    .ok (hash name)

theorem hashName_eq (supports : Supports domain options apex hash) (name : Name) :
    hashName domain options apex name = .ok (hash name) := by
  unfold hashName
  rw [supports name]
  rfl

/-- Enter names as empty until one is there already. -/
def enterEmpty (hash : Name → Name) (hashes : Nsec3HashMap) : List Name → Nsec3HashMap
  | [] => hashes
  | name :: others =>
      if (hashes.get (hash name)).isSome then hashes
      else enterEmpty hash (hashes.insert (hash name) ⟨name, true⟩) others

theorem insertEmptyNonTerminals_others (supports : Supports domain options apex hash)
    {hashes : Nsec3HashMap} {suffixes : List Name} (notOwner : owner ∉ suffixes) :
    insertEmptyNonTerminals domain options apex owner hashes suffixes =
      .ok (enterEmpty hash hashes (suffixes.takeWhile (· ≠ apex))) := by
  induction suffixes generalizing hashes with
  | nil => rfl
  | cons suffix others induction =>
      have ⟨ne, notLater⟩ := List.ne_and_not_mem_of_not_mem_cons notOwner
      rw [insertEmptyNonTerminals, if_neg (Ne.symm ne)]
      by_cases isApex : suffix = apex
      · rw [if_pos isApex, List.takeWhile_cons_of_neg (by simpa using isApex)]
        rfl
      · rw [if_neg isApex, hashName_eq supports, List.takeWhile_cons_of_pos (by simpa using isApex),
          enterEmpty]
        change (if (hashes.get (hash suffix)).isSome = true then _ else _) = _
        split
        · rfl
        · exact induction notLater

theorem insertEmptyNonTerminals_eq (supports : Supports domain options apex hash)
    (hashes : Nsec3HashMap) :
    insertEmptyNonTerminals domain options apex owner hashes owner.suffixes =
      .ok (enterEmpty hash hashes (emptyNames apex owner)) := by
  have ⟨others, same⟩ := suffixes_eq_cons owner
  have shorten := suffixes_shorten owner
  unfold emptyNames
  rw [same] at shorten ⊢
  rw [insertEmptyNonTerminals, if_pos rfl]
  apply insertEmptyNonTerminals_others supports
  intro member
  exact ((List.pairwise_cons.mp shorten).1 owner member).2 rfl

/-- Stopping at a name that is there already loses nothing: what lies above it has been
entered with it. -/
theorem enterEmpty_stores {before done empty : Name → Prop} {names : List Name}
    {hashes : Nsec3HashMap}
    (closed : ∀ name other, before name → Between apex name other → before other)
    (below : names.Pairwise (Between apex))
    (fresh : ∀ name ∈ names, ¬done name)
    (apart : ∀ name other, (before name ∨ done name) ∨ name ∈ names → other ∈ names →
      hash name = hash other → name = other)
    (isEmpty : ∀ name ∈ names, ¬before name → empty name)
    (stores : Stores hash hashes (fun name => before name ∨ done name) empty) :
    Stores hash (enterEmpty hash hashes names)
      (fun name => (before name ∨ done name) ∨ name ∈ names) empty := by
  induction names generalizing hashes done with
  | nil =>
      apply stores.congr _ fun _ _ => Iff.rfl
      intro name
      simp
  | cons head others induction =>
      have ⟨above, belowOthers⟩ := List.pairwise_cons.mp below
      have apartHead : ∀ name, before name ∨ done name → hash name = hash head → name = head :=
        fun name is => apart name head (Or.inl is) List.mem_cons_self
      have isThere := stores.isSome_iff apartHead
      rw [enterEmpty]
      by_cases there : before head ∨ done head
      · rw [if_pos (isThere.mpr there)]
        have headBefore : before head := there.resolve_right (fresh head List.mem_cons_self)
        apply stores.congr _ fun _ _ => Iff.rfl
        intro name
        constructor
        · exact Or.inl
        · intro is
          cases is with
          | inl is => exact is
          | inr member =>
              cases List.mem_cons.mp member with
              | inl same =>
                  rw [same]
                  exact there
              | inr later => exact Or.inl (closed head name headBefore (above name later))
      · rw [if_neg (mt isThere.mp there)]
        have notBefore : ¬before head := fun is => there (Or.inl is)
        have inserted := @Stores.insert _ _ _ _ empty stores head true apartHead
          (by simpa using isEmpty head List.mem_cons_self notBefore) fun _ _ _ => Iff.rfl
        have doneHead : Stores hash (hashes.insert (hash head) ⟨head, true⟩)
            (fun name => before name ∨ (done name ∨ name = head)) empty :=
          inserted.congr (fun _ => or_assoc) fun _ _ => Iff.rfl
        have stored := induction belowOthers
          (fun name member is => by
            cases is with
            | inl is => exact fresh name (List.mem_cons_of_mem _ member) is
            | inr same => exact (above name member).2.1 same)
          (fun name other is member => apart name other
            (by
              rcases is with (is | is | same) | later
              · exact Or.inl (Or.inl is)
              · exact Or.inl (Or.inr is)
              · exact Or.inr (List.mem_cons.mpr (Or.inl same))
              · exact Or.inr (List.mem_cons_of_mem _ later))
            (List.mem_cons_of_mem _ member))
          (fun name member => isEmpty name (List.mem_cons_of_mem _ member)) doneHead
        apply stored.congr _ fun _ _ => Iff.rfl
        intro name
        rw [List.mem_cons]
        tauto

end EmptyNonTerminals

/-! ## The walk -/

section Walk

variable {domain : Domain} {options : SignZone} {apex : Name} {hash : Name → Name}
variable {seen : List Rrset} {rrset : Rrset} {state : HashState}

/-- A name of the tree over the owners. -/
def InTree (rrsets : List Rrset) (name : Name) : Prop := ∃ rrset ∈ rrsets, name <+: rrset.owner

def NoCollisions (hash : Name → Name) (rrsets : List Rrset) : Prop :=
  ∀ one other, InTree rrsets one → InTree rrsets other → hash one = hash other → one = other

/-- What the walk knows after these RRsets. Up to the names still to come, the delegation
tells what is below a cut. -/
structure Walked (hash : Name → Name) (apex : Name) (optOut : Bool) (seen : List Rrset)
    (state : HashState) : Prop where
  stores : Stores hash state.hashes (Entered seen apex optOut)
    fun name => ¬Hashed seen apex optOut name
  hashed : ∀ name, state.prevName = some name → Hashed seen apex optOut name
  current : ∀ name cut, state.prevName = some name → state.delegation = some cut → cut = name
  delegates : ∀ cut, state.delegation = some cut → Delegates seen apex cut
  below : ∀ name, UpTo seen name →
    (BelowCut seen apex name ↔ ∃ cut, state.delegation = some cut ∧ cut ≠ name ∧ cut <+: name)

theorem inTree_of_entered {optOut : Bool} {name : Name} (entered : Entered seen apex optOut name) :
    InTree seen name := by
  have ⟨owner, ⟨⟨one, member, isOwner, _⟩, _⟩, is⟩ := entered
  apply Exists.intro one
  apply And.intro member
  rw [isOwner]
  cases is with
  | inl same => rw [same]
  | inr between => exact between.1

theorem walked_start (optOut : Bool) : Walked hash apex optOut [] ⟨[], none, none⟩ where
  stores := by
    intro hashedName info
    constructor
    · intro impossible
      cases impossible
    · intro ⟨⟨_, ⟨⟨_, impossible, _⟩, _⟩, _⟩, _⟩
      cases impossible
  hashed := by simp
  current := by simp
  delegates := by simp
  below := by
    intro name _
    simp [BelowCut, Delegates, OwnsType]

theorem belowDelegation_iff {delegation : Option Name} {owner : Name} :
    belowDelegation delegation owner = true ↔
      ∃ cut, delegation = some cut ∧ cut ≠ owner ∧ cut <+: owner := by
  unfold belowDelegation Name.endsWith
  cases delegation with
  | none => simp
  | some cut => simp [List.isPrefixOf_iff_prefix, @eq_comm _ owner cut]

theorem belowCut_below {rrsets : List Rrset} {name lower : Name}
    (below : BelowCut rrsets apex name) (above : name <+: lower) : BelowCut rrsets apex lower := by
  have ⟨cut, delegates, ne, cutAbove⟩ := below
  refine ⟨cut, delegates, ?_, cutAbove.trans above⟩
  intro same
  rw [same] at ne cutAbove
  exact ne (above.eq_of_length_le cutAbove.length_le).symm

/-- The delegation after an owner that is not below a cut. -/
def visitDelegation (apex : Name) (delegation : Option Name) (rrset : Rrset) : Option Name :=
  if rrset.rtype = Rtype.ns ∧ rrset.owner ≠ apex then some rrset.owner
  else delegation.filter (· = rrset.owner)

theorem visitDelegation_owner {delegation : Option Name} {cut : Name}
    (isCut : visitDelegation apex delegation rrset = some cut) : cut = rrset.owner := by
  unfold visitDelegation at isCut
  split at isCut
  · cases isCut
    rfl
  · have ⟨_, same⟩ := Option.filter_eq_some_iff.mp isCut
    exact of_decide_eq_true same

theorem Walked.delegates_visit {optOut : Bool} (walked : Walked hash apex optOut seen state)
    {cut : Name} (isCut : visitDelegation apex state.delegation rrset = some cut) :
    Delegates (seen ++ [rrset]) apex cut := by
  unfold visitDelegation at isCut
  split at isCut
  · next delegates =>
      cases isCut
      exact ⟨ownsType_append.mpr (Or.inr ⟨rfl, delegates.1⟩), delegates.2⟩
  · have ⟨isBefore, _⟩ := Option.filter_eq_some_iff.mp isCut
    have ⟨owns, notApex⟩ := walked.delegates cut isBefore
    exact ⟨ownsType_append.mpr (Or.inl owns), notApex⟩

/-- The names below an earlier delegation come before this owner. -/
theorem Walked.below_visit {optOut : Bool} (walked : Walked hash apex optOut seen state)
    (ordered : UpTo seen rrset.owner)
    (notBelow : ¬belowDelegation state.delegation rrset.owner = true) {name : Name}
    (upTo : UpTo (seen ++ [rrset]) name) :
    BelowCut (seen ++ [rrset]) apex name ↔
      ∃ cut, visitDelegation apex state.delegation rrset = some cut ∧ cut ≠ name ∧
        cut <+: name := by
  have upToSeen : UpTo seen name := fun one member => upTo one (List.mem_append_left _ member)
  have ownerLe : rrset.owner ≤ name := upTo rrset (List.mem_append_right _ List.mem_cons_self)
  rw [belowCut_append, walked.below name upToSeen]
  have isOwner : ∀ cut, state.delegation = some cut → cut <+: name → cut = rrset.owner := by
    intro cut isCut above
    by_contra ne
    apply notBelow
    have ⟨⟨one, member, owner, _⟩, _⟩ := walked.delegates cut isCut
    have cutLe := ordered one member
    rw [owner] at cutLe
    exact belowDelegation_iff.mpr ⟨cut, isCut, ne, PrefixOrder.prefix_of_le cutLe ownerLe above⟩
  unfold visitDelegation
  split
  · next delegates =>
      constructor
      · intro below
        cases below with
        | inl before =>
            have ⟨cut, isCut, ne, above⟩ := before
            rw [isOwner cut isCut above] at ne above
            exact ⟨rrset.owner, rfl, ne, above⟩
        | inr last => exact ⟨rrset.owner, rfl, last.2⟩
      · intro ⟨cut, isCut, below⟩
        cases isCut
        exact Or.inr ⟨delegates, below⟩
  · next delegates =>
      constructor
      · intro below
        cases below with
        | inl before =>
            have ⟨cut, isCut, ne, above⟩ := before
            have same := isOwner cut isCut above
            exact ⟨cut, Option.filter_eq_some_iff.mpr ⟨isCut, decide_eq_true same⟩, ne, above⟩
        | inr last => exact absurd last.1 delegates
      · intro ⟨cut, isCut, below⟩
        exact Or.inl ⟨cut, (Option.filter_eq_some_iff.mp isCut).1, below⟩

theorem hashOwner_eq (supports : Supports domain options apex hash) (owner : Name)
    (state : HashState) : hashOwner domain options apex owner state = .ok { state with
      hashes :=
        if owner = apex then state.hashes.insert (hash owner) ⟨owner, false⟩
        else enterEmpty hash (state.hashes.insert (hash owner) ⟨owner, false⟩)
          (emptyNames apex owner) } := by
  unfold hashOwner
  rw [hashName_eq supports]
  change (if owner = apex then _ else _) = _
  split
  · rfl
  · rw [insertEmptyNonTerminals_eq supports]
    rfl

/-- With an owner, the names between it and the apex are entered. -/
theorem stores_hashOwner {optOut : Bool} {hashes : Nsec3HashMap}
    (stores : Stores hash hashes (Entered seen apex optOut)
      fun name => ¬Hashed seen apex optOut name)
    (noCollisions : NoCollisions hash (seen ++ [rrset]))
    (isHashed : ∀ name, Hashed (seen ++ [rrset]) apex optOut name ↔
      Hashed seen apex optOut name ∨ name = rrset.owner) :
    Stores hash
      (if rrset.owner = apex then hashes.insert (hash rrset.owner) ⟨rrset.owner, false⟩
        else enterEmpty hash (hashes.insert (hash rrset.owner) ⟨rrset.owner, false⟩)
          (emptyNames apex rrset.owner))
      (Entered (seen ++ [rrset]) apex optOut)
      fun name => ¬Hashed (seen ++ [rrset]) apex optOut name := by
  have inTree : ∀ name, Entered seen apex optOut name → InTree (seen ++ [rrset]) name := by
    intro name entered
    have ⟨one, member, above⟩ := inTree_of_entered entered
    exact ⟨one, List.mem_append_left _ member, above⟩
  have inTreeOwner : ∀ name, name <+: rrset.owner → InTree (seen ++ [rrset]) name :=
    fun name above => ⟨rrset, List.mem_append_right _ List.mem_cons_self, above⟩
  have entered_iff : ∀ name, Entered (seen ++ [rrset]) apex optOut name ↔
      (Entered seen apex optOut name ∨ name = rrset.owner) ∨ Between apex rrset.owner name := by
    intro name
    unfold Entered
    simp only [isHashed, or_and_right, exists_or, exists_eq_left, or_assoc]
  have inserted := @Stores.insert _ _ _ _ (fun name => ¬Hashed (seen ++ [rrset]) apex optOut name)
    stores rrset.owner false
    (fun name entered same => noCollisions name rrset.owner (inTree name entered)
      (inTreeOwner _ List.prefix_rfl) same)
    (by simpa using (isHashed rrset.owner).mpr (Or.inr rfl))
    (fun name _ ne => not_congr (by simp [isHashed, ne]))
  split
  · next isApex =>
      apply inserted.congr _ fun _ _ => Iff.rfl
      intro name
      rw [entered_iff]
      have notBetween : ¬Between apex rrset.owner name := isApex ▸ not_between_apex
      simp [notBetween]
  · next notApex =>
      have between : ∀ name, name ∈ emptyNames apex rrset.owner ↔ Between apex rrset.owner name :=
        fun name => mem_emptyNames notApex
      have all := @enterEmpty_stores _ hash (Entered seen apex optOut) (· = rrset.owner) _
        (emptyNames apex rrset.owner) _ (fun _ _ => entered_closed) (emptyNames_between notApex)
        (fun name member => ((between name).mp member).2.1)
        (fun name other is member => noCollisions name other
          (by
            rcases is with (entered | same) | empty
            · exact inTree name entered
            · exact inTreeOwner name (same ▸ List.prefix_rfl)
            · exact inTreeOwner name ((between name).mp empty).1)
          (inTreeOwner other ((between other).mp member).1))
        (fun name member notEntered isHashedNow => by
          cases (isHashed name).mp isHashedNow with
          | inl before => exact notEntered ⟨name, before, Or.inl rfl⟩
          | inr same => exact ((between name).mp member).2.1 same)
        inserted
      apply all.congr _ fun _ _ => Iff.rfl
      intro name
      rw [entered_iff, between]

theorem Walked.stores_same {optOut : Bool} (walked : Walked hash apex optOut seen state)
    (same : ∀ name, Hashed (seen ++ [rrset]) apex optOut name ↔ Hashed seen apex optOut name) :
    Stores hash state.hashes (Entered (seen ++ [rrset]) apex optOut)
      fun name => ¬Hashed (seen ++ [rrset]) apex optOut name := by
  apply walked.stores.congr
  · intro name
    unfold Entered
    simp only [same]
  · intro name _
    rw [same]

/-- Another type of an owner that has been hashed. -/
theorem Walked.again {optOut : Bool} (walked : Walked hash apex optOut seen state)
    (ordered : UpTo seen rrset.owner) (again : state.prevName = some rrset.owner) :
    Walked hash apex optOut (seen ++ [rrset])
      { state with delegation := visitDelegation apex state.delegation rrset } := by
  have hashed := walked.hashed rrset.owner again
  have same : ∀ name, Hashed (seen ++ [rrset]) apex optOut name ↔
      Hashed seen apex optOut name := by
    intro name
    rw [hashed_append ordered]
    constructor
    · intro is
      cases is with
      | inl before => exact before
      | inr last =>
          rw [last.1]
          exact hashed
    · exact Or.inl
  have notBelow : ¬belowDelegation state.delegation rrset.owner = true := by
    rw [belowDelegation_iff, ← walked.below rrset.owner ordered]
    exact hashed.2
  exact {
    stores := walked.stores_same same
    hashed := fun name isPrev => (same name).mpr (walked.hashed name isPrev)
    current := by
      intro name cut isPrev isCut
      have isOwner : some rrset.owner = some name := again.symm.trans isPrev
      rw [← Option.some.inj isOwner]
      exact visitDelegation_owner isCut
    delegates := fun _ => walked.delegates_visit
    below := fun _ => walked.below_visit ordered notBelow }

/-- An owner below a cut: a delegation there is one below the same cut. -/
theorem Walked.skip {optOut : Bool} (walked : Walked hash apex optOut seen state)
    (ordered : UpTo seen rrset.owner) (below : BelowCut seen apex rrset.owner) :
    Walked hash apex optOut (seen ++ [rrset]) state := by
  have same : ∀ name, Hashed (seen ++ [rrset]) apex optOut name ↔
      Hashed seen apex optOut name := by
    intro name
    rw [hashed_append ordered]
    constructor
    · intro is
      cases is with
      | inl before => exact before
      | inr last =>
          have ⟨isOwner, _, notBelow⟩ := last
          rw [isOwner] at notBelow
          exact absurd below notBelow
    · exact Or.inl
  exact {
    stores := walked.stores_same same
    hashed := fun name isPrev => (same name).mpr (walked.hashed name isPrev)
    current := walked.current
    delegates := by
      intro cut isCut
      have ⟨owns, notApex⟩ := walked.delegates cut isCut
      exact ⟨ownsType_append.mpr (Or.inl owns), notApex⟩
    below := by
      intro name upTo
      rw [belowCut_append, ← walked.below name fun one member =>
        upTo one (List.mem_append_left _ member)]
      constructor
      · intro is
        cases is with
        | inl before => exact before
        | inr last => exact belowCut_below below last.2.2
      · exact Or.inl }

/-- The first RRset of an owner that is not below a cut. -/
theorem Walked.visit {optOut : Bool} (walked : Walked hash apex optOut seen state)
    (ordered : UpTo seen rrset.owner)
    (notBelow : ¬belowDelegation state.delegation rrset.owner = true) {hashes : Nsec3HashMap}
    {prevName : Option Name}
    (stores : Stores hash hashes (Entered (seen ++ [rrset]) apex optOut)
      fun name => ¬Hashed (seen ++ [rrset]) apex optOut name)
    (prev : ∀ name, prevName = some name →
      name = rrset.owner ∧ Hashed (seen ++ [rrset]) apex optOut name) :
    Walked hash apex optOut (seen ++ [rrset])
      ⟨hashes, prevName, visitDelegation apex state.delegation rrset⟩ where
  stores := stores
  hashed := fun name isPrev => (prev name isPrev).2
  current := by
    intro name cut isPrev isCut
    rw [(prev name isPrev).1]
    exact visitDelegation_owner isCut
  delegates := fun _ => walked.delegates_visit
  below := fun _ => walked.below_visit ordered notBelow

theorem Walked.step (supports : Supports domain options apex hash)
    (walked : Walked hash apex options.nsec3OptOut seen state) (ordered : UpTo seen rrset.owner)
    (noCollisions : NoCollisions hash (seen ++ [rrset])) :
    ∃ next, hashRrset domain options apex state rrset = .ok next ∧
      Walked hash apex options.nsec3OptOut (seen ++ [rrset]) next := by
  have hashedNow := fun name => @hashed_append seen rrset apex name options.nsec3OptOut ordered
  have isBelow := (walked.below rrset.owner ordered).trans belowDelegation_iff.symm
  unfold hashRrset
  simp only [decide_eq_true_eq]
  by_cases again : state.prevName = some rrset.owner
  · rw [if_pos again]
    apply Exists.intro _
    apply And.intro rfl
    have walkedAgain := walked.again ordered again
    unfold visitDelegation at walkedAgain
    split
    · next delegates =>
        rw [if_pos delegates] at walkedAgain
        exact walkedAgain
    · next delegates =>
        have unchanged : state.delegation.filter (· = rrset.owner) = state.delegation := by
          cases isCut : state.delegation with
          | none => rfl
          | some cut => simp [walked.current rrset.owner cut again isCut]
        rw [if_neg delegates, unchanged] at walkedAgain
        exact walkedAgain
  · rw [if_neg again]
    by_cases below : belowDelegation state.delegation rrset.owner = true
    · rw [if_pos below]
      exact ⟨state, rfl, walked.skip ordered (isBelow.mpr below)⟩
    · rw [if_neg below]
      have visited := fun hashes prevName => @Walked.visit apex hash seen rrset state _ walked
        ordered below hashes prevName
      split
      · next skips =>
          have same : ∀ name, Hashed (seen ++ [rrset]) apex options.nsec3OptOut name ↔
              Hashed seen apex options.nsec3OptOut name := by
            intro name
            rw [hashedNow]
            constructor
            · intro is
              exact is.resolve_right fun last => last.2.1 skips
            · exact Or.inl
          apply Exists.intro _
          apply And.intro rfl
          exact visited state.hashes none (walked.stores_same same) (by simp)
      · next notSkipped =>
          have isHashed : ∀ name, Hashed (seen ++ [rrset]) apex options.nsec3OptOut name ↔
              Hashed seen apex options.nsec3OptOut name ∨ name = rrset.owner := by
            intro name
            rw [hashedNow]
            apply or_congr_right
            constructor
            · exact And.left
            · intro isOwner
              rw [isOwner]
              exact ⟨rfl, notSkipped, mt isBelow.mp below⟩
          rw [hashOwner_eq supports]
          apply Exists.intro _
          apply And.intro rfl
          apply visited _ (some rrset.owner) (stores_hashOwner walked.stores noCollisions isHashed)
          intro name isPrev
          cases isPrev
          exact ⟨rfl, (isHashed rrset.owner).mpr (Or.inr rfl)⟩

theorem Walked.run (supports : Supports domain options apex hash) {rest : List Rrset}
    (walked : Walked hash apex options.nsec3OptOut seen state)
    (ordered : (seen ++ rest).Pairwise fun earlier later => earlier.owner ≤ later.owner)
    (noCollisions : NoCollisions hash (seen ++ rest)) :
    ∃ last, rest.foldlM (hashRrset domain options apex) state = .ok last ∧
      Walked hash apex options.nsec3OptOut (seen ++ rest) last := by
  induction rest generalizing seen state with
  | nil =>
      rw [List.append_nil]
      exact ⟨state, rfl, walked⟩
  | cons rrset rest induction =>
      have upTo : UpTo seen rrset.owner := fun earlier member =>
        (List.pairwise_append.mp ordered).2.2 earlier member rrset List.mem_cons_self
      have regroup : seen ++ rrset :: rest = (seen ++ [rrset]) ++ rest := by simp
      rw [regroup] at ordered noCollisions ⊢
      have noCollisionsSeen : NoCollisions hash (seen ++ [rrset]) := by
        intro one other inOne inOther
        have inTree : ∀ name, InTree (seen ++ [rrset]) name →
            InTree ((seen ++ [rrset]) ++ rest) name := by
          intro name ⟨owner, member, above⟩
          exact ⟨owner, List.mem_append_left _ member, above⟩
        exact noCollisions one other (inTree one inOne) (inTree other inOther)
      have ⟨next, stepped, walkedNext⟩ := walked.step supports upTo noCollisionsSeen
      have ⟨last, ran, walkedLast⟩ := induction walkedNext ordered noCollisions
      apply Exists.intro last
      rw [List.foldlM_cons, stepped]
      exact ⟨ran, walkedLast⟩

end Walk

end Dnst.Signzone
