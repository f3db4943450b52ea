import Dnst.Signzone.Reloading
import Dnst.Signzone.ZonemdSignatures

/-! # The order of the written zone

The SOA record comes first. Behind it the owners come in order, of their names or, as an
option, of the names that they are the hashes of. With the layout, every RRset is followed
by the signatures over it.
-/

namespace Dnst.Signzone

open Keyset (Fault)

/-! ## Order of the owners -/

/-- The name that a hashed name is the hash of, and whether it is a hashed name. -/
def unhashedKey (hashes : Nsec3HashMap) (name : Name) : Name ×ₗ Bool :=
  toLex ((hashes.get name).elim name (·.unhashedOwnerName), (hashes.get name).isSome)

/-- Lists are compared by their first difference. -/
theorem compareLex_eq_lt {Item : Type} [LinearOrder Item] {cmp : Item → Item → Ordering}
    (below : ∀ one other, cmp one other = .lt ↔ one < other)
    (same : ∀ one other, cmp one other = .eq ↔ one = other) (one other : List Item) :
    List.compareLex cmp one other = .lt ↔ one < other := by
  induction one generalizing other with
  | nil => cases other <;> simp [List.compareLex_nil_nil, List.compareLex_nil_cons]
  | cons first one induction =>
      cases other with
      | nil => simp [List.compareLex_cons_nil]
      | cons second other =>
          rw [List.compareLex_cons_cons, List.cons_lt_cons_iff, Ordering.then_eq_lt, below, same,
            induction]

theorem compare_names (one other : Name) : compare one other = .lt ↔ one < other := by
  apply compareLex_eq_lt
  · apply compareLex_eq_lt
    · intro one other
      exact Nat.compare_eq_lt
    · intro one other
      exact Nat.compare_eq_eq
  · intro one other
    exact Std.LawfulEqOrd.compare_eq_iff_eq

theorem compareOwners_ne_gt (hashes : Nsec3HashMap) (one other : Name) :
    compareOwners hashes one other ≠ .gt ↔ unhashedKey hashes one ≤ unhashedKey hashes other := by
  unfold compareOwners unhashedKey
  rw [Prod.Lex.toLex_le_toLex]
  generalize (hashes.get one).elim one (·.unhashedOwnerName) = unhashedOne
  generalize (hashes.get other).elim other (·.unhashedOwnerName) = unhashedOther
  dsimp only
  rcases lt_trichotomy unhashedOne unhashedOther with below | same | above
  · rw [(compare_names _ _).mpr below]
    simp [below]
  · rw [same, Std.ReflOrd.compare_self]
    cases (hashes.get one).isSome <;> cases (hashes.get other).isSome <;> simp
  · rw [Std.OrientedOrd.eq_swap, (compare_names _ _).mpr above]
    simp [above.not_gt, above.ne']

/-- The hashes that the owners are ordered by, if they are. -/
def reordering (output : Output) : Option Nsec3HashMap :=
  output.hashes.filter fun _ => output.options.orderNsec3RrsByUnhashedOwnerName

theorem orderOwners_of_none {output : Output} (plain : reordering output = none)
    (ownerRrs : List Rrset) : orderOwners output ownerRrs = ownerRrs := by
  unfold orderOwners
  cases found : output.hashes with
  | none => rfl
  | some hashes =>
      have notAsked : output.options.orderNsec3RrsByUnhashedOwnerName = false := by
        simpa [reordering, found, Option.filter] using plain
      simp [notAsked]

theorem orderOwners_of_some {output : Output} {hashes : Nsec3HashMap}
    (reorders : reordering output = some hashes) (ownerRrs : List Rrset) :
    (orderOwners output ownerRrs).Pairwise fun one later =>
      unhashedKey hashes one.owner ≤ unhashedKey hashes later.owner := by
  rcases Option.filter_eq_some_iff.mp reorders with ⟨found, asked⟩
  unfold orderOwners
  rw [found]
  dsimp only
  rw [if_pos asked]
  let Before (one other : Rrset) : Prop := compareOwners hashes one.owner other.owner ≠ .gt
  have total : Std.Total Before := by
    constructor
    intro one other
    simpa only [Before, compareOwners_ne_gt] using le_total _ _
  have transitive : IsTrans Rrset Before := by
    constructor
    intro one middle other first second
    simp only [Before, compareOwners_ne_gt] at first second ⊢
    exact first.trans second
  have sorted := List.pairwise_insertionSort Before ownerRrs
  apply sorted.imp
  intro one later before
  exact (compareOwners_ne_gt _ _ _).mp before

theorem owners_ordered (records : SortedRecords) :
    (owners records).Pairwise fun one later => one.first.ownerKey < later.first.ownerKey := by
  have ordered : SortedList.Ordered Record.ownerKey records.toList := by
    apply records.ordered.imp
    intro one later below
    exact Record.ownerKey_le_of_rrsetKey below
  have increase := SortedList.runs_increase ordered
  rw [← owners_records] at increase
  apply (List.pairwise_map.mp increase).imp
  intro one later below
  exact below _ List.mem_cons_self _ List.mem_cons_self

/-! ## The hashes -/

/-- Every hashed name is the hash of its name. -/
def Hashes (domain : Domain) (options : SignZone) (apex : Name) (hashes : Nsec3HashMap) : Prop :=
  ∀ entry ∈ hashes, hashName domain options apex entry.2.unhashedOwnerName = .ok entry.1

section Hashes

variable {domain : Domain} {options : SignZone} {apex : Name} {hashes result : Nsec3HashMap}

theorem Hashes.insert {hashedName : Name} {info : Nsec3HashInfo}
    (isHash : hashName domain options apex info.unhashedOwnerName = .ok hashedName)
    (all : Hashes domain options apex hashes) :
    Hashes domain options apex (hashes.insert hashedName info) := by
  intro entry member
  unfold Nsec3HashMap.insert at member
  rcases List.mem_cons.mp member with same | old
  · rw [same]
    exact isHash
  · exact all entry (List.mem_of_mem_filter old)

theorem insertEmptyNonTerminals_hashes {owner : Name} (suffixes : List Name)
    (all : Hashes domain options apex hashes)
    (inserts : insertEmptyNonTerminals domain options apex owner hashes suffixes = .ok result) :
    Hashes domain options apex result := by
  induction suffixes generalizing hashes with
  | nil =>
      cases inserts
      exact all
  | cons suffix others induction =>
      unfold insertEmptyNonTerminals at inserts
      split at inserts
      · exact induction all inserts
      · split at inserts
        · cases inserts
          exact all
        · rcases Effect.bind_eq_ok inserts with ⟨hashedName, isHash, later⟩
          split at later
          · cases later
            exact all
          · exact induction (all.insert isHash) later

theorem hashRrset_hashes {state next : HashState} {rrset : Rrset}
    (all : Hashes domain options apex state.hashes)
    (visits : hashRrset domain options apex state rrset = .ok next) :
    Hashes domain options apex next.hashes := by
  unfold hashRrset at visits
  dsimp only at visits
  split at visits
  · cases visits
    split <;> exact all
  · split at visits
    · cases visits
      exact all
    · split at visits
      · cases visits
        exact all
      · rcases Effect.bind_eq_ok visits with ⟨hashedName, isHash, later⟩
        have inserted := @Hashes.insert domain options apex state.hashes hashedName
          ⟨rrset.owner, false⟩ isHash all
        dsimp only at later
        split at later
        · cases later
          exact inserted
        · rcases Effect.bind_eq_ok later with ⟨hashes, enters, last⟩
          cases last
          exact insertEmptyNonTerminals_hashes _ inserted enters

theorem nsec3Hashes_hashes {records : SortedRecords} {found : Option Nsec3HashMap}
    (run : nsec3Hashes domain options apex records = .ok found) :
    ∀ hashes, found = some hashes → Hashes domain options apex hashes := by
  intro hashes isSome
  unfold nsec3Hashes at run
  split at run
  · rcases Effect.bind_eq_ok run with ⟨state, walks, last⟩
    cases last
    cases isSome
    have walked : ∀ (rrsets : List Rrset) (start : HashState),
        Hashes domain options apex start.hashes →
        rrsets.foldlM (hashRrset domain options apex) start = .ok state →
        Hashes domain options apex state.hashes := by
      intro rrsets
      induction rrsets with
      | nil =>
          intro start all ends
          cases ends
          exact all
      | cons rrset rrsets induction =>
          intro start all walks
          rw [List.foldlM_cons] at walks
          rcases Effect.bind_eq_ok walks with ⟨next, visits, later⟩
          exact induction next (hashRrset_hashes all visits) later
    apply walked _ _ _ walks
    intro entry member
    cases member
  · cases run
    cases isSome

theorem Nsec3HashMap.mem_of_get {hashedName : Name} {info : Nsec3HashInfo}
    (found : hashes.get hashedName = some info) : (hashedName, info) ∈ hashes := by
  unfold Nsec3HashMap.get at found
  rcases Option.map_eq_some_iff.mp found with ⟨entry, first, isInfo⟩
  have same : entry.1 = hashedName := by simpa using List.find?_some first
  rw [← same, ← isInfo]
  exact List.mem_of_find?_eq_some first

/-- No two hashed names are the hash of one name. -/
theorem Hashes.unique (all : Hashes domain options apex hashes) {one other : Name}
    {first second : Nsec3HashInfo} (isFirst : hashes.get one = some first)
    (isSecond : hashes.get other = some second)
    (same : first.unhashedOwnerName = second.unhashedOwnerName) : one = other := by
  have hashOne := all _ (Nsec3HashMap.mem_of_get isFirst)
  have hashOther := all _ (Nsec3HashMap.mem_of_get isSecond)
  dsimp only at hashOne hashOther
  rw [same, hashOther] at hashOne
  exact (Except.ok.inj hashOne).symm

/-- Between a name and its hash there are only these two. -/
theorem Hashes.between (all : Hashes domain options apex hashes) {one middle later : Name}
    {info : Nsec3HashInfo} (unhashed : hashes.get one = none)
    (hashed : hashes.get later = some info) (isHash : info.unhashedOwnerName = one)
    (behind : unhashedKey hashes one ≤ unhashedKey hashes middle)
    (before : unhashedKey hashes middle ≤ unhashedKey hashes later) :
    middle = one ∨ middle = later := by
  unfold unhashedKey at behind before
  rw [unhashed] at behind
  rw [hashed] at before
  rw [Prod.Lex.toLex_le_toLex] at behind before
  cases found : hashes.get middle with
  | none =>
      rw [found] at behind before
      dsimp only [Option.elim] at behind before
      rw [isHash] at before
      left
      rcases behind with below | ⟨same, _⟩
      · rcases before with above | ⟨same, _⟩
        · exact absurd (below.trans above) (lt_irrefl _)
        · exact same
      · exact same.symm
  | some other =>
      rw [found] at behind before
      dsimp only [Option.elim] at behind before
      rw [isHash] at before
      right
      apply all.unique found hashed
      rw [isHash]
      rcases behind with below | ⟨same, _⟩
      · rcases before with above | ⟨same, _⟩
        · exact absurd (below.trans above) (lt_irrefl _)
        · exact same
      · exact same.symm

end Hashes

/-! ## What is written -/

/-- What the records of an RRset have in common: their owner with its class, and their type. -/
abbrev RrsetKey := (Nat ×ₗ Name) ×ₗ Rtype

/-- The RRset that a signature covers. -/
def Record.coveredKey (record : Record) : Option RrsetKey :=
  record.typeCovered.map fun rtype => toLex (record.ownerKey, rtype)

/-- All records of an RRset with all signatures over it behind them. -/
def signedRrset (body : List Record) (rrset : RrsetKey) : List Record :=
  body.filter (·.rrsetKey = rrset) ++ body.filter (·.coveredKey = some rrset)

/-- The SOA record, with the layout followed by the signatures over it. There is no other SOA
record, and with the layout no other signature over one. -/
structure SoaFirst (output : Output) (soa : Record) (signatures body : List Record) : Prop where
  isSoa : soa.rtype = Rtype.soa
  cover : ∀ record ∈ signatures, record.typeCovered = some Rtype.soa
  plain : output.options.orderRrsigsAfterTheRtypeTheyCover = false → signatures = []
  others : ∀ record ∈ body, record.rtype ≠ Rtype.soa
  layout : output.options.orderRrsigsAfterTheRtypeTheyCover = true →
    ∀ record ∈ body, record.typeCovered ≠ some Rtype.soa

/-- The records behind the SOA record, in the order that is asked for. With the layout they
are one RRset after the other, each with the signatures over it. -/
structure InOrder (output : Output) (body : List Record) : Prop where
  plain : reordering output = none →
    body.Pairwise fun one later => one.ownerKey ≤ later.ownerKey
  unhashed : ∀ hashes, reordering output = some hashes →
    body.Pairwise fun one later =>
      unhashedKey hashes one.owner ≤ unhashedKey hashes later.owner
  adjacent : ∀ hashes, reordering output = some hashes → ∀ one middle later info,
    List.Sublist [one, middle, later] body → hashes.get one.owner = none →
    hashes.get later.owner = some info → info.unhashedOwnerName = one.owner →
    middle.owner = one.owner ∨ middle.owner = later.owner
  signatures : output.options.orderRrsigsAfterTheRtypeTheyCover = true →
    ∃ rrsets : List RrsetKey, rrsets.Nodup ∧
      (∀ rrset ∈ rrsets, (ofLex rrset).2 ≠ Rtype.rrsig) ∧
      body = rrsets.flatMap (signedRrset body)

/-! ## RRsets with their signatures -/

/-- An RRset and signatures over it. -/
structure Block where
  rrset : RrsetKey
  records : List Record
  signatures : List Record

namespace Block

def all (block : Block) : List Record := block.records ++ block.signatures

structure IsSigned (block : Block) : Prop where
  rtype : (ofLex block.rrset).2 ≠ Rtype.rrsig
  records : ∀ record ∈ block.records, record.rrsetKey = block.rrset
  signatures : ∀ record ∈ block.signatures, record.coveredKey = some block.rrset

end Block

theorem rtype_of_coveredKey {record : Record} {rrset : RrsetKey}
    (covers : record.coveredKey = some rrset) : record.rtype = Rtype.rrsig := by
  rcases Option.map_eq_some_iff.mp covers with ⟨covered, isCovered, _⟩
  exact rtype_of_typeCovered isCovered

section Blocks

variable {blocks : List Block} {block : Block}

theorem Block.IsSigned.coveredKey (isSigned : block.IsSigned) {record : Record}
    (member : record ∈ block.records) (rrset : RrsetKey) : record.coveredKey ≠ some rrset := by
  intro covers
  apply isSigned.rtype
  rw [← isSigned.records record member]
  exact rtype_of_coveredKey covers

theorem Block.IsSigned.rrsetKey (isSigned : block.IsSigned) {other : Block}
    (alsoSigned : other.IsSigned) {record : Record} (member : record ∈ block.signatures) :
    record.rrsetKey ≠ other.rrset := by
  intro same
  apply alsoSigned.rtype
  rw [← same]
  exact rtype_of_coveredKey (isSigned.signatures record member)

/-- Blocks of different RRsets are all there is of these RRsets. -/
theorem flatMap_blocks (different : (blocks.map Block.rrset).Nodup)
    (signed : ∀ block ∈ blocks, block.IsSigned) :
    blocks.flatMap Block.all =
      (blocks.map Block.rrset).flatMap (signedRrset (blocks.flatMap Block.all)) := by
  rw [List.flatMap_map]
  apply List.flatMap_congr
  intro block member
  have isSigned := signed block member
  have records : (blocks.flatMap Block.all).filter (·.rrsetKey = block.rrset) =
      block.records := by
    rw [SortedList.filter_blocks Block.all (fun rrset record => record.rrsetKey = rrset) different
      _ member, Block.all, List.filter_append]
    · have own : block.records.filter (·.rrsetKey = block.rrset) = block.records :=
        List.filter_eq_self.mpr fun record inBlock =>
          decide_eq_true (isSigned.records record inBlock)
      have none_ : block.signatures.filter (·.rrsetKey = block.rrset) = [] := by
        apply List.filter_eq_nil_iff.mpr
        intro record inBlock same
        exact isSigned.rrsetKey isSigned inBlock (of_decide_eq_true same)
      rw [own, none_, List.append_nil]
    · intro one isOne other isOther differ record inOther
      apply decide_eq_false
      intro same
      rcases List.mem_append.mp inOther with isRecord | isSignature
      · rw [(signed other isOther).records record isRecord] at same
        exact differ same
      · exact (signed other isOther).rrsetKey (signed one isOne) isSignature same
  have signatures : (blocks.flatMap Block.all).filter (·.coveredKey = some block.rrset) =
      block.signatures := by
    rw [SortedList.filter_blocks Block.all (fun rrset record => record.coveredKey = some rrset)
      different _ member, Block.all, List.filter_append]
    · have none_ : block.records.filter (·.coveredKey = some block.rrset) = [] := by
        apply List.filter_eq_nil_iff.mpr
        intro record inBlock covers
        exact isSigned.coveredKey inBlock _ (of_decide_eq_true covers)
      have own : block.signatures.filter (·.coveredKey = some block.rrset) = block.signatures :=
        List.filter_eq_self.mpr fun record inBlock =>
          decide_eq_true (isSigned.signatures record inBlock)
      rw [own, none_, List.nil_append]
    · intro one isOne other isOther differ record inOther
      apply decide_eq_false
      intro covers
      rcases List.mem_append.mp inOther with isRecord | isSignature
      · exact (signed other isOther).coveredKey isRecord _ covers
      · rw [(signed other isOther).signatures record isSignature] at covers
        exact differ (Option.some.inj covers)
  rw [signedRrset, records, signatures]
  rfl

end Blocks

section Body

variable {domain : Domain} {output : Output}

/-- The blocks of an owner. The NSEC record of the apex may be withheld, and then comes last. -/
def ownerBlocks (output : Output) (rrs : Rrset) : List Block :=
  let withheld := withholdsNsec output rrs.owner
  (((rrsetsOf rrs.records).filter (isListed output)).map fun rrset =>
      ⟨rrset.first.rrsetKey, rrset.records, rrs.records.filter (coversRrset output rrset)⟩) ++
    if withheld ∧ !output.options.useNsec3 then
      [⟨toLex (rrs.first.ownerKey, Rtype.nsec),
        (placed true rrs.records .apexNsec).head?.toList,
        (placed true rrs.records .apexNsecSignature).head?.toList⟩]
    else []

section Owner

variable {records : SortedRecords} {rrs : Rrset}

theorem writeOwnerLayout_blocks (member : rrs ∈ owners records) :
    recordsOf (writeOwnerLayout domain output rrs.owner (rrsetsOf rrs.records)) =
      (ownerBlocks output rrs).flatMap Block.all := by
  unfold writeOwnerLayout ownerBlocks
  rw [recordsOf_append, recordsOf_append, recordsOf_blankIf, recordsOf_flatMap, List.append_nil,
    List.flatMap_append, List.flatMap_map]
  simp only [recordsOf_writeRrset]
  congr 1
  by_cases withheld : withholdsNsec output rrs.owner ∧ !output.options.useNsec3
  · rw [if_pos withheld, if_pos withheld, recordsOf_writeApexNsec (rtypes_ordered member)]
    simp [Block.all]
  · rw [if_neg withheld, if_neg withheld]
    rfl

theorem rrsetKey_of_mem_rrset (member : rrs ∈ owners records) {rrset : Rrset}
    (isRrset : rrset ∈ rrsetsOf rrs.records) {record : Record} (inRrset : record ∈ rrset.records) :
    record.rrsetKey = toLex (rrs.first.ownerKey, rrset.rtype) := by
  have inOwner := mem_of_mem_rrset isRrset inRrset
  unfold Record.rrsetKey
  rw [ownerKey_of_mem_owner member inOwner, rtype_of_mem_rrset isRrset inRrset]

theorem coveredKey_of_mem_owner (member : rrs ∈ owners records) {record : Record}
    (inOwner : record ∈ rrs.records) {rtype : Rtype} (covers : record.typeCovered = some rtype) :
    record.coveredKey = some (toLex (rrs.first.ownerKey, rtype)) := by
  unfold Record.coveredKey
  rw [covers, ownerKey_of_mem_owner member inOwner]
  rfl

theorem ownerBlocks_signed (member : rrs ∈ owners records) :
    ∀ block ∈ ownerBlocks output rrs, block.IsSigned := by
  intro block isBlock
  unfold ownerBlocks at isBlock
  rcases List.mem_append.mp isBlock with inListed | isLast
  · rcases List.mem_map.mp inListed with ⟨rrset, isListed', rfl⟩
    rcases List.mem_filter.mp isListed' with ⟨isRrset, listed⟩
    have key := rrsetKey_of_mem_rrset member isRrset (List.mem_cons_self (a := rrset.first))
    constructor
    · exact (of_decide_eq_true listed).2.1
    · intro record inRrset
      exact (rrsetKey_of_mem_rrset member isRrset inRrset).trans key.symm
    · intro record covers
      rcases List.mem_filter.mp covers with ⟨inOwner, isCovered⟩
      have covered := coveredKey_of_mem_owner member inOwner (of_decide_eq_true isCovered).1
      exact covered.trans (congrArg some key.symm)
  · split at isLast
    · rw [List.mem_singleton.mp isLast]
      constructor
      · exact (by decide : Rtype.nsec ≠ Rtype.rrsig)
      · intro record isHead
        have inPlace := List.mem_of_head? (Option.mem_toList.mp isHead)
        rcases List.mem_filter.mp inPlace with ⟨inOwner, atPlace⟩
        have isNsec := (place_eq_apexNsec.mp (of_decide_eq_true atPlace)).2
        unfold Record.rrsetKey
        rw [ownerKey_of_mem_owner member inOwner, isNsec]
      · intro record isHead
        have inPlace := List.mem_of_head? (Option.mem_toList.mp isHead)
        rcases List.mem_filter.mp inPlace with ⟨inOwner, atPlace⟩
        exact coveredKey_of_mem_owner member inOwner
          (place_eq_apexNsecSignature.mp (of_decide_eq_true atPlace)).2
    · cases isLast

theorem ownerKey_of_block (member : rrs ∈ owners records) {block : Block}
    (isBlock : block ∈ ownerBlocks output rrs) :
    (ofLex block.rrset).1 = rrs.first.ownerKey := by
  unfold ownerBlocks at isBlock
  rcases List.mem_append.mp isBlock with inListed | isLast
  · rcases List.mem_map.mp inListed with ⟨rrset, isListed', rfl⟩
    have isRrset := (List.mem_filter.mp isListed').1
    exact ownerKey_of_mem_owner member (mem_of_mem_rrset isRrset List.mem_cons_self)
  · split at isLast
    · rw [List.mem_singleton.mp isLast]
      rfl
    · cases isLast

theorem ownerBlocks_nodup (member : rrs ∈ owners records) :
    ((ownerBlocks output rrs).map Block.rrset).Nodup := by
  have types : (((rrsetsOf rrs.records).filter (isListed output)).map Rrset.rtype).Nodup :=
    (rtypes_nodup (rtypes_ordered member)).sublist (List.filter_sublist.map _)
  have keys : ((rrsetsOf rrs.records).filter (isListed output)).map (·.first.rrsetKey) =
      (((rrsetsOf rrs.records).filter (isListed output)).map Rrset.rtype).map fun rtype =>
        (toLex (rrs.first.ownerKey, rtype) : RrsetKey) := by
    rw [List.map_map]
    apply List.map_congr_left
    intro rrset isListed'
    exact rrsetKey_of_mem_rrset member (List.mem_filter.mp isListed').1 List.mem_cons_self
  have listed : (((rrsetsOf rrs.records).filter (isListed output)).map
      (·.first.rrsetKey)).Nodup := by
    rw [keys]
    apply types.map
    intro one other same
    exact congrArg (fun key : RrsetKey => (ofLex key).2) same
  unfold ownerBlocks
  rw [List.map_append, List.map_map]
  apply List.Nodup.append listed
  · split
    · exact List.nodup_singleton _
    · exact List.nodup_nil
  · intro key inListed isLast
    split at isLast
    · next withheld =>
        rcases List.mem_map.mp inListed with ⟨rrset, isListed', isKey⟩
        rcases List.mem_filter.mp isListed' with ⟨isRrset, notWithheld⟩
        have sameOwner : rrset.owner = rrs.owner :=
          owner_of_mem_owner member (mem_of_mem_rrset isRrset List.mem_cons_self)
        have isNsec : rrset.rtype = Rtype.nsec := by
          have same := isKey.trans (List.mem_singleton.mp isLast)
          exact congrArg (fun key : RrsetKey => (ofLex key).2) same
        have allowed := (of_decide_eq_true notWithheld).2.2
        rw [sameOwner, isNsec, withheld.1] at allowed
        exact absurd allowed (by decide)
    · cases isLast

end Owner

/-- What is written for an owner are records of it. -/
theorem mem_of_written {records : SortedRecords} {rrs : Rrset} (member : rrs ∈ owners records)
    {record : Record} (written : record ∈ recordsOf (writeOwnerRrs domain output rrs)) :
    record ∈ rrs.records := by
  rw [recordsOf_writeOwnerRrs] at written
  split at written
  · have perm := @writeOwnerLayout_perm domain output rrs.records rrs.owner
      (rtypes_ordered member) fun record inOwner => owner_of_mem_owner member inOwner
    have inAll := perm.subset (List.mem_append_left _ written)
    exact (List.mem_filter.mp inAll).1
  · exact (List.mem_filter.mp written).1

/-- The records of the owners, in the order in which the owners are written. -/
def body (domain : Domain) (output : Output) (records : SortedRecords) : List Record :=
  (orderOwners output (owners records)).flatMap fun owner =>
    recordsOf (writeOwnerRrs domain output owner)

theorem body_pairwise {records : SortedRecords} {before : Record → Record → Prop}
    (within : ∀ rrs ∈ owners records, ∀ one ∈ rrs.records, ∀ other ∈ rrs.records,
      before one other)
    (across : (orderOwners output (owners records)).Pairwise fun first second =>
      first ∈ owners records → second ∈ owners records →
        ∀ one ∈ first.records, ∀ other ∈ second.records, before one other) :
    (body domain output records).Pairwise before := by
  have isOwner := fun rrs => @List.Perm.mem_iff _ rrs _ _ (orderOwners_perm output (owners records))
  unfold body
  rw [List.pairwise_flatMap]
  constructor
  · intro rrs member
    apply List.pairwise_of_forall_mem_list
    intro one oneWritten other otherWritten
    have inOwners := (isOwner rrs).mp member
    exact within rrs inOwners one (mem_of_written inOwners oneWritten) other
      (mem_of_written inOwners otherWritten)
  · apply across.imp_of_mem
    intro first second isFirst isSecond ordered one oneWritten other otherWritten
    have firstOwner := (isOwner first).mp isFirst
    have secondOwner := (isOwner second).mp isSecond
    exact ordered firstOwner secondOwner one (mem_of_written firstOwner oneWritten) other
      (mem_of_written secondOwner otherWritten)

theorem body_plain {records : SortedRecords} (plain : reordering output = none) :
    (body domain output records).Pairwise fun one later => one.ownerKey ≤ later.ownerKey := by
  apply body_pairwise
  · intro rrs member one oneMember other otherMember
    rw [ownerKey_of_mem_owner member oneMember, ownerKey_of_mem_owner member otherMember]
  · rw [orderOwners_of_none plain]
    apply (owners_ordered records).imp
    intro first second below isFirst isSecond one oneMember other otherMember
    rw [ownerKey_of_mem_owner isFirst oneMember, ownerKey_of_mem_owner isSecond otherMember]
    exact below.le

theorem body_unhashed {records : SortedRecords} {hashes : Nsec3HashMap}
    (reorders : reordering output = some hashes) :
    (body domain output records).Pairwise fun one later =>
      unhashedKey hashes one.owner ≤ unhashedKey hashes later.owner := by
  apply body_pairwise
  · intro rrs member one oneMember other otherMember
    rw [owner_of_mem_owner member oneMember, owner_of_mem_owner member otherMember]
  · apply (orderOwners_of_some reorders (owners records)).imp
    intro first second below isFirst isSecond one oneMember other otherMember
    rw [owner_of_mem_owner isFirst oneMember, owner_of_mem_owner isSecond otherMember]
    exact below

theorem body_blocks {records : SortedRecords}
    (layout : output.options.orderRrsigsAfterTheRtypeTheyCover = true) :
    ∃ rrsets : List RrsetKey, rrsets.Nodup ∧
      (∀ rrset ∈ rrsets, (ofLex rrset).2 ≠ Rtype.rrsig) ∧
      body domain output records =
        rrsets.flatMap (signedRrset (body domain output records)) := by
  let written := orderOwners output (owners records)
  let blocks := written.flatMap (ownerBlocks output)
  have isOwner : ∀ rrs ∈ written, rrs ∈ owners records :=
    fun rrs => (orderOwners_perm output (owners records)).mem_iff.mp
  have signed : ∀ block ∈ blocks, block.IsSigned := by
    intro block member
    rcases List.mem_flatMap.mp member with ⟨rrs, inWritten, isBlock⟩
    exact ownerBlocks_signed (isOwner rrs inWritten) block isBlock
  have ownersDiffer : written.Pairwise fun one other =>
      one.first.ownerKey ≠ other.first.ownerKey := by
    have increase := (owners_ordered records).imp
      fun {one other : Rrset} below => (ne_of_lt below : one.first.ownerKey ≠ other.first.ownerKey)
    exact ((orderOwners_perm output (owners records)).pairwise_iff fun differ => differ.symm).mpr
      increase
  have different : (blocks.map Block.rrset).Nodup := by
    have parts : blocks.map Block.rrset =
        written.flatMap fun rrs => (ownerBlocks output rrs).map Block.rrset := List.map_flatMap
    rw [parts, List.nodup_flatMap]
    constructor
    · intro rrs inWritten
      exact ownerBlocks_nodup (isOwner rrs inWritten)
    · apply ownersDiffer.imp_of_mem
      intro one other inWritten otherInWritten differ key inOne inOther
      rcases List.mem_map.mp inOne with ⟨block, isBlock, isKey⟩
      rcases List.mem_map.mp inOther with ⟨another, isAnother, sameKey⟩
      have first := ownerKey_of_block (isOwner one inWritten) isBlock
      have second := ownerKey_of_block (isOwner other otherInWritten) isAnother
      rw [isKey] at first
      rw [sameKey] at second
      exact differ (first.symm.trans second)
  have whole : body domain output records = blocks.flatMap Block.all := by
    unfold body
    rw [List.flatMap_assoc]
    apply List.flatMap_congr
    intro rrs inWritten
    rw [recordsOf_writeOwnerRrs, if_pos layout, writeOwnerLayout_blocks (isOwner rrs inWritten)]
  refine ⟨blocks.map Block.rrset, different, ?_, ?_⟩
  · intro rrset member
    rcases List.mem_map.mp member with ⟨block, isBlock, rfl⟩
    exact (signed block isBlock).rtype
  · rw [whole]
    exact flatMap_blocks different signed

/-- With the layout, nothing that belongs to the SOA record is written for an owner. -/
theorem not_belongsToSoa_of_written {records : SortedRecords} {rrs : Rrset}
    (layout : output.options.orderRrsigsAfterTheRtypeTheyCover = true)
    (member : rrs ∈ owners records) {record : Record}
    (written : record ∈ recordsOf (writeOwnerRrs domain output rrs)) :
    belongsToSoa record = false := by
  rw [recordsOf_writeOwnerRrs, if_pos layout] at written
  have perm := @writeOwnerLayout_perm domain output rrs.records rrs.owner
    (rtypes_ordered member) fun record inOwner => owner_of_mem_owner member inOwner
  have inAll := perm.subset (List.mem_append_left _ written)
  simpa using (List.mem_filter.mp inAll).2

theorem body_soaFirst {records : SortedRecords} {soa : Record} {others : List Record}
    (isSoa : soas records.toList = soa :: others) :
    ∃ signatures, recordsOf (zoneLines domain output records) =
        soa :: signatures ++ body domain output records ∧
      SoaFirst output soa signatures (body domain output records) := by
  have inSoas : soa ∈ soas records.toList := by
    rw [isSoa]
    exact List.mem_cons_self
  have ofOwner : ∀ record ∈ body domain output records, ∃ rrs ∈ owners records,
      record ∈ recordsOf (writeOwnerRrs domain output rrs) := by
    intro record member
    rcases List.mem_flatMap.mp member with ⟨rrs, inWritten, written⟩
    exact ⟨rrs, (orderOwners_perm output (owners records)).mem_iff.mp inWritten, written⟩
  refine ⟨if output.options.orderRrsigsAfterTheRtypeTheyCover then
    records.toList.filter (·.typeCovered = some Rtype.soa) else [], ?_, ?_⟩
  · rw [recordsOf_zoneLines, recordsOf_writeSoa, isSoa]
    simp [body]
  · constructor
    · exact of_decide_eq_true (List.mem_filter.mp inSoas).2
    · intro record member
      split at member
      · exact of_decide_eq_true (List.mem_filter.mp member).2
      · cases member
    · intro plain
      simp [plain]
    · intro record member isSoa
      rcases ofOwner record member with ⟨rrs, isOwner, written⟩
      by_cases layout : output.options.orderRrsigsAfterTheRtypeTheyCover = true
      · have outside := not_belongsToSoa_of_written layout isOwner written
        simp [belongsToSoa, isSoa] at outside
      · rw [recordsOf_writeOwnerRrs, if_neg layout] at written
        exact of_decide_eq_true (List.mem_filter.mp written).2 isSoa
    · intro layout record member covers
      rcases ofOwner record member with ⟨rrs, isOwner, written⟩
      have outside := not_belongsToSoa_of_written layout isOwner written
      simp [belongsToSoa, covers] at outside

theorem body_inOrder {options : SignZone} {apex : Name} {hashes : Option Nsec3HashMap}
    (areHashes : ∀ some_, hashes = some some_ → Hashes domain options apex some_)
    (records : SortedRecords) :
    InOrder ⟨options, apex, hashes⟩ (body domain ⟨options, apex, hashes⟩ records) where
  plain := body_plain
  unhashed := fun _ => body_unhashed
  adjacent := by
    intro found reorders one middle later info inBody unhashed hashed isHash
    have all := areHashes found (Option.filter_eq_some_iff.mp reorders).1
    have ordered := (body_unhashed reorders).sublist inBody
    simp only [List.pairwise_cons, List.mem_cons, List.not_mem_nil, or_false,
      forall_eq_or_imp, forall_eq] at ordered
    exact all.between unhashed hashed isHash ordered.1.1 ordered.2.1
  signatures := body_blocks

end Body

/-! ## Runs -/

section Runs

variable {domain : Domain} {env : Env} {options : SignZone} {prepared : Prepared}
variable {signed : SignedZone} {lines : List Line}

theorem sign_hashes (run : sign domain options prepared = .ok signed) :
    nsec3Hashes domain options prepared.zone.apex (prepared.toSign options) =
      .ok signed.hashes := by
  unfold sign at run
  rcases Effect.bind_eq_ok run with ⟨hashes, isHashes, run⟩
  rcases Effect.bind_eq_ok run with ⟨records, _, run⟩
  rw [isHashes]
  split at run
  · cases run
    rfl
  · rcases Effect.bind_eq_ok run with ⟨_, _, run⟩
    cases run
    rfl

theorem readZone_soas_ne_nil {zone : Zone} (read : readZone env options = .ok zone) :
    soas zone.records.toList ≠ [] := by
  rcases Effect.bind_eq_ok read with ⟨records, _, rest⟩
  rcases Effect.bind_eq_ok rest with ⟨soaRr, found, processed⟩
  have member := findApex_mem_soas found
  split at processed
  · next soa isSoa =>
      split at processed
      · -- The SOA record has got a new serial number.
        cases processed
        rcases SortedList.updateFirst_cases (Record.same · soaRr)
          (fun record => { record with data := .soa (mkBumpedSoaRdata env soa) }) records.toList with
          ⟨same, _⟩ | ⟨before, record, after, _, _, _, changed⟩
        · intro none_
          have stays : soas records.toList = [] := by
            rw [← same]
            exact none_
          rw [stays] at member
          cases member
        · let newSoa : Record := { record with data := .soa (mkBumpedSoaRdata env soa) }
          have stays : newSoa ∈ SortedList.updateFirst (Record.same · soaRr)
              (fun record => { record with data := .soa (mkBumpedSoaRdata env soa) })
              records.toList := by
            rw [changed]
            exact List.mem_append_right _ List.mem_cons_self
          exact List.ne_nil_of_mem (List.mem_filter.mpr ⟨stays, decide_eq_true rfl⟩)
      · cases processed
        exact List.ne_nil_of_mem member
  · cases processed

theorem not_soa_of_isZonemd {apex : Name} {record : Record} (isZonemd' : isZonemd apex record = true) :
    decide (record.rtype = Rtype.soa) = false := by
  rw [(of_decide_eq_true isZonemd').2]
  decide

theorem toSign_soas (options : SignZone) (prepared : Prepared) :
    soas (prepared.toSign options).toList = soas prepared.records.toList := by
  by_cases asked : options.zonemd = []
  · unfold Prepared.toSign
    rw [asked]
    rfl
  · rw [toSign_eq asked]
    have inserted := @filter_foldl_insertIfNew [placeholderZonemd prepared.zone]
      (prepared.records.removeAllByNameClassRtype prepared.zone.apex none (some Rtype.zonemd))
      (fun record => decide (record.rtype = Rtype.soa)) fun record isPlaceholder => by
        rw [List.mem_singleton.mp isPlaceholder]
        exact not_soa_of_isZonemd (isZonemd_placeholder _)
    apply Eq.trans inserted
    unfold SortedRecords.removeAllByNameClassRtype
    rw [List.filter_filter]
    apply List.filter_congr
    intro record _
    rw [named_eq_isZonemd]
    cases zonemd : isZonemd prepared.zone.apex record with
    | false => simp
    | true => simp [not_soa_of_isZonemd zonemd]

/-- Signing leaves an SOA record where there is one. -/
theorem sign_soas_ne_nil (some_ : soas prepared.records.toList ≠ [])
    (run : sign domain options prepared = .ok signed) : soas signed.records.toList ≠ [] := by
  rw [← toSign_soas options] at some_
  rcases Effect.bind_eq_ok run with ⟨_, _, rest⟩
  rcases Effect.bind_eq_ok rest with ⟨records, made, later⟩
  rcases Effect.bind_eq_ok made with ⟨added, _, extended⟩
  cases extended
  have extendedSoas : soas ((prepared.toSign options).extend added).toList ≠ [] := by
    rcases List.exists_mem_of_ne_nil _ some_ with ⟨soa, isSoa⟩
    rcases List.mem_filter.mp isSoa with ⟨member, hasType⟩
    have kept : ∃ other ∈ ((prepared.toSign options).extend added).toList,
        other.key = soa.key :=
      SortedList.exists_key_extend List.Pairwise.nil (Or.inr (List.mem_append_left added member))
    rcases kept with ⟨other, found, same⟩
    apply List.ne_nil_of_mem (a := other)
    apply List.mem_filter.mpr
    refine ⟨found, decide_eq_true ?_⟩
    rw [rtype_of_same (Record.key_eq_iff.mp same)]
    exact of_decide_eq_true hasType
  split at later
  · cases later
    exact extendedSoas
  · rcases Effect.bind_eq_ok later with ⟨finished, finishes, same⟩
    cases same
    have kept := filter_finishZonemd (fun record => @not_soa_of_isZonemd prepared.zone.apex record)
      (fun record isRrsig => by
        rw [isRrsig]
        decide) finishes
    change soas finished.toList ≠ []
    unfold soas at extendedSoas ⊢
    rw [kept]
    exact extendedSoas

/-- Every zone that is written begins with its SOA record, and the other records come in the
order that is asked for. -/
theorem execute_inOrder (run : options.execute domain env = .ok lines) :
    ∃ prepared hashes soa signatures body, prepare domain env options = .ok prepared ∧
      nsec3Hashes domain options prepared.zone.apex (prepared.toSign options) = .ok hashes ∧
      recordsOf lines = soa :: signatures ++ body ∧
      SoaFirst ⟨options, prepared.zone.apex, hashes⟩ soa signatures body ∧
      InOrder ⟨options, prepared.zone.apex, hashes⟩ body := by
  unfold SignZone.execute at run
  rcases Effect.bind_eq_ok run with ⟨prepared, ready, run⟩
  rcases Effect.bind_eq_ok run with ⟨_, _, run⟩
  rcases Effect.bind_eq_ok run with ⟨signed, signs, writes⟩
  have isHashes := sign_hashes signs
  have someSoa : soas prepared.records.toList ≠ [] := by
    rw [prepared_soas ready]
    exact readZone_soas_ne_nil (prepare_eq_ok ready).2.1
  rcases List.exists_cons_of_ne_nil (sign_soas_ne_nil someSoa signs) with
    ⟨soa, others, isSoa⟩
  rcases @body_soaFirst domain ⟨options, prepared.zone.apex, signed.hashes⟩ signed.records soa
    others isSoa with ⟨signatures, written, soaFirst⟩
  refine ⟨prepared, signed.hashes, soa, signatures, _, ready, isHashes, ?_, soaFirst,
    body_inOrder (nsec3Hashes_hashes isHashes) _⟩
  rw [← (writeZone_eq_ok.mp writes).2, written]

end Runs

namespace Reference

def ldnsLines : List Line :=
  (ldnsOptions.execute domain (env [soaRecord apex 1])).toOption.getD []

end Reference

theorem execute_inOrder_ldns :
    ∃ prepared hashes soa signatures body,
      prepare Reference.domain (Reference.env [Reference.soaRecord Reference.apex 1])
        Reference.ldnsOptions = .ok prepared ∧
      nsec3Hashes Reference.domain Reference.ldnsOptions prepared.zone.apex
        (prepared.toSign Reference.ldnsOptions) = .ok hashes ∧
      recordsOf Reference.ldnsLines = soa :: signatures ++ body ∧
      SoaFirst ⟨Reference.ldnsOptions, prepared.zone.apex, hashes⟩ soa signatures body ∧
      InOrder ⟨Reference.ldnsOptions, prepared.zone.apex, hashes⟩ body :=
  execute_inOrder (Reference.eq_ok_getD _ (by decide +kernel))

end Dnst.Signzone
