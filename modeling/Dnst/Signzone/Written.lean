import Dnst.Signzone.Reference

/-! # What is written

Every record of a signed zone has one place in the output. Records without a place, and
those behind the first where only one is written, are dropped.
-/

namespace Dnst.Signzone

open SortedList (runs Ordered)

@[simp] theorem recordsOf_nil : recordsOf [] = [] := rfl

@[simp] theorem recordsOf_append (lines more : List Line) :
    recordsOf (lines ++ more) = recordsOf lines ++ recordsOf more := List.filterMap_append

theorem recordsOf_flatMap {Item : Type} (items : List Item) (write : Item → List Line) :
    recordsOf (items.flatMap write) = items.flatMap fun item => recordsOf (write item) := by
  induction items with
  | nil => rfl
  | cons item items induction =>
      rw [List.flatMap_cons, List.flatMap_cons, recordsOf_append, induction]

theorem recordsOf_map {write : Record → Line} (writes : ∀ record, (write record).record? = some record)
    (records : List Record) : recordsOf (records.map write) = records := by
  unfold recordsOf
  rw [List.filterMap_map]
  have all : Line.record? ∘ write = some := funext writes
  rw [all, List.filterMap_some]

@[simp] theorem recordsOf_writelnRr (output : Output) (records : List Record) :
    recordsOf (records.map (writelnRr output)) = records := recordsOf_map (fun _ => rfl) records

@[simp] theorem recordsOf_writeCommented (domain : Domain) (output : Output)
    (records : List Record) : recordsOf (records.map (writeCommented domain output)) = records :=
  recordsOf_map (fun _ => rfl) records

@[simp] theorem recordsOf_writePlain (domain : Domain) (output : Output) (records : List Record) :
    recordsOf (records.map (writePlain domain output)) = records :=
  recordsOf_map (fun _ => rfl) records

@[simp] theorem recordsOf_blankIf (condition : Bool) : recordsOf (blankIf condition) = [] := by
  cases condition <;> rfl

/-! ## RRsets of an owner -/

section Rrsets

variable {records : List Record}

/-- Lists that are not empty are the records of their RRsets. -/
theorem records_filterMap {lists : List (List Record)} (full : ∀ list ∈ lists, list ≠ []) :
    (lists.filterMap Rrset.ofList).map Rrset.records = lists := by
  induction lists with
  | nil => rfl
  | cons list lists induction =>
      have rest := induction fun other member => full other (List.mem_cons_of_mem _ member)
      cases list with
      | nil => exact absurd rfl (full [] List.mem_cons_self)
      | cons first others =>
          have found : Rrset.ofList (first :: others) = some ⟨first, others⟩ := rfl
          rw [List.filterMap_cons_some found, List.map_cons, rest]
          rfl

theorem rrsetsOf_records : (rrsetsOf records).map Rrset.records = runs Record.rtype records :=
  records_filterMap fun _ member => SortedList.run_ne_nil member

theorem flatMap_rrsetsOf : (rrsetsOf records).flatMap Rrset.records = records := by
  rw [List.flatMap_def, rrsetsOf_records]
  exact SortedList.flatten_runs

theorem rtype_of_mem_rrset {rrset : Rrset} (member : rrset ∈ rrsetsOf records) {record : Record}
    (inRrset : record ∈ rrset.records) : record.rtype = rrset.rtype := by
  have isRun : rrset.records ∈ runs Record.rtype records := by
    rw [← rrsetsOf_records]
    exact List.mem_map_of_mem member
  exact SortedList.kind_of_mem_run isRun inRrset List.mem_cons_self

theorem mem_of_mem_rrset {rrset : Rrset} (member : rrset ∈ rrsetsOf records) {record : Record}
    (inRrset : record ∈ rrset.records) : record ∈ records := by
  have all := @flatMap_rrsetsOf records
  rw [← all]
  exact List.mem_flatMap.mpr ⟨rrset, member, inRrset⟩

theorem exists_rrset {record : Record} (member : record ∈ records) :
    ∃ rrset ∈ rrsetsOf records, record ∈ rrset.records := by
  have all := @flatMap_rrsetsOf records
  rw [← all] at member
  exact List.mem_flatMap.mp member

/-- There is one RRset for each type. -/
theorem rtypes_nodup (ordered : Ordered Record.rtype records) :
    ((rrsetsOf records).map Rrset.rtype).Nodup := by
  have increase := SortedList.runs_increase ordered
  rw [← rrsetsOf_records] at increase
  apply List.pairwise_map.mpr
  apply (List.pairwise_map.mp increase).imp
  intro rrset later below
  exact ne_of_lt (below rrset.first List.mem_cons_self later.first List.mem_cons_self)

/-- The records of some of the RRsets. -/
theorem flatMap_filter_rrsets (chosen : Rrset → Bool) (chooses : Record → Bool)
    (agree : ∀ rrset ∈ rrsetsOf records, ∀ record ∈ rrset.records,
      chooses record = chosen rrset) :
    ((rrsetsOf records).filter chosen).flatMap Rrset.records = records.filter chooses := by
  have all := @flatMap_rrsetsOf records
  nth_rewrite 2 [← all]
  generalize rrsetsOf records = rrsets at agree
  induction rrsets with
  | nil => rfl
  | cons rrset rrsets induction =>
      have rest := induction fun other member => agree other (List.mem_cons_of_mem _ member)
      have here := agree rrset List.mem_cons_self
      rw [List.flatMap_cons, List.filter_append, ← rest]
      cases isChosen : chosen rrset with
      | true =>
          have kept : rrset.records.filter chooses = rrset.records :=
            List.filter_eq_self.mpr fun record member => (here record member).trans isChosen
          rw [List.filter_cons_of_pos isChosen, List.flatMap_cons, kept]
      | false =>
          have gone : rrset.records.filter chooses = [] := by
            apply List.filter_eq_nil_iff.mpr
            intro record member
            simp [here record member, isChosen]
          have skipped : ¬ chosen rrset = true := by simp [isChosen]
          rw [List.filter_cons_of_neg skipped, gone, List.nil_append]

/-- The first record of a type, found in its RRset. -/
theorem find_first (rtype : Rtype) :
    ((rrsetsOf records).find? (·.rtype = rtype)).map Rrset.first =
      (records.filter (·.rtype = rtype)).head? := by
  have agree : ∀ rrset ∈ rrsetsOf records, ∀ record ∈ rrset.records,
      decide (record.rtype = rtype) = decide (rrset.rtype = rtype) := by
    intro rrset isRrset record inRrset
    rw [rtype_of_mem_rrset isRrset inRrset]
  have filtered := flatMap_filter_rrsets (fun rrset => decide (rrset.rtype = rtype))
    (fun record => decide (record.rtype = rtype)) agree
  rw [← filtered, ← List.head?_filter]
  cases (rrsetsOf records).filter fun rrset => rrset.rtype = rtype <;> rfl

/-- The RRSIG records of an owner that satisfy a condition. -/
theorem flatMap_rrsigs (chooses : Record → Bool)
    (signatures : ∀ record, chooses record = true → record.rtype = Rtype.rrsig) :
    (((rrsetsOf records).filter (·.rtype = Rtype.rrsig)).flatMap fun rrsigs =>
      rrsigs.records.filter chooses) = records.filter chooses := by
  have agree : ∀ rrset ∈ rrsetsOf records, ∀ record ∈ rrset.records,
      decide (record.rtype = Rtype.rrsig) = decide (rrset.rtype = Rtype.rrsig) := by
    intro rrset isRrset record inRrset
    rw [rtype_of_mem_rrset isRrset inRrset]
  rw [← List.filter_flatMap, flatMap_filter_rrsets _ _ agree, List.filter_filter]
  apply List.filter_congr
  intro record _
  cases chosen : chooses record with
  | false => rfl
  | true => simp [signatures record chosen]

/-- The first signature over a type, found in the RRSIG RRset. -/
theorem find_first_signature (ordered : Ordered Record.rtype records) (covered : Rtype) :
    (((rrsetsOf records).find? (·.rtype = Rtype.rrsig)).bind fun rrsigs =>
      rrsigs.records.find? (·.typeCovered = some covered)) =
      (records.filter (·.typeCovered = some covered)).head? := by
  have signatures : ∀ record : Record, decide (record.typeCovered = some covered) = true →
      record.rtype = Rtype.rrsig :=
    fun _ covers => rtype_of_typeCovered (of_decide_eq_true covers)
  have nodup := rtypes_nodup ordered
  rw [← flatMap_rrsigs _ signatures, ← List.head?_filter]
  have single : ((rrsetsOf records).filter (·.rtype = Rtype.rrsig)).length ≤ 1 := by
    have types : ((rrsetsOf records).filter (·.rtype = Rtype.rrsig)).map Rrset.rtype =
        ((rrsetsOf records).map Rrset.rtype).filter (· = Rtype.rrsig) := by
      rw [List.filter_map]
      rfl
    have count := (List.nodup_iff_count_le_one.mp nodup) Rtype.rrsig
    rw [← List.length_map Rrset.rtype, types]
    rw [List.count_eq_length_filter] at count
    simpa [BEq.beq] using count
  cases found : (rrsetsOf records).filter (·.rtype = Rtype.rrsig) with
  | nil => rfl
  | cons rrsigs others =>
      rw [found] at single
      have none : others = [] := by
        cases others with
        | nil => rfl
        | cons => simp at single
      rw [none, List.flatMap_cons, List.flatMap_nil, List.append_nil, List.head?_cons,
        Option.bind_some, List.head?_filter]

end Rrsets

/-! ## Places -/

/-- Where a record is written in the layout with RRSIGs after the records they cover. -/
inductive Place where
  | soa
  | behindSoa
  | listed
  | behindRrset
  | apexNsec
  | apexNsecSignature
  | nowhere
  deriving DecidableEq

/-- Types whose RRsets are listed in their place. -/
def listedType (withheld : Bool) (rtype : Rtype) : Bool :=
  rtype ≠ Rtype.soa ∧ rtype ≠ Rtype.rrsig ∧ !(withheld ∧ rtype = Rtype.nsec)

/-- The place of a record among the records of its owner. -/
def place (withheld : Bool) (ownerRrs : List Record) (record : Record) : Place :=
  if record.rtype = Rtype.soa then .soa
  else if record.rtype = Rtype.rrsig then
    match record.typeCovered with
    | some covered =>
        if covered = Rtype.soa then .behindSoa
        else if withheld ∧ covered = Rtype.nsec then .apexNsecSignature
        else if covered ≠ Rtype.rrsig ∧ ownerRrs.any (·.rtype = covered) then .behindRrset
        else .nowhere
    | none => .nowhere
  else if withheld ∧ record.rtype = Rtype.nsec then .apexNsec
  else .listed

section Place

variable {withheld : Bool} {ownerRrs : List Record} {record : Record}

theorem place_eq_soa : place withheld ownerRrs record = .soa ↔ record.rtype = Rtype.soa := by
  unfold place
  grind

theorem place_eq_behindSoa :
    place withheld ownerRrs record = .behindSoa ↔ record.typeCovered = some Rtype.soa := by
  have signs := fun covered => @rtype_of_typeCovered record covered
  have different : Rtype.soa ≠ Rtype.rrsig := by decide
  unfold place
  grind

theorem place_eq_listed :
    place withheld ownerRrs record = .listed ↔ listedType withheld record.rtype = true := by
  unfold place listedType
  grind

theorem place_of_covers {covered : Rtype} (covers : record.typeCovered = some covered) :
    place withheld ownerRrs record =
      if covered = Rtype.soa then .behindSoa
      else if withheld ∧ covered = Rtype.nsec then .apexNsecSignature
      else if covered ≠ Rtype.rrsig ∧ ownerRrs.any (·.rtype = covered) then .behindRrset
      else .nowhere := by
  have isRrsig := rtype_of_typeCovered covers
  have different : Rtype.rrsig ≠ Rtype.soa := by decide
  unfold place
  rw [isRrsig, if_neg different, if_pos rfl, covers]

theorem place_eq_behindRrset :
    place withheld ownerRrs record = .behindRrset ↔
      ∃ covered, record.typeCovered = some covered ∧ listedType withheld covered = true ∧
        ∃ other ∈ ownerRrs, other.rtype = covered := by
  cases covers : record.typeCovered with
  | none =>
      unfold place
      rw [covers]
      grind
  | some covered =>
      rw [place_of_covers covers]
      unfold listedType
      simp only [List.any_eq_true, decide_eq_true_eq, Option.some.injEq, exists_eq_left']
      by_cases present : ∃ other ∈ ownerRrs, other.rtype = covered
      · simp only [present, and_true]
        grind
      · simp only [present, and_false, if_false, iff_false]
        grind

theorem place_eq_apexNsec :
    place withheld ownerRrs record = .apexNsec ↔
      withheld = true ∧ record.rtype = Rtype.nsec := by
  have notSoa : Rtype.nsec ≠ Rtype.soa := by decide
  have notRrsig : Rtype.nsec ≠ Rtype.rrsig := by decide
  unfold place
  grind

theorem place_eq_apexNsecSignature :
    place withheld ownerRrs record = .apexNsecSignature ↔
      withheld = true ∧ record.typeCovered = some Rtype.nsec := by
  have signs := fun covered => @rtype_of_typeCovered record covered
  have different : Rtype.soa ≠ Rtype.rrsig := by decide
  have notSoa : Rtype.nsec ≠ Rtype.soa := by decide
  unfold place
  grind

end Place

/-! ## One owner -/

/-- Records that are written with the SOA record. -/
def belongsToSoa (record : Record) : Bool :=
  record.rtype = Rtype.soa ∨ record.typeCovered = some Rtype.soa

/-- The records of an owner that have this place. -/
def placed (withheld : Bool) (ownerRrs : List Record) (one : Place) : List Record :=
  ownerRrs.filter fun record => place withheld ownerRrs record = one

/-- The records of an owner, place by place. -/
theorem places_perm (withheld : Bool) (ownerRrs : List Record) :
    ([Place.listed, .behindRrset, .apexNsec, .apexNsecSignature, .nowhere].flatMap
      (placed withheld ownerRrs)).Perm (ownerRrs.filter (!belongsToSoa ·)) := by
  have distinct : [Place.listed, .behindRrset, .apexNsec, .apexNsecSignature,
    .nowhere].Nodup := by decide
  have perm := SortedList.flatMap_filter_perm (place withheld ownerRrs) ownerRrs distinct
  have others : (ownerRrs.filter fun record => place withheld ownerRrs record ∈
      [Place.listed, .behindRrset, .apexNsec, .apexNsecSignature, .nowhere]) =
      ownerRrs.filter (!belongsToSoa ·) := by
    apply List.filter_congr
    intro record _
    have isSoa := @place_eq_soa withheld ownerRrs record
    have isBehind := @place_eq_behindSoa withheld ownerRrs record
    unfold belongsToSoa
    simp only [← isSoa, ← isBehind]
    cases place withheld ownerRrs record <;> rfl
  rw [others] at perm
  exact perm

section Owner

variable {domain : Domain} {output : Output} {ownerRrs : List Record} {owner : Name}

theorem recordsOf_writeRrset (rrset : Rrset) :
    recordsOf (writeRrset domain output (rrsetsOf ownerRrs) rrset) =
      rrset.records ++ ownerRrs.filter (coversRrset output rrset) := by
  have signatures : ∀ record, coversRrset output rrset record = true →
      record.rtype = Rtype.rrsig :=
    fun _ covers => rtype_of_typeCovered (of_decide_eq_true covers).1
  unfold writeRrset
  rw [recordsOf_append, recordsOf_writeCommented, recordsOf_flatMap]
  simp only [recordsOf_writelnRr]
  rw [flatMap_rrsigs _ signatures]

theorem isListed_of_mem (owned : ∀ record ∈ ownerRrs, record.owner = owner) {rrset : Rrset}
    (member : rrset ∈ rrsetsOf ownerRrs) :
    isListed output rrset = listedType (withholdsNsec output owner) rrset.rtype := by
  have inOwner := mem_of_mem_rrset member List.mem_cons_self
  have sameOwner : rrset.owner = owner := owned _ inOwner
  unfold isListed listedType
  rw [sameOwner]

/-- RRsets in their places. -/
theorem listed_records (owned : ∀ record ∈ ownerRrs, record.owner = owner) :
    ((rrsetsOf ownerRrs).filter (isListed output)).flatMap Rrset.records =
      placed (withholdsNsec output owner) ownerRrs .listed := by
  apply flatMap_filter_rrsets
  intro rrset member record inRrset
  rw [isListed_of_mem owned member, ← rtype_of_mem_rrset member inRrset]
  have listed := @place_eq_listed (withholdsNsec output owner) ownerRrs record
  rw [Bool.eq_iff_iff, decide_eq_true_eq]
  exact listed

/-- Signatures behind the RRsets that they cover. -/
theorem covering_records (ordered : Ordered Record.rtype ownerRrs)
    (owned : ∀ record ∈ ownerRrs, record.owner = owner) :
    (((rrsetsOf ownerRrs).filter (isListed output)).flatMap fun rrset =>
      ownerRrs.filter (coversRrset output rrset)).Perm
        (placed (withholdsNsec output owner) ownerRrs .behindRrset) := by
  have covers : ∀ rrset ∈ (rrsetsOf ownerRrs).filter (isListed output),
      ownerRrs.filter (coversRrset output rrset) =
        ownerRrs.filter fun record => record.typeCovered = some rrset.rtype := by
    intro rrset chosen
    rcases List.mem_filter.mp chosen with ⟨member, listed⟩
    rw [isListed_of_mem owned member] at listed
    apply List.filter_congr
    intro record inOwner
    unfold listedType at listed
    unfold coversRrset
    rw [owned record inOwner]
    grind
  have types : (((rrsetsOf ownerRrs).filter (isListed output)).map fun rrset =>
      some rrset.rtype).Nodup := by
    have all := (rtypes_nodup ordered).map (Option.some_injective Rtype)
    rw [List.map_map] at all
    exact all.sublist (List.filter_sublist.map _)
  have perm := SortedList.flatMap_filter_perm Record.typeCovered ownerRrs types
  rw [List.flatMap_map] at perm
  rw [List.flatMap_congr covers]
  apply perm.trans
  apply List.Perm.of_eq
  apply List.filter_congr
  intro record _
  apply decide_eq_decide.mpr
  rw [place_eq_behindRrset]
  constructor
  · intro member
    rcases List.mem_map.mp member with ⟨rrset, chosen, covered⟩
    rcases List.mem_filter.mp chosen with ⟨isRrset, listed⟩
    rw [isListed_of_mem owned isRrset] at listed
    exact ⟨rrset.rtype, covered.symm, listed, rrset.first,
      mem_of_mem_rrset isRrset List.mem_cons_self, rfl⟩
  · rintro ⟨covered, covers, listed, other, inOwner, rfl⟩
    rcases exists_rrset inOwner with ⟨rrset, isRrset, inRrset⟩
    have sameType := rtype_of_mem_rrset isRrset inRrset
    apply List.mem_map.mpr
    refine ⟨rrset, List.mem_filter.mpr ⟨isRrset, ?_⟩, ?_⟩
    · rw [isListed_of_mem owned isRrset, ← sameType]
      exact listed
    · rw [covers, sameType]

/-- The NSEC record of the apex and one signature over it. -/
theorem recordsOf_writeApexNsec (ordered : Ordered Record.rtype ownerRrs) :
    recordsOf (writeApexNsec output (rrsetsOf ownerRrs)) =
      (placed true ownerRrs .apexNsec).head?.toList ++
        (placed true ownerRrs .apexNsecSignature).head?.toList := by
  have nsec : placed true ownerRrs .apexNsec = ownerRrs.filter (·.rtype = Rtype.nsec) := by
    apply List.filter_congr
    intro record _
    apply decide_eq_decide.mpr
    rw [place_eq_apexNsec]
    simp
  have signature : placed true ownerRrs .apexNsecSignature =
      ownerRrs.filter (·.typeCovered = some Rtype.nsec) := by
    apply List.filter_congr
    intro record _
    apply decide_eq_decide.mpr
    rw [place_eq_apexNsecSignature]
    simp
  unfold writeApexNsec
  rw [recordsOf_writelnRr, find_first, find_first_signature ordered, nsec, signature]

theorem head_append_tail (records : List Record) :
    records.head?.toList ++ records.tail = records := by
  cases records <;> rfl

/-- The NSEC records of the apex and their signatures that are not written. -/
def lostApexNsec (useNsec3 withheld : Bool) (ownerRrs : List Record) : List Record :=
  let nsec := placed withheld ownerRrs .apexNsec
  let signatures := placed withheld ownerRrs .apexNsecSignature
  if useNsec3 then nsec ++ signatures else nsec.tail ++ signatures.tail

/-- The records of an owner that are not written, apart from those that belong to the SOA. -/
def lost (output : Output) (owner : Name) (ownerRrs : List Record) : List Record :=
  let withheld := withholdsNsec output owner
  placed withheld ownerRrs .nowhere ++ lostApexNsec output.options.useNsec3 withheld ownerRrs

theorem apexNsec_perm (ordered : Ordered Record.rtype ownerRrs) :
    (recordsOf (if withholdsNsec output owner ∧ !output.options.useNsec3 then
        writeApexNsec output (rrsetsOf ownerRrs) else []) ++
      lostApexNsec output.options.useNsec3 (withholdsNsec output owner) ownerRrs).Perm
        (placed (withholdsNsec output owner) ownerRrs .apexNsec ++
          placed (withholdsNsec output owner) ownerRrs .apexNsecSignature) := by
  unfold lostApexNsec
  cases nsec3 : output.options.useNsec3 with
  | true => simp
  | false =>
      cases withheld : withholdsNsec output owner with
      | false =>
          have noNsec : placed false ownerRrs .apexNsec = [] := by
            apply List.filter_eq_nil_iff.mpr
            simp [place_eq_apexNsec]
          have noSignature : placed false ownerRrs .apexNsecSignature = [] := by
            apply List.filter_eq_nil_iff.mpr
            simp [place_eq_apexNsecSignature]
          simp [noNsec, noSignature]
      | true =>
          have nsec := head_append_tail (placed true ownerRrs .apexNsec)
          have signatures := head_append_tail (placed true ownerRrs .apexNsecSignature)
          simp only [Bool.not_false, and_self, if_true, Bool.false_eq_true, if_false]
          rw [recordsOf_writeApexNsec ordered]
          nth_rewrite 3 [← nsec]
          nth_rewrite 3 [← signatures]
          apply List.perm_iff_count.mpr
          intro record
          simp only [List.count_append]
          omega

/-- With the layout, what is written for an owner and what is lost are its records. -/
theorem writeOwnerLayout_perm (ordered : Ordered Record.rtype ownerRrs)
    (owned : ∀ record ∈ ownerRrs, record.owner = owner) :
    (recordsOf (writeOwnerLayout domain output owner (rrsetsOf ownerRrs)) ++
      lost output owner ownerRrs).Perm (ownerRrs.filter (!belongsToSoa ·)) := by
  have inPlaces := places_perm (withholdsNsec output owner) ownerRrs
  have covering := @covering_records output ownerRrs owner ordered owned
  have apex := @apexNsec_perm output ownerRrs owner ordered
  have body : (recordsOf (((rrsetsOf ownerRrs).filter (isListed output)).flatMap
      (writeRrset domain output (rrsetsOf ownerRrs)))).Perm
        (placed (withholdsNsec output owner) ownerRrs .listed ++
          placed (withholdsNsec output owner) ownerRrs .behindRrset) := by
    rw [recordsOf_flatMap]
    simp only [recordsOf_writeRrset]
    apply (List.flatMap_append_perm _ _ _).symm.trans
    rw [listed_records owned]
    exact covering.append_left _
  unfold writeOwnerLayout lost
  rw [recordsOf_append, recordsOf_append, recordsOf_blankIf, List.append_nil]
  apply List.Perm.trans _ inPlaces
  apply List.perm_iff_count.mpr
  intro record
  have countBody := body.count_eq record
  have countApex := apex.count_eq record
  simp only [List.flatMap_cons, List.flatMap_nil, List.count_append, List.count_nil] at *
  omega

/-- Without the layout, all but SOA records are written in their place. -/
theorem recordsOf_writeOwnerPlain :
    recordsOf (writeOwnerPlain domain output (rrsetsOf ownerRrs)) =
      ownerRrs.filter (·.rtype ≠ Rtype.soa) := by
  unfold writeOwnerPlain
  rw [recordsOf_flatMap]
  simp only [recordsOf_writePlain]
  apply flatMap_filter_rrsets
  intro rrset member record inRrset
  rw [rtype_of_mem_rrset member inRrset]

theorem recordsOf_writeOwnerRrs (rrs : Rrset) :
    recordsOf (writeOwnerRrs domain output rrs) =
      if output.options.orderRrsigsAfterTheRtypeTheyCover then
        recordsOf (writeOwnerLayout domain output rrs.owner (rrsetsOf rrs.records))
      else rrs.records.filter (·.rtype ≠ Rtype.soa) := by
  have comment : recordsOf (if output.options.extraComments then
      ((output.hashes.bind (·.getIfEnt rrs.owner)).map Line.emptyNonTerminal).toList
      else []) = [] := by
    split
    · cases output.hashes.bind (·.getIfEnt rrs.owner) <;> rfl
    · rfl
  unfold writeOwnerRrs
  simp only [recordsOf_append, comment, List.nil_append]
  split
  · rfl
  · exact recordsOf_writeOwnerPlain

end Owner

/-! ## All owners -/

section Owners

variable {records : SortedRecords}

/-- The records of each owner, in the order of the collection. -/
def owners (records : SortedRecords) : List Rrset := records.ownerRrs.filterMap Rrset.ofList

theorem owners_records :
    (owners records).map Rrset.records = runs Record.ownerKey records.toList :=
  records_filterMap fun _ member => SortedList.run_ne_nil member

theorem records_mem_runs {owner : Rrset} (member : owner ∈ owners records) :
    owner.records ∈ runs Record.ownerKey records.toList := by
  rw [← owners_records]
  exact List.mem_map_of_mem member

theorem flatMap_owners : (owners records).flatMap Rrset.records = records.toList := by
  rw [List.flatMap_def, owners_records]
  exact SortedList.flatten_runs

theorem ownerKey_of_mem_owner {owner : Rrset} (member : owner ∈ owners records)
    {record : Record} (inOwner : record ∈ owner.records) :
    record.ownerKey = owner.first.ownerKey := by
  exact SortedList.kind_of_mem_run (records_mem_runs member) inOwner List.mem_cons_self

theorem owner_of_mem_owner {owner : Rrset} (member : owner ∈ owners records)
    {record : Record} (inOwner : record ∈ owner.records) : record.owner = owner.owner :=
  (Record.ownerKey_eq_iff.mp (ownerKey_of_mem_owner member inOwner)).2

/-- The types of an owner come in order. -/
theorem rtypes_ordered {owner : Rrset} (member : owner ∈ owners records) :
    Ordered Record.rtype owner.records := by
  have whole := records.ordered
  unfold Ordered at whole
  rw [← flatMap_owners, List.flatMap_def] at whole
  have inOwner := (List.pairwise_flatten.mp whole).1 owner.records (List.mem_map_of_mem member)
  apply List.Pairwise.imp_of_mem _ inOwner
  intro one other oneMember otherMember below
  have sameOwner := (ownerKey_of_mem_owner member oneMember).trans
    (ownerKey_of_mem_owner member otherMember).symm
  exact Record.rtype_le_of_rrsetKey below sameOwner

theorem exists_owner {record : Record} (member : record ∈ records.toList) :
    ∃ owner ∈ owners records, record ∈ owner.records := by
  rw [← flatMap_owners] at member
  exact List.mem_flatMap.mp member

end Owners

/-! ## The zone -/

/-- The SOA records. -/
def soas (records : List Record) : List Record := records.filter (·.rtype = Rtype.soa)

/-- The records that are not written: SOA records behind the first and, with the layout,
signatures that cover nothing and NSEC records of the apex that are withheld. -/
def dropped (output : Output) (records : SortedRecords) : List Record :=
  (soas records.toList).tail ++
    if output.options.orderRrsigsAfterTheRtypeTheyCover then
      (if (soas records.toList).isEmpty then
        records.toList.filter (·.typeCovered = some Rtype.soa) else []) ++
        (owners records).flatMap fun owner => lost output owner.owner owner.records
    else []

section Zone

variable {domain : Domain} {output : Output} {records : SortedRecords}

theorem orderOwners_perm (output : Output) (ownerRrs : List Rrset) :
    (orderOwners output ownerRrs).Perm ownerRrs := by
  unfold orderOwners
  split
  · split
    · exact List.perm_insertionSort _ _
    · exact List.Perm.refl _
  · exact List.Perm.refl _

theorem recordsOf_writeHashList : recordsOf (writeHashList output) = [] := by
  unfold writeHashList recordsOf
  split
  · rw [List.filterMap_map]
    exact List.filterMap_eq_nil_iff.mpr fun _ _ => rfl
  · rfl

theorem recordsOf_writeSoa :
    recordsOf (writeSoa output records.toList) =
      (soas records.toList).head?.toList ++
        if output.options.orderRrsigsAfterTheRtypeTheyCover ∧
            !(soas records.toList).isEmpty then
          records.toList.filter (·.typeCovered = some Rtype.soa)
        else [] := by
  unfold writeSoa soas
  rw [← List.head?_filter]
  cases records.toList.filter (·.rtype = Rtype.soa) with
  | nil => simp
  | cons soa others =>
      have line (lines : List Line) : recordsOf (writelnRr output soa :: lines) =
          soa :: recordsOf lines := rfl
      simp only [List.head?_cons, line]
      cases output.options.orderRrsigsAfterTheRtypeTheyCover <;> simp

theorem recordsOf_zoneLines :
    recordsOf (zoneLines domain output records) =
      recordsOf (writeSoa output records.toList) ++
        (orderOwners output (owners records)).flatMap fun owner =>
          recordsOf (writeOwnerRrs domain output owner) := by
  have heading : recordsOf (if output.options.extraComments then
      [.zone output.apex, .blank] else []) = [] := by
    split <;> rfl
  unfold zoneLines
  simp only [recordsOf_append, heading, recordsOf_writeHashList, List.nil_append]
  rw [recordsOf_flatMap]
  rfl

/-- The records of all owners that belong elsewhere than with the SOA. -/
theorem layout_owners_perm
    (layout : output.options.orderRrsigsAfterTheRtypeTheyCover = true) :
    (((orderOwners output (owners records)).flatMap fun owner =>
        recordsOf (writeOwnerRrs domain output owner)) ++
      (owners records).flatMap fun owner => lost output owner.owner owner.records).Perm
        (records.toList.filter (!belongsToSoa ·)) := by
  have reordered := (orderOwners_perm output (owners records)).flatMap_right fun owner =>
    recordsOf (writeOwnerRrs domain output owner)
  have each : ∀ owner ∈ owners records,
      (recordsOf (writeOwnerRrs domain output owner) ++
        lost output owner.owner owner.records).Perm
          (owner.records.filter (!belongsToSoa ·)) := by
    intro owner member
    rw [recordsOf_writeOwnerRrs, if_pos layout]
    exact writeOwnerLayout_perm (rtypes_ordered member) fun _ => owner_of_mem_owner member
  have all := List.Perm.flatMap_left (owners records) each
  have split := List.flatMap_append_perm (owners records)
    (fun owner => recordsOf (writeOwnerRrs domain output owner))
    (fun owner => lost output owner.owner owner.records)
  rw [← List.filter_flatMap, flatMap_owners] at all
  exact (reordered.append_right _).trans (split.trans all)

theorem soas_append_perm (records : List Record) :
    (soas records ++ records.filter (·.typeCovered = some Rtype.soa)).Perm
      (records.filter belongsToSoa) := by
  have split := List.filter_append_perm (fun record : Record => record.rtype = Rtype.soa)
    (records.filter belongsToSoa)
  have ofSoa : (records.filter belongsToSoa).filter (·.rtype = Rtype.soa) = soas records := by
    rw [List.filter_filter]
    apply List.filter_congr
    intro record _
    unfold belongsToSoa
    by_cases isSoa : record.rtype = Rtype.soa <;> simp [isSoa]
  have others : (records.filter belongsToSoa).filter (fun record =>
      !decide (record.rtype = Rtype.soa)) =
        records.filter (·.typeCovered = some Rtype.soa) := by
    rw [List.filter_filter]
    apply List.filter_congr
    intro record _
    have different : Rtype.rrsig ≠ Rtype.soa := by decide
    unfold belongsToSoa
    by_cases covers : record.typeCovered = some Rtype.soa
    · simp [covers, rtype_of_typeCovered covers, different]
    · simp [covers]
  rw [ofSoa, others] at split
  exact split

/-- What is written and what is dropped are the records of the zone. -/
theorem zoneLines_perm :
    (recordsOf (zoneLines domain output records) ++ dropped output records).Perm
      records.toList := by
  have first := head_append_tail (soas records.toList)
  rw [recordsOf_zoneLines, recordsOf_writeSoa]
  apply List.perm_iff_count.mpr
  intro record
  have countSoas := congrArg (List.count record) first
  unfold dropped
  cases layout : output.options.orderRrsigsAfterTheRtypeTheyCover with
  | false =>
      have each : ∀ owner ∈ owners records, recordsOf (writeOwnerRrs domain output owner) =
          owner.records.filter (·.rtype ≠ Rtype.soa) := by
        intro owner _
        rw [recordsOf_writeOwnerRrs, layout]
        rfl
      have reordered := (orderOwners_perm output (owners records)).flatMap_right fun owner =>
        recordsOf (writeOwnerRrs domain output owner)
      rw [List.flatMap_congr each, ← List.filter_flatMap, flatMap_owners] at reordered
      have split := List.filter_append_perm (fun record : Record => record.rtype = Rtype.soa)
        records.toList
      have countOwners := reordered.count_eq record
      have countAll := split.count_eq record
      unfold soas at *
      simp only [List.count_append, decide_not, Bool.false_eq_true, false_and, if_false,
        List.append_nil] at *
      omega
  | true =>
      have countOwners := (@layout_owners_perm domain output records layout).count_eq record
      have countSplit := (List.filter_append_perm belongsToSoa records.toList).count_eq record
      have countBelongs := (soas_append_perm records.toList).count_eq record
      cases none : (soas records.toList).isEmpty <;>
        simp only [List.count_append, none, if_true, Bool.not_false, Bool.not_true,
          Bool.false_eq_true, and_self, and_false, if_false, List.nil_append, List.count_nil] at * <;>
        omega

end Zone

/-! ## Comments -/

section Comments

variable {domain : Domain} {output : Output} {records : SortedRecords}

/-- Is the size of the key known, where it is written behind the record? -/
def keySizeKnown (domain : Domain) (options : SignZone) (record : Record) : Bool :=
  match record.data with
  | .dnskey dnskey =>
      if options.orderRrsigsAfterTheRtypeTheyCover ∨ options.invokedAsLdns then
        (domain.keySize dnskey).isSome
      else true
  | _ => true

theorem all_writelnRr (list : List Record) :
    (list.map (writelnRr output)).all Line.formats = true := by
  rw [List.all_map]
  exact List.all_eq_true.mpr fun _ _ => rfl

theorem all_blankIf (condition : Bool) : (blankIf condition).all Line.formats = true := by
  cases condition <;> rfl

theorem formats_writeCommented
    (layout : output.options.orderRrsigsAfterTheRtypeTheyCover = true) (record : Record) :
    (writeCommented domain output record).formats = keySizeKnown domain output.options record := by
  unfold writeCommented keySizeKnown
  cases record.data with
  | dnskey dnskey => simp [layout, Line.formats, dnskeyComment]
  | nsec3 nsec3 => cases output.options.extraComments <;> rfl
  | _ => rfl

theorem formats_writePlain
    (plain : output.options.orderRrsigsAfterTheRtypeTheyCover = false) (record : Record) :
    (writePlain domain output record).formats = keySizeKnown domain output.options record := by
  unfold writePlain keySizeKnown
  cases record.data with
  | dnskey dnskey =>
      cases ldns : output.options.invokedAsLdns <;>
        simp [plain, Line.formats, dnskeyComment]
  | _ => rfl

/-- Only DNSKEY records have a comment that may not fit, and these are always listed. -/
theorem keySizeKnown_of_unlisted {withheld : Bool} {ownerRrs : List Record} {record : Record}
    (unlisted : place withheld ownerRrs record ≠ .listed) :
    keySizeKnown domain output.options record = true := by
  unfold keySizeKnown
  cases isDnskey : record.data with
  | dnskey dnskey =>
      exfalso
      apply unlisted
      have rtype : record.rtype = Rtype.dnskey := by
        unfold Record.rtype
        rw [isDnskey]
        rfl
      rw [place_eq_listed, rtype]
      cases withheld <;> rfl
  | _ => rfl

theorem writeOwnerRrs_formats {owner : Rrset} (member : owner ∈ owners records) :
    (writeOwnerRrs domain output owner).all Line.formats =
      owner.records.all (keySizeKnown domain output.options) := by
  have comment : (if output.options.extraComments then
      ((output.hashes.bind (·.getIfEnt owner.owner)).map Line.emptyNonTerminal).toList
      else []).all Line.formats = true := by
    split
    · cases output.hashes.bind (·.getIfEnt owner.owner) <;> rfl
    · rfl
  unfold writeOwnerRrs
  simp only [List.all_append, comment, Bool.true_and]
  cases layout : output.options.orderRrsigsAfterTheRtypeTheyCover with
  | false =>
      have plain : (fun rrset : Rrset => (rrset.records.map (writePlain domain output)).all
          Line.formats) = fun rrset => rrset.records.all (keySizeKnown domain output.options) := by
        funext rrset
        rw [List.all_map]
        exact congrArg rrset.records.all (funext (formats_writePlain layout))
      have listed := @recordsOf_writeOwnerPlain domain output owner.records
      unfold writeOwnerPlain at listed ⊢
      rw [recordsOf_flatMap] at listed
      simp only [recordsOf_writePlain] at listed
      rw [if_neg Bool.false_ne_true, List.all_flatMap, plain, ← List.all_flatMap, listed]
      rw [Bool.eq_iff_iff, List.all_eq_true, List.all_eq_true]
      constructor
      · intro known record inOwner
        by_cases isSoa : record.rtype = Rtype.soa
        · have unlisted : place false owner.records record ≠ .listed := by
            rw [place_eq_soa.mpr isSoa]
            decide
          exact keySizeKnown_of_unlisted unlisted
        · exact known record (List.mem_filter.mpr ⟨inOwner, by simpa using isSoa⟩)
      · intro known record inList
        exact known record (List.mem_filter.mp inList).1
  | true =>
      have owned : ∀ record ∈ owner.records, record.owner = owner.owner :=
        fun _ => owner_of_mem_owner member
      have rrset : (fun rrset : Rrset => (writeRrset domain output (rrsetsOf owner.records)
          rrset).all Line.formats) =
            fun rrset => rrset.records.all (keySizeKnown domain output.options) := by
        funext rrset
        unfold writeRrset
        rw [List.all_append, List.all_flatMap, List.all_map]
        simp only [all_writelnRr]
        rw [List.all_eq_true.mpr fun _ _ => rfl, Bool.and_true]
        exact congrArg rrset.records.all (funext (formats_writeCommented layout))
      have apexNsec : (if withholdsNsec output owner.owner ∧ !output.options.useNsec3 then
          writeApexNsec output (rrsetsOf owner.records) else []).all Line.formats = true := by
        split
        · exact all_writelnRr _
        · rfl
      unfold writeOwnerLayout
      simp only [if_true, List.all_append, all_blankIf, apexNsec, Bool.and_true]
      rw [List.all_flatMap, rrset, ← List.all_flatMap, listed_records owned]
      rw [Bool.eq_iff_iff, List.all_eq_true, List.all_eq_true]
      constructor
      · intro known record inOwner
        by_cases listed : place (withholdsNsec output owner.owner) owner.records record = .listed
        · exact known record (List.mem_filter.mpr ⟨inOwner, by simpa using listed⟩)
        · exact keySizeKnown_of_unlisted listed
      · intro known record inList
        exact known record (List.mem_filter.mp inList).1

/-- The output can be formatted when the sizes of its keys are known. -/
theorem zoneLines_formats :
    (zoneLines domain output records).all Line.formats =
      records.toList.all (keySizeKnown domain output.options) := by
  have heading : (if output.options.extraComments then
      [.zone output.apex, .blank] else []).all Line.formats = true := by
    split <;> rfl
  have hashList : (writeHashList output).all Line.formats = true := by
    unfold writeHashList
    split
    · rw [List.all_map]
      exact List.all_eq_true.mpr fun _ _ => rfl
    · rfl
  have soa : (writeSoa output records.toList).all Line.formats = true := by
    unfold writeSoa
    split
    · rfl
    · have line (soa : Record) : (writelnRr output soa).formats = true := rfl
      rw [List.all_cons, line]
      split
      · rw [List.all_append, all_writelnRr, all_blankIf]
        rfl
      · rfl
  have listed : (orderOwners output (owners records)).all (fun owner =>
      (writeOwnerRrs domain output owner).all Line.formats) =
        (owners records).all fun owner =>
          owner.records.all (keySizeKnown domain output.options) := by
    rw [Bool.eq_iff_iff, List.all_eq_true, List.all_eq_true]
    have perm := orderOwners_perm output (owners records)
    constructor
    · intro formats owner member
      rw [← writeOwnerRrs_formats member]
      exact formats owner (perm.mem_iff.mpr member)
    · intro known owner member
      rw [writeOwnerRrs_formats (perm.mem_iff.mp member)]
      exact known owner (perm.mem_iff.mp member)
  have all : (zoneLines domain output records).all Line.formats =
      (orderOwners output (owners records)).all fun owner =>
        (writeOwnerRrs domain output owner).all Line.formats := by
    unfold zoneLines
    simp only [List.all_append, heading, hashList, soa, Bool.true_and, List.all_flatMap]
    rfl
  rw [all, listed, ← List.all_flatMap, flatMap_owners]

end Comments

/-! ## When everything is written -/

/-- How many NSEC records of the apex, and signatures over them, are written when they are
withheld from their place. -/
def withheldLimit (options : SignZone) : Nat := if options.useNsec3 then 0 else 1

/-- A signature is written behind the SOA record, at the end of the apex or behind the
RRset that it covers. -/
def SignatureHasPlace (output : Output) (records : SortedRecords) (owner : Rrset)
    (record : Record) : Prop :=
  ∃ covered, record.typeCovered = some covered ∧
    ((covered = Rtype.soa ∧ soas records.toList ≠ []) ∨
      (withholdsNsec output owner.owner = true ∧ covered = Rtype.nsec) ∨
      (covered ≠ Rtype.rrsig ∧ ∃ other ∈ owner.records, other.rtype = covered))

/-- Every record has a place, and no place has more records than are written there. -/
structure HasPlaces (output : Output) (records : SortedRecords) : Prop where
  oneSoa : (soas records.toList).length ≤ 1
  signatures : output.options.orderRrsigsAfterTheRtypeTheyCover = true →
    ∀ owner ∈ owners records, ∀ record ∈ owner.records, record.rtype = Rtype.rrsig →
      SignatureHasPlace output records owner record
  apexNsec : output.options.orderRrsigsAfterTheRtypeTheyCover = true →
    ∀ owner ∈ owners records, withholdsNsec output owner.owner = true →
      (owner.records.filter (·.rtype = Rtype.nsec)).length ≤ withheldLimit output.options ∧
      (owner.records.filter (·.typeCovered = some Rtype.nsec)).length ≤
        withheldLimit output.options

section HasPlaces

variable {output : Output} {records : SortedRecords}

theorem tail_eq_nil {list : List Record} : list.tail = [] ↔ list.length ≤ 1 := by
  rw [← List.length_eq_zero_iff, List.length_tail]
  omega

theorem place_ne_nowhere {withheld : Bool} {ownerRrs : List Record} {record : Record} :
    place withheld ownerRrs record ≠ .nowhere ↔
      (record.rtype = Rtype.rrsig → ∃ covered, record.typeCovered = some covered ∧
        (covered = Rtype.soa ∨ (withheld = true ∧ covered = Rtype.nsec) ∨
          (covered ≠ Rtype.rrsig ∧ ∃ other ∈ ownerRrs, other.rtype = covered))) := by
  cases covers : record.typeCovered with
  | none =>
      have different : Rtype.rrsig ≠ Rtype.soa := by decide
      unfold place
      rw [covers]
      grind
  | some covered =>
      have isRrsig := rtype_of_typeCovered covers
      rw [place_of_covers covers]
      simp only [List.any_eq_true, decide_eq_true_eq, Option.some.injEq, exists_eq_left',
        isRrsig, forall_const]
      by_cases present : ∃ other ∈ ownerRrs, other.rtype = covered
      · simp only [present, and_true]
        grind
      · simp only [present, and_false, if_false]
        grind

theorem placed_eq_nil {withheld : Bool} {ownerRrs : List Record} {one : Place} :
    placed withheld ownerRrs one = [] ↔
      ∀ record ∈ ownerRrs, place withheld ownerRrs record ≠ one := by
  unfold placed
  rw [List.filter_eq_nil_iff]
  simp

theorem lostApexNsec_eq_nil {owner : Name} {ownerRrs : List Record} :
    lostApexNsec output.options.useNsec3 (withholdsNsec output owner) ownerRrs = [] ↔
      (withholdsNsec output owner = true →
        (ownerRrs.filter (·.rtype = Rtype.nsec)).length ≤ withheldLimit output.options ∧
        (ownerRrs.filter (·.typeCovered = some Rtype.nsec)).length ≤
          withheldLimit output.options) := by
  unfold lostApexNsec withheldLimit placed
  simp only [place_eq_apexNsec, place_eq_apexNsecSignature]
  cases withholdsNsec output owner <;> cases output.options.useNsec3 <;>
    simp only [Bool.false_eq_true, false_and, true_and, decide_false, List.filter_false,
      List.tail_nil, List.append_nil, if_false, if_true, false_implies, true_implies,
      List.append_eq_nil_iff, tail_eq_nil, Nat.le_zero, List.length_eq_zero_iff]

theorem mem_soas_of_mem_owner {owner : Rrset} (member : owner ∈ owners records)
    {record : Record} (inOwner : record ∈ owner.records) (isSoa : record.rtype = Rtype.soa) :
    record ∈ soas records.toList := by
  have inZone : record ∈ records.toList := by
    rw [← flatMap_owners]
    exact List.mem_flatMap.mpr ⟨owner, member, inOwner⟩
  exact List.mem_filter.mpr ⟨inZone, by simpa using isSoa⟩

/-- Signatures over SOA records are written when there is a SOA record. -/
def SoaSignaturesWritten (records : SortedRecords) : Prop :=
  (if (soas records.toList).isEmpty then
    records.toList.filter (·.typeCovered = some Rtype.soa) else []) = []

theorem signatures_have_places_iff :
    (SoaSignaturesWritten records ∧ ∀ owner ∈ owners records,
      placed (withholdsNsec output owner.owner) owner.records .nowhere = []) ↔
      ∀ owner ∈ owners records, ∀ record ∈ owner.records, record.rtype = Rtype.rrsig →
        SignatureHasPlace output records owner record := by
  unfold SoaSignaturesWritten
  constructor
  · rintro ⟨soaSignatures, nowhere⟩ owner member record inOwner isRrsig
    have somewhere := placed_eq_nil.mp (nowhere owner member) record inOwner
    rcases place_ne_nowhere.mp somewhere isRrsig with ⟨covered, covers, isSoa | others⟩
    · refine ⟨covered, covers, Or.inl ⟨isSoa, ?_⟩⟩
      intro none
      have inZone : record ∈ records.toList := by
        rw [← flatMap_owners]
        exact List.mem_flatMap.mpr ⟨owner, member, inOwner⟩
      rw [none, List.isEmpty_nil, if_pos rfl] at soaSignatures
      have absent := List.filter_eq_nil_iff.mp soaSignatures record inZone
      rw [covers, isSoa] at absent
      simp at absent
    · exact ⟨covered, covers, Or.inr others⟩
  · intro places
    constructor
    · split
      · next none =>
          apply List.filter_eq_nil_iff.mpr
          intro record inZone covers
          have coversSoa := of_decide_eq_true covers
          rcases exists_owner inZone with ⟨owner, member, inOwner⟩
          have isRrsig := rtype_of_typeCovered coversSoa
          rcases places owner member record inOwner isRrsig with ⟨covered, also, place⟩
          rw [coversSoa] at also
          cases also
          have noSoa := List.isEmpty_iff.mp none
          have different : Rtype.soa ≠ Rtype.nsec := by decide
          rcases place with ⟨_, someSoa⟩ | ⟨_, isNsec⟩ | ⟨_, other, otherInOwner, isSoa⟩
          · exact someSoa noSoa
          · exact different isNsec
          · have inSoas := mem_soas_of_mem_owner member otherInOwner isSoa
            rw [noSoa] at inSoas
            exact List.not_mem_nil inSoas
      · rfl
    · intro owner member
      apply placed_eq_nil.mpr
      intro record inOwner
      apply place_ne_nowhere.mpr
      intro isRrsig
      rcases places owner member record inOwner isRrsig with ⟨covered, covers, place⟩
      refine ⟨covered, covers, ?_⟩
      rcases place with ⟨isSoa, _⟩ | others
      · exact Or.inl isSoa
      · exact Or.inr others

theorem dropped_eq_nil : dropped output records = [] ↔ HasPlaces output records := by
  have signatures := @signatures_have_places_iff output records
  unfold SoaSignaturesWritten at signatures
  unfold dropped
  rw [List.append_eq_nil_iff, tail_eq_nil]
  cases layout : output.options.orderRrsigsAfterTheRtypeTheyCover with
  | false =>
      constructor
      · intro none
        exact ⟨none.1, by simp [layout], by simp [layout]⟩
      · intro places
        exact ⟨places.oneSoa, rfl⟩
  | true =>
      rw [if_pos rfl, List.append_eq_nil_iff, List.flatMap_eq_nil_iff]
      unfold lost
      simp only [List.append_eq_nil_iff, lostApexNsec_eq_nil]
      constructor
      · rintro ⟨oneSoa, soaSignatures, losses⟩
        have nowhere := fun owner member => (losses owner member).1
        exact ⟨oneSoa, fun _ => signatures.mp ⟨soaSignatures, nowhere⟩,
          fun _ owner member => (losses owner member).2⟩
      · intro places
        have all := signatures.mpr (places.signatures layout)
        exact ⟨places.oneSoa, all.1, fun owner member =>
          ⟨all.2 owner member, places.apexNsec layout owner member⟩⟩

end HasPlaces

/-! ## The claim -/

/-- Are all records written, each as often as it is there? -/
def WritesAll (domain : Domain) (output : Output) (records : SortedRecords) : Prop :=
  ∃ lines, writeZone domain output records = .ok lines ∧
    (recordsOf lines).Perm records.toList

theorem writeZone_eq_ok {domain : Domain} {output : Output} {records : SortedRecords}
    {lines : List Line} :
    writeZone domain output records = .ok lines ↔
      (∀ record ∈ records.toList, keySizeKnown domain output.options record = true) ∧
        zoneLines domain output records = lines := by
  have formats := @zoneLines_formats domain output records
  rw [← List.all_eq_true, ← formats]
  unfold writeZone
  dsimp only
  split
  · next all =>
      simp only [all, true_and]
      constructor
      · intro written
        exact Except.ok.inj written
      · intro same
        exact congrArg Except.ok same
  · next notAll =>
      simp only [notAll, Bool.false_eq_true, false_and, iff_false]
      intro impossible
      cases impossible

theorem records_written_once_iff (domain : Domain) (output : Output)
    (records : SortedRecords) :
    WritesAll domain output records ↔
      HasPlaces output records ∧
        ∀ record ∈ records.toList, keySizeKnown domain output.options record = true := by
  have partition := @zoneLines_perm domain output records
  unfold WritesAll
  constructor
  · rintro ⟨lines, written, perm⟩
    rcases writeZone_eq_ok.mp written with ⟨known, rfl⟩
    have lengths := partition.length_eq
    rw [List.length_append, perm.length_eq] at lengths
    have none : (dropped output records).length = 0 := by omega
    exact ⟨dropped_eq_nil.mp (List.length_eq_zero_iff.mp none), known⟩
  · rintro ⟨places, known⟩
    refine ⟨_, writeZone_eq_ok.mpr ⟨known, rfl⟩, ?_⟩
    rw [dropped_eq_nil.mpr places, List.append_nil] at partition
    exact partition

/-- With two zone-signing keys, `ldns-signzone` writes one of the two signatures over the
NSEC record of the apex. -/
theorem apex_nsec_signature_dropped :
    ∃ lines, (Reference.ldnsOptions.execute Reference.domain
        (Reference.env [Reference.soaRecord Reference.apex 1])).toOption = some lines ∧
      ¬ (recordsOf lines).Perm (Reference.signedRecords Reference.ldnsOptions
        [Reference.soaRecord Reference.apex 1]).toList := by
  refine ⟨zoneLines Reference.domain ⟨Reference.ldnsOptions, Reference.apex, none⟩
    (Reference.signedRecords Reference.ldnsOptions [Reference.soaRecord Reference.apex 1]), ?_, ?_⟩
  · decide +kernel
  · intro perm
    have lengths := perm.length_eq
    revert lengths
    decide +kernel

end Dnst.Signzone
