import Dnst.DynamicUpdate.Creation

/-! # When a message means what was asked

The zone section always names class IN, and a record of type ANY without data
stands for a whole name. Arguments that stay clear of both are read as intended.
-/

namespace Dnst.DynamicUpdate

open Keyset (Fault)

/-! ## Lists -/

theorem forall₂_left {Left Right : Type} {Related : Left → Right → Prop} {lefts : List Left}
    {rights : List Right} (related : List.Forall₂ Related lefts rights) {left : Left}
    (member : left ∈ lefts) : ∃ right, right ∈ rights ∧ Related left right := by
  induction related with
  | nil => cases member
  | @cons first second lefts rights holds _ induction =>
      rcases List.mem_cons.mp member with rfl | member
      · exact ⟨second, by simp, holds⟩
      · rcases induction member with ⟨right, member, holds⟩
        exact ⟨right, by simp [member], holds⟩

theorem forall₂_right {Left Right : Type} {Related : Left → Right → Prop} {lefts : List Left}
    {rights : List Right} (related : List.Forall₂ Related lefts rights) {right : Right}
    (member : right ∈ rights) : ∃ left, left ∈ lefts ∧ Related left right := by
  have turned : List.Forall₂ (fun right left => Related left right) rights lefts :=
    related.flip
  exact forall₂_left turned member

section Counting

variable {Arg Item : Type} {expand : Arg → List Item}

theorem length_le_flatMap {args : List Arg} (some' : ∀ arg, arg ∈ args → 1 ≤ (expand arg).length) :
    args.length ≤ (args.flatMap expand).length := by
  induction args with
  | nil => simp
  | cons arg args induction =>
      have first := some' arg (by simp)
      have rest := induction fun other member => some' other (by simp [member])
      simp only [List.flatMap_cons, List.length_append, List.length_cons]
      omega

/-- Lists that are not empty and not longer together than they are many hold one
item each. -/
theorem length_eq_one {args : List Arg} (some' : ∀ arg, arg ∈ args → 1 ≤ (expand arg).length)
    (few : (args.flatMap expand).length ≤ args.length) :
    ∀ arg, arg ∈ args → (expand arg).length = 1 := by
  induction args with
  | nil => simp
  | cons arg args induction =>
      have first := some' arg (by simp)
      have others : ∀ other, other ∈ args → 1 ≤ (expand other).length :=
        fun other member => some' other (by simp [member])
      have rest := length_le_flatMap others
      simp only [List.flatMap_cons, List.length_append, List.length_cons] at few
      intro other member
      rcases List.mem_cons.mp member with rfl | member
      · omega
      · exact induction others (by omega) other member

end Counting

/-! ## Arguments have one reading -/

theorem NameDenotes.unique {domain : Domain} {apex first second : Name} {text : String}
    (one : NameDenotes domain apex text first) (other : NameDenotes domain apex text second) :
    first = second := by
  rcases one with ⟨uncertain, parsed, rfl⟩
  rcases other with ⟨uncertain', parsed', rfl⟩
  rw [parsed] at parsed'
  cases parsed'
  rfl

theorem takeWhile_before_blank {before after : List Char} (noBlank : ' ' ∉ before) :
    (before ++ ' ' :: after).takeWhile (fun c => c != ' ') = before := by
  have all : ∀ c, c ∈ before → (c != ' ') = true := by
    intro c member
    have different : c ≠ ' ' := fun same => noBlank (same ▸ member)
    simpa using different
  rw [List.takeWhile_append_of_pos all]
  simp

theorem NameTypeDenotes.unique {domain : Domain} {apex : Name} {arg : String}
    {first second : Name × Rtype} (one : NameTypeDenotes domain apex arg first)
    (other : NameTypeDenotes domain apex arg second) : first = second := by
  rcases one with ⟨name, typ, whole, noBlank, named, typed⟩
  rcases other with ⟨name', typ', whole', noBlank', named', typed'⟩
  have sameName : name.toList = name'.toList := by
    have first := @takeWhile_before_blank _ typ.toList noBlank
    have second := @takeWhile_before_blank _ typ'.toList noBlank'
    rw [← whole, whole'] at first
    exact first.symm.trans second
  have sameType : typ.toList = typ'.toList := by
    rw [whole, sameName] at whole'
    simpa using whole'
  rw [String.toList_inj.mp sameName] at named
  rw [String.toList_inj.mp sameType, typed'] at typed
  have types := Except.ok.inj typed
  exact Prod.ext (named.unique named') types.symm

/-! ## Reading what has been created -/

theorem decode_rrsetExists (zoneClass : Class) {asked : Name × Rtype} (plain : asked.2 ≠ .any) :
    decodePrerequisite zoneClass (createPrereqRrsetExists asked.1 asked.2) =
      some (.rrsetExists asked.1 asked.2) := by
  simp [decodePrerequisite, createPrereqRrsetExists, emptyRdata, ZoneRecordData.rdlen,
    Record.rtype, ZoneRecordData.rtype, plain]

theorem decode_rrsetNonExistent (zoneClass : Class) {asked : Name × Rtype}
    (plain : asked.2 ≠ .any) :
    decodePrerequisite zoneClass (createPrereqRrsetNonExistent asked.1 asked.2) =
      some (.rrsetNonExistent asked.1 asked.2) := by
  simp [decodePrerequisite, createPrereqRrsetNonExistent, emptyRdata, ZoneRecordData.rdlen,
    Record.rtype, ZoneRecordData.rtype, plain]

theorem decode_nameInUse (zoneClass : Class) (name : Name) :
    decodePrerequisite zoneClass (createPrereqNameInUse name) = some (.nameInUse name) := by
  simp [decodePrerequisite, createPrereqNameInUse, emptyRdata, ZoneRecordData.rdlen,
    Record.rtype, ZoneRecordData.rtype]

theorem decode_nameNotInUse (zoneClass : Class) (name : Name) :
    decodePrerequisite zoneClass (createPrereqNameNotInUse name) = some (.nameNotInUse name) := by
  simp [decodePrerequisite, createPrereqNameNotInUse, emptyRdata, ZoneRecordData.rdlen,
    Record.rtype, ZoneRecordData.rtype]

theorem decode_exact {record : Record} (sameClass : record.class' = .inClass)
    (zero : record.ttl = 0) :
    decodePrerequisite .inClass record = some (.rrsetExistsExact record.owner record.data) := by
  simp [decodePrerequisite, sameClass, zero]

/-- The printed form follows the rules of RFC 2136. -/
theorem writeRecordItemPrerequisite_eq {record : Record} {prerequisite : Prerequisite}
    (decoded : decodePrerequisite .inClass record = some prerequisite) :
    writeRecordItemPrerequisite record = some prerequisite := by
  rcases record with ⟨owner, class', ttl, data⟩
  unfold decodePrerequisite at decoded
  unfold writeRecordItemPrerequisite
  cases class' <;> grind

theorem writeRecordItemUpdate_eq {record : Record} {change : Change}
    (decoded : decodeChange .inClass record = some change) :
    writeRecordItemUpdate record = change := by
  rcases record with ⟨owner, class', ttl, data⟩
  unfold decodeChange at decoded
  unfold writeRecordItemUpdate
  cases class' <;> grind

theorem map_congr_decoded {Item Result : Type} {records : List Record} {items : List Item}
    {decode : Record → Option Item} {read : Record → Result} {shown : Item → Result}
    (follows : ∀ record item, decode record = some item → read record = shown item)
    (decoded : records.map decode = items.map some) : records.map read = items.map shown := by
  induction records generalizing items with
  | nil =>
      cases items with
      | nil => rfl
      | cons item items => cases decoded
  | cons record records induction =>
      cases items with
      | nil => cases decoded
      | cons item items =>
          simp only [List.map_cons, List.cons.injEq] at decoded
          rw [List.map_cons, List.map_cons, follows record item decoded.1, induction decoded.2]

/-- What understood arguments ask for. -/
def UpdatePrerequisites.asked (prerequisites : UpdatePrerequisites) : List Prerequisite :=
  (prerequisites.rrsetExists.getD []).map (fun asked => .rrsetExists asked.1 asked.2) ++
    (prerequisites.rrsetExistsExact.getD []).map
      (fun record => .rrsetExistsExact record.owner record.data) ++
    (prerequisites.rrsetNonExistent.getD []).map
      (fun asked => .rrsetNonExistent asked.1 asked.2) ++
    (prerequisites.nameInUse.getD []).map .nameInUse ++
    (prerequisites.nameNotInUse.getD []).map .nameNotInUse

theorem kindsOf_asked (prerequisites : UpdatePrerequisites) :
    kindsOf prerequisites.asked =
      { rrsetExists := prerequisites.rrsetExists.getD []
        rrsetExistsExact := (prerequisites.rrsetExistsExact.getD []).map Record.exact
        rrsetNonExistent := prerequisites.rrsetNonExistent.getD []
        nameInUse := prerequisites.nameInUse.getD []
        nameNotInUse := prerequisites.nameNotInUse.getD [] } := by
  have none' : ∀ {Item Other : Type} (items : List Item),
      items.filterMap (fun _ => (none : Option Other)) = [] := by simp
  simp only [kindsOf, UpdatePrerequisites.asked, List.filterMap_append, List.filterMap_map,
    Function.comp_def, Prerequisite.exists?, Prerequisite.exact?, Prerequisite.nonExistent?,
    Prerequisite.inUse?, Prerequisite.notInUse?, none', List.filterMap_eq_map', Prod.eta,
    List.filterMap_some, List.append_nil, List.nil_append]
  rfl

/-! ## Unambiguous arguments are read as intended -/

section Sufficient

variable {domain : Domain} {update : Update} {apex : Name}
variable {prerequisites : UpdatePrerequisites} {changes : List Record}

theorem exactRecord_class (parsed : Parsed domain update apex prerequisites)
    (clear : Unambiguous domain update apex) {record : Record}
    (member : record ∈ prerequisites.rrsetExistsExact.getD []) :
    record.class' = .inClass ∧ record.ttl = 0 := by
  rcases forall₂_right parsed.rrsetExistsExact member with ⟨arg, given, read, first, rfl⟩
  rcases clear.exact arg given with ⟨only, whole, sameClass⟩
  rcases first.records with ⟨others, listed⟩
  have same : read = only := by
    have heads : exactRecords domain update apex arg = read :: others := listed
    rw [whole] at heads
    cases heads
    rfl
  exact ⟨by rw [← sameClass, ← same], rfl⟩

theorem exactRecords_asked (clear : Unambiguous domain update apex)
    (parsed : Parsed domain update apex prerequisites) :
    (prerequisites.rrsetExistsExact.getD []).map Record.exact =
      ((update.rrsetExistsExact.getD []).flatMap (exactRecords domain update apex)).map
        Record.exact := by
  have each : ∀ arg record, arg ∈ update.rrsetExistsExact.getD [] →
      ExactRecord domain apex update.class' arg record →
      (exactRecords domain update apex arg).map Record.exact = [record.exact] := by
    rintro arg record given ⟨read, first, rfl⟩
    rcases clear.exact arg given with ⟨only, whole, _⟩
    rcases first.records with ⟨others, listed⟩
    have heads : exactRecords domain update apex arg = read :: others := listed
    rw [whole] at heads
    cases heads
    rw [whole]
    rfl
  have general : ∀ {args : List String} {records : List Record},
      (∀ arg, arg ∈ args → arg ∈ update.rrsetExistsExact.getD []) →
      List.Forall₂ (ExactRecord domain apex update.class') args records →
      records.map Record.exact =
        (args.flatMap (exactRecords domain update apex)).map Record.exact := by
    intro args records given related
    induction related with
    | nil => rfl
    | @cons arg record args records holds _ induction =>
        rw [List.flatMap_cons, List.map_append, each arg record (given arg (by simp)) holds,
          ← induction fun other member => given other (by simp [member])]
        rfl
  exact general (fun _ member => member) parsed.rrsetExistsExact

theorem decode_records (clear : Unambiguous domain update apex)
    (parsed : Parsed domain update apex prerequisites) :
    prerequisites.records.map (decodePrerequisite .inClass) = prerequisites.asked.map some := by
  have existing : ∀ asked, asked ∈ prerequisites.rrsetExists.getD [] → asked.2 ≠ .any := by
    intro asked member
    rcases forall₂_right parsed.rrsetExists member with ⟨arg, given, denotes⟩
    exact clear.existing arg asked given denotes
  have absent : ∀ asked, asked ∈ prerequisites.rrsetNonExistent.getD [] → asked.2 ≠ .any := by
    intro asked member
    rcases forall₂_right parsed.rrsetNonExistent member with ⟨arg, given, denotes⟩
    exact clear.nonExistent arg asked given denotes
  simp only [UpdatePrerequisites.records, UpdatePrerequisites.asked, List.map_append,
    List.map_map]
  congr 1
  · congr 1
    · congr 1
      · congr 1
        · exact List.map_congr_left fun asked member =>
            decode_rrsetExists .inClass (existing asked member)
        · refine List.map_congr_left fun record member => ?_
          rcases exactRecord_class parsed clear member with ⟨sameClass, zero⟩
          exact decode_exact sameClass zero
      · exact List.map_congr_left fun asked member =>
          decode_rrsetNonExistent .inClass (absent asked member)

theorem records_forms (parsed : Parsed domain update apex prerequisites) {zoneClass : Class}
    (exactClass : ∀ record, record ∈ prerequisites.rrsetExistsExact.getD [] →
      record.class' = zoneClass) :
    PrerequisiteForms update zoneClass prerequisites.records := by
  refine ⟨_, _, _, _, _, rfl, ?_, ?_, ?_, ?_, ?_, ?_, ?_, exactClass⟩
  · rw [List.length_map, parsed.rrsetExists.length_eq]
  · rw [parsed.rrsetExistsExact.length_eq]
  · rw [List.length_map, parsed.rrsetNonExistent.length_eq]
  · rw [List.length_map, parsed.nameInUse.length_eq]
  · rw [List.length_map, parsed.nameNotInUse.length_eq]
  · intro record member
    rcases List.mem_append.mp member with member | member
    · rcases List.mem_map.mp member with ⟨asked, _, rfl⟩
      exact ⟨rfl, rfl, rfl⟩
    · rcases List.mem_map.mp member with ⟨name, _, rfl⟩
      exact ⟨rfl, rfl, rfl⟩
  · intro record member
    rcases List.mem_append.mp member with member | member
    · rcases List.mem_map.mp member with ⟨asked, _, rfl⟩
      exact ⟨rfl, rfl⟩
    · rcases List.mem_map.mp member with ⟨name, _, rfl⟩
      exact ⟨rfl, rfl⟩

/-- One record in each text leads to one change for each text. -/
theorem made_asked {rtype : Rtype} {rdata : List String} {create : ZoneRecordData → Record}
    {ask : ZoneRecordData → Change}
    (one : ∀ text, text ∈ rdata → (rdataRecords domain rtype text).length = 1)
    (decode : ∀ data, decodeChange .inClass (create data) = some (ask data))
    (made : List.Forall₂ (fun text change => ∃ read,
      FirstRecord (domain.zonefile none none (rdataText domain rtype text)) read ∧
        change = create read.data) rdata changes) :
    changes.map (decodeChange .inClass) =
      ((rdata.flatMap (rdataRecords domain rtype)).map fun record => ask record.data).map some := by
  induction made with
  | nil => rfl
  | @cons text change rdata changes holds _ induction =>
      rcases holds with ⟨read, first, rfl⟩
      have only : rdataRecords domain rtype text = [read] := by
        rcases first.records with ⟨others, listed⟩
        have whole : rdataRecords domain rtype text = read :: others := listed
        have length := one text (by simp)
        rw [whole] at length
        simp only [List.length_cons, Nat.add_eq_right, List.length_eq_zero_iff] at length
        rw [whole, length]
      rw [List.map_cons, decode, List.flatMap_cons, only,
        induction fun other member => one other (by simp [member])]
      rfl

theorem changes_asked (clear : Unambiguous domain update apex)
    (made : ChangesMade domain update changes) :
    changes.map (decodeChange .inClass) = (askedChanges domain update).map some := by
  cases action : update.action with
  | add rtype rdata =>
      simp only [ChangesMade, action] at made
      have sameClass := clear.additionClass rtype rdata action
      simp only [askedChanges, action]
      refine made_asked (clear.rdata rtype rdata (Or.inl action)) ?_ made.2
      intro data
      simp [decodeChange, createRrAddition, sameClass]
  | delete rtype rdata =>
      cases rdata with
      | nil =>
          simp only [ChangesMade, action] at made
          have plain := clear.deletedRrset rtype action
          subst made
          simp [askedChanges, action, decodeChange, createRrsetDeletion, emptyRdata,
            ZoneRecordData.rdlen, Record.rtype, ZoneRecordData.rtype, plain]
      | cons text rdata =>
          simp only [ChangesMade, action] at made
          simp only [askedChanges, action]
          refine made_asked (clear.rdata rtype (text :: rdata) (Or.inr action)) ?_ made
          intro data
          simp [decodeChange, createRrDeletion]
  | clear =>
      simp only [ChangesMade, action] at made
      subst made
      simp [askedChanges, action, decodeChange, createAllRrsetDeletion, emptyRdata,
        ZoneRecordData.rdlen, Record.rtype, ZoneRecordData.rtype]

theorem changes_forms (made : ChangesMade domain update changes) {zoneClass : Class}
    (addition : ∀ rtype rdata, update.action = .add rtype rdata → update.class' = zoneClass) :
    ChangeForms update zoneClass changes := by
  cases action : update.action with
  | add rtype rdata =>
      simp only [ChangesMade, action] at made
      simp only [ChangeForms, action]
      intro change member
      rcases forall₂_right made.2 member with ⟨text, _, read, _, rfl⟩
      exact addition rtype rdata action
  | delete rtype rdata =>
      cases rdata with
      | nil =>
          simp only [ChangesMade, action] at made
          simp only [ChangeForms, action]
          intro change member
          rw [made, List.mem_singleton] at member
          subst member
          exact ⟨rfl, rfl, rfl⟩
      | cons text rdata =>
          simp only [ChangesMade, action] at made
          simp only [ChangeForms, action]
          intro change member
          rcases forall₂_right made member with ⟨text, _, read, _, rfl⟩
          exact ⟨rfl, rfl⟩
  | clear =>
      simp only [ChangesMade, action] at made
      simp only [ChangeForms, action]
      intro change member
      rw [made, List.mem_singleton] at member
      subst member
      exact ⟨rfl, rfl, rfl⟩

theorem means_of_unambiguous (clear : Unambiguous domain update apex)
    (parsed : Parsed domain update apex prerequisites)
    (made : ChangesMade domain update changes) :
    MeansWhatWasAsked domain update apex
      ⟨.update, false, [⟨apex, .soa, .inClass⟩], prerequisites.records, changes⟩ := by
  have decoded := decode_records clear parsed
  have changed := changes_asked clear made
  refine ⟨.inClass, prerequisites.asked, rfl, ?_, ?_, decoded, ?_, ?_, changed, ?_⟩
  · exact records_forms parsed fun record member => (exactRecord_class parsed clear member).1
  · exact changes_forms made clear.additionClass
  · exact map_congr_decoded (fun _ _ => writeRecordItemPrerequisite_eq) decoded
  · rw [kindsOf_asked]
    exact ⟨parsed.rrsetExists, exactRecords_asked clear parsed, parsed.rrsetNonExistent,
      parsed.nameInUse, parsed.nameNotInUse⟩
  · have printed := @map_congr_decoded _ _ _ _ _ writeRecordItemUpdate id
      (fun _ _ => writeRecordItemUpdate_eq) changed
    rw [printed, List.map_id]

end Sufficient

/-! ## Ambiguous arguments are not -/

theorem decode_rrsetExists_type {zoneClass : Class} {record : Record} {owner : Name}
    {rtype : Rtype} (decoded : decodePrerequisite zoneClass record =
      some (.rrsetExists owner rtype)) : rtype ≠ .any := by
  unfold decodePrerequisite at decoded
  grind

theorem decode_rrsetNonExistent_type {zoneClass : Class} {record : Record} {owner : Name}
    {rtype : Rtype} (decoded : decodePrerequisite zoneClass record =
      some (.rrsetNonExistent owner rtype)) : rtype ≠ .any := by
  unfold decodePrerequisite at decoded
  grind

theorem decode_exact_class {zoneClass : Class} {record : Record} {owner : Name}
    {data : ZoneRecordData} (decoded : decodePrerequisite zoneClass record =
      some (.rrsetExistsExact owner data)) : record.class' = zoneClass := by
  unfold decodePrerequisite at decoded
  grind

theorem mem_of_decoded {Item : Type} {decode : Record → Option Item} {records : List Record}
    {items : List Item} (decoded : records.map decode = items.map some) {item : Item}
    (member : item ∈ items) : ∃ record, record ∈ records ∧ decode record = some item := by
  have listed : some item ∈ records.map decode := by
    rw [decoded]
    exact List.mem_map_of_mem member
  exact List.mem_map.mp listed

/-- Only records of the zone's class are read as value dependent. -/
theorem exact_le {records : List Record} {items : List Prerequisite} {zoneClass : Class}
    (decoded : records.map (decodePrerequisite zoneClass) = items.map some) :
    (items.filterMap Prerequisite.exact?).length ≤
      (records.filter fun record => record.class' = zoneClass).length := by
  induction records generalizing items with
  | nil =>
      cases items with
      | nil => simp
      | cons item items => cases decoded
  | cons record records induction =>
      cases items with
      | nil => cases decoded
      | cons item items =>
          simp only [List.map_cons, List.cons.injEq] at decoded
          have rest := induction decoded.2
          cases item with
          | rrsetExistsExact owner data =>
              have sameClass := decode_exact_class decoded.1
              simp only [List.filterMap_cons, Prerequisite.exact?, List.filter_cons, sameClass,
                decide_true, if_true, List.length_cons]
              omega
          | _ =>
              simp only [List.filterMap_cons, Prerequisite.exact?, List.filter_cons]
              split <;> simp <;> omega

section Necessary

variable {domain : Domain} {update : Update} {apex : Name}
variable {prerequisites : UpdatePrerequisites} {changes : List Record}

/-- Of the prerequisite section only the value dependent part can be of class IN. -/
theorem records_filter (prerequisites : UpdatePrerequisites) :
    prerequisites.records.filter (fun record => record.class' = .inClass) =
      (prerequisites.rrsetExistsExact.getD []).filter fun record => record.class' = .inClass := by
  have other : ∀ {Item : Type} {create : Item → Record} (items : List Item),
      (∀ item, (create item).class' ≠ .inClass) →
      (items.map create).filter (fun record => record.class' = .inClass) = [] := by
    intro Item create items different
    rw [List.filter_eq_nil_iff]
    intro record member
    rcases List.mem_map.mp member with ⟨item, _, rfl⟩
    simpa using different item
  simp only [UpdatePrerequisites.records, List.filter_append]
  rw [other _ fun _ => by simp [createPrereqRrsetExists],
    other _ fun _ => by simp [createPrereqRrsetNonExistent],
    other _ fun _ => by simp [createPrereqNameInUse],
    other _ fun _ => by simp [createPrereqNameNotInUse]]
  simp

theorem one_rdata {rtype : Rtype} {rdata : List String} {create : ZoneRecordData → Record}
    (made : List.Forall₂ (fun text change => ∃ read,
      FirstRecord (domain.zonefile none none (rdataText domain rtype text)) read ∧
        change = create read.data) rdata changes)
    (count : changes.length = (rdata.flatMap (rdataRecords domain rtype)).length) :
    ∀ text, text ∈ rdata → (rdataRecords domain rtype text).length = 1 := by
  refine length_eq_one ?_ (by rw [← count, made.length_eq])
  intro text member
  rcases forall₂_left made member with ⟨change, _, read, first, _⟩
  rcases first.records with ⟨others, listed⟩
  have whole : rdataRecords domain rtype text = read :: others := listed
  simp [whole]

theorem exact_unambiguous (parsed : Parsed domain update apex prerequisites)
    {items : List Prerequisite}
    (decoded : prerequisites.records.map (decodePrerequisite .inClass) = items.map some)
    (asked : Asked domain update apex (kindsOf items)) {arg : String}
    (given : arg ∈ update.rrsetExistsExact.getD []) :
    ∃ record, exactRecords domain update apex arg = [record] ∧ record.class' = .inClass := by
  have starts : ∀ arg, arg ∈ update.rrsetExistsExact.getD [] →
      1 ≤ (exactRecords domain update apex arg).length := by
    intro arg given
    rcases forall₂_left parsed.rrsetExistsExact given with ⟨_, _, read, first, _⟩
    rcases first.records with ⟨others, listed⟩
    have whole : exactRecords domain update apex arg = read :: others := listed
    simp [whole]
  have few := exact_le decoded
  have many := congrArg List.length asked.rrsetExistsExact
  have size := parsed.rrsetExistsExact.length_eq
  have least := length_le_flatMap starts
  have part := List.length_filter_le (fun record : Record => decide (record.class' = .inClass))
    (prerequisites.rrsetExistsExact.getD [])
  rw [records_filter] at few
  simp only [kindsOf, List.length_map] at many
  have one := length_eq_one starts (by omega) arg given
  have all : ∀ record, record ∈ prerequisites.rrsetExistsExact.getD [] →
      record.class' = .inClass := by
    have same : ((prerequisites.rrsetExistsExact.getD []).filter fun record =>
        record.class' = .inClass).length = (prerequisites.rrsetExistsExact.getD []).length := by
      omega
    intro record member
    simpa using List.length_filter_eq_length_iff.mp same record member
  rcases forall₂_left parsed.rrsetExistsExact given with ⟨_, member, read, first, rfl⟩
  rcases first.records with ⟨others, listed⟩
  have whole : exactRecords domain update apex arg = read :: others := listed
  rw [whole] at one
  simp only [List.length_cons, Nat.add_eq_right, List.length_eq_zero_iff] at one
  have sameClass := all { read with ttl := 0 } member
  exact ⟨read, by rw [whole, one], sameClass⟩

theorem unambiguous_of_means (parsed : Parsed domain update apex prerequisites)
    (made : ChangesMade domain update changes)
    (means : MeansWhatWasAsked domain update apex
      ⟨.update, false, [⟨apex, .soa, .inClass⟩], prerequisites.records, changes⟩) :
    Unambiguous domain update apex := by
  rcases means with ⟨zoneClass, items, zone, _, changeForms, decoded, _, asked, changed, _⟩
  cases zone
  have count := congrArg List.length changed
  simp only [List.length_map] at count
  refine ⟨?_, ?_, ?_, ?_, ?_, fun arg given => exact_unambiguous parsed decoded asked given⟩
  · intro rtype rdata action
    simp only [ChangesMade, action] at made
    simp only [ChangeForms, action] at changeForms
    rcases List.exists_mem_of_ne_nil rdata made.1 with ⟨text, given⟩
    rcases forall₂_left made.2 given with ⟨change, member, read, _, rfl⟩
    exact changeForms _ member
  · rintro rtype action rfl
    simp only [ChangesMade, action] at made
    subst made
    simp [askedChanges, action, decodeChange, createRrsetDeletion, emptyRdata,
      ZoneRecordData.rdlen, Record.rtype, ZoneRecordData.rtype] at changed
  · rintro rtype rdata (action | action)
    · simp only [ChangesMade, action] at made
      simp only [askedChanges, action, List.length_map] at count
      exact one_rdata made.2 count
    · cases rdata with
      | nil => simp
      | cons text rdata =>
          simp only [ChangesMade, action] at made
          simp only [askedChanges, action, List.length_map] at count
          exact one_rdata made count
  · intro arg pair given denotes
    rcases forall₂_left asked.rrsetExists given with ⟨other, member, denotes'⟩
    rw [denotes.unique denotes']
    rcases List.mem_filterMap.mp member with ⟨item, listed, picked⟩
    rcases mem_of_decoded decoded listed with ⟨record, _, reading⟩
    cases item with
    | rrsetExists owner rtype =>
        cases picked
        exact decode_rrsetExists_type reading
    | _ => cases picked
  · intro arg pair given denotes
    rcases forall₂_left asked.rrsetNonExistent given with ⟨other, member, denotes'⟩
    rw [denotes.unique denotes']
    rcases List.mem_filterMap.mp member with ⟨item, listed, picked⟩
    rcases mem_of_decoded decoded listed with ⟨record, _, reading⟩
    cases item with
    | rrsetNonExistent owner rtype =>
        cases picked
        exact decode_rrsetNonExistent_type reading
    | _ => cases picked

end Necessary

/-- A message that has been created means what was asked exactly when the arguments
are unambiguous. -/
theorem update_means_what_was_asked_iff {domain : Domain} {update : Update} {apex : Name}
    {soa : Serial} {message : Message}
    (created : update.message domain apex soa = .ok message) :
    MeansWhatWasAsked domain update apex message ↔ Unambiguous domain update apex := by
  rcases message_created created with ⟨prerequisites, changes, parsed, made, rfl⟩
  constructor
  · exact unambiguous_of_means parsed made
  · intro clear
    exact means_of_unambiguous clear parsed made

/-! ## A worked example -/

namespace Reference

def typeA : Rtype := .other 1

def labelsOf (label : List Char) : List Char → List String
  | [] => [String.ofList label]
  | '.' :: text => String.ofList label :: labelsOf [] text
  | c :: text => labelsOf (label ++ [c]) text

/-- Names end in a dot when they are absolute. -/
def parseName (text : String) : UncertainName :=
  let labels := labelsOf [] text.toList
  if labels.getLast? = some "" then .absolute labels.dropLast else .relative labels

/-- The A record of 192.0.2.1, which the example adds. -/
def hostAddress : ZoneRecordData := .other typeA [192, 0, 2, 1]

def domain : Domain where
  rtypeFromStr := fun text => if text = "A" then .ok typeA else .error "unknown type"
  showRtype := fun _ => "A"
  uncertainName := fun text => .ok (parseName text)
  zonefile := fun _ _ text =>
    if text = ". 1 IN A 192.0.2.1\n" then [.ok (.record ⟨[], .inClass, 1, hostAddress⟩)] else []
  room := fun _ _ => none

def apex : Name := ["example", "com"]

def host : Name := ["host", "example", "com"]

/-- Add the address when the relative name `mail` has one. -/
def addAddress (class' : Class) : Update where
  domain := host
  action := .add typeA ["192.0.2.1"]
  class'
  ttl := 3600
  rrsetExists := some ["mail A"]
  rrsetExistsExact := none
  rrsetNonExistent := none
  nameInUse := none
  nameNotInUse := none

def addressMessage (class' : Class) : Message where
  opcode := .update
  qr := false
  zone := [⟨apex, .soa, .inClass⟩]
  prerequisite := [⟨["mail", "example", "com"], .any, 0, .unknown typeA []⟩]
  update := [⟨host, class', 3600, hostAddress⟩]

end Reference

theorem update_means_what_was_asked_in :
    MeansWhatWasAsked Reference.domain (Reference.addAddress .inClass) Reference.apex
        (Reference.addressMessage .inClass) ↔
      Unambiguous Reference.domain (Reference.addAddress .inClass) Reference.apex :=
  @update_means_what_was_asked_iff _ _ _ 1 _ (by decide +kernel)

/-- With class CH the zone section still names class IN. -/
theorem update_class_differs :
    (Reference.addAddress (.other 3)).message Reference.domain Reference.apex 1 =
        .ok (Reference.addressMessage (.other 3)) ∧
      ¬MeansWhatWasAsked Reference.domain (Reference.addAddress (.other 3)) Reference.apex
        (Reference.addressMessage (.other 3)) := by
  refine ⟨by rfl, ?_⟩
  rintro ⟨zoneClass, items, zone, _, changeForms, _⟩
  cases zone
  have addition := changeForms ⟨Reference.host, .other 3, 3600, Reference.hostAddress⟩ (by
    simp [Reference.addressMessage])
  cases addition

end Dnst.DynamicUpdate
