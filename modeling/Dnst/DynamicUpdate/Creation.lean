import Mathlib.Data.List.TakeDrop
import Mathlib.Data.List.TakeWhile
import Dnst.DynamicUpdate.Meaning

/-! # What is asked and what is read

The records of a message that has been created are known exactly. From them it
follows when a server reads what the arguments ask for.
-/

namespace Dnst.DynamicUpdate

open Effect
open Keyset (Fault bail mapErr panic)

/-! ## Parsing -/

theorem mapErr_ok {Value : Type} {message : String → String} {result : Except String Value}
    {value : Value} {before after : Message}
    (run : exec (mapErr message result : Build Value) before = (.ok value, after)) :
    after = before ∧ result = .ok value := by
  cases result with
  | ok found =>
      cases run
      exact ⟨rfl, rfl⟩
  | error reason => cases run

theorem UncertainName.chain_eq_some {origin name : Name} {uncertain : UncertainName}
    (chained : uncertain.chain origin = some name) : name = uncertain.resolve origin := by
  cases uncertain with
  | absolute absolute =>
      cases chained
      rfl
  | relative labels =>
      simp only [UncertainName.chain] at chained
      split at chained
      · cases chained
      · cases chained
        rfl

theorem resolveName_ok {domain : Domain} {origin name : Name} {text : String}
    {before after : Message}
    (run : exec (resolveName domain origin text) before = (.ok name, after)) :
    after = before ∧ NameDenotes domain origin text name := by
  rcases exec_bind_eq_ok.mp run with ⟨uncertain, middle, parsed, rest⟩
  rcases mapErr_ok parsed with ⟨same, known⟩
  subst same
  cases chained : uncertain.chain origin with
  | none =>
      rw [chained] at rest
      cases rest
  | some absolute =>
      rw [chained] at rest
      cases rest
      exact ⟨rfl, uncertain, known, UncertainName.chain_eq_some chained⟩

theorem splitOnce_eq_some {arg name typ : String} (split : splitOnce arg = some (name, typ)) :
    arg.toList = name.toList ++ ' ' :: typ.toList ∧ ' ' ∉ name.toList := by
  unfold splitOnce at split
  rw [List.span_eq_takeWhile_dropWhile] at split
  have whole := @List.takeWhile_append_dropWhile Char (fun c => c != ' ') arg.toList
  have before : ' ' ∉ arg.toList.takeWhile fun c => c != ' ' := by
    intro member
    have different := List.mem_takeWhile_imp member
    simp at different
  cases rest : arg.toList.dropWhile fun c => c != ' ' with
  | nil =>
      rw [rest] at split
      cases split
  | cons blank typed =>
      rw [rest] at split whole
      cases split
      have isBlank : blank = ' ' := by
        have started : (arg.toList.dropWhile fun c => c != ' ') ≠ [] := by simp [rest]
        have first := List.head_dropWhile_not (fun c => c != ' ') started
        simpa [rest] using first
      subst isBlank
      simp only [String.toList_ofList]
      exact ⟨whole.symm, before⟩

theorem nameType_ok {domain : Domain} {origin : Name} {arg : String} {asked : Name × Rtype}
    {before after : Message}
    (run : exec (nameType domain origin arg) before = (.ok asked, after)) :
    after = before ∧ NameTypeDenotes domain origin arg asked := by
  unfold nameType at run
  cases split : splitOnce arg with
  | none =>
      rw [split] at run
      cases run
  | some pair =>
      rcases pair with ⟨name, typ⟩
      rw [split] at run
      rcases exec_bind_eq_ok.mp run with ⟨rtype, middle, typed, rest⟩
      rcases mapErr_ok typed with ⟨same, known⟩
      subst same
      rcases exec_bind_eq_ok.mp rest with ⟨owner, last, resolved, finish⟩
      rcases resolveName_ok resolved with ⟨same, denotes⟩
      subst same
      cases finish
      rcases splitOnce_eq_some split with ⟨whole, blank⟩
      exact ⟨rfl, name, typ, whole, blank, denotes, known⟩

/-- The text starts with this record. -/
def FirstRecord (entries : List (Except String Entry)) (record : Record) : Prop :=
  entries.head? = some (.ok (.record record))

theorem FirstRecord.records {entries : List (Except String Entry)} {record : Record}
    (first : FirstRecord entries record) : ∃ others, recordsIn entries = record :: others := by
  cases entries with
  | nil => cases first
  | cons entry entries =>
      cases first
      exact ⟨recordsIn entries, rfl⟩

/-- What becomes of an argument that gives a record. -/
def ExactRecord (domain : Domain) (origin : Name) (class' : Class) (arg : String)
    (record : Record) : Prop :=
  ∃ read, FirstRecord (domain.zonefile (some class') (some origin) (arg ++ "\n")) read ∧
    record = { read with ttl := 0 }

theorem exactRecord_ok {domain : Domain} {origin : Name} {class' : Class} {arg : String}
    {record : Record} {before after : Message}
    (run : exec (exactRecord domain origin class' arg) before = (.ok record, after)) :
    after = before ∧ ExactRecord domain origin class' arg record := by
  unfold exactRecord at run
  split at run
  · next read first =>
      cases run
      exact ⟨rfl, read, first, rfl⟩
  · cases run

theorem parseEach_ok {Item : Type} {parse : String → Build Item} {Denotes : String → Item → Prop}
    (each : ∀ {arg item before after}, exec (parse arg) before = (.ok item, after) →
      after = before ∧ Denotes arg item)
    {args : List String} {items : List Item} {before after : Message}
    (run : exec (parseEach parse args) before = (.ok items, after)) :
    after = before ∧ List.Forall₂ Denotes args items := by
  induction args generalizing items before after with
  | nil =>
      cases run
      exact ⟨rfl, .nil⟩
  | cons arg args induction =>
      rcases exec_bind_eq_ok.mp run with ⟨item, middle, parsed, rest⟩
      rcases each parsed with ⟨same, denotes⟩
      subst same
      rcases exec_bind_eq_ok.mp rest with ⟨others, last, more, finish⟩
      rcases induction more with ⟨same, others⟩
      subst same
      cases finish
      exact ⟨rfl, .cons denotes others⟩

theorem parseGiven_ok {Item : Type} {parse : String → Build Item} {Denotes : String → Item → Prop}
    (each : ∀ {arg item before after}, exec (parse arg) before = (.ok item, after) →
      after = before ∧ Denotes arg item)
    {args : Option (List String)} {items : Option (List Item)} {before after : Message}
    (run : exec (parseGiven (parseEach parse) args) before = (.ok items, after)) :
    after = before ∧ List.Forall₂ Denotes (args.getD []) (items.getD []) := by
  cases args with
  | none =>
      cases run
      exact ⟨rfl, .nil⟩
  | some args =>
      rcases exec_bind_eq_ok.mp run with ⟨parsed, middle, parsing, finish⟩
      cases finish
      exact parseEach_ok each parsing

/-- Each argument has been understood. -/
structure Parsed (domain : Domain) (update : Update) (origin : Name)
    (prerequisites : UpdatePrerequisites) : Prop where
  rrsetExists : List.Forall₂ (NameTypeDenotes domain origin) (update.rrsetExists.getD [])
    (prerequisites.rrsetExists.getD [])
  rrsetExistsExact : List.Forall₂ (ExactRecord domain origin update.class')
    (update.rrsetExistsExact.getD []) (prerequisites.rrsetExistsExact.getD [])
  rrsetNonExistent : List.Forall₂ (NameTypeDenotes domain origin)
    (update.rrsetNonExistent.getD []) (prerequisites.rrsetNonExistent.getD [])
  nameInUse : List.Forall₂ (NameDenotes domain origin) (update.nameInUse.getD [])
    (prerequisites.nameInUse.getD [])
  nameNotInUse : List.Forall₂ (NameDenotes domain origin) (update.nameNotInUse.getD [])
    (prerequisites.nameNotInUse.getD [])

theorem parsePrerequisites_ok {domain : Domain} {update : Update} {origin : Name}
    {prerequisites : UpdatePrerequisites} {before after : Message}
    (run : exec (update.parsePrerequisites domain origin) before = (.ok prerequisites, after)) :
    after = before ∧ Parsed domain update origin prerequisites := by
  rcases exec_bind_eq_ok.mp run with ⟨rrsetExists, _, parsedExists, exactNext⟩
  rcases parseGiven_ok nameType_ok parsedExists with ⟨rfl, first⟩
  rcases exec_bind_eq_ok.mp exactNext with ⟨rrsetExistsExact, _, parsedExact, absentNext⟩
  rcases parseGiven_ok exactRecord_ok parsedExact with ⟨rfl, second⟩
  rcases exec_bind_eq_ok.mp absentNext with ⟨rrsetNonExistent, _, parsedAbsent, inUseNext⟩
  rcases parseGiven_ok nameType_ok parsedAbsent with ⟨rfl, third⟩
  rcases exec_bind_eq_ok.mp inUseNext with ⟨nameInUse, _, parsedInUse, notInUseNext⟩
  rcases parseGiven_ok resolveName_ok parsedInUse with ⟨rfl, fourth⟩
  rcases exec_bind_eq_ok.mp notInUseNext with ⟨nameNotInUse, _, parsedNotInUse, finish⟩
  rcases parseGiven_ok resolveName_ok parsedNotInUse with ⟨rfl, fifth⟩
  cases finish
  exact ⟨rfl, first, second, third, fourth, fifth⟩

/-! ## Filling the sections -/

def Message.withPrerequisites (message : Message) (records : List Record) : Message :=
  { message with prerequisite := message.prerequisite ++ records }

def Message.withChanges (message : Message) (records : List Record) : Message :=
  { message with update := message.update ++ records }

theorem withPrerequisites_nil (message : Message) : message.withPrerequisites [] = message := by
  simp [Message.withPrerequisites]

theorem withChanges_nil (message : Message) : message.withChanges [] = message := by
  simp [Message.withChanges]

theorem withPrerequisites_append (message : Message) (records others : List Record) :
    (message.withPrerequisites records).withPrerequisites others =
      message.withPrerequisites (records ++ others) := by
  simp [Message.withPrerequisites]

theorem withChanges_append (message : Message) (records others : List Record) :
    (message.withChanges records).withChanges others =
      message.withChanges (records ++ others) := by
  simp [Message.withChanges]

theorem pushPrerequisite_ok {domain : Domain} {record : Record} {before after : Message}
    (run : exec (pushPrerequisite domain record) before = (.ok ⟨⟩, after)) :
    after = before.withPrerequisites [record] := by
  unfold pushPrerequisite at run
  rw [exec_bind_of_ok (exec_get before)] at run
  split at run
  · cases run
  · cases run
    rfl

theorem pushUpdate_ok {domain : Domain} {what : String} {record : Record}
    {before after : Message}
    (run : exec (pushUpdate domain what record) before = (.ok ⟨⟩, after)) :
    after = before.withChanges [record] := by
  unfold pushUpdate at run
  rw [exec_bind_of_ok (exec_get before)] at run
  split at run
  · cases run
  · cases run
    rfl

/-- One record is added to a section for each item. -/
theorem insertEach_ok {Item : Type} {insert : Item → Build Unit}
    {Made : Item → Record → Prop} {extend : Message → List Record → Message}
    (extend_nil : ∀ message, extend message [] = message)
    (extend_append : ∀ message records others,
      extend (extend message records) others = extend message (records ++ others))
    (each : ∀ {item before after}, exec (insert item) before = (.ok ⟨⟩, after) →
      ∃ record, Made item record ∧ after = extend before [record])
    {items : List Item} {before after : Message}
    (run : exec (insertEach insert items) before = (.ok ⟨⟩, after)) :
    ∃ records, List.Forall₂ Made items records ∧ after = extend before records := by
  induction items generalizing before with
  | nil =>
      cases run
      exact ⟨[], .nil, (extend_nil _).symm⟩
  | cons item items induction =>
      rcases exec_bind_eq_ok.mp run with ⟨_, middle, inserted, rest⟩
      rcases each inserted with ⟨record, made, same⟩
      rcases induction rest with ⟨records, more, final⟩
      refine ⟨record :: records, .cons made more, ?_⟩
      rw [final, same, extend_append]
      rfl

theorem forall₂_eq_map {Item : Type} {create : Item → Record} {items : List Item}
    {records : List Record}
    (made : List.Forall₂ (fun item record => record = create item) items records) :
    records = items.map create := by
  induction made with
  | nil => rfl
  | cons same _ induction => rw [same, induction, List.map_cons]

theorem insertGiven_ok {Item : Type} {domain : Domain} {create : Item → Record}
    {items : Option (List Item)} {before after : Message}
    (run : exec (insertGiven (fun item => pushPrerequisite domain (create item)) items) before =
      (.ok ⟨⟩, after)) :
    after = before.withPrerequisites ((items.getD []).map create) := by
  cases items with
  | none =>
      cases run
      simp [Message.withPrerequisites]
  | some items =>
      have each : ∀ {item : Item} {before after : Message},
          exec (pushPrerequisite domain (create item)) before = (.ok ⟨⟩, after) →
          ∃ record, record = create item ∧ after = before.withPrerequisites [record] :=
        fun pushed => ⟨_, rfl, pushPrerequisite_ok pushed⟩
      rcases insertEach_ok withPrerequisites_nil withPrerequisites_append each run with
        ⟨records, made, same⟩
      rw [same, forall₂_eq_map made]
      rfl

/-- The records that an update action leads to. -/
def ChangesMade (domain : Domain) (update : Update) (changes : List Record) : Prop :=
  let made := fun (create : ZoneRecordData → Record) (rtype : Rtype) (rdata : List String) =>
    List.Forall₂ (fun text change => ∃ read,
      FirstRecord (domain.zonefile none none (rdataText domain rtype text)) read ∧
        change = create read.data) rdata changes
  match update.action with
  | .add rtype rdata =>
      rdata ≠ [] ∧ made (createRrAddition update.domain update.class' update.ttl) rtype rdata
  | .delete rtype [] => changes = [createRrsetDeletion update.domain rtype]
  | .delete rtype rdata => made (createRrDeletion update.domain) rtype rdata
  | .clear => changes = [createAllRrsetDeletion update.domain]

theorem parseRdata_ok {domain : Domain} {rtype : Rtype} {text : String}
    {data : ZoneRecordData} {before after : Message}
    (run : exec (parseRdata domain rtype text) before = (.ok data, after)) :
    after = before ∧ ∃ read,
      FirstRecord (domain.zonefile none none (rdataText domain rtype text)) read ∧
        data = read.data := by
  unfold parseRdata at run
  split at run
  · next read first =>
      cases run
      exact ⟨rfl, read, first, rfl⟩
  · cases run
  · cases run

theorem checkSoaSerial_ok {soa : Serial} {data : ZoneRecordData} {before after : Message}
    (run : exec (checkSoaSerial soa data) before = (.ok ⟨⟩, after)) : after = before := by
  unfold checkSoaSerial at run
  split at run
  · split at run
    · cases run
      rfl
    · cases run
  · cases run
    rfl

theorem insertAddUpdates_ok {domain : Domain} {update : Update} {rtype : Rtype}
    {rdata : List String} {soa : Serial} {before after : Message}
    (action : update.action = .add rtype rdata)
    (run : exec (update.insertAddUpdates domain rtype rdata soa) before = (.ok ⟨⟩, after)) :
    ∃ changes, ChangesMade domain update changes ∧ after = before.withChanges changes := by
  cases rdata with
  | nil => cases run
  | cons text rdata =>
      have each : ∀ {text : String} {before after : Message},
          exec (do
            let data ← parseRdata domain rtype text
            checkSoaSerial soa data
            pushUpdate domain "RR"
              (createRrAddition update.domain update.class' update.ttl data)) before =
              (.ok ⟨⟩, after) →
          ∃ change, (∃ read,
            FirstRecord (domain.zonefile none none (rdataText domain rtype text)) read ∧
              change = createRrAddition update.domain update.class' update.ttl read.data) ∧
            after = before.withChanges [change] := by
        intro text before after run
        rcases exec_bind_eq_ok.mp run with ⟨data, middle, parsed, checking⟩
        rcases parseRdata_ok parsed with ⟨rfl, read, first, rfl⟩
        rcases exec_bind_eq_ok.mp checking with ⟨_, last, checked, pushed⟩
        cases checkSoaSerial_ok checked
        exact ⟨_, ⟨read, first, rfl⟩, pushUpdate_ok pushed⟩
      rcases insertEach_ok withChanges_nil withChanges_append each run with
        ⟨changes, made, same⟩
      refine ⟨changes, ?_, same⟩
      simp only [ChangesMade, action]
      exact ⟨by simp, made⟩

theorem insertDeleteUpdates_ok {domain : Domain} {update : Update} {rtype : Rtype}
    {rdata : List String} {before after : Message}
    (action : update.action = .delete rtype rdata)
    (run : exec (update.insertDeleteUpdates domain rtype rdata) before = (.ok ⟨⟩, after)) :
    ∃ changes, ChangesMade domain update changes ∧ after = before.withChanges changes := by
  cases rdata with
  | nil =>
      refine ⟨[createRrsetDeletion update.domain rtype], ?_, pushUpdate_ok run⟩
      simp only [ChangesMade, action]
  | cons text rdata =>
      have each : ∀ {text : String} {before after : Message},
          exec (do
            let data ← parseRdata domain rtype text
            pushUpdate domain "RR deletion RR" (createRrDeletion update.domain data)) before =
              (.ok ⟨⟩, after) →
          ∃ change, (∃ read,
            FirstRecord (domain.zonefile none none (rdataText domain rtype text)) read ∧
              change = createRrDeletion update.domain read.data) ∧
            after = before.withChanges [change] := by
        intro text before after run
        rcases exec_bind_eq_ok.mp run with ⟨data, middle, parsed, pushed⟩
        rcases parseRdata_ok parsed with ⟨rfl, read, first, rfl⟩
        exact ⟨_, ⟨read, first, rfl⟩, pushUpdate_ok pushed⟩
      rcases insertEach_ok withChanges_nil withChanges_append each run with
        ⟨changes, made, same⟩
      refine ⟨changes, ?_, same⟩
      simp only [ChangesMade, action]
      exact made

/-- The prerequisite section that understood arguments lead to. -/
def UpdatePrerequisites.records (prerequisites : UpdatePrerequisites) : List Record :=
  (prerequisites.rrsetExists.getD []).map (fun asked => createPrereqRrsetExists asked.1 asked.2) ++
    prerequisites.rrsetExistsExact.getD [] ++
    (prerequisites.rrsetNonExistent.getD []).map
      (fun asked => createPrereqRrsetNonExistent asked.1 asked.2) ++
    (prerequisites.nameInUse.getD []).map createPrereqNameInUse ++
    (prerequisites.nameNotInUse.getD []).map createPrereqNameNotInUse

theorem insertPrerequisites_ok {domain : Domain} {prerequisites : UpdatePrerequisites}
    {before after : Message}
    (run : exec (insertPrerequisites domain prerequisites) before = (.ok ⟨⟩, after)) :
    after = before.withPrerequisites prerequisites.records := by
  rcases exec_bind_eq_ok.mp run with ⟨_, _, exists', exactNext⟩
  cases insertGiven_ok exists'
  rcases exec_bind_eq_ok.mp exactNext with ⟨_, _, exact', absentNext⟩
  cases insertGiven_ok exact'
  rcases exec_bind_eq_ok.mp absentNext with ⟨_, _, absent, inUseNext⟩
  cases insertGiven_ok absent
  rcases exec_bind_eq_ok.mp inUseNext with ⟨_, _, inUse, notInUse⟩
  cases insertGiven_ok inUse
  rw [insertGiven_ok notInUse]
  simp [Message.withPrerequisites, UpdatePrerequisites.records]

/-- A message that has been created is known record by record. -/
theorem message_created {domain : Domain} {update : Update} {apex : Name} {soa : Serial}
    {message : Message} (created : update.message domain apex soa = .ok message) :
    ∃ prerequisites changes, Parsed domain update apex prerequisites ∧
      ChangesMade domain update changes ∧
      message = ⟨.update, false, [⟨apex, .soa, .inClass⟩], prerequisites.records, changes⟩ := by
  unfold Update.message at created
  dsimp only at created
  split at created
  · next final run =>
      cases created
      rcases exec_bind_eq_ok.mp run with ⟨prerequisites, _, parsing, creating⟩
      rcases parsePrerequisites_ok parsing with ⟨rfl, parsed⟩
      rcases exec_bind_eq_ok.mp creating with ⟨_, _, opened, inserting⟩
      cases opened
      rcases exec_bind_eq_ok.mp inserting with ⟨_, _, inserted, acting⟩
      cases insertPrerequisites_ok inserted
      cases action : update.action with
      | add rtype rdata =>
          rw [action] at acting
          rcases insertAddUpdates_ok action acting with ⟨changes, made, rfl⟩
          exact ⟨prerequisites, changes, parsed, made, rfl⟩
      | delete rtype rdata =>
          rw [action] at acting
          rcases insertDeleteUpdates_ok action acting with ⟨changes, made, rfl⟩
          exact ⟨prerequisites, changes, parsed, made, rfl⟩
      | clear =>
          rw [action] at acting
          rw [pushUpdate_ok acting]
          refine ⟨prerequisites, [createAllRrsetDeletion update.domain], parsed, ?_, rfl⟩
          simp only [ChangesMade, action]
  · cases created

end Dnst.DynamicUpdate
