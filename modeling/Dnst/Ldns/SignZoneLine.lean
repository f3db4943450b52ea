import Dnst.Ldns.SignZone

/-! # What a command line of ldns-signzone means

A flag counts wherever it stands, and of the other options the last one with a value. ZONEMD
tuples add up in order, the first value is the zone file and the others are keys.
-/

namespace Dnst.Ldns.SignZoneLdns

open Keyset (Fault)
open ShortOptions

/-! ## Items -/

section Items

variable {Os Value : Type} (context : Context Os)

def isFlag (name : Char) : Item Os → Bool
  | .option other none => other = name
  | _ => false

/-- What is read from the text of the option. -/
def textOf (name : Char) (read : Os → Option Value) : Item Os → Option Value
  | .option other (some text) => if other = name then read text else none
  | _ => none

def readText (read : String → Except String Value) (val : Os) : Option Value :=
  (context.os.toStr val).bind fun text => (read text).toOption

def readValue : Item Os → Option String
  | .value text => readText context anyText text
  | _ => none

/-- A time, when the text is not 0. -/
def timeOf (val : Os) : Option Signzone.Timestamp :=
  if isUnset context val then none else readText context (parseTimestamp context.values) val

def flags : List Char := ['b', 'd', 'u', 'Z', 'A', 'U', 'n', 'p']

/-- What is read from the text of an option has to be of its type. -/
inductive AdmitsText : Char → Os → Prop
  | unset {name text} : name ∈ ['e', 'i'] → isUnset context text = true → AdmitsText name text
  | time {name text} : name ∈ ['e', 'i'] → (timeOf context text).isSome = true →
      AdmitsText name text
  | outFile {text} : (readText context anyText text).isSome = true → AdmitsText 'f' text
  | origin {text} : (readText context context.values.storedName text).isSome = true →
      AdmitsText 'o' text
  | zonemd {text} : (readText context parseZonemdTupleLdns text).isSome = true →
      AdmitsText 'z' text
  | algorithm {text} : (readText context (parseNsec3Alg context.values) text).isSome = true →
      AdmitsText 'a' text
  | iterations {text} : (readText context (unsigned u16) text).isSome = true →
      AdmitsText 't' text
  | salt {text} : (readText context context.values.salt text).isSome = true →
      AdmitsText 's' text

def Admits : Item Os → Prop
  | .option name none => name ∈ flags
  | .option name (some text) => AdmitsText context name text
  | .value text => (readText context anyText text).isSome = true

/-- The last of what the items say, or else the default. -/
def lastOf (pick : Item Os → Option Value) (items : List (Item Os)) (default : Value) : Value :=
  (items.filterMap pick).getLast?.getD default

/-- The arguments behind some items. -/
def after (parsed : Parsed) (items : List (Item Os)) : Parsed where
  extraComments := parsed.extraComments || items.any (isFlag 'b')
  doNotAddKeysToZone := parsed.doNotAddKeysToZone || items.any (isFlag 'd')
  expiration := lastOf (textOf 'e' (timeOf context)) items parsed.expiration
  outFile := lastOf (fun item => (textOf 'f' (readText context anyText) item).map some) items
    parsed.outFile
  inception := lastOf (textOf 'i' (timeOf context)) items parsed.inception
  origin := lastOf
    (fun item => (textOf 'o' (readText context context.values.storedName) item).map some) items
    parsed.origin
  setSoaSerialToEpochTime := parsed.setSoaSerialToEpochTime || items.any (isFlag 'u')
  zonemd := parsed.zonemd ++
    items.filterMap (textOf 'z' (readText context parseZonemdTupleLdns))
  allowZonemdWithoutSigning := parsed.allowZonemdWithoutSigning || items.any (isFlag 'Z')
  signDnskeysWithAllKeys := parsed.signDnskeysWithAllKeys || items.any (isFlag 'A')
  signWithEveryUniqueAlgorithm :=
    parsed.signWithEveryUniqueAlgorithm || items.any (isFlag 'U')
  useNsec3 := parsed.useNsec3 || items.any (isFlag 'n')
  algorithm := lastOf (textOf 'a' (readText context (parseNsec3Alg context.values))) items
    parsed.algorithm
  iterations := lastOf (textOf 't' (readText context (unsigned u16))) items parsed.iterations
  salt := lastOf
    (fun item => (textOf 's' (readText context context.values.salt) item).map
      (List.map UInt8.toNat)) items parsed.salt
  nsec3OptOutFlagsOnly := parsed.nsec3OptOutFlagsOnly || items.any (isFlag 'p')
  preceedZoneWithHashList := parsed.preceedZoneWithHashList
  keyPaths := parsed.keyPaths ++
    (items.filterMap (readValue context)).drop (if parsed.zonefile.isSome then 0 else 1)
  zonefile := parsed.zonefile.or (items.filterMap (readValue context)).head?

end Items

section Reading

variable {Os Value : Type} {context : Context Os}

theorem lastOf_nil (pick : Item Os → Option Value) (default : Value) :
    lastOf pick [] default = default := rfl

theorem lastOf_cons (pick : Item Os → Option Value) (item : Item Os) (items : List (Item Os))
    (default : Value) :
    lastOf pick (item :: items) default = lastOf pick items ((pick item).getD default) := by
  unfold lastOf
  cases said : pick item with
  | none => rw [List.filterMap_cons_none said, Option.getD_none]
  | some value => simp [List.filterMap_cons_some said, List.getLast?_cons]

theorem parseOsWith_eq_ok_iff {opt : String} {val : Os} {read : String → Except String Value}
    {value : Value} :
    parseOsWith context.os opt val read = .ok value ↔ readText context read val = some value := by
  unfold parseOsWith readText
  cases context.os.toStr val with
  | none => simp
  | some text => cases reads : read text <;> simp [reads, Except.mapError, Except.toOption]

theorem readTime_eq_ok_iff {before time : Signzone.Timestamp} {val : Os} :
    readTime context before val = .ok time ↔
      isUnset context val = true ∧ before = time ∨ timeOf context val = some time := by
  unfold readTime timeOf
  split
  · next unset => simp [unset]
  · next isSet => simp [parseOsWith_eq_ok_iff, isSet]

theorem after_nil (parsed : Parsed) : after context parsed [] = parsed := by
  cases parsed
  simp [after, lastOf_nil]

theorem goOn_eq_next_iff {read : Except String Parsed} {middle : Parsed} :
    goOn read = .ok (.next middle) ↔ read = .ok middle := by
  cases read with
  | error reason => simp [goOn, Except.map]
  | ok parsed => simp [goOn, Except.map]

theorem goOn_parsed_iff {opt : String} {val : Os} {read : String → Except String Value}
    {store : Value → Parsed} {middle : Parsed} :
    goOn (do return store (← parseOsWith context.os opt val read)) = .ok (.next middle) ↔
      ∃ value, readText context read val = some value ∧ store value = middle := by
  rw [goOn_eq_next_iff]
  constructor
  · intro stores
    rcases Effect.bind_eq_ok stores with ⟨value, parses, same⟩
    cases same
    exact ⟨value, parseOsWith_eq_ok_iff.mp parses, rfl⟩
  · rintro ⟨value, reads, same⟩
    rw [parseOsWith_eq_ok_iff.mpr reads, ← same]
    rfl

/-- A value counts as the zone file, or as a key behind it. -/
theorem value_admits {val : Os} {parsed middle : Parsed}
    (stores : value context val parsed = .ok (.next middle)) :
    Admits context (.value val) ∧ ∀ items, after context middle items =
      after context parsed (.value val :: items) := by
  unfold value at stores
  split at stores
  · next unset =>
      rcases goOn_parsed_iff.mp stores with ⟨path, reads, rfl⟩
      refine ⟨by simp [Admits, reads], ?_⟩
      intro items
      have fresh : parsed.zonefile = none := by simpa using unset
      simp [after, isFlag, textOf, readValue, lastOf_cons, List.filterMap_cons, reads, fresh]
  · next isSet =>
      rcases goOn_parsed_iff.mp stores with ⟨path, reads, rfl⟩
      refine ⟨by simp [Admits, reads], ?_⟩
      intro items
      rcases Option.ne_none_iff_exists'.mp (by simpa using isSet) with ⟨zonefile, given⟩
      simp [after, isFlag, textOf, readValue, lastOf_cons, List.filterMap_cons, reads, given]

theorem flag_admits {name : Char} {parsed middle : Parsed}
    (handles : short context name parsed = .flag (.ok (.next middle))) :
    Admits context (.option name none) ∧ ∀ items, after context middle items =
      after context parsed (.option name none :: items) := by
  unfold short at handles
  split at handles <;> cases handles <;>
    exact ⟨by simp [Admits, flags], fun items => by
      simp [after, isFlag, textOf, readValue, lastOf_cons, List.filterMap_cons]⟩

theorem goOn_time_iff {before : Signzone.Timestamp} {val : Os}
    {store : Signzone.Timestamp → Parsed} {middle : Parsed} :
    goOn (do return store (← readTime context before val)) = .ok (.next middle) ↔
      ∃ time, (isUnset context val = true ∧ before = time ∨ timeOf context val = some time) ∧
        store time = middle := by
  rw [goOn_eq_next_iff]
  constructor
  · intro stores
    rcases Effect.bind_eq_ok stores with ⟨time, reads, same⟩
    cases same
    exact ⟨time, readTime_eq_ok_iff.mp reads, rfl⟩
  · rintro ⟨time, reads, same⟩
    rw [readTime_eq_ok_iff.mpr reads, ← same]
    rfl

theorem text_admits {name : Char} {val : Os} {take : Os → Outcome Parsed Command}
    {parsed middle : Parsed} (handles : short context name parsed = .text take)
    (takes : take val = .ok (.next middle)) :
    Admits context (.option name (some val)) ∧ ∀ items, after context middle items =
      after context parsed (.option name (some val) :: items) := by
  unfold short at handles
  split at handles <;> cases handles
  · rcases goOn_time_iff.mp takes with ⟨time, ⟨unset, rfl⟩ | reads, rfl⟩
    · refine ⟨.unset (by simp) unset, fun items => ?_⟩
      simp [after, isFlag, textOf, readValue, lastOf_cons, List.filterMap_cons, timeOf, unset]
    · refine ⟨.time (by simp) (by simp [reads]), fun items => ?_⟩
      simp [after, isFlag, textOf, readValue, lastOf_cons, List.filterMap_cons, reads]
  · rcases goOn_parsed_iff.mp takes with ⟨outFile, reads, rfl⟩
    refine ⟨.outFile (by simp [reads]), fun items => ?_⟩
    simp [after, isFlag, textOf, readValue, lastOf_cons, List.filterMap_cons, reads]
  · rcases goOn_time_iff.mp takes with ⟨time, ⟨unset, rfl⟩ | reads, rfl⟩
    · refine ⟨.unset (by simp) unset, fun items => ?_⟩
      simp [after, isFlag, textOf, readValue, lastOf_cons, List.filterMap_cons, timeOf, unset]
    · refine ⟨.time (by simp) (by simp [reads]), fun items => ?_⟩
      simp [after, isFlag, textOf, readValue, lastOf_cons, List.filterMap_cons, reads]
  · rcases goOn_parsed_iff.mp takes with ⟨origin, reads, rfl⟩
    refine ⟨.origin (by simp [reads]), fun items => ?_⟩
    simp [after, isFlag, textOf, readValue, lastOf_cons, List.filterMap_cons, reads]
  · rcases goOn_parsed_iff.mp takes with ⟨tuple, reads, rfl⟩
    refine ⟨.zonemd (by simp [reads]), fun items => ?_⟩
    simp [after, isFlag, textOf, readValue, lastOf_cons, List.filterMap_cons, reads]
  · rcases goOn_parsed_iff.mp takes with ⟨algorithm, reads, rfl⟩
    refine ⟨.algorithm (by simp [reads]), fun items => ?_⟩
    simp [after, isFlag, textOf, readValue, lastOf_cons, List.filterMap_cons, reads]
  · rcases goOn_parsed_iff.mp takes with ⟨iterations, reads, rfl⟩
    refine ⟨.iterations (by simp [reads]), fun items => ?_⟩
    simp [after, isFlag, textOf, readValue, lastOf_cons, List.filterMap_cons, reads]
  · rcases goOn_parsed_iff.mp takes with ⟨salt, reads, rfl⟩
    refine ⟨.salt (by simp [reads]), fun items => ?_⟩
    simp [after, isFlag, textOf, readValue, lastOf_cons, List.filterMap_cons, reads]

theorem passes_admits {item : Item Os} {parsed middle : Parsed}
    (passes : (reader context).Passes item parsed middle) :
    Admits context item ∧ ∀ items, after context middle items =
      after context parsed (item :: items) := by
  cases passes with
  | value stores => exact value_admits stores
  | flag handles => exact flag_admits handles
  | text handles takes => exact text_admits handles takes

theorem exists_time {name : Char} {val : Os} {parsed : Parsed} {before : Signzone.Timestamp}
    {store : Signzone.Timestamp → Parsed}
    (handles : short context name parsed =
      taking fun val => do return store (← readTime context before val))
    (admits : isUnset context val = true ∨ (timeOf context val).isSome = true) :
    ∃ middle, (reader context).Passes (.option name (some val)) parsed middle := by
  have reads : ∃ time, isUnset context val = true ∧ before = time ∨
      timeOf context val = some time := by
    rcases admits with unset | reads
    · exact ⟨before, Or.inl ⟨unset, rfl⟩⟩
    · rcases Option.isSome_iff_exists.mp reads with ⟨time, reads⟩
      exact ⟨time, Or.inr reads⟩
  rcases reads with ⟨time, reads⟩
  exact ⟨_, .text handles (goOn_time_iff.mpr ⟨time, reads, rfl⟩)⟩

theorem exists_text {name : Char} {opt : String} {val : Os} {parsed : Parsed}
    {read : String → Except String Value} {store : Value → Parsed}
    (handles : short context name parsed =
      taking fun val => do return store (← parseOsWith context.os opt val read))
    (admits : (readText context read val).isSome = true) :
    ∃ middle, (reader context).Passes (.option name (some val)) parsed middle := by
  rcases Option.isSome_iff_exists.mp admits with ⟨value, reads⟩
  exact ⟨_, .text handles (goOn_parsed_iff.mpr ⟨value, reads, rfl⟩)⟩

/-- Whether an item is admitted does not depend on the items before. -/
theorem exists_passes {item : Item Os} (admits : Admits context item) (parsed : Parsed) :
    ∃ middle, (reader context).Passes item parsed middle := by
  rcases item with ⟨name, _ | text⟩ | text
  · have isFlag : name ∈ flags := admits
    simp only [flags, List.mem_cons, List.not_mem_nil, or_false] at isFlag
    rcases isFlag with rfl | rfl | rfl | rfl | rfl | rfl | rfl | rfl <;> exact ⟨_, .flag rfl⟩
  · have admitsText : AdmitsText context name text := admits
    cases admitsText with
    | unset isTime unset =>
        simp only [List.mem_cons, List.not_mem_nil, or_false] at isTime
        rcases isTime with rfl | rfl
        · exact exists_time rfl (Or.inl unset)
        · exact exists_time rfl (Or.inl unset)
    | time isTime reads =>
        simp only [List.mem_cons, List.not_mem_nil, or_false] at isTime
        rcases isTime with rfl | rfl
        · exact exists_time rfl (Or.inr reads)
        · exact exists_time rfl (Or.inr reads)
    | outFile reads => exact exists_text rfl reads
    | origin reads => exact exists_text rfl reads
    | zonemd reads => exact exists_text rfl reads
    | algorithm reads => exact exists_text rfl reads
    | iterations reads => exact exists_text rfl reads
    | salt reads => exact exists_text rfl reads
  · rcases Option.isSome_iff_exists.mp admits with ⟨path, reads⟩
    have stores : ∃ middle, value context text parsed = .ok (.next middle) := by
      unfold value
      split
      · exact ⟨_, goOn_parsed_iff.mpr ⟨path, reads, rfl⟩⟩
      · exact ⟨_, goOn_parsed_iff.mpr ⟨path, reads, rfl⟩⟩
    rcases stores with ⟨middle, stores⟩
    exact ⟨middle, .value stores⟩

theorem passesAll_iff {items : List (Item Os)} {parsed last : Parsed} :
    (reader context).PassesAll items parsed last ↔
      (∀ item ∈ items, Admits context item) ∧ last = after context parsed items := by
  constructor
  · intro passes
    induction passes with
    | nil => exact ⟨by simp, (after_nil _).symm⟩
    | cons first _ induction =>
        rcases passes_admits first with ⟨admits, counts⟩
        exact ⟨List.forall_mem_cons.mpr ⟨admits, induction.1⟩,
          induction.2.trans (counts _)⟩
  · rintro ⟨admits, rfl⟩
    induction items generalizing parsed with
    | nil =>
        rw [after_nil]
        exact .nil
    | cons item items induction =>
        rcases List.forall_mem_cons.mp admits with ⟨first, rest⟩
        rcases exists_passes first parsed with ⟨middle, passes⟩
        rw [← (passes_admits passes).2]
        exact .cons passes (induction rest)

end Reading

/-! ## Command lines -/

section Lines

variable {Os : Type} {context : Context Os}

def IsReport (command : Command) : Prop := ∃ text, command = .report text

/-- The command line is only left early for a report. -/
theorem reader_reports (context : Context Os) :
    (reader context).Keeps (fun _ => True) IsReport where
  short := by
    intro name parsed _
    change (short context name parsed).Keeps _ _
    unfold short
    split
    all_goals first
      | exact keeps_set trivial
      | exact fun _ => keeps_goOn fun _ _ => trivial
      | exact keeps_answer ⟨_, rfl⟩
      | exact keeps_refuse _
  value := by
    intro val parsed _
    change Keeps _ _ (value context val parsed)
    unfold value
    split
    · exact keeps_goOn fun _ _ => trivial
    · exact keeps_goOn fun _ _ => trivial

theorem readAll_eq_signZone_iff {lexed : Lexed Os} {parsed : Parsed}
    {options : Signzone.SignZone} :
    readAll (reader context) finish lexed parsed = .ok (.signZone options) ↔
      ∃ last, (reader context).read lexed parsed = .ok (.next last) ∧
        finish last = .ok (.signZone options) := by
  have reports := (reader_reports context).read lexed parsed trivial
  unfold readAll
  cases outcome : (reader context).read lexed parsed with
  | error reason => simp
  | ok step =>
      cases step with
      | next last => simp
      | stop command =>
          rcases reports _ outcome with ⟨text, rfl⟩
          simp

theorem finish_eq_signZone_iff {parsed : Parsed} {options : Signzone.SignZone} :
    finish parsed = .ok (.signZone options) ↔ ∃ zonefile, parsed.zonefile = some zonefile ∧
      (parsed.keyPaths = [] → parsed.allowZonemdWithoutSigning = true) ∧
      options = toSignZone parsed zonefile := by
  unfold finish
  cases parsed.zonefile with
  | none => simp
  | some zonefile =>
      dsimp only
      split
      · next noKeys =>
          have none := List.isEmpty_iff.mp noKeys.1
          simp [none, noKeys.2]
      · next keys =>
          have allowed : parsed.keyPaths = [] → parsed.allowZonemdWithoutSigning = true :=
            fun none => Bool.eq_true_of_not_eq_false fun noZonemd =>
              keys ⟨List.isEmpty_iff.mpr none, noZonemd⟩
          constructor
          · intro same
            cases same
            exact ⟨zonefile, rfl, allowed, rfl⟩
          · rintro ⟨found, same, _, rfl⟩
            cases same
            rfl

/-- What the items say: flags, the last texts of options, the ZONEMD tuples and the files. -/
def meaning (context : Context Os) (default : Signzone.Timestamp) (items : List (Item Os)) :
    Parsed :=
  after context (start context default) items

/-- A command line is a request to sign a zone exactly when all of its items are admitted and
name a zone file and something to sign with. The request is what the items mean. -/
theorem parseLdns_signZone_iff {args : List Os} {options : Signzone.SignZone} :
    (command context).parseLdns args = .ok (.signZone options) ↔
      ∃ default items zonefile, addU32 context.checked context.now fourWeeks = .ok default ∧
        Spells (context.lex args) items ∧ (∀ item ∈ items, Admits context item) ∧
        (meaning context default items).zonefile = some zonefile ∧
        ((meaning context default items).keyPaths = [] →
          (meaning context default items).allowZonemdWithoutSigning = true) ∧
        options = toSignZone (meaning context default items) zonefile := by
  constructor
  · intro parses
    rcases Effect.bind_eq_ok parses with ⟨default, adds, parses⟩
    rcases readAll_eq_signZone_iff.mp (ok_of_mapError parses) with ⟨last, reads, finishes⟩
    rcases read_eq_next_iff.mp reads with ⟨items, spells, passes⟩
    rcases passesAll_iff.mp passes with ⟨admits, rfl⟩
    rcases finish_eq_signZone_iff.mp finishes with ⟨zonefile, named, keys, same⟩
    exact ⟨default, items, zonefile, adds, spells, admits, named, keys, same⟩
  · rintro ⟨default, items, zonefile, adds, spells, admits, named, keys, same⟩
    have passes := passesAll_iff.mpr
      ⟨admits, (rfl : meaning context default items = after context (start context default) items)⟩
    have finishes := finish_eq_signZone_iff.mpr ⟨zonefile, named, keys, same⟩
    rw [parseLdns_eq args adds,
      readAll_eq_signZone_iff.mpr ⟨_, read_eq_next_iff.mpr ⟨items, spells, passes⟩, finishes⟩]
    rfl

end Lines

end Dnst.Ldns.SignZoneLdns
