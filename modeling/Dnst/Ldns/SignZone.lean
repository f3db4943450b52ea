import Dnst.Ldns.Accepted

/-! # What ldns-signzone accepts

The times have defaults of their own, the files stand behind the options, and there has to be
something to sign with.
-/

namespace Dnst.Ldns

open Keyset (Fault)
open ShortOptions

section Tool

variable {Os : Type} {context : Context Os} {ofStr : String → Os} {command : Command}

namespace SignZoneLdns

structure Holds (context : Context Os) (default : Signzone.Timestamp) (parsed : Parsed) :
    Prop where
  expiration : TimeAccepted context.values default parsed.expiration
  inception : TimeAccepted context.values context.now parsed.inception
  origin : Given context.values.storedName parsed.origin
  zonemd : ∀ tuple ∈ parsed.zonemd, Readable parseZonemdTupleLdns tuple
  algorithm : parsed.algorithm = 1 ∨ Readable (parseNsec3Alg context.values) parsed.algorithm
  iterations : parsed.iterations < u16
  salt : parsed.salt = [] ∨
    ∃ salt, Readable context.values.salt salt ∧ parsed.salt = salt.map UInt8.toNat
  noHashList : parsed.preceedZoneWithHashList = false

/-- A time that is read is accepted where the one before is. -/
theorem readTime_accepted {default before time : Signzone.Timestamp} {val : Os}
    (accepted : TimeAccepted context.values default before)
    (reads : readTime context before val = .ok time) :
    TimeAccepted context.values default time := by
  unfold readTime at reads
  split at reads
  · cases reads
    exact accepted
  · next isSet =>
      unfold parseOsWith at reads
      split at reads
      · cases reads
      · next text isText =>
          refine Or.inr ⟨text, ?_, ?_⟩
          · intro zero
            apply isSet
            unfold isUnset
            rw [isText, Option.getD_some, zero]
            rfl
          · cases parses : parseTimestamp context.values text with
            | error e =>
                rw [parses] at reads
                cases reads
            | ok found =>
                rw [parses] at reads
                exact reads

theorem keeps_time {default before : Signzone.Timestamp} {holds : Parsed → Prop}
    {returns : Command → Prop} {store : Signzone.Timestamp → Parsed}
    (accepted : TimeAccepted context.values default before)
    (kept : ∀ time, TimeAccepted context.values default time → holds (store time)) :
    (taking fun val => do return store (← readTime context before val)).Keeps holds returns := by
  intro val
  apply keeps_goOn
  intro parsed stored
  rcases Effect.bind_eq_ok stored with ⟨time, reads, isParsed⟩
  cases isParsed
  exact kept time (readTime_accepted accepted reads)

theorem reader_keeps {default : Signzone.Timestamp}
    (adds : addU32 context.checked context.now fourWeeks = .ok default) :
    (reader context).Keeps (Holds context default) (Accepted context) where
  short := by
    intro name parsed holds
    change (short context name parsed).Keeps _ _
    unfold short
    split
    · exact keeps_set { holds with }
    · exact keeps_set { holds with }
    · exact keeps_time holds.expiration fun _ accepted => { holds with expiration := accepted }
    · exact keeps_taking fun _ _ => { holds with }
    · exact keeps_time holds.inception fun _ accepted => { holds with inception := accepted }
    · exact keeps_taking fun _ readable => { holds with origin := given_some readable }
    · exact keeps_set { holds with }
    · refine keeps_taking fun tuple readable => { holds with zonemd := ?_ }
      intro other member
      rcases List.mem_append.mp member with before | added
      · exact holds.zonemd other before
      · rw [List.mem_singleton.mp added]
        exact readable
    · exact keeps_set { holds with }
    · exact keeps_set { holds with }
    · exact keeps_set { holds with }
    · exact keeps_answer (ReportAccepted.signzone adds)
    · exact keeps_set { holds with }
    · exact keeps_taking fun _ readable => { holds with algorithm := Or.inr readable }
    · exact keeps_taking fun _ readable => { holds with iterations := unsigned_lt readable }
    · exact keeps_taking fun salt readable =>
        { holds with salt := Or.inr ⟨salt, readable, rfl⟩ }
    · exact keeps_set { holds with }
    · exact keeps_refuse _
  value := by
    intro val parsed holds
    change Keeps _ _ (value context val parsed)
    unfold value
    split
    · exact keeps_parsed fun _ _ => { holds with }
    · exact keeps_parsed fun _ _ => { holds with }

theorem finalComments_stdout {parsed : Parsed} (toStdout : parsed.outFile = some "-") :
    finalComments parsed = false := by
  unfold finalComments
  rw [if_pos toStdout]

theorem finish_accepted {default : Signzone.Timestamp}
    (adds : addU32 context.checked context.now fourWeeks = .ok default) (parsed : Parsed)
    (holds : Holds context default parsed) (finishes : finish parsed = .ok command) :
    Accepted context command := by
  unfold finish at finishes
  split at finishes
  · cases finishes
  · split at finishes
    · cases finishes
    · next keys =>
        cases finishes
        exact
          { expiration := ⟨default, adds, holds.expiration⟩
            inception := holds.inception
            origin := holds.origin
            zonemd := holds.zonemd
            algorithm := holds.algorithm
            iterations := holds.iterations
            salt := holds.salt
            keys := by
              intro none
              refine Bool.eq_true_of_not_eq_false fun noZonemd => keys ⟨?_, noZonemd⟩
              exact List.isEmpty_iff.mpr none
            comments := finalComments_stdout
            optOut := rfl
            notHashOnly := rfl
            noHashList := by
              unfold toSignZone
              rw [holds.noHashList, Bool.false_and]
            unhashed := rfl
            signatures := rfl
            dates := rfl
            ldns := rfl }

theorem parseLdns_accepted {args : List Os}
    (parses : (SignZoneLdns.command context).parseLdns args = .ok command) :
    Accepted context command := by
  rcases Effect.bind_eq_ok parses with ⟨default, adds, parses⟩
  have starts : Holds context default (start context default) :=
    { expiration := Or.inl rfl
      inception := Or.inl rfl
      origin := given_none _
      zonemd := by
        intro tuple impossible
        cases impossible
      algorithm := Or.inl rfl
      iterations := by
        change 1 < u16
        decide
      salt := Or.inl rfl
      noHashList := rfl }
  exact readAll_keeps (reader_keeps adds) starts (finish_accepted adds) parses

/-- A time that is not 0 as a number replaces the one before. -/
theorem reaches_time (lawful : context.os.Lawful ofStr) (name : Char)
    {default time : Signzone.Timestamp} {parsed : Parsed}
    (accepted : TimeAccepted context.values default time)
    (store : Parsed → Signzone.Timestamp → Parsed) (isNamed : name ≠ '-')
    (unset : store parsed default = parsed)
    (handles : short context name parsed =
      taking fun val => do return store parsed (← readTime context default val)) :
    (reader context).Reaches parsed (store parsed time) := by
  rcases accepted with isDefault | ⟨text, isSet, parses⟩
  · rw [isDefault, unset]
    exact .refl parsed
  · have isTime : isUnset context (ofStr text) = false := by
      unfold isUnset
      rw [lawful.toStr, Option.getD_some]
      split
      · next number reads =>
          apply decide_eq_false
          intro zero
          rw [zero] at reads
          exact isSet reads
      · rfl
    have takes : goOn (do return store parsed (← readTime context default (ofStr text))) =
        .ok (.next (store parsed time)) := by
      unfold readTime
      rw [isTime]
      exact goOn_parsed lawful (store parsed) parses
    exact reaches_text isNamed handles takes

theorem reaches_zonemd (lawful : context.os.Lawful ofStr) {zonemd : List Signzone.ZonemdTuple}
    (readable : ∀ tuple ∈ zonemd, Readable parseZonemdTupleLdns tuple) (parsed : Parsed) :
    (reader context).Reaches parsed { parsed with zonemd := parsed.zonemd ++ zonemd } := by
  induction zonemd generalizing parsed with
  | nil =>
      rw [List.append_nil]
      exact .refl parsed
  | cons tuple zonemd induction =>
      refine (reaches_taking lawful 'z' (readable tuple List.mem_cons_self)
        (fun parsed tuple => { parsed with zonemd := parsed.zonemd ++ [tuple] })
        (by decide) rfl).trans ?_
      have rest := induction (fun other member => readable other (List.mem_cons_of_mem _ member))
        { parsed with zonemd := parsed.zonemd ++ [tuple] }
      rw [List.append_assoc] at rest
      exact rest

theorem passes_keys (lawful : context.os.Lawful ofStr) (keys : List String) (parsed : Parsed)
    (behind : parsed.zonefile.isSome = true) :
    (reader context).PassesAll ((keys.map ofStr).map .value) parsed
      { parsed with keyPaths := parsed.keyPaths ++ keys } := by
  induction keys generalizing parsed with
  | nil =>
      rw [List.append_nil]
      exact .nil
  | cons key keys induction =>
      have stores : value context (ofStr key) parsed =
          .ok (.next { parsed with keyPaths := parsed.keyPaths ++ [key] }) := by
        unfold value
        rw [if_neg (by simpa using Option.isSome_iff_ne_none.mp behind)]
        exact goOn_parsed lawful
          (fun key => ({ parsed with keyPaths := parsed.keyPaths ++ [key] } : Parsed)) rfl
      have rest := induction { parsed with keyPaths := parsed.keyPaths ++ [key] } behind
      rw [List.append_assoc] at rest
      exact .cons (.value stores) rest

/-- The arguments from which the command comes, without the files. -/
def parsedOf (options : Signzone.SignZone) : Parsed where
  extraComments := options.extraComments
  doNotAddKeysToZone := options.doNotAddKeysToZone
  expiration := options.expiration
  outFile := options.outFile
  inception := options.inception
  origin := options.origin
  setSoaSerialToEpochTime := options.setSoaSerialToEpochTime
  zonemd := options.zonemd
  allowZonemdWithoutSigning := options.allowZonemdWithoutSigning
  signDnskeysWithAllKeys := options.signDnskeysWithAllKeys
  signWithEveryUniqueAlgorithm := options.signWithEveryUniqueAlgorithm
  useNsec3 := options.useNsec3
  algorithm := options.algorithm
  iterations := options.iterations
  salt := options.salt
  nsec3OptOutFlagsOnly := options.nsec3OptOutFlagsOnly

theorem reaches_salt (lawful : context.os.Lawful ofStr) {salt : Signzone.Octets}
    {parsed : Parsed} (unset : parsed.salt = [])
    (accepted : salt = [] ∨
      ∃ given, Readable context.values.salt given ∧ salt = given.map UInt8.toNat) :
    (reader context).Reaches parsed { parsed with salt } := by
  rcases accepted with rfl | ⟨given, readable, rfl⟩
  · rw [← unset]
    exact .refl parsed
  · exact reaches_taking lawful 's' readable
      (fun (parsed : Parsed) given => { parsed with salt := given.map UInt8.toNat })
      (by decide) rfl

theorem reaches_parsedOf (lawful : context.os.Lawful ofStr) {options : Signzone.SignZone}
    {default : Signzone.Timestamp} (accepted : SignZoneAccepted context options)
    (expires : TimeAccepted context.values default options.expiration) :
    (reader context).Reaches (start context default) (parsedOf options) := by
  refine (reaches_when 'b' options.extraComments
    (fun parsed noted => { parsed with extraComments := noted }) (by decide) rfl rfl).trans ?_
  refine (reaches_when 'd' options.doNotAddKeysToZone
    (fun parsed noted => { parsed with doNotAddKeysToZone := noted })
    (by decide) rfl rfl).trans ?_
  refine (reaches_time lawful 'e' expires
    (fun parsed time => { parsed with expiration := time }) (by decide) rfl rfl).trans ?_
  have anyFile : Given anyText options.outFile := fun text _ => ⟨text, rfl⟩
  refine (reaches_given lawful 'f' anyFile
    (fun parsed given => { parsed with outFile := given }) (by decide) rfl rfl).trans ?_
  refine (reaches_time lawful 'i' accepted.inception
    (fun parsed time => { parsed with inception := time }) (by decide) rfl rfl).trans ?_
  refine (reaches_given lawful 'o' accepted.origin
    (fun parsed given => { parsed with origin := given }) (by decide) rfl rfl).trans ?_
  refine (reaches_when 'u' options.setSoaSerialToEpochTime
    (fun parsed noted => { parsed with setSoaSerialToEpochTime := noted })
    (by decide) rfl rfl).trans ?_
  refine (reaches_zonemd lawful accepted.zonemd _).trans ?_
  refine (reaches_when 'Z' options.allowZonemdWithoutSigning
    (fun parsed noted => { parsed with allowZonemdWithoutSigning := noted })
    (by decide) rfl rfl).trans ?_
  refine (reaches_when 'A' options.signDnskeysWithAllKeys
    (fun parsed noted => { parsed with signDnskeysWithAllKeys := noted })
    (by decide) rfl rfl).trans ?_
  refine (reaches_when 'U' options.signWithEveryUniqueAlgorithm
    (fun parsed noted => { parsed with signWithEveryUniqueAlgorithm := noted })
    (by decide) rfl rfl).trans ?_
  refine (reaches_when 'n' options.useNsec3
    (fun parsed noted => { parsed with useNsec3 := noted }) (by decide) rfl rfl).trans ?_
  refine (reaches_default lawful 'a' accepted.algorithm
    (fun parsed algorithm => { parsed with algorithm }) (by decide) rfl rfl).trans ?_
  refine (reaches_taking lawful 't' (readable_unsigned accepted.iterations)
    (fun parsed iterations => { parsed with iterations }) (by decide) rfl).trans ?_
  refine (reaches_salt lawful rfl accepted.salt).trans ?_
  exact reaches_when 'p' options.nsec3OptOutFlagsOnly
    (fun (parsed : Parsed) noted => { parsed with nsec3OptOutFlagsOnly := noted })
    (by decide) rfl rfl

/-- The arguments with the files. -/
def filled (options : Signzone.SignZone) : Parsed :=
  { parsedOf options with
    zonefile := some options.zonefilePath
    keyPaths := options.keyPaths }

theorem toSignZone_filled {options : Signzone.SignZone}
    (accepted : SignZoneAccepted context options) :
    toSignZone (filled options) options.zonefilePath = options := by
  have comments : finalComments (filled options) = options.extraComments := by
    unfold finalComments
    split
    · next toStdout => exact (accepted.comments toStdout).symm
    · rfl
  unfold toSignZone
  rw [comments]
  rcases accepted with ⟨_, _, _, _, _, _, _, _, _, optOut, hashOnly, hashList, unhashed,
    signatures, dates, ldns⟩
  cases options
  cases optOut
  cases hashOnly
  cases hashList
  cases unhashed
  cases signatures
  cases dates
  cases ldns
  rfl

theorem finish_filled {options : Signzone.SignZone}
    (accepted : SignZoneAccepted context options) :
    finish (filled options) = .ok (.signZone options) := by
  have keys : ¬((filled options).keyPaths.isEmpty = true ∧
      (filled options).allowZonemdWithoutSigning = false) := by
    rintro ⟨none, noZonemd⟩
    have allowed := accepted.keys (List.isEmpty_iff.mp none)
    rw [show (filled options).allowZonemdWithoutSigning = true from allowed] at noZonemd
    cases noZonemd
  unfold finish
  rw [show (filled options).zonefile = some options.zonefilePath from rfl]
  dsimp only
  rw [if_neg keys, toSignZone_filled accepted]

theorem parseLdns_eq {default : Signzone.Timestamp} (line : List Os)
    (adds : addU32 context.checked context.now fourWeeks = .ok default) :
    (SignZoneLdns.command context).parseLdns line =
      (readAll (reader context) finish (context.lex line) (start context default)).mapError
        Fault.error := by
  unfold SignZoneLdns.command
  dsimp only
  rw [adds]
  rfl

theorem exists_line (lawful : context.os.Lawful ofStr) (lexes : LexesOptions context ofStr)
    {options : Signzone.SignZone} (accepted : SignZoneAccepted context options) :
    ∃ line, (SignZoneLdns.command context).parseLdns line = .ok (.signZone options) := by
  rcases accepted.expiration with ⟨default, adds, expires⟩
  let opened : Parsed := { parsedOf options with zonefile := some options.zonefilePath }
  have stores : value context (ofStr options.zonefilePath) (parsedOf options) =
      .ok (.next opened) :=
    goOn_parsed lawful
      (fun zonefile => ({ parsedOf options with zonefile := some zonefile } : Parsed)) rfl
  have passes : (reader context).PassesAll
      (((options.zonefilePath :: options.keyPaths).map ofStr).map .value) (parsedOf options)
      (filled options) :=
    .cons (.value stores) (passes_keys lawful options.keyPaths opened rfl)
  rcases readAll_ofReaches lexes (reaches_parsedOf lawful accepted expires) passes
    (finish_filled accepted) with ⟨line, reads⟩
  exact ⟨line, (parseLdns_eq line adds).trans reads⟩

end SignZoneLdns

end Tool

end Dnst.Ldns
