import Dnst.Ldns.Accepted

/-! # What the small tools accept

Tool by tool, what comes of a command line is accepted, and some command line is read as
every accepted command.
-/

namespace Dnst.Ldns

open Keyset (Fault)
open ShortOptions

section Tools

variable {Os : Type} {context : Context Os} {ofStr : String → Os} {command : Command}

namespace KeygenLdns

structure Holds (values : Values) (parsed : Parsed) : Prop where
  algorithm : Given parseAlgorithm parsed.algorithm
  bits : parsed.bits < u32
  name : Given values.name parsed.name

theorem reader_keeps (context : Context Os) :
    (reader context).Keeps (Holds context.values) (Accepted context) where
  short := by
    intro name parsed holds
    change (short context name parsed).Keeps _ _
    unfold short
    split
    · split
      · exact keeps_refuse _
      · intro val
        unfold readAlgorithm
        split
        · exact keeps_stop ReportAccepted.algorithms
        · exact keeps_parsed fun _ readable => { holds with algorithm := given_some readable }
    · exact keeps_set { holds with }
    · exact keeps_taking fun _ readable => { holds with bits := unsigned_lt readable }
    · exact keeps_refuse _
    · exact keeps_set { holds with }
    · exact keeps_set { holds with }
    · exact keeps_answer ReportAccepted.keygen
    · exact keeps_refuse _
  value := by
    intro val parsed holds
    change Keeps _ _ (value context val parsed)
    unfold value
    split
    · exact keeps_error _
    · exact keeps_parsed fun _ readable => { holds with name := given_some readable }

theorem finish_accepted (parsed : Parsed) (holds : Holds context.values parsed)
    (finishes : finish parsed = .ok command) : Accepted context command := by
  unfold finish at finishes
  split at finishes
  · cases finishes
  · next algorithm isAlgorithm =>
      split at finishes
      · cases finishes
      · next name isName =>
          cases finishes
          exact ⟨holds.algorithm _ isAlgorithm, ⟨_, rfl, holds.bits⟩, holds.name _ isName, rfl⟩

theorem parseLdns_accepted {args : List Os}
    (parses : (KeygenLdns.command context).parseLdns args = .ok command) :
    Accepted context command := by
  have starts : Holds context.values {} := ⟨given_none _, by decide, given_none _⟩
  exact readAll_keeps (reader_keeps context) starts finish_accepted parses

/-- The text of an algorithm is not the one that lists them. -/
theorem reaches_algorithm (lawful : context.os.Lawful ofStr)
    {algorithm : Keyset.SecurityAlgorithm} (readable : Readable parseAlgorithm algorithm) :
    (reader context).Reaches {} { algorithm := some algorithm } := by
  rcases readable with ⟨text, reads⟩
  have differs : text ≠ "list" := by
    intro same
    rw [same] at reads
    cases reads
  have takes : readAlgorithm context {} (ofStr text) =
      .ok (.next { algorithm := some algorithm }) := by
    unfold readAlgorithm
    rw [lawful.toStr, if_neg fun same => differs (Option.some.inj same)]
    exact goOn_parsed lawful
      (fun algorithm => ({ algorithm := some algorithm } : Parsed)) reads
  have isNamed : 'a' ≠ '-' := by decide
  exact reaches_text isNamed rfl takes

theorem exists_line (lawful : context.os.Lawful ofStr) (lexes : LexesOptions context ofStr)
    {keygen : Keygen} (accepted : KeygenAccepted context.values keygen) :
    ∃ line, (KeygenLdns.command context).parseLdns line = .ok (.keygen keygen) := by
  rcases accepted with ⟨algorithm, ⟨bits, isBits, small⟩, ⟨text, name⟩, ldns⟩
  let reached : Parsed :=
    { algorithm := some keygen.algorithm
      makeKsk := keygen.makeKsk
      bits
      createSymlinks := keygen.symlink.create
      forceSymlinks := decide (keygen.symlink = .force)
      name := none }
  have reaches : (reader context).Reaches {} reached := by
    refine (reaches_algorithm lawful algorithm).trans ?_
    refine (reaches_when 'k' keygen.makeKsk
      (fun parsed noted => { parsed with makeKsk := noted }) (by decide) rfl rfl).trans ?_
    refine (reaches_taking lawful 'b' (readable_unsigned small)
      (fun parsed bits => { parsed with bits }) (by decide) rfl).trans ?_
    refine (reaches_when 's' keygen.symlink.create
      (fun parsed noted => { parsed with createSymlinks := noted }) (by decide) rfl rfl).trans ?_
    exact reaches_when 'f' (decide (keygen.symlink = .force))
      (fun (parsed : Parsed) noted => { parsed with forceSymlinks := noted }) (by decide) rfl rfl
  have stores : value context (ofStr text) reached =
      .ok (.next { reached with name := some keygen.name }) :=
    goOn_parsed lawful (fun name => ({ reached with name := some name } : Parsed)) name
  have passes : (reader context).PassesAll ([ofStr text].map .value) reached
      { reached with name := some keygen.name } := .cons (.value stores) .nil
  have finishes : finish { reached with name := some keygen.name } = .ok (.keygen keygen) := by
    rcases keygen with ⟨algorithm, _, makeKsk, symlink, name, invoked⟩
    cases isBits
    cases ldns
    cases symlink <;> rfl
  exact readAll_ofReaches lexes reaches passes finishes

end KeygenLdns

namespace Key2dsLdns

def IsChoice (algorithm : Option DigestAlgorithm) : Prop :=
  algorithm = none ∨ algorithm = some DigestAlgorithm.sha1 ∨
    algorithm = some DigestAlgorithm.sha256 ∨ algorithm = some DigestAlgorithm.sha384

theorem reader_keeps (context : Context Os) :
    (reader context).Keeps (fun parsed => IsChoice parsed.algorithm) (Accepted context) where
  short := by
    intro name parsed holds
    change (short name parsed).Keeps _ _
    unfold short
    split
    · exact keeps_set (Or.inr (Or.inl rfl))
    · exact keeps_set (Or.inr (Or.inr (Or.inl rfl)))
    · exact keeps_set (Or.inr (Or.inr (Or.inr rfl)))
    · exact keeps_set holds
    · exact keeps_set holds
    · exact keeps_refuse _
  value := by
    intro val parsed holds
    change Keeps _ _ (value context val parsed)
    unfold value
    split
    · exact keeps_error _
    · exact keeps_next holds

theorem finish_accepted (parsed : Parsed) (holds : IsChoice parsed.algorithm)
    (finishes : finish parsed = .ok command) : Accepted context command := by
  unfold finish at finishes
  split at finishes
  · cases finishes
  · cases finishes
    exact ⟨holds, rfl, rfl⟩

theorem parseLdns_accepted {args : List Os}
    (parses : (Key2dsLdns.command context).parseLdns args = .ok command) :
    Accepted context command :=
  readAll_keeps (reader_keeps context) (Or.inl rfl) finish_accepted parses

theorem reaches_algorithm {algorithm : Option DigestAlgorithm} (choice : IsChoice algorithm) :
    (reader context).Reaches {} { algorithm } := by
  have first : '1' ≠ '-' ∧ '2' ≠ '-' ∧ '4' ≠ '-' := by decide
  rcases choice with rfl | rfl | rfl | rfl
  · exact .refl _
  · exact reaches_flag first.1 rfl
  · exact reaches_flag first.2.1 rfl
  · exact reaches_flag first.2.2 rfl

theorem exists_line (lawful : context.os.Lawful ofStr) (lexes : LexesOptions context ofStr)
    {key2ds : Key2ds} (accepted : Key2dsAccepted key2ds) :
    ∃ line, (Key2dsLdns.command context).parseLdns line = .ok (.key2ds key2ds) := by
  rcases key2ds with ⟨ignoreSep, writeToStdout, _, algorithm, keyfile, _⟩
  rcases accepted with ⟨choice, rfl, rfl⟩
  let reached : Parsed := { ignoreSep, writeToStdout, algorithm, keyfile := none }
  have reaches : (reader context).Reaches {} reached := by
    refine (reaches_algorithm choice).trans ?_
    refine (reaches_when 'f' ignoreSep
      (fun parsed noted => { parsed with ignoreSep := noted }) (by decide) rfl rfl).trans ?_
    exact reaches_when 'n' writeToStdout
      (fun (parsed : Parsed) noted => { parsed with writeToStdout := noted }) (by decide) rfl rfl
  have stores : value context (ofStr keyfile) reached =
      .ok (.next { reached with keyfile := some keyfile }) := by
    unfold value
    rw [lawful.path]
    rfl
  have passes : (reader context).PassesAll ([ofStr keyfile].map .value) reached
      { reached with keyfile := some keyfile } := .cons (.value stores) .nil
  exact readAll_ofReaches lexes reaches passes rfl

end Key2dsLdns

namespace Nsec3HashLdns

structure Holds (values : Values) (parsed : Parsed) : Prop where
  algorithm : parsed.algorithm = 1 ∨ Readable (parseNsec3AlgAsNum values) parsed.algorithm
  salt : parsed.salt = [] ∨ Readable (parseSalt values) parsed.salt
  name : Given values.hashedName parsed.name

theorem reader_keeps (context : Context Os) :
    (reader context).Keeps (Holds context.values) (Accepted context) where
  short := by
    intro name parsed holds
    change (short context name parsed).Keeps _ _
    unfold short
    split
    · exact keeps_taking fun _ readable => { holds with algorithm := Or.inr readable }
    · exact keeps_taking fun _ readable => { holds with salt := Or.inr readable }
    · exact keeps_taking fun _ _ => { holds with }
    · exact keeps_refuse _
  value := by
    intro val parsed holds
    change Keeps _ _ (value context val parsed)
    unfold value
    split
    · exact keeps_next holds
    · exact keeps_parsed fun _ readable => { holds with name := given_some readable }

theorem finish_accepted (parsed : Parsed) (holds : Holds context.values parsed)
    (finishes : finish parsed = .ok command) : Accepted context command := by
  unfold finish at finishes
  split at finishes
  · cases finishes
  · next name isName =>
      cases finishes
      exact ⟨holds.algorithm, holds.salt, rfl, holds.name _ isName⟩

theorem parseLdns_accepted {args : List Os}
    (parses : (Nsec3HashLdns.command context).parseLdns args = .ok command) :
    Accepted context command := by
  have starts : Holds context.values {} := ⟨Or.inl rfl, Or.inl rfl, given_none _⟩
  exact readAll_keeps (reader_keeps context) starts finish_accepted parses

theorem exists_line (lawful : context.os.Lawful ofStr) (lexes : LexesOptions context ofStr)
    {nsec3Hash : Nsec3Hash} (accepted : Nsec3HashAccepted context.values nsec3Hash) :
    ∃ line, (Nsec3HashLdns.command context).parseLdns line = .ok (.nsec3Hash nsec3Hash) := by
  rcases nsec3Hash with ⟨algorithm, iterations, salt, _, name⟩
  rcases accepted with ⟨isAlgorithm, isSalt, rfl, ⟨text, isName⟩⟩
  let reached : Parsed := { algorithm, iterations, salt, name := none }
  have reaches : (reader context).Reaches {} reached := by
    refine (reaches_default lawful 'a' isAlgorithm
      (fun parsed algorithm => { parsed with algorithm }) (by decide) rfl rfl).trans ?_
    refine (reaches_default lawful 's' isSalt
      (fun parsed salt => { parsed with salt }) (by decide) rfl rfl).trans ?_
    have counted := @reaches_taking _ _ _ context (reader context) ofStr
      ({ algorithm, salt } : Parsed) lawful 't' "iterations (-t)" (unsigned u16) _
      (readable_unsigned iterations.toNat_lt)
      (fun parsed iterations => { parsed with iterations := UInt16.ofNat iterations })
      (by decide) rfl
    rw [UInt16.ofNat_toNat] at counted
    exact counted
  have stores : value context (ofStr text) reached =
      .ok (.next { reached with name := some name }) :=
    goOn_parsed lawful (fun name => ({ reached with name := some name } : Parsed)) isName
  have passes : (reader context).PassesAll ([ofStr text].map .value) reached
      { reached with name := some name } := .cons (.value stores) .nil
  exact readAll_ofReaches lexes reaches passes rfl

end Nsec3HashLdns

namespace NotifyLdns

structure Holds (values : Values) (parsed : Parsed) : Prop where
  zone : Given values.name parsed.zone
  sourceAddress : Given values.socketAddr parsed.sourceAddress
  soaVersion : Given (unsigned u32) parsed.soaVersion
  tsig : Given (parseTsig values) parsed.tsig
  port : parsed.port < u16
  retries : parsed.retries < u8

theorem reader_keeps (context : Context Os) :
    (reader context).Keeps (Holds context.values) (Accepted context) where
  short := by
    intro name parsed holds
    change (short context name parsed).Keeps _ _
    unfold short
    split
    · exact keeps_taking fun _ readable => { holds with zone := given_some readable }
    · exact keeps_taking fun _ readable => { holds with sourceAddress := given_some readable }
    · exact keeps_taking fun _ readable => { holds with soaVersion := given_some readable }
    · exact keeps_taking fun _ readable => { holds with tsig := given_some readable }
    · exact keeps_taking fun _ readable => { holds with port := unsigned_lt readable }
    · exact keeps_set { holds with }
    · exact keeps_taking fun _ readable => { holds with retries := unsigned_lt readable }
    · exact keeps_answer ReportAccepted.help
    · exact keeps_answer ReportAccepted.notify
    · exact keeps_refuse _
  value := by
    intro val parsed holds
    exact keeps_parsed fun _ _ => { holds with }

theorem finish_accepted (parsed : Parsed) (holds : Holds context.values parsed)
    (finishes : finish parsed = .ok command) : Accepted context command := by
  unfold finish at finishes
  split at finishes
  · cases finishes
  · next zone isZone =>
      split at finishes
      · cases finishes
      · next servers =>
          cases finishes
          exact
            { zone := holds.zone _ isZone
              sourceAddress := holds.sourceAddress
              soaVersion := fun version same => unsigned_lt (holds.soaVersion version same)
              tsig := holds.tsig
              port := holds.port
              retries := holds.retries
              servers := fun same => servers (List.isEmpty_iff.mpr same) }

theorem parseLdns_accepted {args : List Os}
    (parses : (NotifyLdns.command context).parseLdns args = .ok command) :
    Accepted context command := by
  have starts : Holds context.values {} :=
    ⟨given_none _, given_none _, given_none _, given_none _, by decide, by decide⟩
  exact readAll_keeps (reader_keeps context) starts finish_accepted parses

theorem passes_servers (lawful : context.os.Lawful ofStr) (servers : List String)
    (parsed : Parsed) :
    (reader context).PassesAll ((servers.map ofStr).map .value) parsed
      { parsed with servers := parsed.servers ++ servers } := by
  induction servers generalizing parsed with
  | nil =>
      rw [List.append_nil]
      exact .nil
  | cons server servers induction =>
      have stores : value context (ofStr server) parsed =
          .ok (.next { parsed with servers := parsed.servers ++ [server] }) :=
        goOn_parsed lawful
          (fun server => ({ parsed with servers := parsed.servers ++ [server] } : Parsed)) rfl
      have rest := induction { parsed with servers := parsed.servers ++ [server] }
      rw [List.append_assoc] at rest
      exact .cons (.value stores) rest

theorem exists_line (lawful : context.os.Lawful ofStr) (lexes : LexesOptions context ofStr)
    {notify : Notification.Notify} (accepted : NotifyAccepted context.values notify) :
    ∃ line, (NotifyLdns.command context).parseLdns line = .ok (.notify notify) := by
  let reached : Parsed :=
    { zone := some notify.zone
      soaVersion := notify.soaVersion
      tsig := notify.tsig
      port := notify.port
      debug := notify.debug
      retries := notify.retries
      servers := []
      sourceAddress := notify.sourceAddress }
  have reaches : (reader context).Reaches {} reached := by
    refine (reaches_taking lawful 'z' accepted.zone
      (fun parsed zone => { parsed with zone := some zone }) (by decide) rfl).trans ?_
    refine (reaches_given lawful 'I' accepted.sourceAddress
      (fun parsed given => { parsed with sourceAddress := given }) (by decide) rfl rfl).trans ?_
    refine (reaches_given lawful 's'
      (fun version same => readable_unsigned (accepted.soaVersion version same))
      (fun parsed given => { parsed with soaVersion := given }) (by decide) rfl rfl).trans ?_
    refine (reaches_given lawful 'y' accepted.tsig
      (fun parsed given => { parsed with tsig := given }) (by decide) rfl rfl).trans ?_
    refine (reaches_taking lawful 'p' (readable_unsigned accepted.port)
      (fun parsed port => { parsed with port }) (by decide) rfl).trans ?_
    refine (reaches_when 'd' notify.debug
      (fun parsed noted => { parsed with debug := noted }) (by decide) rfl rfl).trans ?_
    exact reaches_taking lawful 'r' (readable_unsigned accepted.retries)
      (fun (parsed : Parsed) retries => { parsed with retries }) (by decide) rfl
  have passes := passes_servers lawful notify.servers reached
  have finishes : finish { reached with servers := reached.servers ++ notify.servers } =
      .ok (.notify notify) := by
    have some : notify.servers.isEmpty = false :=
      List.isEmpty_eq_false_iff.mpr accepted.servers
    unfold finish
    dsimp only [reached]
    rw [List.nil_append, if_neg (by simp [some])]
  exact readAll_ofReaches lexes reaches passes finishes

end NotifyLdns

namespace UpdateLdns

theorem readIp_accepted {val : Os} {ip : Option DynamicUpdate.Address}
    (reads : readIp context val = .ok ip) :
    ∀ address, ip = some address →
      ∃ text, text ≠ "none" ∧ context.values.ipAddr text = .ok address := by
  intro address isAddress
  unfold readIp at reads
  split at reads
  · cases reads
    cases isAddress
  · next notNone =>
      unfold parseOsWith at reads
      split at reads
      · cases reads
      · next text isText =>
          refine ⟨text, fun same => notNone (isText.trans (congrArg some same)), ?_⟩
          cases parses : context.values.ipAddr text with
          | error e =>
              rw [parses] at reads
              cases reads
          | ok found =>
              rw [parses] at reads
              cases reads
              cases isAddress
              rfl

theorem readZone_accepted {val : Option Os} {zone : Option DynamicUpdate.Name}
    (reads : readZone context val = .ok zone) : Given context.values.name zone := by
  cases val with
  | none =>
      cases reads
      exact given_none _
  | some val =>
      unfold readZone at reads
      dsimp only at reads
      cases parses : parseOsWith context.os "zone" val context.values.name with
      | error reason =>
          rw [parses] at reads
          cases reads
      | ok found =>
          rw [parses] at reads
          cases reads
          exact given_some (parseOsWith_readable parses)

theorem readTsig_accepted {val : Option (Os × Os × Os)} {tsig : Option TSigInfo}
    (reads : readTsig context val = .ok tsig) :
    ∀ info, tsig = some info → Readable context.values.tsigName info.name ∧
      Readable context.values.decodeBase64 info.key ∧
      Readable context.values.tsigAlgorithm info.algorithm := by
  intro info isInfo
  rcases val with _ | ⟨name, algorithm, key⟩
  · cases reads
    cases isInfo
  · unfold readTsig at reads
    rcases Effect.bind_eq_ok reads with ⟨foundName, named, reads⟩
    rcases Effect.bind_eq_ok reads with ⟨foundKey, keyed, reads⟩
    rcases Effect.bind_eq_ok reads with ⟨foundAlgorithm, known, reads⟩
    cases reads
    cases isInfo
    exact ⟨parseOsWith_readable named, parseOsWith_readable keyed, parseOsWith_readable known⟩

theorem parseLdns_accepted {args : List Os}
    (parses : (UpdateLdns.command context).parseLdns args = .ok command) :
    Accepted context command := by
  have parses := ok_of_mapError parses
  unfold parse at parses
  rcases Effect.bind_eq_ok parses with ⟨⟨domain, zone, ip, tsig⟩, _, parses⟩
  rcases Effect.bind_eq_ok parses with ⟨foundDomain, isDomain, parses⟩
  rcases Effect.bind_eq_ok parses with ⟨foundIp, isIp, parses⟩
  rcases Effect.bind_eq_ok parses with ⟨foundZone, isZone, parses⟩
  rcases Effect.bind_eq_ok parses with ⟨foundTsig, isTsig, parses⟩
  cases parses
  exact ⟨parseOsWith_readable isDomain, readIp_accepted isIp, readZone_accepted isZone,
    readTsig_accepted isTsig⟩

theorem exists_ip (lawful : context.os.Lawful ofStr) {ip : Option DynamicUpdate.Address}
    (accepted : ∀ address, ip = some address →
      ∃ text, text ≠ "none" ∧ context.values.ipAddr text = .ok address) :
    ∃ val, readIp context val = .ok ip := by
  unfold readIp
  cases ip with
  | none =>
      refine ⟨ofStr "none", ?_⟩
      rw [if_pos (lawful.toStr "none")]
  | some address =>
      rcases accepted address rfl with ⟨text, differs, reads⟩
      refine ⟨ofStr text, ?_⟩
      rw [if_neg, parseOsWith_ofStr lawful reads]
      · rfl
      · rw [lawful.toStr]
        exact fun same => differs (Option.some.inj same)

theorem exists_zone (lawful : context.os.Lawful ofStr) {zone : Option DynamicUpdate.Name}
    (accepted : Given context.values.name zone) : ∃ val, readZone context val = .ok zone := by
  cases zone with
  | none => exact ⟨none, rfl⟩
  | some zone =>
      rcases accepted zone rfl with ⟨text, reads⟩
      refine ⟨some (ofStr text), ?_⟩
      unfold readZone
      dsimp only
      rw [parseOsWith_ofStr lawful reads]
      rfl

theorem exists_tsig (lawful : context.os.Lawful ofStr) {tsig : Option TSigInfo}
    (accepted : ∀ info, tsig = some info → Readable context.values.tsigName info.name ∧
      Readable context.values.decodeBase64 info.key ∧
      Readable context.values.tsigAlgorithm info.algorithm) :
    ∃ val, readTsig context val = .ok tsig := by
  cases tsig with
  | none => exact ⟨none, rfl⟩
  | some info =>
      rcases accepted info rfl with ⟨⟨name, named⟩, ⟨key, keyed⟩, ⟨algorithm, known⟩⟩
      refine ⟨some (ofStr name, ofStr algorithm, ofStr key), ?_⟩
      unfold readTsig
      dsimp only
      rw [parseOsWith_ofStr lawful named, parseOsWith_ofStr lawful keyed,
        parseOsWith_ofStr lawful known]
      rfl

/-- Whatever is given has a number of arguments of its own. -/
theorem exists_split (domain ip : Os) (zone : Option Os) (tsig : Option (Os × Os × Os)) :
    ∃ args, split args = .ok (domain, zone, ip, tsig) := by
  rcases zone with _ | zone <;> rcases tsig with _ | ⟨name, algorithm, key⟩
  · exact ⟨[domain, ip], rfl⟩
  · exact ⟨[domain, ip, name, algorithm, key], rfl⟩
  · exact ⟨[domain, zone, ip], rfl⟩
  · exact ⟨[domain, zone, ip, name, algorithm, key], rfl⟩

theorem exists_line (lawful : context.os.Lawful ofStr) {update : LdnsUpdate}
    (accepted : UpdateAccepted context.values update) :
    ∃ line, (UpdateLdns.command context).parseLdns line = .ok (.ldnsUpdate update) := by
  rcases accepted with ⟨⟨text, isDomain⟩, isIp, isZone, isTsig⟩
  rcases exists_ip lawful isIp with ⟨ip, readsIp⟩
  rcases exists_zone lawful isZone with ⟨zone, readsZone⟩
  rcases exists_tsig lawful isTsig with ⟨tsig, readsTsig⟩
  rcases exists_split (ofStr text) ip zone tsig with ⟨line, splits⟩
  refine ⟨line, ?_⟩
  have parses : parse context line = .ok (.ldnsUpdate update) := by
    unfold parse
    rw [splits]
    change (parseOsWith context.os "domain name" (ofStr text) context.values.name).bind _ = _
    rw [parseOsWith_ofStr lawful isDomain]
    change (readIp context ip).bind _ = _
    rw [readsIp]
    change (readZone context zone).bind _ = _
    rw [readsZone]
    change (readTsig context tsig).bind _ = _
    rw [readsTsig]
    rfl
  exact congrArg (Except.mapError Fault.error) parses

end UpdateLdns

end Tools

end Dnst.Ldns
