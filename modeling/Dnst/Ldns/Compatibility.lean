import Dnst.Ldns.SignZone
import Dnst.Ldns.Tools

/-! # The ldns tools by the name of the program

Started under the name of a tool, the program makes exactly the accepted commands of its
command lines.
-/

namespace Dnst.Ldns

open DynamicUpdate (splitAt)
open Keyset (Fault)
open ShortOptions

section Tools

variable {Os : Type} {context : Context Os} {ofStr : String → Os} {command : Command}

theorem readAll_ofStop {State : Type} {reader : Reader Os State Command}
    {finish : State → Except String Command} {lexed : Lexed Os} {start : State}
    (stops : reader.read lexed start = .ok (.stop command)) :
    readAll reader finish lexed start = .ok command := by
  unfold readAll
  rw [stops]

/-- A single option is answered. -/
theorem exists_answer {State : Type} {reader : Reader Os State Command}
    {finish : State → Except String Command} {start : State} (name : Char)
    (lexes : LexesOptions context ofStr) (isNamed : name ≠ '-')
    (handles : reader.short name start = answer command) :
    ∃ line, (readAll reader finish (context.lex line) start).mapError Fault.error =
      .ok command := by
  rcases lexes.option name [] isNamed with ⟨missing, reads⟩
  have stops : reader.read (context.lex [ofStr (String.ofList ['-', name])]) start =
      .ok (.stop command) := by
    rw [reads]
    exact Reader.read_flag handles
  exact ⟨_, congrArg (Except.mapError Fault.error) (readAll_ofStop stops)⟩

theorem exists_algsHelp (lawful : context.os.Lawful ofStr)
    (lexes : LexesOptions context ofStr) :
    ∃ line, (KeygenLdns.command context).parseLdns line =
      .ok (.report KeygenLdns.algsHelp) := by
  have isNamed : 'a' ≠ '-' := by decide
  rcases lexes.option 'a' [ofStr "list"] isNamed with ⟨missing, reads⟩
  have takes : KeygenLdns.readAlgorithm context {} (ofStr "list") =
      .ok (.stop (.report KeygenLdns.algsHelp)) := by
    unfold KeygenLdns.readAlgorithm
    rw [if_pos (lawful.toStr "list")]
  have handles : (KeygenLdns.reader context).short 'a' {} =
      .text (KeygenLdns.readAlgorithm context {}) := rfl
  have stops : (KeygenLdns.reader context).read
      (context.lex [ofStr (String.ofList ['-', 'a']), ofStr "list"]) {} =
        .ok (.stop (.report KeygenLdns.algsHelp)) := by
    rw [reads]
    refine (Reader.read_text handles).trans ?_
    rw [takes]
    rfl
  exact ⟨_, congrArg (Except.mapError Fault.error) (readAll_ofStop stops)⟩

/-- Every accepted command comes of a line of one of the tools. -/
theorem exists_tool (lawful : context.os.Lawful ofStr) (lexes : LexesOptions context ofStr)
    (accepted : Accepted context command) :
    ∃ tool ∈ tools context, ∃ line, tool.parseLdns line = .ok command := by
  cases command with
  | keygen keygen =>
      exact ⟨_, by simp [tools], KeygenLdns.exists_line lawful lexes accepted⟩
  | key2ds key2ds =>
      exact ⟨_, by simp [tools], Key2dsLdns.exists_line lawful lexes accepted⟩
  | nsec3Hash nsec3Hash =>
      exact ⟨_, by simp [tools], Nsec3HashLdns.exists_line lawful lexes accepted⟩
  | signZone options =>
      exact ⟨_, by simp [tools], SignZoneLdns.exists_line lawful lexes accepted⟩
  | notify notify =>
      exact ⟨_, by simp [tools], NotifyLdns.exists_line lawful lexes accepted⟩
  | ldnsUpdate update => exact ⟨_, by simp [tools], UpdateLdns.exists_line lawful accepted⟩
  | report text =>
      have accepted : ReportAccepted context (.report text) := accepted
      generalize Command.report text = command at accepted
      have isV : 'v' ≠ '-' := by decide
      have isH : 'h' ≠ '-' := by decide
      cases accepted with
      | algorithms => exact ⟨_, by simp [tools], exists_algsHelp lawful lexes⟩
      | help =>
          exact ⟨NotifyLdns.command context, by simp [tools], exists_answer 'h' lexes isH rfl⟩
      | keygen =>
          exact ⟨KeygenLdns.command context, by simp [tools], exists_answer 'v' lexes isV rfl⟩
      | notify =>
          exact ⟨NotifyLdns.command context, by simp [tools], exists_answer 'v' lexes isV rfl⟩
      | @signzone default adds =>
          have handles : (SignZoneLdns.reader context).short 'v'
              (SignZoneLdns.start context default) =
                answer (reportVersion "signzone" "1.8.4") := rfl
          rcases @exists_answer _ _ _ _ _ _ SignZoneLdns.finish _ 'v' lexes isV handles with
            ⟨line, reads⟩
          exact ⟨SignZoneLdns.command context, by simp [tools], line,
            (SignZoneLdns.parseLdns_eq line adds).trans reads⟩

theorem parseLdns_accepted {tool : LdnsCommand Os} (isTool : tool ∈ tools context)
    {line : List Os} (parses : tool.parseLdns line = .ok command) : Accepted context command := by
  simp only [tools, List.mem_cons, List.not_mem_nil, or_false] at isTool
  rcases isTool with rfl | rfl | rfl | rfl | rfl | rfl
  · exact Key2dsLdns.parseLdns_accepted parses
  · exact NotifyLdns.parseLdns_accepted parses
  · exact KeygenLdns.parseLdns_accepted parses
  · exact Nsec3HashLdns.parseLdns_accepted parses
  · exact SignZoneLdns.parseLdns_accepted parses
  · exact UpdateLdns.parseLdns_accepted parses

/-- A file name without an extension, from which the name of the tool can be told. -/
def NamesTool (filename name : String) : Prop :=
  '/' ∉ filename.toList ∧ filename ∉ ["", ".", ".."] ∧ splitAt '.' filename.toList = none ∧
    stripPrefix "ldns-" filename = some name

instance (filename name : String) : Decidable (NamesTool filename name) :=
  inferInstanceAs (Decidable (_ ∧ _))

theorem extractBinaryName_eq (lawful : context.os.Lawful ofStr) {filename name : String}
    (names : NamesTool filename name) :
    extractBinaryName context.os (ofStr filename) = .ok filename := by
  rcases names with ⟨noSlash, plain, noExtension, _⟩
  unfold extractBinaryName
  rw [lawful.fileName filename noSlash plain]
  dsimp only
  rw [lawful.toStr]
  dsimp only
  rw [noExtension]

theorem parseLdnsArgs_eq_ok {tool : LdnsCommand Os} {line : List Os} :
    tool.parseLdnsArgs line = .ok command ↔ tool.parseLdns line = .ok command := by
  unfold LdnsCommand.parseLdnsArgs
  cases tool.parseLdns line with
  | error fault =>
      constructor
      · intro impossible
        cases impossible
      · intro impossible
        cases impossible
  | ok found => exact Iff.rfl

theorem tryLdnsCompatibility_named (lawful : context.os.Lawful ofStr) {filename name : String}
    {tool : LdnsCommand Os} (names : NamesTool filename name)
    (found : (tools context).find? (·.name = name) = some tool) {line : List Os}
    (parses : tool.parseLdns line = .ok command) :
    tryLdnsCompatibility context (ofStr filename :: line) = .ok (some (.ofCommand command)) := by
  have parsesAs : parseAs context filename line = .ok (some (.ofCommand command)) := by
    unfold parseAs
    rw [names.2.2.2]
    dsimp only
    rw [found]
    dsimp only
    rw [parseLdnsArgs_eq_ok.mpr parses]
    rfl
  unfold tryLdnsCompatibility
  dsimp only
  rw [extractBinaryName_eq lawful names]
  exact parsesAs

theorem tryLdnsCompatibility_tool (lawful : context.os.Lawful ofStr) {tool : LdnsCommand Os}
    (isTool : tool ∈ tools context) {line : List Os}
    (parses : tool.parseLdns line = .ok command) :
    ∃ whole, tryLdnsCompatibility context whole = .ok (some (.ofCommand command)) := by
  simp only [tools, List.mem_cons, List.not_mem_nil, or_false] at isTool
  rcases isTool with rfl | rfl | rfl | rfl | rfl | rfl
  · have names : NamesTool "ldns-key2ds" "key2ds" := by decide +kernel
    exact ⟨_, tryLdnsCompatibility_named lawful names rfl parses⟩
  · have names : NamesTool "ldns-notify" "notify" := by decide +kernel
    exact ⟨_, tryLdnsCompatibility_named lawful names rfl parses⟩
  · have names : NamesTool "ldns-keygen" "keygen" := by decide +kernel
    exact ⟨_, tryLdnsCompatibility_named lawful names rfl parses⟩
  · have names : NamesTool "ldns-nsec3-hash" "nsec3-hash" := by decide +kernel
    exact ⟨_, tryLdnsCompatibility_named lawful names rfl parses⟩
  · have names : NamesTool "ldns-signzone" "signzone" := by decide +kernel
    exact ⟨_, tryLdnsCompatibility_named lawful names rfl parses⟩
  · have names : NamesTool "ldns-update" "update" := by decide +kernel
    exact ⟨_, tryLdnsCompatibility_named lawful names rfl parses⟩

theorem parseAs_accepted {binaryName : String} {line : List Os} {args : Args}
    (returns : parseAs context binaryName line = .ok (some args)) :
    args.verbosity = .warn ∧ Accepted context args.command := by
  unfold parseAs at returns
  split at returns
  · cases returns
  · split at returns
    · cases returns
    · next tool found =>
        cases parses : tool.parseLdnsArgs line with
        | error fault =>
            rw [parses] at returns
            cases returns
        | ok command =>
            rw [parses] at returns
            cases returns
            exact ⟨rfl, parseLdns_accepted (List.mem_of_find?_eq_some found)
              (parseLdnsArgs_eq_ok.mp parses)⟩

theorem tryLdnsCompatibility_accepted {whole : List Os} {args : Args}
    (returns : tryLdnsCompatibility context whole = .ok (some args)) :
    args.verbosity = .warn ∧ Accepted context args.command := by
  cases whole with
  | nil => cases returns
  | cons binaryPath line =>
      rcases Effect.bind_eq_ok returns with ⟨binaryName, _, returns⟩
      exact parseAs_accepted returns

end Tools

/-- Exactly the accepted commands come of a command line. -/
theorem tryLdnsCompatibility_accepts_iff {Os : Type} {context : Context Os}
    {ofStr : String → Os} (lawful : context.os.Lawful ofStr)
    (lexes : LexesOptions context ofStr) (args : Args) :
    (∃ whole, tryLdnsCompatibility context whole = .ok (some args)) ↔
      args.verbosity = .warn ∧ Accepted context args.command := by
  constructor
  · rintro ⟨whole, returns⟩
    exact tryLdnsCompatibility_accepted returns
  · rintro ⟨verbosity, accepted⟩
    rcases exists_tool lawful lexes accepted with ⟨tool, isTool, line, parses⟩
    rcases tryLdnsCompatibility_tool lawful isTool parses with ⟨whole, returns⟩
    refine ⟨whole, ?_⟩
    rw [returns, Args.ofCommand, ← verbosity]

namespace Reference

/-- Texts, and what is not Unicode. -/
abbrev OsText := String ⊕ List UInt8

def fileName (path : String) : Option OsText :=
  let name := (path.toList.reverse.takeWhile (· ≠ '/')).reverse
  if String.ofList name ∈ ["", ".", ".."] then none else some (.inl (String.ofList name))

def osStrings : OsStrings OsText where
  toStr
    | .inl text => some text
    | .inr _ => none
  debug
    | .inl text => s!"\"{text}\""
    | .inr _ => "\"\\xff\""
  path
    | .inl text => text
    | .inr bytes => String.ofList (bytes.map fun byte => Char.ofNat byte.toNat)
  fileName
    | .inl path => fileName path
    | .inr bytes => some (.inr bytes)

theorem osStrings_lawful : osStrings.Lawful Sum.inl where
  toStr _ := rfl
  path _ := rfl
  fileName := by
    intro name noSlash plain
    have all : (name.toList.reverse.takeWhile (· ≠ '/')) = name.toList.reverse := by
      rw [List.takeWhile_eq_self_iff]
      intro char member
      rw [List.mem_reverse] at member
      exact decide_eq_true fun same => noSlash (same ▸ member)
    change fileName name = _
    unfold fileName
    dsimp only
    rw [all, List.reverse_reverse, String.ofList_toList, if_neg plain]

/-- Options that stand together behind one dash. -/
def shorts (rest : Lexed OsText) (next : Except String OsText) (behind : Lexed OsText) :
    List Char → Lexed OsText
  | [] => rest
  | [name] => .short name rest next behind
  | name :: '=' :: text =>
      .short name (.failed s!"unexpected argument for option '-{name}'")
        (.ok (.inl (String.ofList text))) rest
  | name :: text =>
      .short name (shorts rest next behind text) (.ok (.inl (String.ofList text))) rest

/-- An argument by its characters, and what comes behind it. -/
def lexArgument (arg : OsText) (args : List OsText) (rest behind : Lexed OsText) :
    List Char → Lexed OsText
  | ['-', '-'] => values args
  | '-' :: '-' :: name => .long (String.ofList (name.takeWhile (· ≠ '=')))
  | '-' :: name :: names =>
      shorts rest (args.head?.elim (.error "missing argument") .ok) behind (name :: names)
  | _ => .value arg rest

def lex : List OsText → Lexed OsText
  | [] => .finished
  | [arg] => lexArgument arg [] .finished .finished (arg.elim String.toList fun _ => [])
  | arg :: next :: args =>
      lexArgument arg (next :: args) (lex (next :: args)) (lex args)
        (arg.elim String.toList fun _ => [])

theorem lex_cons (arg : OsText) (args : List OsText) :
    lex (arg :: args) = lexArgument arg args (lex args) (lex args.tail)
      (arg.elim String.toList fun _ => []) := by
  cases args with
  | nil => simp only [lex, List.tail_nil]
  | cons next args => simp only [lex, List.tail_cons]

def context : Context OsText where
  os := osStrings
  values :=
    { name := fun text => .ok [text]
      storedName := fun text => .ok [text.toList.map Char.toNat]
      hashedName := fun _ => .error "unexpected end of input"
      salt := fun _ => .error "illegal NSEC3 salt"
      timestamp := unsigned u32
      nsec3AlgFromMnemonic := fun text => if text = "SHA-1" then some 1 else none
      nsec3AlgToMnemonic := fun number => if number = 1 then some "SHA-1" else none
      socketAddr := fun _ => .error "invalid socket address syntax"
      ipAddr := fun _ => .error "invalid IP address syntax"
      tsigAlgorithm := fun text => .ok text
      tsigName := fun text => .ok [text]
      decodeBase64 := fun _ => .error "incomplete data" }
  lex := lex
  now := 1700000000
  checked := true

theorem lexes : LexesOptions context Sum.inl where
  terminator := by
    intro texts
    have dashes : "--".toList = ['-', '-'] := rfl
    change lex (.inl "--" :: texts) = values texts
    rw [lex_cons, Sum.elim_inl, dashes]
    rfl
  option := by
    intro name texts isNamed
    change ∃ missing, lex (.inl (String.ofList ['-', name]) :: texts) = .short name (lex texts)
      (texts.head?.elim (.error missing) .ok) (lex texts.tail)
    refine ⟨"missing argument", ?_⟩
    rw [lex_cons, Sum.elim_inl, String.toList_ofList]
    unfold lexArgument
    split
    · next same =>
        cases same
        exact absurd rfl isNamed
    · next same =>
        cases same
        exact absurd rfl isNamed
    · next same =>
        cases same
        rfl
    · next other => exact absurd rfl (other name [])

/-- A zone signed with one key and a ZONEMD record, commented in a file. -/
def options : Signzone.SignZone where
  extraComments := true
  doNotAddKeysToZone := false
  expiration := 1700000000 + 2419200
  outFile := some "signed.zone"
  inception := 1690000000
  origin := none
  setSoaSerialToEpochTime := true
  useNsec3 := true
  signDnskeysWithAllKeys := false
  signWithEveryUniqueAlgorithm := false
  zonemd := [⟨1, 2⟩]
  allowZonemdWithoutSigning := false
  algorithm := 1
  iterations := 15
  salt := []
  nsec3OptOutFlagsOnly := false
  nsec3OptOut := false
  hashOnly := false
  preceedZoneWithHashList := false
  orderNsec3RrsByUnhashedOwnerName := true
  orderRrsigsAfterTheRtypeTheyCover := true
  useYyyymmddhhmmssRrsigFormat := true
  zonefilePath := "zone"
  keyPaths := ["Kexample.org.+008+51331"]
  invokedAsLdns := true

theorem options_accepted : SignZoneAccepted context options where
  expiration := ⟨1700000000 + 2419200, if_pos (by decide +kernel), Or.inl rfl⟩
  inception := Or.inr ⟨"1690000000", by decide +kernel, by decide +kernel⟩
  origin := given_none _
  zonemd := by
    intro tuple member
    rw [List.mem_singleton.mp member]
    exact ⟨"sha512", by decide +kernel⟩
  algorithm := Or.inl rfl
  iterations := by decide
  salt := Or.inl rfl
  keys := by
    intro none
    cases none
  comments := by
    intro toStdout
    exact absurd (Option.some.inj toStdout) (by decide)
  optOut := rfl
  notHashOnly := rfl
  noHashList := rfl
  unhashed := rfl
  signatures := rfl
  dates := rfl
  ldns := rfl

end Reference

theorem tryLdnsCompatibility_accepts_signzone :
    ∃ whole, tryLdnsCompatibility Reference.context whole =
      .ok (some ⟨.signZone Reference.options, .warn⟩) :=
  (tryLdnsCompatibility_accepts_iff Reference.osStrings_lawful Reference.lexes _).mpr
    ⟨rfl, Reference.options_accepted⟩

end Dnst.Ldns
