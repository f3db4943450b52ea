import Dnst.Foundation.Effect
import Dnst.Ldns.Commands

/-! # What the ldns tools accept

For every tool the commands that some command line is read as: what its options can be set
to, and what they are bound to be together.
-/

namespace Dnst.Ldns

open DynamicUpdate (splitAt)
open Keyset (Fault)
open ShortOptions

/-! ## Arguments of commands -/

/-- Some text is read as the value. -/
def Readable {Value : Type} (read : String → Except String Value) (value : Value) : Prop :=
  ∃ text, read text = .ok value

/-- The given value, if there is one, is read from some text. -/
def Given {Value : Type} (read : String → Except String Value) (given : Option Value) : Prop :=
  ∀ value, given = some value → Readable read value

structure KeygenAccepted (values : Values) (keygen : Keygen) : Prop where
  algorithm : Readable KeygenLdns.parseAlgorithm keygen.algorithm
  bits : ∃ bits, keygen.bits = some bits ∧ bits < u32
  name : Readable values.name keygen.name
  ldns : keygen.invokedAsLdns = true

structure Key2dsAccepted (key2ds : Key2ds) : Prop where
  algorithm : key2ds.algorithm = none ∨ key2ds.algorithm = some DigestAlgorithm.sha1 ∨
    key2ds.algorithm = some DigestAlgorithm.sha256 ∨
    key2ds.algorithm = some DigestAlgorithm.sha384
  overwrites : key2ds.forceOverwrite = true
  ldns : key2ds.invokedAsLdns = true

structure Nsec3HashAccepted (values : Values) (nsec3Hash : Nsec3Hash) : Prop where
  algorithm : nsec3Hash.algorithm = 1 ∨
    Readable (parseNsec3AlgAsNum values) nsec3Hash.algorithm
  salt : nsec3Hash.salt = [] ∨ Readable (parseSalt values) nsec3Hash.salt
  noSearch : nsec3Hash.findPrefix = none
  name : Readable values.hashedName nsec3Hash.name

structure NotifyAccepted (values : Values) (notify : Notification.Notify) : Prop where
  zone : Readable values.name notify.zone
  sourceAddress : Given values.socketAddr notify.sourceAddress
  soaVersion : ∀ version, notify.soaVersion = some version → version < u32
  tsig : Given (parseTsig values) notify.tsig
  port : notify.port < u16
  retries : notify.retries < u8
  servers : notify.servers ≠ []

/-- The time without the option, or one that is not 0 as a number. -/
def TimeAccepted (values : Values) (default time : Signzone.Timestamp) : Prop :=
  time = default ∨
    ∃ text, unsigned usize text ≠ .ok 0 ∧ parseTimestamp values text = .ok time

structure SignZoneAccepted (context : Context Os) (options : Signzone.SignZone) : Prop where
  expiration : ∃ default,
    SignZoneLdns.addU32 context.checked context.now SignZoneLdns.fourWeeks = .ok default ∧
      TimeAccepted context.values default options.expiration
  inception : TimeAccepted context.values context.now options.inception
  origin : Given context.values.storedName options.origin
  zonemd : ∀ tuple ∈ options.zonemd, Readable parseZonemdTupleLdns tuple
  algorithm : options.algorithm = 1 ∨
    Readable (parseNsec3Alg context.values) options.algorithm
  iterations : options.iterations < u16
  salt : options.salt = [] ∨
    ∃ salt, Readable context.values.salt salt ∧ options.salt = salt.map UInt8.toNat
  /-- There is something to sign with, or nothing is signed. -/
  keys : options.keyPaths = [] → options.allowZonemdWithoutSigning = true
  /-- There are no extra comments on standard output. -/
  comments : options.outFile = some "-" → options.extraComments = false
  optOut : options.nsec3OptOut = false
  notHashOnly : options.hashOnly = false
  noHashList : options.preceedZoneWithHashList = false
  unhashed : options.orderNsec3RrsByUnhashedOwnerName = true
  signatures : options.orderRrsigsAfterTheRtypeTheyCover = true
  dates : options.useYyyymmddhhmmssRrsigFormat = true
  ldns : options.invokedAsLdns = true

structure UpdateAccepted (values : Values) (update : LdnsUpdate) : Prop where
  domain : Readable values.name update.domain
  ip : ∀ ip, update.ip = some ip → ∃ text, text ≠ "none" ∧ values.ipAddr text = .ok ip
  zone : Given values.name update.zone
  tsig : ∀ tsig, update.tsig = some tsig → Readable values.tsigName tsig.name ∧
    Readable values.decodeBase64 tsig.key ∧ Readable values.tsigAlgorithm tsig.algorithm

/-- What a tool reports in place of doing anything. -/
inductive ReportAccepted (context : Context Os) : Command → Prop
  | algorithms : ReportAccepted context (.report KeygenLdns.algsHelp)
  | help : ReportAccepted context (reportHelp NotifyLdns.help)
  | keygen : ReportAccepted context (reportVersion "keygen" "1.8.4")
  | notify : ReportAccepted context (reportVersion "notify" "1.8.4")
  /-- The default of the expiration time is computed first. -/
  | signzone {default} :
      SignZoneLdns.addU32 context.checked context.now SignZoneLdns.fourWeeks = .ok default →
      ReportAccepted context (reportVersion "signzone" "1.8.4")

def Accepted (context : Context Os) : Command → Prop
  | .keygen keygen => KeygenAccepted context.values keygen
  | .key2ds key2ds => Key2dsAccepted key2ds
  | .nsec3Hash nsec3Hash => Nsec3HashAccepted context.values nsec3Hash
  | .signZone options => SignZoneAccepted context options
  | .notify notify => NotifyAccepted context.values notify
  | .ldnsUpdate update => UpdateAccepted context.values update
  | .report text => ReportAccepted context (.report text)

/-- Strings of Unicode, and names of files in the working directory. -/
structure OsStrings.Lawful {Os : Type} (os : OsStrings Os) (ofStr : String → Os) : Prop where
  toStr : ∀ s, os.toStr (ofStr s) = some s
  path : ∀ s, os.path (ofStr s) = s
  fileName : ∀ name, '/' ∉ name.toList → name ∉ ["", ".", ".."] →
    os.fileName (ofStr name) = some (ofStr name)

/-! ## Steps that keep what is accepted -/

section Steps

variable {Os State Value : Type} {context : Context Os} {reader : Reader Os State Command}
variable {holds : State → Prop} {returns : Command → Prop}

theorem parseOsWith_readable {os : OsStrings Os} {opt : String} {val : Os}
    {read : String → Except String Value} {value : Value}
    (parsed : parseOsWith os opt val read = .ok value) : Readable read value := by
  unfold parseOsWith at parsed
  split at parsed
  · cases parsed
  · next s _ =>
      cases reads : read s with
      | error e =>
          rw [reads] at parsed
          cases parsed
      | ok found =>
          rw [reads] at parsed
          cases parsed
          exact ⟨s, reads⟩

theorem parseOsWith_ofStr {os : OsStrings Os} {ofStr : String → Os} (lawful : os.Lawful ofStr)
    {opt text : String} {read : String → Except String Value} {value : Value}
    (reads : read text = .ok value) : parseOsWith os opt (ofStr text) read = .ok value := by
  unfold parseOsWith
  rw [lawful.toStr]
  dsimp only
  rw [reads]
  rfl

theorem goOn_parsed {os : OsStrings Os} {ofStr : String → Os} (lawful : os.Lawful ofStr)
    {opt text : String} {read : String → Except String Value} {value : Value}
    (store : Value → State) (reads : read text = .ok value) :
    goOn (do return store (← parseOsWith os opt (ofStr text) read)) =
      .ok (.next (store value)) := by
  rw [parseOsWith_ofStr lawful reads]
  rfl

theorem unsigned_lt {bound value : Nat} (readable : Readable (unsigned bound) value) :
    value < bound := by
  rcases readable with ⟨text, reads⟩
  exact UnsignedText.parse_lt reads

theorem readable_unsigned {bound value : Nat} (small : value < bound) :
    Readable (unsigned bound) value := by
  refine ⟨String.ofList (UnsignedText.decimal value), ?_⟩
  unfold unsigned
  rw [String.toList_ofList]
  exact UnsignedText.parse_decimal small

theorem given_none (read : String → Except String Value) : Given read none := by
  intro value impossible
  cases impossible

theorem given_some {read : String → Except String Value} {value : Value}
    (readable : Readable read value) : Given read (some value) := by
  intro other same
  cases same
  exact readable

theorem keeps_goOn {read : Except String State} (kept : ∀ state, read = .ok state → holds state) :
    Keeps holds returns (goOn read) := by
  cases read with
  | error reason => exact keeps_error reason
  | ok state => exact keeps_next (kept state rfl)

theorem keeps_parsed {os : OsStrings Os} {opt : String} {val : Os}
    {read : String → Except String Value} {store : Value → State}
    (kept : ∀ value, Readable read value → holds (store value)) :
    Keeps holds returns (goOn (do return store (← parseOsWith os opt val read))) := by
  apply keeps_goOn
  intro state stored
  rcases Effect.bind_eq_ok stored with ⟨value, parsed, isState⟩
  cases isState
  exact kept value (parseOsWith_readable parsed)

theorem keeps_taking {os : OsStrings Os} {opt : String}
    {read : String → Except String Value} {store : Value → State}
    (kept : ∀ value, Readable read value → holds (store value)) :
    (taking fun val => do return store (← parseOsWith os opt val read)).Keeps holds returns :=
  fun _ => keeps_parsed kept

theorem keeps_set {state : State} (kept : holds state) :
    (set state : Handling Os State Command).Keeps holds returns :=
  keeps_next kept

theorem keeps_refuse (message : String) :
    (refuse message : Handling Os State Command).Keeps holds returns :=
  keeps_error message

theorem keeps_answer {command : Command} (kept : returns command) :
    (answer command : Handling Os State Command).Keeps holds returns :=
  keeps_stop kept

theorem ok_of_mapError {message : String → Fault} {read : Except String Value}
    {value : Value} (mapped : read.mapError message = .ok value) : read = .ok value := by
  cases read with
  | error reason => cases mapped
  | ok found =>
      cases mapped
      rfl

/-- What comes of a command line is what its items keep. -/
theorem readAll_keeps {finish : State → Except String Command} {lexed : Lexed Os} {start : State}
    {command : Command} (keeps : reader.Keeps holds returns) (starts : holds start)
    (finishes : ∀ state, holds state → finish state = .ok command → returns command)
    (read : (readAll reader finish lexed start).mapError Fault.error = .ok command) :
    returns command := by
  have kept := keeps.read lexed start starts
  have read := ok_of_mapError read
  unfold readAll at read
  cases outcome : reader.read lexed start with
  | error reason =>
      rw [outcome] at read
      cases read
  | ok step =>
      rw [outcome] at read
      cases step with
      | next state => exact finishes state (kept _ outcome) read
      | stop found =>
          cases read
          exact kept _ outcome

/-! ## Steps to what is accepted -/

variable {ofStr : String → Os} {state : State}

/-- An option that may be there or not. -/
theorem reaches_when (name : Char) (noted : Bool) (store : State → Bool → State)
    (isNamed : name ≠ '-') (unset : store state false = state)
    (handles : reader.short name state = set (store state true)) :
    reader.Reaches state (store state noted) := by
  cases noted with
  | false =>
      rw [unset]
      exact .refl state
  | true => exact reaches_flag isNamed handles

theorem reaches_taking (lawful : context.os.Lawful ofStr) (name : Char) {opt : String}
    {read : String → Except String Value} {value : Value} (readable : Readable read value)
    (store : State → Value → State) (isNamed : name ≠ '-')
    (handles : reader.short name state =
      taking fun val => do return store state (← parseOsWith context.os opt val read)) :
    reader.Reaches state (store state value) := by
  rcases readable with ⟨text, reads⟩
  exact reaches_text isNamed handles (goOn_parsed lawful (store state) reads)

/-- An option with a text that may be there or not. -/
theorem reaches_given (lawful : context.os.Lawful ofStr) (name : Char) {opt : String}
    {read : String → Except String Value} {given : Option Value} (readable : Given read given)
    (store : State → Option Value → State) (isNamed : name ≠ '-')
    (unset : store state none = state)
    (handles : reader.short name state =
      taking fun val => do return store state (some (← parseOsWith context.os opt val read))) :
    reader.Reaches state (store state given) := by
  cases given with
  | none =>
      rw [unset]
      exact .refl state
  | some value =>
      exact reaches_taking lawful name (readable value rfl)
        (fun state value => store state (some value)) isNamed handles

/-- An option with a default. -/
theorem reaches_default (lawful : context.os.Lawful ofStr) (name : Char) {opt : String}
    {read : String → Except String Value} {default value : Value}
    (accepted : value = default ∨ Readable read value) (store : State → Value → State)
    (isNamed : name ≠ '-') (unset : store state default = state)
    (handles : reader.short name state =
      taking fun val => do return store state (← parseOsWith context.os opt val read)) :
    reader.Reaches state (store state value) := by
  rcases accepted with isDefault | readable
  · rw [isDefault, unset]
    exact .refl state
  · exact reaches_taking lawful name readable store isNamed handles

/-- How lexers read a line, with a dash in front of options. -/
abbrev LexesOptions (context : Context Os) (ofStr : String → Os) : Prop :=
  Lexes context.lex (fun name => ofStr (String.ofList ['-', name])) (ofStr "--")

theorem readAll_ofReaches {finish : State → Except String Command} {start middle after : State}
    {command : Command} {texts : List Os} (lexes : LexesOptions context ofStr)
    (reaches : reader.Reaches start middle)
    (passes : reader.PassesAll (texts.map .value) middle after)
    (finishes : finish after = .ok command) :
    ∃ line, (readAll reader finish (context.lex line) start).mapError Fault.error =
      .ok command := by
  rcases exists_commandLine lexes reaches passes with ⟨line, read⟩
  refine ⟨line, ?_⟩
  unfold readAll
  rw [read]
  exact congrArg (Except.mapError Fault.error) finishes

end Steps

end Dnst.Ldns
