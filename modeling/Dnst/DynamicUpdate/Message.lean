import Dnst.Keyset.Environment

/-! # The UPDATE message

What `update` reads from its arguments and the message that it builds from them.
The message is kept as the records of its sections; their wire format belongs to
the `domain` crate.
-/

namespace Dnst.DynamicUpdate

open Effect
open Keyset (Fault bail mapErr panic)

/-! ## Names, types and records -/

/-- Labels from the leaf to the root, one character for each octet. -/
abbrev Name := List String
abbrev Ttl := Nat
abbrev Serial := Nat

def Name.display (name : Name) : String := ".".intercalate name

inductive Class where
  | inClass
  | none
  | any
  | other (code : Nat)
  deriving DecidableEq, Repr

inductive Rtype where
  | soa
  | any
  | other (code : Nat)
  deriving DecidableEq, Repr

/-- Record data with its octets on the wire. -/
inductive ZoneRecordData where
  | soa (serial : Serial) (rest : List Nat)
  | other (rtype : Rtype) (octets : List Nat)
  | unknown (rtype : Rtype) (octets : List Nat)
  deriving DecidableEq, Repr

def ZoneRecordData.rtype : ZoneRecordData → Rtype
  | .soa _ _ => .soa
  | .other rtype _ => rtype
  | .unknown rtype _ => rtype

/-- A serial number takes four octets. -/
def ZoneRecordData.rdlen : ZoneRecordData → Nat
  | .soa _ rest => 4 + rest.length
  | .other _ octets => octets.length
  | .unknown _ octets => octets.length

structure Record where
  owner : Name
  class' : Class
  ttl : Ttl
  data : ZoneRecordData
  deriving DecidableEq, Repr

def Record.rtype (record : Record) : Rtype := record.data.rtype

/-- An entry of a zone file. -/
inductive Entry where
  | record (record : Record)
  | include (path : String)
  deriving DecidableEq, Repr

inductive UncertainName where
  | absolute (name : Name)
  | relative (labels : List String)
  deriving DecidableEq, Repr

/-! ## Messages -/

inductive Opcode where
  | query
  | update
  deriving DecidableEq, Repr

structure Question where
  qname : Name
  qtype : Rtype
  qclass : Class
  deriving DecidableEq, Repr

/-- The sections of an UPDATE message are those of a query under other names. -/
structure Message where
  opcode : Opcode
  qr : Bool
  zone : List Question
  prerequisite : List Record
  update : List Record
  deriving DecidableEq, Repr

/-- `MessageBuilder::new_vec`. -/
def Message.empty : Message := ⟨.query, false, [], [], []⟩

/-- What `update` uses of the `domain` crate. -/
structure Domain where
  rtypeFromStr : String → Except String Rtype
  showRtype : Rtype → String
  uncertainName : String → Except String UncertainName
  /-- What `next_entry` returns, call after call, until the text ends. -/
  zonefile : Option Class → Option Name → String → List (Except String Entry)
  /-- Why a record does not fit into the message. -/
  room : Message → Record → Option String

/-! ## Arguments -/

inductive UpdateAction where
  | add (rtype : Rtype) (rdata : List String)
  | delete (rtype : Rtype) (rdata : List String)
  | clear
  deriving DecidableEq, Repr

structure Update where
  domain : Name
  action : UpdateAction
  class' : Class
  ttl : Ttl
  rrsetExists : Option (List String)
  rrsetExistsExact : Option (List String)
  rrsetNonExistent : Option (List String)
  nameInUse : Option (List String)
  nameNotInUse : Option (List String)
  deriving DecidableEq, Repr

structure UpdatePrerequisites where
  rrsetExists : Option (List (Name × Rtype))
  rrsetExistsExact : Option (List Record)
  rrsetNonExistent : Option (List (Name × Rtype))
  nameInUse : Option (List Name)
  nameNotInUse : Option (List Name)
  deriving DecidableEq, Repr

/-- Steps that extend the message or fail. -/
abbrev Build (Value : Type) := Effect Message Fault Value

/-! ## Parsing the prerequisites -/

/-- Octets of the labels with their lengths. -/
def composeLen (labels : List String) : Nat := (labels.map fun label => label.length + 1).sum

def maxNameLen : Nat := 255

/-- `chain` followed by `to_name`; an absolute name stays as it is. -/
def UncertainName.chain (origin : Name) : UncertainName → Option Name
  | .absolute name => some name
  | .relative labels =>
      if maxNameLen < composeLen labels + (composeLen origin + 1) then none
      else some (labels ++ origin)

/-- `split_once(' ')`. -/
def splitOnce (arg : String) : Option (String × String) :=
  match arg.toList.span (· != ' ') with
  | (_, []) => none
  | (name, _ :: typ) => some (String.ofList name, String.ofList typ)

def resolveName (domain : Domain) (origin : Name) (name : String) : Build Name := do
  let uncertain ← mapErr (fun reason => s!"Invalid domain name '{name}': {reason}")
    (domain.uncertainName name)
  match uncertain.chain origin with
  | some name => return name
  | none =>
      bail s!"Combining {name}.{origin.display} is too long for a domain name"

/-- Parse one argument after the other; the first that is invalid decides. -/
def parseEach {Item : Type} (parse : String → Build Item) : List String → Build (List Item)
  | [] => return []
  | arg :: args => do
      let item ← parse arg
      let items ← parseEach parse args
      return item :: items

def nameType (domain : Domain) (origin : Name) (arg : String) : Build (Name × Rtype) := do
  match splitOnce arg with
  | some (name, typ) => do
      let rtype ← mapErr (fun reason => s!"Invalid resource record type '{typ}': {reason}")
        (domain.rtypeFromStr typ)
      let name ← resolveName domain origin name
      return (name, rtype)
  | none =>
      bail s!"Invalid prerequisite argument format. Expected format '<DOMAIN_NAME> <TYPE>', was '{arg}'."

def parsePrerequisiteNameType (domain : Domain) (origin : Name) (args : List String) :
    Build (List (Name × Rtype)) :=
  parseEach (nameType domain origin) args

def parsePrerequisiteName (domain : Domain) (origin : Name) (args : List String) :
    Build (List Name) :=
  parseEach (resolveName domain origin) args

/-- Only the first entry of the argument is read. -/
def exactRecord (domain : Domain) (origin : Name) (class' : Class) (arg : String) :
    Build Record := do
  match (domain.zonefile (some class') (some origin) (arg ++ "\n")).head? with
  | some (.ok (.record record)) => return { record with ttl := 0 }
  | _ => bail s!"Provided argument is not a valid resource record: {arg}"

def parsePrerequisiteRrsetExistsExact (domain : Domain) (origin : Name) (class' : Class)
    (args : List String) : Build (List Record) :=
  parseEach (exactRecord domain origin class') args

/-- `if let Some(ref v)` around a parser. -/
def parseGiven {Item : Type} (parse : List String → Build (List Item)) :
    Option (List String) → Build (Option (List Item))
  | none => return none
  | some args => do
      let items ← parse args
      return some items

def Update.parsePrerequisites (domain : Domain) (update : Update) (origin : Name) :
    Build UpdatePrerequisites := do
  let rrsetExists ←
    parseGiven (parsePrerequisiteNameType domain origin) update.rrsetExists
  let rrsetExistsExact ←
    parseGiven (parsePrerequisiteRrsetExistsExact domain origin update.class')
      update.rrsetExistsExact
  let rrsetNonExistent ←
    parseGiven (parsePrerequisiteNameType domain origin) update.rrsetNonExistent
  let nameInUse ← parseGiven (parsePrerequisiteName domain origin) update.nameInUse
  let nameNotInUse ← parseGiven (parsePrerequisiteName domain origin) update.nameNotInUse
  return { rrsetExists, rrsetExistsExact, rrsetNonExistent, nameInUse, nameNotInUse }

/-! ## Records of the prerequisite section -/

/-- `UnknownRecordData::from_octets` of no octets. -/
def emptyRdata (rtype : Rtype) : ZoneRecordData := .unknown rtype []

def createPrereqRrsetExists (domain : Name) (rtype : Rtype) : Record :=
  ⟨domain, .any, 0, emptyRdata rtype⟩

def createPrereqRrsetNonExistent (domain : Name) (rtype : Rtype) : Record :=
  ⟨domain, .none, 0, emptyRdata rtype⟩

def createPrereqNameInUse (domain : Name) : Record := ⟨domain, .any, 0, emptyRdata .any⟩

def createPrereqNameNotInUse (domain : Name) : Record := ⟨domain, .none, 0, emptyRdata .any⟩

def pushPrerequisite (domain : Domain) (record : Record) : Build Unit := do
  let message ← get
  match domain.room message record with
  | some reason => bail s!"Failed to add RR to UPDATE message: {reason}"
  | none => set { message with prerequisite := message.prerequisite ++ [record] }

def insertEach {Item : Type} (insert : Item → Build Unit) : List Item → Build Unit
  | [] => return ()
  | item :: items => do
      insert item
      insertEach insert items

def insertGiven {Item : Type} (insert : Item → Build Unit) : Option (List Item) → Build Unit
  | none => return ()
  | some items => insertEach insert items

def insertPrerequisites (domain : Domain) (prerequisites : UpdatePrerequisites) :
    Build Unit := do
  insertGiven (fun (name, rtype) => pushPrerequisite domain (createPrereqRrsetExists name rtype))
    prerequisites.rrsetExists
  insertGiven (fun record => pushPrerequisite domain record) prerequisites.rrsetExistsExact
  insertGiven
    (fun (name, rtype) => pushPrerequisite domain (createPrereqRrsetNonExistent name rtype))
    prerequisites.rrsetNonExistent
  insertGiven (fun name => pushPrerequisite domain (createPrereqNameInUse name))
    prerequisites.nameInUse
  insertGiven (fun name => pushPrerequisite domain (createPrereqNameNotInUse name))
    prerequisites.nameNotInUse

/-! ## Records of the update section -/

def createRrAddition (domain : Name) (class' : Class) (ttl : Ttl) (rdata : ZoneRecordData) :
    Record :=
  ⟨domain, class', ttl, rdata⟩

def createRrDeletion (domain : Name) (rdata : ZoneRecordData) : Record :=
  ⟨domain, .none, 0, rdata⟩

def createRrsetDeletion (domain : Name) (rtype : Rtype) : Record :=
  ⟨domain, .any, 0, emptyRdata rtype⟩

def createAllRrsetDeletion (domain : Name) : Record := ⟨domain, .any, 0, emptyRdata .any⟩

def rdataText (domain : Domain) (rtype : Rtype) (rdata : String) : String :=
  s!". 1 IN {domain.showRtype rtype} {rdata}\n"

/-- Only the first entry of the text is read. -/
def parseRdata (domain : Domain) (rtype : Rtype) (rdata : String) : Build ZoneRecordData :=
  match (domain.zonefile none none (rdataText domain rtype rdata)).head? with
  | some (.ok (.record record)) => return record.data
  | some (.error reason) =>
      bail s!"Failed to parse rdata for {domain.showRtype rtype} {rdata} -- Error: {reason}"
  | _ => panic "internal error: entered unreachable code: We always create a record"

def serialBits : Nat := 32

def soaSerialCutoff : Nat := 2 ^ (serialBits - 1)

/-- Compares two 32-bit serial numbers as defined in RFC 1982. -/
def compareSerial (a b : Serial) : Ordering :=
  if a = b then .eq
  else if (a < b ∧ b - a < soaSerialCutoff) ∨ (a > b ∧ a - b > soaSerialCutoff) then .lt
  else .gt

def verifySoaSerialIncrement (old new : Serial) : Bool := compareSerial new old == .gt

/-- An SOA record that is added has to move the serial number forward. -/
def checkSoaSerial (soa : Serial) : ZoneRecordData → Build Unit
  | .soa serial _ =>
      if verifySoaSerialIncrement soa serial then return ()
      else
        bail s!"SOA serial is only allowed to be incremented (and maximally by {soaSerialCutoff} at once), got old serial = {soa} and new serial = {serial}"
  | _ => return ()

def pushUpdate (domain : Domain) (what : String) (record : Record) : Build Unit := do
  let message ← get
  match domain.room message record with
  | some reason => bail s!"Failed to add {what} to UPDATE message: {reason}"
  | none => set { message with update := message.update ++ [record] }

def Update.insertAddUpdates (domain : Domain) (update : Update) (rtype : Rtype)
    (rdata : List String) (soa : Serial) : Build Unit := do
  if rdata.isEmpty then bail "Provide at least one RDATA item to add"
  else
    insertEach
      (fun text => do
        let rdata ← parseRdata domain rtype text
        checkSoaSerial soa rdata
        pushUpdate domain "RR" (createRrAddition update.domain update.class' update.ttl rdata))
      rdata

def Update.insertDeleteUpdates (domain : Domain) (update : Update) (rtype : Rtype)
    (rdata : List String) : Build Unit := do
  if rdata.isEmpty then
    pushUpdate domain "RRset deletion RR" (createRrsetDeletion update.domain rtype)
  else
    insertEach
      (fun text => do
        let rdata ← parseRdata domain rtype text
        pushUpdate domain "RR deletion RR" (createRrDeletion update.domain rdata))
      rdata

/-- Create the update message to send to the name servers. -/
def Update.createUpdateMessage (domain : Domain) (update : Update) (zone : Name)
    (prerequisites : UpdatePrerequisites) (soa : Serial) : Build Unit := do
  modify fun message =>
    { message with
      opcode := .update
      qr := false
      zone := message.zone ++ [⟨zone, .soa, .inClass⟩] }
  insertPrerequisites domain prerequisites
  match update.action with
  | .add rtype rdata => update.insertAddUpdates domain rtype rdata soa
  | .delete rtype rdata => update.insertDeleteUpdates domain rtype rdata
  | .clear =>
      pushUpdate domain "RRset deletion RR" (createAllRrsetDeletion update.domain)

/-- The message that `run` sends once it knows the apex and its SOA record. -/
def Update.message (domain : Domain) (update : Update) (apex : Name) (soa : Serial) :
    Except Fault Message :=
  let result := exec (do
    let prerequisites ← update.parsePrerequisites domain apex
    update.createUpdateMessage domain apex prerequisites soa) Message.empty
  match result with
  | (.ok _, message) => .ok message
  | (.error fault, _) => .error fault

end Dnst.DynamicUpdate
