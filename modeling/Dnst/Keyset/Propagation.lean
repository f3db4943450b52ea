import Dnst.Foundation.Consumption
import Dnst.Foundation.SerialNumber
import Dnst.Keyset.WorkSpace

/-! # Propagation checks

The checks that ask name servers whether a new DNSKEY RRset, DS RRset or set of
signatures has reached them. All of them only read the state.
-/

namespace Dnst.Keyset

def Rtype.display : Rtype → String
  | .a => "A"
  | .aaaa => "AAAA"
  | .ns => "NS"
  | .soa => "SOA"
  | .ds => "DS"
  | .dnskey => "DNSKEY"
  | .cds => "CDS"
  | .cdnskey => "CDNSKEY"
  | .rrsig => "RRSIG"
  | .nsec => "NSEC"
  | .nsec3 => "NSEC3"
  | .other code => s!"TYPE{code}"

def Record.ttl : Record → Ttl
  | .dnskey ttl _ => ttl
  | .cdnskey ttl _ => ttl
  | .cds ttl _ _ => ttl
  | .ds ttl _ _ => ttl
  | .rrsig ttl _ => ttl
  | .ns ttl _ => ttl

/-- Records are equal when their data are, whatever their TTLs. -/
def Record.withoutTtl : Record → Record
  | .dnskey _ key => .dnskey 0 key
  | .cdnskey _ key => .cdnskey 0 key
  | .cds _ key digest => .cds 0 key digest
  | .ds _ key digest => .ds 0 key digest
  | .rrsig _ signature => .rrsig 0 signature
  | .ns _ host => .ns 0 host

/-! ## Addresses -/

/-- Return the addresses associated with a name. -/
def addressesForName (env : Environment) (name : Name) : Step (List IpAddr) := do
  let call ← nextCall
  let addresses ← mapErr
    (fun reason => s!"lookup of addresses for {name.display} failed: {reason}")
    (env.network.lookupHost call name)
  refuseIf addresses.isEmpty s!"no IP addresses found for {name.display}"
  return addresses

/-- Return the set of addresses of the nameservers of a zone. -/
def addressesForZone (env : Environment) (zone : Name) : Step (List IpAddr) := do
  let call ← nextCall
  let nameservers ← mapErr
    (fun reason => s!"lookup of {zone.display}/NS failed: {reason}")
    (env.network.queryNs call zone)
  refuseIf nameservers.isEmpty s!"{zone.display} has no NS records"
  let addresses ← Effect.collect
    (fun name => do
      let addresses ← addressesForName env name
      return some addresses)
    nameservers
  return addresses.flatten.eraseDups

/-- Return the name of the parent zone. -/
def parentZone (env : Environment) : Name → Step Name
  | [] => bail "unable to get parent of ."
  | _ :: parent => do
      let call ← nextCall
      mapErr (fun reason => s!"lookup of {Name.display parent}/SOA failed: {reason}")
        (env.network.querySoaOwner call parent)

def getPrimaryAddresses (env : Environment) (zone : Name) : Step (List IpAddr) := do
  let call ← nextCall
  let (mname, _) ← mapErr
    (fun reason => s!"lookup of {zone.display}/SOA failed: {reason}")
    (env.network.querySoa call zone)
  addressesForName env mname

/-- All records of the answer; a malformed one fails the whole lookup. -/
def wellFormed : List (Except String Answer) → Step (List Answer)
  | [] => return []
  | .error reason :: _ => bail reason
  | .ok answer :: answers => do
      let others ← wellFormed answers
      return answer :: others

def lookupNameRtypeAtAddress (env : Environment) (name : Name) (rtype : Rtype)
    (address : IpAddr) : Step (List Answer) := do
  let call ← nextCall
  let answers ← mapErr
    (fun reason =>
      s!"{name.display}/{rtype.display} request to {address} failed: {reason}")
    (env.network.queryAt call address name rtype)
  wellFormed answers

/-! ## Results of several addresses -/

/-- The first address that is not up to date decides; otherwise the maximum of
the TTLs is reported. -/
def combineReports (maxTtl : Option Ttl) :
    List (Except String AutoReportActionsResult) → Step AutoReportActionsResult
  | [] =>
      match maxTtl with
      | some ttl => return .report ttl
      | none => panic "cannot be None"
  | .error reason :: _ => bail reason
  | .ok (.wait waitUntil notice) :: _ => return .wait waitUntil notice
  | .ok (.report ttl) :: results =>
      combineReports (some (max (maxTtl.getD 0) ttl)) results

def checkEachAddress (addresses : List IpAddr)
    (check : IpAddr → Step AutoReportActionsResult) :
    Step (List (Except String AutoReportActionsResult)) :=
  Effect.collect
    (fun address => do
      let result ← capture (check address)
      return some result)
    addresses

/-! ## DNSKEY -/

def isDnskeyRecord (key : Dnskey) : Record → Bool
  | .dnskey _ other => other == key
  | _ => false

def isRrsigRecord (signature : Rrsig) : Record → Bool
  | .rrsig _ other => other == signature
  | _ => false

/-- Compare the records of an answer with those that are still expected. -/
def compareDnskeyAnswers (zone : Name) (address : IpAddr) (now : UnixTime) :
    List Answer → List Record → Ttl → AutoReportActionsResult
  | [], [], maxTtl => .report maxTtl
  | [], record :: _, _ =>
      .wait (now + fromSecs record.ttl)
        s!"Not all required DNSKEY records were found: one is missing on server {address}"
  | answer :: answers, target, maxTtl =>
      match answer.data with
      | .dnskey key =>
          if answer.owner ≠ zone then
            compareDnskeyAnswers zone address now answers target maxTtl
          else
            match target.find? (isDnskeyRecord key) with
            | some record =>
                compareDnskeyAnswers zone address now answers (target.erase record)
                  (max maxTtl answer.ttl)
            | none =>
                .wait (now + fromSecs answer.ttl)
                  s!"Check DNSKEY RRset: a DNSKEY record found on server {address} that is not part of the target RRset"
      | .rrsig signature =>
          if answer.owner ≠ zone || signature.typeCovered ≠ .dnskey then
            compareDnskeyAnswers zone address now answers target maxTtl
          else
            match target.find? (isRrsigRecord signature) with
            | some record =>
                compareDnskeyAnswers zone address now answers (target.erase record)
                  (max maxTtl answer.ttl)
            | none =>
                .wait (now + fromSecs answer.ttl)
                  s!"Check DNSKEY RRset: RRSIG record found on server {address} that is not part of the target RRset"
      | _ => compareDnskeyAnswers zone address now answers target maxTtl

def checkDnskeyForAddress (env : Environment) (zone : Name) (target : List Record)
    (now : UnixTime) (address : IpAddr) : Step AutoReportActionsResult := do
  let answers ← lookupNameRtypeAtAddress env zone .dnskey address
  return compareDnskeyAnswers zone address now answers target 0

/-- Check whether a new DNSKEY RRset has propagated. -/
def reportDnskeyPropagated (env : Environment) (kss : KeySetState)
    (now : UnixTime) : Step AutoReportActionsResult := do
  let target := Consumption.distinctBy Record.withoutTtl kss.dnskeyRrset
  let zone := kss.keyset.name
  let lookup ← capture (addressesForZone env zone)
  match lookup with
  | .error reason =>
      return .wait (now + defaultWait)
        s!"Getting nameserver addresses for {zone.display} failed: {reason}"
  | .ok addresses => do
      assert (!addresses.isEmpty) "assertion failed: !addresses.is_empty()"
      let results ← checkEachAddress addresses (checkDnskeyForAddress env zone target now)
      let combined ← capture (combineReports none results)
      match combined with
      | .error reason =>
          return .wait (now + defaultWait) s!"DNSKEY check failed: {reason}"
      | .ok result => return result

/-! ## DS -/

/-- The keys of the CDNSKEY records, with their TTLs. -/
def targetDnskeys (kss : KeySetState) : List (Ttl × Dnskey) :=
  Consumption.distinctBy Prod.snd (kss.cdsRrset.filterMap fun record =>
    match record with
    | .cdnskey ttl key => some (ttl, key)
    | _ => none)

def findDsTarget (env : Environment) (algorithm : SecurityAlgorithm)
    (digestType digest : Nat) : List (Ttl × Dnskey) → Step (Option (Ttl × Dnskey))
  | [] => return none
  | target :: targets => do
      let expected ← expect "should not fail" (env.digest target.2 digestType)
      if algorithm = target.2.algorithm ∧ digest = expected then
        return some target
      else
        findDsTarget env algorithm digestType digest targets

def compareDsAnswers (env : Environment) (zone : Name) (address : IpAddr)
    (now : UnixTime) :
    List Answer → List (Ttl × Dnskey) → Ttl → Step AutoReportActionsResult
  | [], [], maxTtl => return .report maxTtl
  | [], target :: _, _ =>
      return .wait (now + fromSecs target.1)
        s!"Check DS RRset: DS record that corresponds to a DNSKEY with key tag {target.2.keyTag} not present on server {address}"
  | answer :: answers, targets, maxTtl =>
      match answer.data with
      | .ds _ algorithm digestType digest =>
          if answer.owner ≠ zone then
            compareDsAnswers env zone address now answers targets maxTtl
          else do
            let found ← findDsTarget env algorithm digestType digest targets
            match found with
            | some target =>
                compareDsAnswers env zone address now answers (targets.erase target)
                  (max maxTtl answer.ttl)
            | none =>
                return .wait (now + fromSecs answer.ttl)
                  s!"Check DS RRset: unexpected DS record found on server {address}"
      | _ => compareDsAnswers env zone address now answers targets maxTtl

def checkDsForAddress (env : Environment) (zone : Name)
    (targets : List (Ttl × Dnskey)) (now : UnixTime) (address : IpAddr) :
    Step AutoReportActionsResult := do
  let answers ← lookupNameRtypeAtAddress env zone .ds address
  compareDsAnswers env zone address now answers targets 0

/-- Check whether the parent zone has a DS RRset that matches the CDNSKEY RRset
of the state. -/
def reportDsPropagated (env : Environment) (kss : KeySetState) (now : UnixTime) :
    Step AutoReportActionsResult := do
  let zone := kss.keyset.name
  let parent ← parentZone env zone
  let addresses ← addressesForZone env parent
  assert (!addresses.isEmpty) "assertion failed: !addresses.is_empty()"
  let results ← checkEachAddress addresses
    (checkDsForAddress env zone (targetDnskeys kss) now)
  combineReports none results

/-! ## SOA -/

def soaSerials (answers : List Answer) : List (Ttl × Serial) :=
  answers.filterMap fun answer =>
    match answer.data with
    | .soa serial => some (answer.ttl, serial)
    | _ => none

/-- Check whether a nameserver has the right SOA serial or a newer one. -/
def checkSoaForAddress (env : Environment) (zone : Name) (serial : Serial)
    (now : UnixTime) (address : IpAddr) : Step AutoReportActionsResult := do
  let answers ← lookupNameRtypeAtAddress env zone .soa address
  let records := soaSerials answers
  if records.isEmpty then
    return .wait (now + defaultWait)
      s!"no SOA record found for zone {zone.display} at server{address}"
  else
    match records.find? fun record => SerialNumber.lt record.2 serial with
    | some (ttl, current) =>
        return .wait (now + fromSecs ttl) s!"server {address} has serial {current}"
    -- Return a dummy TTL. The caller knows the real TTL to report.
    | none => return .report 0

/-- Fail unless every address reports. -/
def allReport : List (Except String AutoReportActionsResult) → Step Unit
  | [] => return ()
  | .error reason :: _ => bail reason
  | .ok (.wait _ notice) :: _ => bail notice
  | .ok (.report _) :: results => allReport results

/-- Check all addresses of all nameservers of the zone to see if they have at
least the SOA serial passed as parameter. -/
def checkSoa (env : Environment) (serial : Serial) (kss : KeySetState)
    (now : UnixTime) : Step Unit := do
  let zone := kss.keyset.name
  let addresses ← addressesForZone env zone
  let results ← checkEachAddress addresses (checkSoaForAddress env zone serial now)
  allReport results

/-- The first SOA record of an answer, unless a malformed record comes first. -/
def firstSoa : List (Except String Answer) → Except String (Option Serial)
  | [] => .ok none
  | .error reason :: _ => .error reason
  | .ok answer :: answers =>
      match answer.data with
      | .soa serial => .ok (some serial)
      | _ => firstSoa answers

def nextSerialAtAddresses (env : Environment) (zone : Name) (serial : Serial) :
    List IpAddr → Step Unit
  | [] => bail s!"lookup of {zone.display}/SOA failed for all addresses"
  | address :: addresses => do
      let call ← nextCall
      match env.network.queryAt call address zone .soa with
      | .error _ => nextSerialAtAddresses env zone serial addresses
      | .ok answers => do
          let found ← mapErr id (firstSoa answers)
          match found with
          | none =>
              bail s!"No SOA record in reply from server {address} to SOA query for zone {zone.display}"
          | some current =>
              refuseIf (SerialNumber.le current serial)
                s!"server {address} has serial {current}"

/-- Check if the zone has moved to the next serial. -/
def checkNextSerial (env : Environment) (serial : Serial) (kss : KeySetState) :
    Step Unit := do
  let addresses ← getPrimaryAddresses env kss.keyset.name
  nextSerialAtAddresses env kss.keyset.name serial addresses

/-! ## RRSIG -/

/-- Get the expected key tags: signatures are only checked for key tags. -/
def getExpectedZskKeyTags (kss : KeySetState) : List (SecurityAlgorithm × Nat) :=
  kss.keyset.keys.filterMap fun (_, key) =>
    match key.keytype with
    | .ksk _ => none
    | .include _ => none
    | .zsk state => if state.signer then some (key.algorithm, key.keyTag) else none
    | .csk _ zskState =>
        if zskState.signer then some (key.algorithm, key.keyTag) else none

/-- Equality of two lists read as sets. -/
def sameSet {Item : Type} [BEq Item] (left right : List Item) : Bool :=
  left.all right.contains && right.all left.contains

def rrsigTags (rtype : Rtype) (answers : List Answer) :
    List (SecurityAlgorithm × Nat) :=
  answers.filterMap fun answer =>
    match answer.data with
    | .rrsig signature =>
        if signature.typeCovered = rtype then
          some (signature.signer.algorithm, signature.signer.keyTag)
        else
          none
    | _ => none

def recordAtAddresses (env : Environment) (name : Name) (rtype : Rtype)
    (expected : List (SecurityAlgorithm × Nat)) : List IpAddr → Step Unit
  | [] => bail s!"lookup of {name.display}/{rtype.display} failed for all addresses"
  | address :: addresses => do
      let call ← nextCall
      match env.network.queryAt call address name rtype with
      | .error _ => recordAtAddresses env name rtype expected addresses
      | .ok answers => do
          let answers ← wellFormed answers
          let found := rrsigTags rtype answers
          refuseIf (!sameSet found expected)
            s!"found RRSIG records for {found}, expected  {expected}"

/-- Check if a name, Rtype pair has the right signatures. -/
def checkRecord (env : Environment) (name : Name) (rtype : Rtype)
    (kss : KeySetState) : Step Unit := do
  let addresses ← getPrimaryAddresses env kss.keyset.name
  recordAtAddresses env name rtype (getExpectedZskKeyTags kss) addresses

/-! ## Checking a transferred zone -/

inductive CheckRrsigsResult where
  | done
  | waitRecord (name : Name) (rtype : Rtype) (notice : String)
  | waitNextSerial (notice : String)
  deriving DecidableEq, Repr

abbrev Treemap := List (Name × List Rtype)

abbrev Sigmap := List ((Name × Rtype) × List (SecurityAlgorithm × Nat))

/-- Canonical order of names: compare from the root label down. -/
def Name.before (left right : Name) : Bool :=
  decide (left.reverse < right.reverse)

/-- Add a type at a name, keeping the names in canonical order. -/
def Treemap.add (name : Name) (rtype : Rtype) : Treemap → Treemap
  | [] => [(name, [rtype])]
  | (other, rtypes) :: entries =>
      if name = other then
        (other, if rtypes.contains rtype then rtypes else rtypes ++ [rtype]) :: entries
      else if name.before other then
        (name, [rtype]) :: (other, rtypes) :: entries
      else
        (other, rtypes) :: Treemap.add name rtype entries

def Sigmap.add (key : Name × Rtype) (tag : SecurityAlgorithm × Nat) : Sigmap → Sigmap
  | [] => [(key, [tag])]
  | (other, tags) :: entries =>
      if key = other then
        (other, if tags.contains tag then tags else tags ++ [tag]) :: entries
      else
        (other, tags) :: Sigmap.add key tag entries

/-- Whether the signatures of this type at this name are checked. -/
def isChecked (zone key : Name) (inDelegation : Bool) (rtype : Rtype) : Bool :=
  -- At a delegation the zone is authoritative for DS and NSEC records only.
  (!inDelegation || rtype == .ds || rtype == .nsec) &&
    -- These rtypes are signed with the KSKs.
    !((rtype == .dnskey || rtype == .cds || rtype == .cdnskey) && key == zone)

/-- The types at one name. The outer `Except` is an early return. -/
def checkRtypes (sigmap : Sigmap) (zone : Name)
    (expected : List (SecurityAlgorithm × Nat)) (key : Name) (inDelegation : Bool) :
    List Rtype → CheckRrsigsResult → Except CheckRrsigsResult CheckRrsigsResult
  | [], result => .ok result
  | rtype :: rtypes, result =>
      if isChecked zone key inDelegation rtype then
        let found := (sigmap.lookup (key, rtype)).getD []
        if sameSet found expected then
          checkRtypes sigmap zone expected key inDelegation rtypes result
        else
          let notice :=
            s!"RRSIG mismatch for {key.display}/{rtype.display}: found {found} expected {expected}"
          -- NSEC3 records cannot be queried directly: remember and keep checking.
          if rtype ≠ .nsec3 then
            .error (.waitRecord key rtype notice)
          else
            checkRtypes sigmap zone expected key inDelegation rtypes
              (.waitNextSerial notice)
      else
        checkRtypes sigmap zone expected key inDelegation rtypes result

def checkNames (sigmap : Sigmap) (zone : Name)
    (expected : List (SecurityAlgorithm × Nat)) :
    Treemap → Option Name → CheckRrsigsResult → CheckRrsigsResult
  | [], _, result => result
  | (key, rtypes) :: entries, delegation, result =>
      if delegation.any fun name => name.isSuffixOf key then
        -- Ignore anything below a delegation.
        checkNames sigmap zone expected entries delegation result
      else
        let delegation :=
          if rtypes.contains .ns && key != zone then some key else none
        match checkRtypes sigmap zone expected key delegation.isSome rtypes result with
        | .error early => early
        | .ok result => checkNames sigmap zone expected entries delegation result

/-- Check if all authoritative records have the right signatures. -/
def checkRrsigs (treemap : Treemap) (sigmap : Sigmap) (zone : Name)
    (expected : List (SecurityAlgorithm × Nat)) : CheckRrsigsResult :=
  checkNames sigmap zone expected treemap none .done

/-- What a transfer has collected so far. -/
structure Transfer where
  serial : Serial
  firstSoa : Bool
  treemap : Treemap
  sigmap : Sigmap
  maxTtl : Ttl
  deriving DecidableEq, Repr

/-- The verdict on a completely transferred zone; `ttl` is that of its SOA. -/
def zoneVerdict (env : Environment) (kss : KeySetState) (now : UnixTime)
    (transfer : Transfer) (ttl : Ttl) : Step AutoReportRrsigResult :=
  match checkRrsigs transfer.treemap transfer.sigmap kss.keyset.name
      (getExpectedZskKeyTags kss) with
  | .done => do
      let served ← capture (checkSoa env transfer.serial kss now)
      match served with
      | .error reason =>
          return .waitSoa (now + fromSecs ttl) transfer.serial ttl transfer.maxTtl reason
      | .ok _ => return .report transfer.maxTtl
  | .waitRecord name rtype notice =>
      return .waitRecord (now + fromSecs ttl) name rtype ttl notice
  | .waitNextSerial notice =>
      return .waitNextSerial (now + fromSecs ttl) transfer.serial ttl notice

/-- The records of one message. `some` is a verdict, `none` asks for more. -/
def transferAnswers (env : Environment) (kss : KeySetState) (now : UnixTime) :
    List (Except String Answer) → Transfer →
      Step (Option AutoReportRrsigResult × Transfer)
  | [], transfer => return (none, transfer)
  | .error reason :: _, _ => bail reason
  | .ok answer :: answers, transfer =>
      let keep := fun (transfer : Transfer) =>
        match answer.data with
        | .rrsig signature =>
            { transfer with
              sigmap := Sigmap.add (answer.owner, signature.typeCovered)
                (signature.signer.algorithm, signature.signer.keyTag) transfer.sigmap
              maxTtl := max transfer.maxTtl answer.ttl }
        | data =>
            { transfer with
              treemap := Treemap.add answer.owner data.rtype transfer.treemap }
      match transfer.firstSoa, answer.data with
      | false, .soa serial =>
          transferAnswers env kss now answers
            (keep { transfer with firstSoa := true, serial := serial })
      | false, data =>
          bail s!"Wrong start of AXFR for {kss.keyset.name.display}, expected SOA found {data.rtype.display}"
      | true, .soa _ => do
          let verdict ← zoneVerdict env kss now transfer answer.ttl
          return (some verdict, transfer)
      | true, _ => transferAnswers env kss now answers (keep transfer)

/-- The messages of one transfer. `none` moves on to the next server. -/
def transferReplies (env : Environment) (kss : KeySetState) (now : UnixTime) :
    List AxfrReply → Transfer → Step (Option AutoReportRrsigResult)
  | [], _ => bail s!"Unexpected end of AXFR for {kss.keyset.name.display}"
  | .failed _ :: _, _ => return none
  | .rcode _ :: _, _ => return none
  | .answer records :: replies, transfer => do
      let (verdict, transfer) ← transferAnswers env kss now records transfer
      match verdict with
      | some verdict => return some verdict
      | none => transferReplies env kss now replies transfer

def checkZoneAt (env : Environment) (kss : KeySetState) (now : UnixTime)
    (tsigStore : TsigKeyStore) (serial : Serial) :
    List NameserverConnectionDetails → Step AutoReportRrsigResult
  | [] => bail s!"AXFR for {kss.keyset.name.display} failed for all nameservers"
  | nameserver :: nameservers => do
      let call ← nextCall
      let reachable := (env.network.connect call nameserver).isOk
      -- A nameserver whose TSIG key is not in the store is passed over.
      let keyKnown := nameserver.tsigKeyName.all tsigStore.names.contains
      if reachable && keyKnown then do
        let verdict ← transferReplies env kss now (env.network.axfr call nameserver)
          ⟨serial, false, [], [], 0⟩
        match verdict with
        | some verdict => return verdict
        | none => checkZoneAt env kss now tsigStore serial nameservers
      else
        checkZoneAt env kss now tsigStore serial nameservers

/-- Check whether the zone has signatures from the right keys. -/
def checkZone (env : Environment) (kss : KeySetState) (now : UnixTime)
    (nameservers : List NameserverConnectionDetails) (tsigStore : TsigKeyStore) :
    Step AutoReportRrsigResult := do
  let zone := kss.keyset.name
  let call ← nextCall
  let (mname, serial) ← mapErr
    (fun reason => s!"lookup of {zone.display}/SOA failed: {reason}")
    (env.network.querySoa call zone)
  if nameservers.isEmpty then do
    let addresses ← addressesForName env mname
    checkZoneAt env kss now tsigStore serial
      (addresses.map fun address => ⟨address, 53, none⟩)
  else
    checkZoneAt env kss now tsigStore serial nameservers

/-- Report whether all RRSIGs (except for the ones that are copied from the
keyset state) have been updated. -/
def reportRrsigPropagated (env : Environment) (kss : KeySetState) (now : UnixTime)
    (nameservers : List NameserverConnectionDetails) (tsigStore : TsigKeyStore) :
    Step AutoReportRrsigResult := do
  let result ← checkZone env kss now nameservers tsigStore
  match result with
  -- check_zone never returns Report or Wait.
  | .report _ => panic "internal error: entered unreachable code"
  | .wait _ _ => panic "internal error: entered unreachable code"
  | .waitRecord _ _ _ _ _ => return result
  | .waitNextSerial _ _ _ _ => return result
  | .waitSoa _ serial ttl reportTtl _ => do
      let served ← capture (checkSoa env serial kss now)
      match served with
      | .error reason =>
          return .waitSoa (now + fromSecs ttl) serial ttl reportTtl reason
      | .ok _ => return .report reportTtl

end Dnst.Keyset
