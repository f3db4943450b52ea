import Dnst.Foundation.Triple
import Dnst.Keyset.Command

/-! # Faults of the steps

What can stop the steps of an invocation that do not change the workspace. Their
panics are those of reading keys and of the propagation checks; none of them has
the message of a missing bookkeeping entry.
-/

namespace Dnst.Keyset

open Effect

/-- The lookup of a bookkeeping entry has failed. -/
def MissesEntry (fault : Fault) : Prop :=
  fault = .panic noEntry ∨ fault = .panic noEntryShown

/-- Any other fault. -/
def Ordinary (fault : Fault) : Prop := ¬MissesEntry fault

/-! ## Messages -/

theorem append_ne {start rest text : String}
    (differ : start.toList ≠ text.toList.take start.toList.length) : start ++ rest ≠ text := by
  rintro rfl
  rw [String.toList_append, List.take_left] at differ
  exact differ rfl

theorem ordinary_error (message : String) : Ordinary (.error message) := by
  rintro (impossible | impossible) <;> cases impossible

theorem ordinary_panic {message : String} (entry : message ≠ noEntry)
    (shown : message ≠ noEntryShown) : Ordinary (.panic message) := by
  rintro (same | same)
  · cases same
    exact entry rfl
  · cases same
    exact shown rfl

/-- A panic that starts like neither of the two. -/
theorem ordinary_append {start : String} (rest : String)
    (entry : start.toList ≠ noEntry.toList.take start.toList.length)
    (shown : start.toList ≠ noEntryShown.toList.take start.toList.length) :
    Ordinary (.panic (start ++ rest)) :=
  ordinary_panic (append_ne entry) (append_ne shown)

/-- The error that `expect` adds tells its panic apart. -/
theorem ordinary_expectMessage {message : String} (reason : String)
    (entry : (message ++ ": ").toList ≠ noEntry.toList.take (message ++ ": ").toList.length)
    (shown : (message ++ ": ").toList ≠
      noEntryShown.toList.take (message ++ ": ").toList.length) :
    Ordinary (.panic (expectMessage message reason)) :=
  ordinary_append reason entry shown

/-! ## Calls -/

section Combinators

variable {State Value : Type}

theorem bail_ordinary (message : String) :
    Raises Ordinary (bail message : Effect State Fault Value) :=
  raises_throw (ordinary_error message)

theorem refuseIf_ordinary (condition : Bool) (message : String) :
    Raises Ordinary (refuseIf condition message : Effect State Fault Unit) :=
  raises_ite (bail_ordinary message) (raises_pure _)

theorem mapErr_ordinary (message : String → String) (result : Except String Value) :
    Raises Ordinary (mapErr message result : Effect State Fault Value) := by
  cases result with
  | ok value => exact raises_pure value
  | error reason => exact bail_ordinary _

theorem onlyIf_ordinary {condition : Bool} {action : Effect State Fault Unit}
    (raises : Raises Ordinary action) : Raises Ordinary (onlyIf condition action) :=
  raises_ite raises (raises_pure _)

theorem assert_ordinary {message : String} (ordinary : Ordinary (.panic message))
    (condition : Bool) : Raises Ordinary (assert condition message : Effect State Fault Unit) :=
  raises_ite (raises_pure _) (raises_throw ordinary)

theorem expect_ordinary {message : String} (result : Except String Value)
    (ordinary : ∀ reason, Ordinary (.panic (expectMessage message reason))) :
    Raises Ordinary (expect message result : Effect State Fault Value) := by
  cases result with
  | ok value => exact raises_pure value
  | error reason => exact raises_throw (ordinary reason)

theorem capture_ordinary {action : Effect State Fault Value} (raises : Raises Ordinary action) :
    Raises Ordinary (capture action) := by
  refine triple_of_runs (fun _ _ _ _ _ => trivial) ?_
  intro state fault final _ run
  rw [exec_capture] at run
  rcases inner : exec action state with ⟨⟨message | message⟩ | value, after⟩ <;>
    rw [inner] at run <;> cases run
  exact raises.error inner

end Combinators

section Steps

variable (env : Environment)

theorem nextCall_ordinary : Raises Ordinary nextCall :=
  raises_bind raises_get fun _ => raises_bind (raises_modify _) fun _ => raises_pure _

theorem attempt_ordinary (message : String → String) : Raises Ordinary (attempt env message) := by
  refine raises_bind nextCall_ordinary fun call => ?_
  cases env.failure call with
  | none => exact raises_pure _
  | some reason => exact bail_ordinary _

theorem faketimeOrNow_ordinary (config : KeySetConfig) :
    Raises Ordinary (faketimeOrNow env config) :=
  raises_bind nextCall_ordinary fun _ => raises_pure _

theorem wallClock_ordinary : Raises Ordinary (wallClock env) :=
  raises_bind nextCall_ordinary fun _ => raises_pure _

/-! ## Reading keys -/

theorem getPool_ordinary (kmip : KmipState) (id : String) :
    Raises Ordinary (getPool env kmip id) := by
  unfold getPool
  cases kmip.servers.lookup id with
  | none => exact bail_ordinary _
  | some server => exact attempt_ordinary env _

theorem readPublicKey_ordinary (store : KeyStore) (ref : KeyRef)
    (missing malformed : String → String) :
    Raises Ordinary (readPublicKey env store ref missing malformed) := by
  refine raises_bind (attempt_ordinary env _) fun _ => ?_
  split
  · exact raises_pure _
  · exact bail_ordinary _
  · exact bail_ordinary _

theorem readPrivateKey_ordinary (store : KeyStore) (ref : KeyRef)
    (missing malformed : String → String) :
    Raises Ordinary (readPrivateKey env store ref missing malformed) := by
  refine raises_bind (attempt_ordinary env _) fun _ => ?_
  split
  · exact raises_pure _
  · exact bail_ordinary _
  · exact bail_ordinary _

theorem publicKeyFromUrl_ordinary (ws : WorkSpace) (url : Url) :
    Raises Ordinary (publicKeyFromUrl env ws url) := by
  cases url with
  | file path => exact readPublicKey_ordinary env _ _ _ _
  | kmip serverId keyId =>
      exact raises_bind (getPool_ordinary env _ _) fun _ => readPublicKey_ordinary env _ _ _ _
  | other scheme =>
      refine raises_throw (ordinary_panic (append_ne ?_) (append_ne ?_)) <;> decide

theorem expectUrl_ordinary (reference : String) : Raises Ordinary (expectUrl env reference) :=
  expect_ordinary _ fun reason => ordinary_expectMessage reason (by decide) (by decide)

theorem loadSigningKey_ordinary (ws : WorkSpace) (privref pubref : String)
    (unreadable malformed : String → String → String) :
    Raises Ordinary (loadSigningKey env ws privref pubref unreadable malformed) := by
  refine raises_bind (expectUrl_ordinary env privref) fun privUrl => ?_
  refine raises_bind (expectUrl_ordinary env pubref) fun pubUrl => ?_
  split
  · refine raises_bind (readPrivateKey_ordinary env _ _ _ _) fun secretKey => ?_
    refine raises_bind (publicKeyFromUrl_ordinary env ws _) fun publicKey => ?_
    exact raises_ite (raises_pure _) (bail_ordinary _)
  · refine raises_bind (getPool_ordinary env _ _) fun _ => ?_
    exact raises_bind (readPrivateKey_ordinary env _ _ _ _) fun _ =>
      readPublicKey_ordinary env _ _ _ _
  · exact raises_throw (ordinary_panic (by decide) (by decide))

/-! ## RRsets -/

theorem signRrset_ordinary (signer : Dnskey) (typeCovered : Rtype) (signed : List Dnskey)
    (inception expiration : Nat) (failed : String → String) :
    Raises Ordinary (signRrset env signer typeCovered signed inception expiration failed) :=
  raises_bind (attempt_ordinary env _) fun _ => raises_pure _

theorem presentDnskeys_ordinary (ws : WorkSpace) : Raises Ordinary (presentDnskeys env ws) := by
  refine raises_collect _ fun entry => raises_ite ?_ (raises_pure _)
  refine raises_bind (expectUrl_ordinary env _) fun url => ?_
  exact raises_bind (publicKeyFromUrl_ordinary env ws url) fun _ => raises_pure _

theorem signDnskeyRrset_ordinary (ws : WorkSpace) (dnskeys : List Dnskey)
    (inception expiration : Nat) :
    Raises Ordinary (signDnskeyRrset env ws dnskeys inception expiration) := by
  refine raises_ite (raises_pure _) (raises_collect _ fun entry => ?_)
  refine raises_bind (attempt_ordinary env _) fun _ => raises_ite ?_ (raises_pure _)
  cases entry.2.privref with
  | none => exact bail_ordinary _
  | some privref =>
      refine raises_bind (loadSigningKey_ordinary env ws _ _ _ _) fun signer => ?_
      exact raises_bind (signRrset_ordinary env _ _ _ _ _ _) fun _ => raises_pure _

theorem dnskeyRrset_ordinary (ws : WorkSpace) : Raises Ordinary (dnskeyRrset env ws) := by
  refine raises_bind (faketimeOrNow_ordinary env _) fun now => ?_
  refine raises_bind (presentDnskeys_ordinary env ws) fun dnskeys => ?_
  exact raises_bind (signDnskeyRrset_ordinary env ws _ _ _) fun _ => raises_pure _

theorem atParentDnskeys_ordinary (ws : WorkSpace) : Raises Ordinary (atParentDnskeys env ws) := by
  refine raises_collect _ fun entry => raises_ite ?_ (raises_pure _)
  refine raises_bind (expectUrl_ordinary env _) fun url => ?_
  refine raises_bind (publicKeyFromUrl_ordinary env ws url) fun _ => ?_
  exact raises_bind (attempt_ordinary env _) fun _ => raises_pure _

theorem signCdsRrsets_ordinary (ws : WorkSpace) (keys : List Dnskey)
    (inception expiration : Nat) :
    Raises Ordinary (signCdsRrsets env ws keys inception expiration) := by
  refine raises_ite (raises_pure _) (raises_collect _ fun entry => ?_)
  refine raises_bind (attempt_ordinary env _) fun _ => raises_ite ?_ (raises_pure _)
  cases entry.2.privref with
  | none => exact bail_ordinary _
  | some privref =>
      refine raises_bind (loadSigningKey_ordinary env ws _ _ _ _) fun signer => ?_
      refine raises_bind (signRrset_ordinary env _ _ _ _ _ _) fun _ => ?_
      exact raises_bind (signRrset_ordinary env _ _ _ _ _ _) fun _ => raises_pure _

theorem cdsRrset_ordinary (ws : WorkSpace) : Raises Ordinary (cdsRrset env ws) := by
  refine raises_bind (faketimeOrNow_ordinary env _) fun now => ?_
  refine raises_bind (atParentDnskeys_ordinary env ws) fun keys => ?_
  exact raises_bind (signCdsRrsets_ordinary env ws _ _ _) fun _ => raises_pure _

theorem dsRrset_ordinary (ws : WorkSpace) : Raises Ordinary (dsRrset env ws) :=
  raises_bind (atParentDnskeys_ordinary env ws) fun _ => raises_pure _

/-! ## Creating and importing keys -/

theorem generateUnique_ordinary (keyset : KeySet) (params : GenerateParams)
    (flags retries : Nat) :
    Raises Ordinary (generateUnique env keyset params flags retries) := by
  induction retries with
  | zero => exact bail_ordinary _
  | succ retries induction =>
      refine raises_bind nextCall_ordinary fun call => ?_
      refine raises_bind (mapErr_ordinary _ _) fun key => ?_
      exact raises_ite induction (raises_pure _)

theorem readPublicKeyFile_ordinary (store : KeyStore) (path : String) :
    Raises Ordinary (readPublicKeyFile env store path) := by
  refine raises_bind (attempt_ordinary env _) fun _ => ?_
  split
  · exact raises_pure _
  · exact bail_ordinary _
  · exact bail_ordinary _

theorem makeAbsolute_ordinary (path : String) : Raises Ordinary (makeAbsolute env path) :=
  raises_bind (attempt_ordinary env _) fun _ => raises_pure _

theorem resolve_ordinary (ws : WorkSpace) (subcommand : ImportKeyCommands) :
    Raises Ordinary (subcommand.resolve env ws) := by
  cases subcommand with
  | file path coupled privateKey =>
      simp only [ImportKeyCommands.resolve, importedKeyFiles]
      split
      · exact bail_ordinary _
      · refine raises_bind (readPrivateKey_ordinary env _ _ _ _) fun secretKey => ?_
        refine raises_bind (readPublicKeyFile_ordinary env _ _) fun read => ?_
        rcases read with ⟨owner, publicKey⟩
        refine raises_bind (refuseIf_ordinary _ _) fun _ => ?_
        refine raises_bind (refuseIf_ordinary _ _) fun _ => ?_
        refine raises_bind (makeAbsolute_ordinary env _) fun _ => ?_
        exact raises_bind (makeAbsolute_ordinary env _) fun _ => raises_pure _
  | kmip server publicId privateId algorithm flags coupled =>
      refine raises_bind (getPool_ordinary env _ _) fun _ => ?_
      refine raises_bind (readPublicKey_ordinary env _ _ _ _) fun publicKey => ?_
      exact raises_bind (refuseIf_ordinary _ _) fun _ => raises_pure _

/-! ## Propagation checks -/

theorem addressesForName_ordinary (name : Name) : Raises Ordinary (addressesForName env name) :=
  raises_bind nextCall_ordinary fun _ => raises_bind (mapErr_ordinary _ _) fun _ =>
    raises_bind (refuseIf_ordinary _ _) fun _ => raises_pure _

theorem addressesForZone_ordinary (zone : Name) :
    Raises Ordinary (addressesForZone env zone) := by
  refine raises_bind nextCall_ordinary fun call => ?_
  refine raises_bind (mapErr_ordinary _ _) fun nameservers => ?_
  refine raises_bind (refuseIf_ordinary _ _) fun _ => ?_
  refine raises_bind (raises_collect _ fun name => ?_) fun _ => raises_pure _
  exact raises_bind (addressesForName_ordinary env name) fun _ => raises_pure _

theorem parentZone_ordinary (name : Name) : Raises Ordinary (parentZone env name) := by
  cases name with
  | nil => exact bail_ordinary _
  | cons label parent =>
      exact raises_bind nextCall_ordinary fun _ => mapErr_ordinary _ _

theorem getPrimaryAddresses_ordinary (zone : Name) :
    Raises Ordinary (getPrimaryAddresses env zone) :=
  raises_bind nextCall_ordinary fun _ => raises_bind (mapErr_ordinary _ _) fun _ =>
    addressesForName_ordinary env _

theorem wellFormed_ordinary (answers : List (Except String Answer)) :
    Raises Ordinary (wellFormed answers) := by
  induction answers with
  | nil => exact raises_pure _
  | cons answer answers induction =>
      cases answer with
      | error reason => exact bail_ordinary _
      | ok answer => exact raises_bind induction fun _ => raises_pure _

theorem lookupNameRtypeAtAddress_ordinary (name : Name) (rtype : Rtype) (address : IpAddr) :
    Raises Ordinary (lookupNameRtypeAtAddress env name rtype address) :=
  raises_bind nextCall_ordinary fun _ => raises_bind (mapErr_ordinary _ _) fun _ =>
    wellFormed_ordinary _

theorem combineReports_ordinary (maxTtl : Option Ttl)
    (results : List (Except String AutoReportActionsResult)) :
    Raises Ordinary (combineReports maxTtl results) := by
  induction results generalizing maxTtl with
  | nil =>
      cases maxTtl with
      | some ttl => exact raises_pure _
      | none => exact raises_throw (ordinary_panic (by decide) (by decide))
  | cons result results induction =>
      rcases result with reason | (ttl | ⟨waitUntil, notice⟩)
      · exact bail_ordinary _
      · exact induction _
      · exact raises_pure _

theorem checkEachAddress_ordinary (addresses : List IpAddr)
    {check : IpAddr → Step AutoReportActionsResult}
    (checks : ∀ address, Raises Ordinary (check address)) :
    Raises Ordinary (checkEachAddress addresses check) :=
  raises_collect _ fun address =>
    raises_bind (capture_ordinary (checks address)) fun _ => raises_pure _

theorem assertAddresses_ordinary (addresses : List IpAddr) :
    Raises Ordinary (assert (!addresses.isEmpty)
      "assertion failed: !addresses.is_empty()" : Step Unit) :=
  assert_ordinary (ordinary_panic (by decide) (by decide)) _

theorem reportDnskeyPropagated_ordinary (kss : KeySetState) (now : UnixTime) :
    Raises Ordinary (reportDnskeyPropagated env kss now) := by
  refine raises_bind (capture_ordinary (addressesForZone_ordinary env _)) fun lookup => ?_
  cases lookup with
  | error reason => exact raises_pure _
  | ok addresses =>
      refine raises_bind (assertAddresses_ordinary addresses) fun _ => ?_
      refine raises_bind (checkEachAddress_ordinary addresses fun address => ?_) fun results => ?_
      · exact raises_bind (lookupNameRtypeAtAddress_ordinary env _ _ _) fun _ => raises_pure _
      · refine raises_bind (capture_ordinary (combineReports_ordinary none results))
          fun combined => ?_
        cases combined with
        | error reason => exact raises_pure _
        | ok result => exact raises_pure _

theorem findDsTarget_ordinary (algorithm : SecurityAlgorithm) (digestType digest : Nat)
    (targets : List (Ttl × Dnskey)) :
    Raises Ordinary (findDsTarget env algorithm digestType digest targets) := by
  induction targets with
  | nil => exact raises_pure _
  | cons target targets induction =>
      refine raises_bind (expect_ordinary _ fun reason =>
        ordinary_expectMessage reason (by decide) (by decide)) fun expected => ?_
      exact raises_ite (raises_pure _) induction

theorem compareDsAnswers_ordinary (zone : Name) (address : IpAddr) (now : UnixTime)
    (answers : List Answer) (targets : List (Ttl × Dnskey)) (maxTtl : Ttl) :
    Raises Ordinary (compareDsAnswers env zone address now answers targets maxTtl) := by
  induction answers generalizing targets maxTtl with
  | nil => cases targets <;> exact raises_pure _
  | cons answer answers induction =>
      unfold compareDsAnswers
      split
      · refine raises_ite (induction _ _) ?_
        refine raises_bind (findDsTarget_ordinary env _ _ _ _) fun found => ?_
        cases found with
        | some target => exact induction _ _
        | none => exact raises_pure _
      · exact induction _ _

theorem reportDsPropagated_ordinary (kss : KeySetState) (now : UnixTime) :
    Raises Ordinary (reportDsPropagated env kss now) := by
  refine raises_bind (parentZone_ordinary env _) fun parent => ?_
  refine raises_bind (addressesForZone_ordinary env parent) fun addresses => ?_
  refine raises_bind (assertAddresses_ordinary addresses) fun _ => ?_
  refine raises_bind (checkEachAddress_ordinary addresses fun address => ?_) fun results =>
    combineReports_ordinary none results
  exact raises_bind (lookupNameRtypeAtAddress_ordinary env _ _ _) fun _ =>
    compareDsAnswers_ordinary env _ _ _ _ _ _

theorem allReport_ordinary (results : List (Except String AutoReportActionsResult)) :
    Raises Ordinary (allReport results) := by
  induction results with
  | nil => exact raises_pure _
  | cons result results induction =>
      rcases result with reason | (ttl | ⟨waitUntil, notice⟩)
      · exact bail_ordinary _
      · exact induction
      · exact bail_ordinary _

theorem checkSoa_ordinary (serial : Serial) (kss : KeySetState) (now : UnixTime) :
    Raises Ordinary (checkSoa env serial kss now) := by
  refine raises_bind (addressesForZone_ordinary env _) fun addresses => ?_
  refine raises_bind (checkEachAddress_ordinary addresses fun address => ?_) fun results =>
    allReport_ordinary results
  refine raises_bind (lookupNameRtypeAtAddress_ordinary env _ _ _) fun answers => ?_
  refine raises_ite (raises_pure _) ?_
  split <;> exact raises_pure _

theorem nextSerialAtAddresses_ordinary (zone : Name) (serial : Serial)
    (addresses : List IpAddr) :
    Raises Ordinary (nextSerialAtAddresses env zone serial addresses) := by
  induction addresses with
  | nil => exact bail_ordinary _
  | cons address addresses induction =>
      refine raises_bind nextCall_ordinary fun call => ?_
      split
      · exact induction
      · refine raises_bind (mapErr_ordinary _ _) fun found => ?_
        split
        · exact bail_ordinary _
        · exact refuseIf_ordinary _ _

theorem checkNextSerial_ordinary (serial : Serial) (kss : KeySetState) :
    Raises Ordinary (checkNextSerial env serial kss) :=
  raises_bind (getPrimaryAddresses_ordinary env _) fun _ =>
    nextSerialAtAddresses_ordinary env _ _ _

theorem recordAtAddresses_ordinary (name : Name) (rtype : Rtype)
    (expected : List (SecurityAlgorithm × Nat)) (addresses : List IpAddr) :
    Raises Ordinary (recordAtAddresses env name rtype expected addresses) := by
  induction addresses with
  | nil => exact bail_ordinary _
  | cons address addresses induction =>
      refine raises_bind nextCall_ordinary fun call => ?_
      split
      · exact induction
      · exact raises_bind (wellFormed_ordinary _) fun _ => refuseIf_ordinary _ _

theorem checkRecord_ordinary (name : Name) (rtype : Rtype) (kss : KeySetState) :
    Raises Ordinary (checkRecord env name rtype kss) :=
  raises_bind (getPrimaryAddresses_ordinary env _) fun _ =>
    recordAtAddresses_ordinary env _ _ _ _

theorem zoneVerdict_ordinary (kss : KeySetState) (now : UnixTime) (transfer : Transfer)
    (ttl : Ttl) : Raises Ordinary (zoneVerdict env kss now transfer ttl) := by
  unfold zoneVerdict
  split
  · refine raises_bind (capture_ordinary (checkSoa_ordinary env _ _ _)) fun served => ?_
    cases served with
    | error reason => exact raises_pure _
    | ok value => exact raises_pure _
  · exact raises_pure _
  · exact raises_pure _

theorem transferAnswers_ordinary (kss : KeySetState) (now : UnixTime)
    (answers : List (Except String Answer)) (transfer : Transfer) :
    Raises Ordinary (transferAnswers env kss now answers transfer) := by
  induction answers generalizing transfer with
  | nil => exact raises_pure _
  | cons answer answers induction =>
      cases answer with
      | error reason => exact bail_ordinary _
      | ok answer =>
          simp only [transferAnswers]
          cases transfer.firstSoa with
          | false =>
              cases answer.data with
              | soa serial => exact induction _
              | _ => exact bail_ordinary _
          | true =>
              cases answer.data with
              | soa serial =>
                  exact raises_bind (zoneVerdict_ordinary env _ _ _ _) fun _ => raises_pure _
              | _ => exact induction _

theorem transferReplies_ordinary (kss : KeySetState) (now : UnixTime)
    (replies : List AxfrReply) (transfer : Transfer) :
    Raises Ordinary (transferReplies env kss now replies transfer) := by
  induction replies generalizing transfer with
  | nil => exact bail_ordinary _
  | cons reply replies induction =>
      cases reply with
      | failed message => exact raises_pure _
      | rcode code => exact raises_pure _
      | answer records =>
          refine raises_bind (transferAnswers_ordinary env _ _ _ _) fun result => ?_
          rcases result with ⟨_ | verdict, transfer⟩
          · exact induction _
          · exact raises_pure _

theorem checkZoneAt_ordinary (kss : KeySetState) (now : UnixTime) (tsigStore : TsigKeyStore)
    (serial : Serial) (nameservers : List NameserverConnectionDetails) :
    Raises Ordinary (checkZoneAt env kss now tsigStore serial nameservers) := by
  induction nameservers with
  | nil => exact bail_ordinary _
  | cons nameserver nameservers induction =>
      refine raises_bind nextCall_ordinary fun call => raises_ite ?_ induction
      refine raises_bind (transferReplies_ordinary env _ _ _ _) fun verdict => ?_
      cases verdict with
      | some verdict => exact raises_pure _
      | none => exact induction

theorem reportRrsigPropagated_ordinary (kss : KeySetState) (now : UnixTime)
    (nameservers : List NameserverConnectionDetails) (tsigStore : TsigKeyStore) :
    Raises Ordinary (reportRrsigPropagated env kss now nameservers tsigStore) := by
  have zone : Raises Ordinary (checkZone env kss now nameservers tsigStore) := by
    refine raises_bind nextCall_ordinary fun call => ?_
    refine raises_bind (mapErr_ordinary _ _) fun soa => ?_
    refine raises_ite ?_ (checkZoneAt_ordinary env _ _ _ _ _)
    exact raises_bind (addressesForName_ordinary env _) fun _ =>
      checkZoneAt_ordinary env _ _ _ _ _
  refine raises_bind zone fun result => ?_
  split
  · exact raises_throw (ordinary_panic (by decide) (by decide))
  · exact raises_throw (ordinary_panic (by decide) (by decide))
  · exact raises_pure _
  · exact raises_pure _
  · refine raises_bind (capture_ordinary (checkSoa_ordinary env _ _ _)) fun served => ?_
    cases served with
    | error reason => exact raises_pure _
    | ok value => exact raises_pure _

/-! ## The set command and what the status command prints -/

theorem setApply_ordinary (ws : WorkSpace) (command : SetCommands) :
    Raises Ordinary (command.apply env ws) := by
  cases command with
  | algorithm name bits => exact raises_bind (mapErr_ordinary _ _) fun _ => raises_pure _
  | publicationNameservers addrs =>
      refine raises_bind (mapErr_ordinary _ _) fun nameservers => ?_
      refine raises_bind ?_ fun _ => raises_pure _
      refine raises_ite ?_ (raises_pure _)
      split
      · exact bail_ordinary _
      · refine raises_bind (attempt_ordinary env _) fun _ => ?_
        split
        · exact bail_ordinary _
        · exact raises_pure _
  | _ => exact raises_pure _

theorem writeToNewAndRename_ordinary (env : Environment) (filename : String) :
    Raises Ordinary (writeToNewAndRename env filename) :=
  raises_bind (attempt_ordinary env _) fun _ =>
    raises_bind (attempt_ordinary env _) fun _ => attempt_ordinary env _

theorem executeCommand_ordinary (program : String) :
    Raises Ordinary (executeCommand env program) := by
  refine raises_bind (attempt_ordinary env _) fun _ => ?_
  refine raises_bind nextCall_ordinary fun status => ?_
  cases env.failure status with
  | none => exact raises_pure _
  | some reason =>
      exact raises_bind (attempt_ordinary env _) fun _ => attempt_ordinary env _

theorem printZoneSigners_ordinary (ws : WorkSpace) (keys : List (String × Key)) :
    Raises Ordinary (printZoneSigners env ws keys) := by
  induction keys with
  | nil => exact raises_pure _
  | cons entry keys induction =>
      refine raises_bind (onlyIf_ordinary ?_) fun _ => induction
      refine raises_bind (mapErr_ordinary _ _) fun url => ?_
      exact raises_bind (publicKeyFromUrl_ordinary env ws url) fun _ => raises_pure _

theorem statusActions_ordinary (ws : WorkSpace) (auto : Bool) (actions : List Action) :
    Raises Ordinary (statusActions env ws auto actions) := by
  induction actions with
  | nil => exact raises_pure _
  | cons action actions induction =>
      exact raises_bind (onlyIf_ordinary (printZoneSigners_ordinary env ws _)) fun _ => induction

end Steps

end Dnst.Keyset
