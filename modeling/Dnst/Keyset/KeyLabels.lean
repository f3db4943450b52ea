import Dnst.Foundation.Base32Hex
import Dnst.Keyset.Generation
import Dnst.Keyset.ZoneNames

/-! # Labels of keys in an HSM

A key pair is created under two random labels. Once the key tag is known its keys
get readable labels, whose zone name is shortened to keep to the limit of the
server.
-/

namespace Dnst.Keyset

open Effect

/-! ## Readable labels -/

/-- The end of a label: key tag, type of key and half of the pair. -/
def labelEnd (keyTag keyType suffix : String) : String :=
  "-" ++ keyTag ++ "-" ++ keyType ++ suffix

def labelText (labelPrefix zoneName keyTag keyType suffix : String) : String :=
  labelPrefix ++ zoneName ++ labelEnd keyTag keyType suffix

/-- Construct from parts a KMIP key label. -/
def formatKeyLabel {State : Type} (names : NameFormat)
    (labelPrefix zoneName keyTag keyType suffix : String) (maxLabelBytes : Nat) :
    Effect State Fault String :=
  let keyLabel := labelText labelPrefix zoneName keyTag keyType suffix
  if maxLabelBytes < keyLabel.utf8ByteSize then
    let diff := keyLabel.utf8ByteSize - maxLabelBytes
    let maxZoneNameLen := zoneName.utf8ByteSize - diff
    if maxZoneNameLen < 8 then
      bail s!"Insufficient space to include a useful (partial) zone name in generated KMIP key label: {maxZoneNameLen} < 8"
    else do
      let zoneName ← truncateZoneName names zoneName maxZoneNameLen
      return labelText labelPrefix zoneName keyTag keyType suffix
  else
    return keyLabel

/-! ## Requests to the server -/

/-- Labels that are sent to the server. -/
inductive LabelRequest where
  | create (publicLabel privateLabel : String)
  | rename (label : String)
  deriving DecidableEq, Repr

def LabelRequest.labels : LabelRequest → List String
  | .create publicLabel privateLabel => [publicLabel, privateLabel]
  | .rename label => [label]

/-- What the labels depend on and what comes of renaming. -/
structure LabelSource where
  names : NameFormat
  encodeStringHex : List UInt8 → String
  /-- The random octets drawn at a call. -/
  publicBytes : Nat → Nat → UInt8
  privateBytes : Nat → Nat → UInt8
  renamePublic : Nat → Except String Unit
  renamePrivate : Nat → Except String Unit

/-- A run next to the labels that have been sent. -/
abbrev Labelled (Value : Type) := Effect (WorkSpace × List LabelRequest) Fault Value

/-- A part of the run that sends no labels. -/
def unlabelled {Value : Type} (action : Run Value) : Labelled Value :=
  zoom Prod.fst (fun state ws => (ws, state.2)) action

def sendLabels (request : LabelRequest) : Labelled Unit :=
  modify fun state => (state.1, state.2 ++ [request])

/-- As many random bytes as the limit, in base 32. -/
def randomLabel (source : LabelSource) (cfg : KeyLabelConfig) (bytes : Nat → UInt8) : String :=
  source.encodeStringHex ((List.range cfg.maxLabelBytes).map bytes)

def readableLabel (source : LabelSource) (cfg : KeyLabelConfig) (name : Name) (keyTag : Nat)
    (makeKsk : Bool) (suffix : String) : Labelled String :=
  formatKeyLabel source.names cfg.labelPrefix name.display (toString keyTag)
    (if makeKsk then "ksk" else "zsk") suffix cfg.maxLabelBytes

/-- Re-label the key now that we know the key tag. -/
def relabelKeys (env : Environment) (source : LabelSource) (serverId : String)
    (server : KmipServerConnectionConfig) (makeKsk : Bool) (keyTag : Nat) :
    Labelled Unit :=
  if server.keyLabelConfig.supportsRelabeling then do
    let ws ← unlabelled get
    let call ← unlabelled (perform nextCall)
    let label := readableLabel source server.keyLabelConfig ws.state.keyset.name keyTag makeKsk
    let publicKeyLabel ← capture (label "-pub")
    let privateKeyLabel ← capture (label "-pri")
    match publicKeyLabel, privateKeyLabel with
    | .ok publicKeyLabel, .ok privateKeyLabel => do
        unlabelled (perform (attempt env id))
        sendLabels (.rename publicKeyLabel)
        match source.renamePublic call with
        | .ok _ => do
            sendLabels (.rename privateKeyLabel)
            mapErr (fun message =>
                s!"KMIP key generation failed: failed to re-label private key: {message}")
              (source.renamePrivate call)
        | .error _ => unlabelled (modify fun ws =>
            { ws with state.kmip := disableRelabeling serverId ws.state.kmip })
    | _, _ => return ()
  else
    return ()

/-- Keep a pair with a new key tag and try again with any other. -/
def keepOrRetry (env : Environment) (source : LabelSource) (serverId : String)
    (server : KmipServerConnectionConfig) (makeKsk : Bool) (keyset : KeySet)
    (again : Labelled KmipKeyPair) (pair : KmipKeyPair) : Labelled KmipKeyPair := do
  unlabelled (storePair pair)
  if tagInUse keyset pair.dnskey.keyTag then
    again
  else do
    relabelKeys env source serverId server makeKsk pair.dnskey.keyTag
    return pair

/-- Generate in an HSM until the key tag is new. -/
def generateLabelledPair (env : Environment) (source : LabelSource) (serverId : String)
    (params : GenerateParams) (makeKsk : Bool) (flags : Nat) : Nat → Labelled KmipKeyPair
  | 0 => bail noUniqueKeyTag
  | retries + 1 => do
      let ws ← unlabelled get
      match ws.state.kmip.servers.lookup serverId with
      | none => panic "called `Option::unwrap()` on a `None` value"
      | some server => do
          let call ← unlabelled (perform nextCall)
          sendLabels (.create
            (randomLabel source server.keyLabelConfig (source.publicBytes call))
            (randomLabel source server.keyLabelConfig (source.privateBytes call)))
          let pair ← mapErr (fun reason => s!"KMIP key generation failed: {reason}\n")
            (env.kmipGenerate call params flags)
          keepOrRetry env source serverId server makeKsk ws.state.keyset
            (generateLabelledPair env source serverId params makeKsk flags retries) pair

/-- `new_keys` with the labels that it sends. -/
def newLabelledKeys (env : Environment) (source : LabelSource) (makeKsk : Bool) :
    Labelled NewKeys := do
  let ws ← unlabelled get
  let params ← ws.config.algorithm.toGenerateParams
  let flags := if makeKsk then 257 else 256
  match ws.state.kmip.defaultServerId with
  | some serverId => do
      unlabelled (perform (getPool env ws.state.kmip serverId))
      let pair ← generateLabelledPair env source serverId params makeKsk flags maxKeyTagTries
      return {
        publicUrl := pair.publicKeyUrl
        privateUrl := pair.privateKeyUrl
        algorithm := pair.dnskey.algorithm
        keyTag := pair.dnskey.keyTag }
  | none => do
      let key ← unlabelled
        (perform (generateUnique env ws.state.keyset params flags maxKeyTagTries))
      unlabelled (newKeyFiles env key)

/-! ## Lengths of labels -/

section Lengths

variable {State : Type}

theorem utf8ByteSize_labelText (labelPrefix zoneName keyTag keyType suffix : String) :
    (labelText labelPrefix zoneName keyTag keyType suffix).utf8ByteSize =
      labelPrefix.utf8ByteSize + zoneName.utf8ByteSize +
        (labelEnd keyTag keyType suffix).utf8ByteSize := by
  unfold labelText
  rw [String.utf8ByteSize_append, String.utf8ByteSize_append]

/-- The label keeps to the limit and has the configured start and the given end. -/
structure FitsLimit (labelPrefix keyTag keyType suffix : String) (maxLabelBytes : Nat)
    (label : String) : Prop where
  short : label.utf8ByteSize ≤ maxLabelBytes
  parts : ∃ zoneName, label = labelText labelPrefix zoneName keyTag keyType suffix

theorem formatKeyLabel_reads (names : NameFormat)
    (labelPrefix zoneName keyTag keyType suffix : String) (maxLabelBytes : Nat) :
    Reads (FitsLimit labelPrefix keyTag keyType suffix maxLabelBytes)
      (formatKeyLabel names labelPrefix zoneName keyTag keyType suffix maxLabelBytes :
        Effect State Fault String) := by
  unfold formatKeyLabel
  dsimp only
  have total := utf8ByteSize_labelText labelPrefix zoneName keyTag keyType suffix
  split
  · split
    · exact reads_throw _
    · next enough =>
        apply reads_bind (truncateZoneName_reads names zoneName _)
        intro shorter short
        apply reads_pure
        constructor
        · rw [utf8ByteSize_labelText]
          omega
        · exact ⟨shorter, rfl⟩
  · next fits =>
      apply reads_pure
      constructor
      · exact Nat.not_lt.mp fits
      · exact ⟨zoneName, rfl⟩

theorem labelText_getLast {suffix : String} {last : Char}
    (ends : suffix.toList.getLast? = some last) (labelPrefix zoneName keyTag keyType : String) :
    (labelText labelPrefix zoneName keyTag keyType suffix).toList.getLast? = some last := by
  unfold labelText labelEnd
  rw [String.toList_append, List.getLast?_append, String.toList_append, List.getLast?_append,
    ends]
  rfl

/-- Labels that end differently are different. -/
theorem FitsLimit.ne {labelPrefix keyTag keyType publicLabel privateLabel : String}
    {maxLabelBytes : Nat}
    (publicFits : FitsLimit labelPrefix keyTag keyType "-pub" maxLabelBytes publicLabel)
    (privateFits : FitsLimit labelPrefix keyTag keyType "-pri" maxLabelBytes privateLabel) :
    publicLabel ≠ privateLabel := by
  intro same
  have ⟨publicName, publicText⟩ := publicFits.parts
  have ⟨privateName, privateText⟩ := privateFits.parts
  have publicLast : publicLabel.toList.getLast? = some 'b' := by
    rw [publicText]
    exact labelText_getLast rfl _ _ _ _
  have privateLast : privateLabel.toList.getLast? = some 'i' := by
    rw [privateText]
    exact labelText_getLast rfl _ _ _ _
  rw [same, privateLast] at publicLast
  exact absurd publicLast (by decide)

end Lengths

/-! ## What a run sends -/

section Requests

variable {env : Environment} {source : LabelSource}

/-- No label that has been sent is longer. -/
def Bounded (bound : Nat) (sent : List LabelRequest) : Prop :=
  ∀ request ∈ sent, ∀ label ∈ request.labels, label.utf8ByteSize ≤ bound

theorem bounded_append {bound : Nat} {sent : List LabelRequest} {request : LabelRequest}
    (bounded : Bounded bound sent)
    (fits : ∀ label ∈ request.labels, label.utf8ByteSize ≤ bound) :
    Bounded bound (sent ++ [request]) := by
  intro other member
  cases List.mem_append.mp member with
  | inl before => exact bounded other before
  | inr last =>
      rw [List.mem_singleton.mp last]
      exact fits

theorem exec_unlabelled {Value : Type} (action : Run Value) (ws : WorkSpace)
    (sent : List LabelRequest) :
    exec (unlabelled action) (ws, sent) =
      ((exec action ws).1, ((exec action ws).2, sent)) :=
  exec_zoom _ _ action (ws, sent)

variable {bound : Nat}

theorem unlabelled_keeps {Value : Type} (action : Run Value) :
    Preserves (fun state => Bounded bound state.2) (unlabelled action) :=
  preserves_zoom fun _ _ bounded => bounded

theorem sendLabels_keeps {request : LabelRequest}
    (fits : ∀ label ∈ request.labels, label.utf8ByteSize ≤ bound) :
    Preserves (fun state => Bounded bound state.2) (sendLabels request) :=
  keeps_modify fun _ bounded => bounded_append bounded fits

/-- The servers are these and no label that has been sent is too long. -/
def Sends (kmip : KmipState) (bound : Nat) (state : WorkSpace × List LabelRequest) : Prop :=
  state.1.state.kmip = kmip ∧ Bounded bound state.2

theorem unlabelled_sends {Value : Type} {kmip : KmipState} {action : Run Value}
    (keeps : Preserves (fun ws => ws.state.kmip = kmip) action) :
    Triple (Sends kmip bound) (unlabelled action) (fun _ => Sends kmip bound)
      (fun _ state => Bounded bound state.2) := by
  have preserves : Preserves (Sends kmip bound) (unlabelled action) := by
    apply preserves_of_final
    intro state sends
    have ⟨ws, sent⟩ := state
    rw [exec_unlabelled]
    exact ⟨keeps.final sends.1, sends.2⟩
  exact triple_weaken preserves (fun _ sends => sends) (fun _ _ sends => sends)
    (fun _ _ sends => sends.2)

theorem sendLabels_sends {kmip : KmipState} {request : LabelRequest}
    (fits : ∀ label ∈ request.labels, label.utf8ByteSize ≤ bound) :
    Triple (Sends kmip bound) (sendLabels request) (fun _ => Sends kmip bound)
      (fun _ state => Bounded bound state.2) :=
  triple_modify fun _ sends => ⟨sends.1, bounded_append sends.2 fits⟩

theorem storePair_kmip (kmip : KmipState) (pair : KmipKeyPair) :
    Preserves (fun ws => ws.state.kmip = kmip) (storePair pair) := by
  unfold storePair
  split
  · apply keeps_bind keeps_get
    intro ws
    have stores : ∀ ref material, Preserves (fun ws => ws.state.kmip = kmip)
        (storeKey ref material) := fun _ _ => keeps_modify fun _ same => same
    apply keeps_bind (stores _ _)
    intro _
    exact stores _ _
  · exact keeps_pure _

/-- A random label is longer than the limit unless both are empty. -/
theorem utf8ByteSize_randomLabel
    (encodes : ∀ octets, (source.encodeStringHex octets).utf8ByteSize =
      (8 * octets.length + 4) / 5)
    (cfg : KeyLabelConfig) (bytes : Nat → UInt8) :
    (randomLabel source cfg bytes).utf8ByteSize = (8 * cfg.maxLabelBytes + 4) / 5 := by
  unfold randomLabel
  rw [encodes, List.length_map, List.length_range]

theorem readableLabel_reads (cfg : KeyLabelConfig) (name : Name) (keyTag : Nat)
    (makeKsk : Bool) (suffix : String) :
    Reads (fun label => label.utf8ByteSize ≤ cfg.maxLabelBytes)
      (readableLabel source cfg name keyTag makeKsk suffix) :=
  (formatKeyLabel_reads _ _ _ _ _ _ _).weaken fun _ fits => fits.short

theorem reads_capture {State Value : Type} {post : Value → Prop}
    {action : Effect State Fault Value} (reads : Reads post action) :
    Reads (fun result => ∀ value, result = .ok value → post value) (capture action) := by
  intro state
  have ⟨kept, returns⟩ := reads state
  rw [exec_capture]
  rcases run : exec action state with ⟨(message | message) | value, after⟩
  · rw [run] at kept
    apply And.intro kept
    intro result same
    cases same
    intro value impossible
    cases impossible
  · rw [run] at kept
    apply And.intro kept
    intro result impossible
    cases impossible
  · rw [run] at kept returns
    apply And.intro kept
    intro result same
    cases same
    intro other same
    cases same
    exact returns value rfl

theorem relabelKeys_keeps {server : KmipServerConnectionConfig}
    (within : server.keyLabelConfig.maxLabelBytes ≤ bound) (serverId : String)
    (makeKsk : Bool) (keyTag : Nat) :
    Preserves (fun state => Bounded bound state.2)
      (relabelKeys env source serverId server makeKsk keyTag) := by
  unfold relabelKeys
  apply keeps_ite
  · intro _
    apply keeps_bind (unlabelled_keeps _)
    intro ws
    apply keeps_bind (unlabelled_keeps _)
    intro call
    have label := fun suffix => reads_capture
      (@readableLabel_reads source server.keyLabelConfig ws.state.keyset.name keyTag makeKsk suffix)
    apply keeps_bind_yields ((label "-pub").preserves _) (label "-pub").yields
    intro publicKeyLabel publicFits
    apply keeps_bind_yields ((label "-pri").preserves _) (label "-pri").yields
    intro privateKeyLabel privateFits
    split
    · next publicKeyLabel privateKeyLabel =>
        apply keeps_bind (unlabelled_keeps _)
        intro _
        have publicRenames : ∀ label ∈ (LabelRequest.rename publicKeyLabel).labels,
            label.utf8ByteSize ≤ bound := by
          intro label member
          rw [List.mem_singleton.mp member]
          exact Nat.le_trans (publicFits _ rfl) within
        have privateRenames : ∀ label ∈ (LabelRequest.rename privateKeyLabel).labels,
            label.utf8ByteSize ≤ bound := by
          intro label member
          rw [List.mem_singleton.mp member]
          exact Nat.le_trans (privateFits _ rfl) within
        apply keeps_bind (sendLabels_keeps publicRenames)
        intro _
        split
        · apply keeps_bind (sendLabels_keeps privateRenames)
          intro _
          cases source.renamePrivate call with
          | ok _ => exact keeps_pure _
          | error message => exact preserves_throw _
        · exact unlabelled_keeps _
    · exact keeps_pure _
  · intro _
    exact keeps_pure _

theorem createLabels_fit
    (encodes : ∀ octets, (source.encodeStringHex octets).utf8ByteSize =
      (8 * octets.length + 4) / 5)
    {cfg : KeyLabelConfig} (within : (8 * cfg.maxLabelBytes + 4) / 5 ≤ bound) (call : Nat) :
    ∀ label ∈ (LabelRequest.create (randomLabel source cfg (source.publicBytes call))
      (randomLabel source cfg (source.privateBytes call))).labels,
      label.utf8ByteSize ≤ bound := by
  intro label member
  have size : label.utf8ByteSize = (8 * cfg.maxLabelBytes + 4) / 5 := by
    cases List.mem_pair.mp member with
    | inl publicLabel => rw [publicLabel, utf8ByteSize_randomLabel encodes]
    | inr privateLabel => rw [privateLabel, utf8ByteSize_randomLabel encodes]
  rw [size]
  exact within

theorem keepOrRetry_keeps {kmip : KmipState} {server : KmipServerConnectionConfig}
    (within : server.keyLabelConfig.maxLabelBytes ≤ bound) {serverId : String}
    {makeKsk : Bool} {keyset : KeySet} {again : Labelled KmipKeyPair}
    (retries : Triple (Sends kmip bound) again (fun _ state => Bounded bound state.2)
      (fun _ state => Bounded bound state.2)) (pair : KmipKeyPair) :
    Triple (Sends kmip bound)
      (keepOrRetry env source serverId server makeKsk keyset again pair)
      (fun _ state => Bounded bound state.2) (fun _ state => Bounded bound state.2) := by
  unfold keepOrRetry
  apply triple_bind (unlabelled_sends (storePair_kmip kmip pair))
  intro _
  apply triple_ite
  · intro _
    exact retries
  · intro _
    have relabels := @relabelKeys_keeps env source bound server within serverId makeKsk
      pair.dnskey.keyTag
    intro state sends
    exact (keeps_bind relabels fun _ => keeps_pure _) state sends.2

/-- The configuration of the server stays as it is while keys are generated. -/
theorem generateLabelledPair_keeps
    (encodes : ∀ octets, (source.encodeStringHex octets).utf8ByteSize =
      (8 * octets.length + 4) / 5)
    {serverId : String} {kmip : KmipState} {server : KmipServerConnectionConfig}
    (known : kmip.servers.lookup serverId = some server)
    (within : (8 * server.keyLabelConfig.maxLabelBytes + 4) / 5 ≤ bound)
    (params : GenerateParams) (makeKsk : Bool) (flags retries : Nat) :
    Triple (Sends kmip bound)
      (generateLabelledPair env source serverId params makeKsk flags retries)
      (fun _ state => Bounded bound state.2) (fun _ state => Bounded bound state.2) := by
  induction retries with
  | zero => exact triple_throw fun _ holds => holds.2
  | succ retries induction =>
      have reads : Triple (Sends kmip bound) (unlabelled get)
          (fun ws state => Sends kmip bound state ∧ ws.state.kmip = kmip)
          (fun _ state => Bounded bound state.2) :=
        fun _ sends => ⟨sends, sends.1⟩
      have counts : Preserves (fun ws => ws.state.kmip = kmip) (perform nextCall) :=
        preserves_zoom fun _ _ kept => kept
      unfold generateLabelledPair
      apply triple_bind reads
      intro ws
      apply triple_fact
      intro same
      rw [same, known]
      dsimp only
      apply triple_bind (unlabelled_sends counts)
      intro call
      apply triple_bind (sendLabels_sends (createLabels_fit encodes within call))
      intro _
      cases env.kmipGenerate call params flags with
      | error reason => exact triple_throw fun _ sends => sends.2
      | ok pair =>
          have short : server.keyLabelConfig.maxLabelBytes ≤ bound := by omega
          exact keepOrRetry_keeps short induction pair

/-! Labels that have been sent stay sent. -/

section Extends

variable {start : List LabelRequest}

theorem unlabelled_extends {Value : Type} (action : Run Value) :
    Preserves (fun state => start <+: state.2) (unlabelled action) :=
  preserves_zoom fun _ _ extends_ => extends_

theorem sendLabels_extends (request : LabelRequest) :
    Preserves (fun state => start <+: state.2) (sendLabels request) :=
  keeps_modify fun _ sent => sent.trans (List.prefix_append _ _)

theorem mapErr_extends {Value : Type} (message : String → String)
    (result : Except String Value) :
    Preserves (fun state : WorkSpace × List LabelRequest => start <+: state.2)
      (mapErr message result) := by
  cases result with
  | ok value => exact keeps_pure value
  | error reason => exact preserves_throw _

theorem relabelKeys_extends (serverId : String) (server : KmipServerConnectionConfig)
    (makeKsk : Bool) (keyTag : Nat) :
    Preserves (fun state => start <+: state.2)
      (relabelKeys env source serverId server makeKsk keyTag) := by
  unfold relabelKeys
  apply keeps_ite
  · intro _
    apply keeps_bind (unlabelled_extends _)
    intro ws
    apply keeps_bind (unlabelled_extends _)
    intro call
    have label := fun suffix => reads_capture
      (@readableLabel_reads source server.keyLabelConfig ws.state.keyset.name keyTag makeKsk suffix)
    apply keeps_bind ((label "-pub").preserves _)
    intro publicKeyLabel
    apply keeps_bind ((label "-pri").preserves _)
    intro privateKeyLabel
    split
    · apply keeps_bind (unlabelled_extends _)
      intro _
      apply keeps_bind (sendLabels_extends _)
      intro _
      split
      · apply keeps_bind (sendLabels_extends _)
        intro _
        exact mapErr_extends _ _
      · exact unlabelled_extends _
    · exact keeps_pure _
  · intro _
    exact keeps_pure _

theorem keepOrRetry_extends {serverId : String} {server : KmipServerConnectionConfig}
    {makeKsk : Bool} {keyset : KeySet} {again : Labelled KmipKeyPair}
    (retries : Preserves (fun state => start <+: state.2) again) (pair : KmipKeyPair) :
    Preserves (fun state => start <+: state.2)
      (keepOrRetry env source serverId server makeKsk keyset again pair) := by
  unfold keepOrRetry
  apply keeps_bind (unlabelled_extends _)
  intro _
  apply keeps_ite
  · intro _
    exact retries
  · intro _
    apply keeps_bind (relabelKeys_extends serverId server makeKsk _)
    intro _
    exact keeps_pure pair

theorem generateLabelledPair_extends (serverId : String) (params : GenerateParams)
    (makeKsk : Bool) (flags retries : Nat) :
    Preserves (fun state => start <+: state.2)
      (generateLabelledPair env source serverId params makeKsk flags retries) := by
  induction retries with
  | zero => exact preserves_throw _
  | succ retries induction =>
      unfold generateLabelledPair
      apply keeps_bind (unlabelled_extends _)
      intro ws
      split
      · exact preserves_throw _
      · apply keeps_bind (unlabelled_extends _)
        intro call
        apply keeps_bind (sendLabels_extends _)
        intro _
        apply keeps_bind (mapErr_extends _ _)
        intro pair
        exact keepOrRetry_extends induction pair

end Extends

/-- The pair is created under random labels, whatever happens then. -/
theorem create_mem_sent {serverId : String} {ws : WorkSpace} {sent : List LabelRequest}
    {server : KmipServerConnectionConfig}
    (known : ws.state.kmip.servers.lookup serverId = some server)
    (params : GenerateParams) (makeKsk : Bool) (flags retries : Nat) :
    .create (randomLabel source server.keyLabelConfig (source.publicBytes ws.calls))
        (randomLabel source server.keyLabelConfig (source.privateBytes ws.calls)) ∈
      (exec (generateLabelledPair env source serverId params makeKsk flags (retries + 1))
        (ws, sent)).2.2 := by
  have reads : exec (unlabelled get) (ws, sent) = (.ok ws, (ws, sent)) := rfl
  have counts : exec (unlabelled (perform nextCall)) (ws, sent) =
      (.ok ws.calls, ({ ws with calls := ws.calls + 1 }, sent)) := rfl
  let request : LabelRequest :=
    .create (randomLabel source server.keyLabelConfig (source.publicBytes ws.calls))
      (randomLabel source server.keyLabelConfig (source.privateBytes ws.calls))
  have sends : exec (sendLabels request) ({ ws with calls := ws.calls + 1 }, sent) =
      (.ok (), ({ ws with calls := ws.calls + 1 }, sent ++ [request])) := rfl
  rw [generateLabelledPair, exec_bind_of_ok reads, known]
  dsimp only
  rw [exec_bind_of_ok counts, exec_bind_of_ok sends]
  have extends_ : Preserves (fun state => sent ++ [request] <+: state.2) (do
      let pair ← mapErr (fun reason => s!"KMIP key generation failed: {reason}\n")
        (env.kmipGenerate ws.calls params flags)
      keepOrRetry env source serverId server makeKsk ws.state.keyset
        (generateLabelledPair env source serverId params makeKsk flags retries) pair) := by
    apply keeps_bind (mapErr_extends _ _)
    intro pair
    exact keepOrRetry_extends
      (generateLabelledPair_extends serverId params makeKsk flags retries) pair
  apply (extends_.final (List.prefix_refl _)).subset
  simp [request]

/-- The labels that a run of `new_keys` sends. -/
def sentLabels (env : Environment) (source : LabelSource) (makeKsk : Bool)
    (ws : WorkSpace) : List LabelRequest :=
  (exec (newLabelledKeys env source makeKsk) (ws, [])).2.2

/-- Nothing stops `new_keys` before it asks the server for a key pair. -/
def AsksServer (env : Environment) (ws : WorkSpace) : Prop :=
  ws.config.algorithm.bitsFit = true ∧ env.failure ws.calls = none

section Default

variable {ws : WorkSpace} {serverId : String} {server : KmipServerConnectionConfig}
  {makeKsk : Bool}

/-- With a default server the labels are those of the generated pairs. -/
theorem sentLabels_of_asks (hsm : ws.state.kmip.defaultServerId = some serverId)
    (known : ws.state.kmip.servers.lookup serverId = some server)
    (asks : AsksServer env ws) :
    sentLabels env source makeKsk ws =
      (exec (generateLabelledPair env source serverId ws.config.algorithm.generateParams
        makeKsk (flagsOf makeKsk) maxKeyTagTries) ({ ws with calls := ws.calls + 1 }, [])).2.2 := by
  have reads : exec (unlabelled get) (ws, ([] : List LabelRequest)) = (.ok ws, (ws, [])) := rfl
  have parameters := exec_toGenerateParams ws.config.algorithm (ws, ([] : List LabelRequest))
  rw [if_pos asks.1] at parameters
  have pool : exec (unlabelled (perform (getPool env ws.state.kmip serverId)))
      (ws, ([] : List LabelRequest)) = (.ok (), ({ ws with calls := ws.calls + 1 }, [])) := by
    rw [exec_unlabelled]
    cases exec_getPool env ws serverId with
    | inl found =>
        have ⟨_, _, _, run⟩ := found
        rw [run]
    | inr missing => exact absurd ⟨server, known, asks.2⟩ missing.1
  unfold sentLabels newLabelledKeys
  rw [exec_bind_of_ok reads, exec_bind_of_ok parameters, hsm]
  dsimp only
  rw [exec_bind_of_ok pool]
  exact congrArg Prod.snd (exec_bind_pure_state _ _ _)

theorem sentLabels_of_not_asks (hsm : ws.state.kmip.defaultServerId = some serverId)
    (stops : ¬AsksServer env ws) : sentLabels env source makeKsk ws = [] := by
  have reads : exec (unlabelled get) (ws, ([] : List LabelRequest)) = (.ok ws, (ws, [])) := rfl
  have parameters := exec_toGenerateParams ws.config.algorithm (ws, ([] : List LabelRequest))
  unfold sentLabels newLabelledKeys
  rw [exec_bind_of_ok reads]
  by_cases fits : ws.config.algorithm.bitsFit = true
  · rw [if_pos fits] at parameters
    rw [exec_bind_of_ok parameters, hsm]
    dsimp only
    have pool : ∃ reason final, exec (unlabelled (perform (getPool env ws.state.kmip serverId)))
        (ws, ([] : List LabelRequest)) = (.error (.error reason), (final, [])) := by
      rw [exec_unlabelled]
      cases exec_getPool env ws serverId with
      | inl found =>
          have ⟨_, _, answers, _⟩ := found
          exact absurd ⟨fits, answers⟩ stops
      | inr missing =>
          have ⟨reason, final, _, run⟩ := missing.2
          rw [run]
          exact ⟨reason, final, rfl⟩
    have ⟨reason, final, fails⟩ := pool
    rw [exec_bind_of_error fails]
  · rw [if_neg fits] at parameters
    rw [exec_bind_of_error parameters]

end Default

/-- Labels keep to the limit and name the key, and the two keys of a pair have
different ones. -/
structure LabelsSound (env : Environment) (source : LabelSource) (makeKsk : Bool)
    (ws : WorkSpace) (cfg : KeyLabelConfig) : Prop where
  sent : Bounded cfg.maxLabelBytes (sentLabels env source makeKsk ws)
  formatted : ∀ zoneName keyTag keyType suffix label,
    exec (formatKeyLabel source.names cfg.labelPrefix zoneName keyTag keyType suffix
        cfg.maxLabelBytes) () = (.ok label, ()) →
      FitsLimit cfg.labelPrefix keyTag keyType suffix cfg.maxLabelBytes label
  apart : ∀ zoneName keyTag keyType publicLabel privateLabel,
    exec (formatKeyLabel source.names cfg.labelPrefix zoneName keyTag keyType "-pub"
        cfg.maxLabelBytes) () = (.ok publicLabel, ()) →
      exec (formatKeyLabel source.names cfg.labelPrefix zoneName keyTag keyType "-pri"
          cfg.maxLabelBytes) () = (.ok privateLabel, ()) →
        publicLabel ≠ privateLabel

/-- The random labels take more bytes than the limit of the server. -/
theorem keyLabels_sound_iff
    (encodes : ∀ octets, (source.encodeStringHex octets).utf8ByteSize =
      (8 * octets.length + 4) / 5)
    {ws : WorkSpace} {serverId : String} {server : KmipServerConnectionConfig} (makeKsk : Bool)
    (hsm : ws.state.kmip.defaultServerId = some serverId)
    (known : ws.state.kmip.servers.lookup serverId = some server) :
    LabelsSound env source makeKsk ws server.keyLabelConfig ↔
      (AsksServer env ws → server.keyLabelConfig.maxLabelBytes = 0) := by
  constructor
  · intro sound asks
    have sent := sound.sent
    rw [sentLabels_of_asks hsm known asks] at sent
    have created := @create_mem_sent env source serverId { ws with calls := ws.calls + 1 } []
      server known ws.config.algorithm.generateParams makeKsk (flagsOf makeKsk) 9
    have fits := sent _ created _ (List.mem_cons_self)
    rw [utf8ByteSize_randomLabel encodes] at fits
    omega
  · intro emptied
    constructor
    · by_cases asks : AsksServer env ws
      · rw [sentLabels_of_asks hsm known asks, emptied asks]
        have within : (8 * server.keyLabelConfig.maxLabelBytes + 4) / 5 ≤ 0 := by
          have none_ := emptied asks
          omega
        have keeps := @generateLabelledPair_keeps env source 0 encodes serverId ws.state.kmip server
          known within ws.config.algorithm.generateParams makeKsk (flagsOf makeKsk) maxKeyTagTries
        apply keeps.final
        apply And.intro rfl
        intro request impossible
        cases impossible
      · rw [sentLabels_of_not_asks hsm asks]
        intro request impossible
        cases impossible
    · intro zoneName keyTag keyType suffix label formats
      exact (formatKeyLabel_reads _ _ _ _ _ _ _).yields.ok formats
    · intro zoneName keyTag keyType publicLabel privateLabel public_ private_
      have publicFits := (formatKeyLabel_reads _ _ _ _ _ _ _).yields.ok public_
      have privateFits := (formatKeyLabel_reads _ _ _ _ _ _ _).yields.ok private_
      exact publicFits.ne privateFits

end Requests

/-! ## Key generation without labels -/

section Refines

variable {env : Environment} {source : LabelSource}

/-- What is left of a run when the labels are forgotten. -/
def forget {Value : Type} (result : Except Fault Value × (WorkSpace × List LabelRequest)) :
    Except Fault Value × WorkSpace :=
  (result.1, result.2.1)

def Panics {Value : Type} (result : Except Fault Value × (WorkSpace × List LabelRequest)) :
    Prop :=
  ∃ message, result.1 = .error (.panic message)

/-- A label is there or there is an `Err`, unless making it panics. -/
theorem exec_capture_readableLabel (cfg : KeyLabelConfig) (name : Name) (keyTag : Nat)
    (makeKsk : Bool) (suffix : String) (state : WorkSpace × List LabelRequest) :
    (∃ label, exec (capture (readableLabel source cfg name keyTag makeKsk suffix)) state =
        (.ok label, state)) ∨
      ∃ message, exec (capture (readableLabel source cfg name keyTag makeKsk suffix)) state =
        (.error (.panic message), state) := by
  have kept := (@readableLabel_reads source cfg name keyTag makeKsk suffix state).1
  rw [exec_capture]
  rcases run : exec (readableLabel source cfg name keyTag makeKsk suffix) state with
    ⟨(message | message) | label, after⟩
  · rw [run] at kept
    cases kept
    exact Or.inl ⟨_, rfl⟩
  · rw [run] at kept
    cases kept
    exact Or.inr ⟨message, rfl⟩
  · rw [run] at kept
    cases kept
    exact Or.inl ⟨_, rfl⟩

/-- What comes of the requests to rename the keys of a pair. -/
def relabelOutcome (env : Environment) (source : LabelSource) (call : Nat) :
    Except String String → Except String String → RelabelOutcome
  | .ok _, .ok _ =>
      match env.failure (call + 1), source.renamePublic call with
      | some _, _ => .renamed
      | none, .error _ => .unsupported
      | none, .ok _ =>
          match source.renamePrivate call with
          | .ok _ => .renamed
          | .error message => .halfRenamed message
  | _, _ => .noLabel

/-- What the labels abstract from does for each outcome. -/
def relabelAs (env : Environment) (serverId : String) : RelabelOutcome → Run Unit
  | .noLabel => return ()
  | .renamed => perform (attempt env id)
  | .unsupported => do
      perform (attempt env id)
      modify fun ws => { ws with state.kmip := disableRelabeling serverId ws.state.kmip }
  | .halfRenamed message => do
      perform (attempt env id)
      bail s!"KMIP key generation failed: failed to re-label private key: {message}"

/-- Giving a pair its labels has one of the outcomes that the labels abstract from. -/
theorem relabelKeys_refines (serverId : String) (server : KmipServerConnectionConfig)
    (makeKsk : Bool) (keyTag : Nat) (ws : WorkSpace) (sent : List LabelRequest) :
    Panics (exec (relabelKeys env source serverId server makeKsk keyTag) (ws, sent)) ∨
      ∃ outcome, ∀ relabel : Nat → RelabelOutcome, relabel ws.calls = outcome →
        forget (exec (relabelKeys env source serverId server makeKsk keyTag) (ws, sent)) =
          exec (relabelPair { env with relabel } serverId server) ws := by
  have reads : exec (unlabelled get) (ws, sent) = (.ok ws, (ws, sent)) := rfl
  have counts : exec (unlabelled (perform nextCall)) (ws, sent) =
      (.ok ws.calls, ({ ws with calls := ws.calls + 1 }, sent)) := rfl
  have call : exec (perform nextCall) ws = (.ok ws.calls, { ws with calls := ws.calls + 1 }) :=
    rfl
  have connects := exec_attempt_perform env id { ws with calls := ws.calls + 1 }
  unfold relabelKeys
  by_cases supports : server.keyLabelConfig.supportsRelabeling = true
  · rw [if_pos supports, exec_bind_of_ok reads, exec_bind_of_ok counts]
    dsimp only
    have abstracts : ∀ relabel : Nat → RelabelOutcome,
        exec (relabelPair { env with relabel } serverId server) ws =
          exec (relabelAs env serverId (relabel ws.calls))
            { ws with calls := ws.calls + 1 } := by
      intro relabel
      unfold relabelPair
      rw [if_pos supports, exec_bind_of_ok call]
      rfl
    cases @exec_capture_readableLabel source server.keyLabelConfig ws.state.keyset.name keyTag
      makeKsk "-pub" ({ ws with calls := ws.calls + 1 }, sent) with
    | inr panics =>
        rcases panics with ⟨message, run⟩
        rw [exec_bind_of_error run]
        exact Or.inl ⟨message, rfl⟩
    | inl made =>
        rcases made with ⟨publicKeyLabel, run⟩
        rw [exec_bind_of_ok run]
        cases @exec_capture_readableLabel source server.keyLabelConfig ws.state.keyset.name keyTag
          makeKsk "-pri" ({ ws with calls := ws.calls + 1 }, sent) with
        | inr panics =>
            rcases panics with ⟨message, run⟩
            rw [exec_bind_of_error run]
            exact Or.inl ⟨message, rfl⟩
        | inl made =>
            rcases made with ⟨privateKeyLabel, run⟩
            rw [exec_bind_of_ok run]
            right
            apply Exists.intro
              (relabelOutcome env source ws.calls publicKeyLabel privateKeyLabel)
            intro relabel chosen
            rw [abstracts, chosen]
            unfold relabelAs relabelOutcome
            cases publicKeyLabel with
            | error reason => rfl
            | ok publicKeyLabel =>
                cases privateKeyLabel with
                | error reason => rfl
                | ok privateKeyLabel =>
                    dsimp only at connects ⊢
                    cases fails : env.failure (ws.calls + 1) with
                    | some reason =>
                        rw [fails] at connects
                        have refused : exec (unlabelled (perform (attempt env id)))
                            ({ ws with calls := ws.calls + 1 }, sent) = _ :=
                          (exec_unlabelled _ _ _).trans
                            (by rw [connects])
                        rw [exec_bind_of_error refused]
                        exact connects.symm
                    | none =>
                        rw [fails] at connects
                        have answers : exec (unlabelled (perform (attempt env id)))
                            ({ ws with calls := ws.calls + 1 }, sent) = _ :=
                          (exec_unlabelled _ _ _).trans
                            (by rw [connects])
                        rw [exec_bind_of_ok answers]
                        cases source.renamePublic ws.calls with
                        | error reason =>
                            dsimp only
                            rw [exec_bind_of_ok connects]
                            rfl
                        | ok _ =>
                            cases source.renamePrivate ws.calls with
                            | error message =>
                                dsimp only
                                rw [exec_bind_of_ok connects]
                                rfl
                            | ok _ => exact connects.symm
  · rw [if_neg supports]
    right
    apply Exists.intro RelabelOutcome.noLabel
    intro relabel _
    unfold relabelPair
    rw [if_neg supports]
    rfl

theorem panics_bind {Value Result : Type} {action : Labelled Value}
    {next : Value → Labelled Result} {state : WorkSpace × List LabelRequest}
    (panics : Panics (exec action state)) : Panics (exec (action >>= next) state) := by
  have ⟨message, fails⟩ := panics
  rcases run : exec action state with ⟨outcome, final⟩
  rw [run] at fails
  cases fails
  rw [exec_bind_of_error run]
  exact ⟨message, rfl⟩

/-- Forgetting the labels commutes with what follows a run. -/
theorem forget_bind {Value Result : Type} {action : Labelled Value} {plain : Run Value}
    {next : Value → Labelled Result} {rest : Value → Run Result}
    {state : WorkSpace × List LabelRequest} {ws : WorkSpace}
    (same : forget (exec action state) = exec plain ws)
    (later : ∀ value after sent, exec action state = (.ok value, (after, sent)) →
      forget (exec (next value) (after, sent)) = exec (rest value) after) :
    forget (exec (action >>= next) state) = exec (plain >>= rest) ws := by
  rcases run : exec action state with ⟨outcome, after, sent⟩
  have plainRun : exec plain ws = (outcome, after) := by
    rw [← same, run]
    rfl
  cases outcome with
  | error fault =>
      rw [exec_bind_of_error run, exec_bind_of_error plainRun]
      rfl
  | ok value =>
      rw [exec_bind_of_ok run, exec_bind_of_ok plainRun]
      exact later value after sent run

theorem forget_unlabelled {Value : Type} (action : Run Value) (ws : WorkSpace)
    (sent : List LabelRequest) :
    forget (exec (unlabelled action) (ws, sent)) = exec action ws := by
  rw [exec_unlabelled]
  rfl

theorem keepOrRetry_refines {serverId : String} {server : KmipServerConnectionConfig}
    {makeKsk : Bool} {keyset : KeySet} {again : Labelled KmipKeyPair}
    {plain : (Nat → RelabelOutcome) → Run KmipKeyPair}
    (retries : ∀ ws sent, Panics (exec again (ws, sent)) ∨
      ∃ relabel, forget (exec again (ws, sent)) = exec (plain relabel) ws)
    (pair : KmipKeyPair) (ws : WorkSpace) (sent : List LabelRequest) :
    Panics (exec (keepOrRetry env source serverId server makeKsk keyset again pair)
        (ws, sent)) ∨
      ∃ relabel, forget (exec
          (keepOrRetry env source serverId server makeKsk keyset again pair) (ws, sent)) =
        exec (do
          storePair pair
          if tagInUse keyset pair.dnskey.keyTag then
            plain relabel
          else do
            relabelPair { env with relabel } serverId server
            return pair) ws := by
  rcases run : exec (storePair pair) ws with ⟨outcome, after⟩
  have stored : exec (unlabelled (storePair pair)) (ws, sent) = (outcome, (after, sent)) := by
    rw [exec_unlabelled, run]
  unfold keepOrRetry
  cases outcome with
  | error fault =>
      right
      apply Exists.intro env.relabel
      rw [exec_bind_of_error stored, exec_bind_of_error run]
      rfl
  | ok _ =>
      rw [exec_bind_of_ok stored]
      by_cases used : tagInUse keyset pair.dnskey.keyTag = true
      · rw [if_pos used]
        cases retries after sent with
        | inl panics => exact Or.inl panics
        | inr refines =>
            have ⟨relabel, same⟩ := refines
            right
            apply Exists.intro relabel
            rw [exec_bind_of_ok run, if_pos used]
            exact same
      · rw [if_neg used]
        cases @relabelKeys_refines env source serverId server makeKsk pair.dnskey.keyTag after
          sent with
        | inl panics => exact Or.inl (panics_bind panics)
        | inr refines =>
            have ⟨outcome, same⟩ := refines
            right
            apply Exists.intro fun _ => outcome
            rw [exec_bind_of_ok run, if_neg used]
            apply forget_bind (same _ rfl)
            intro _ final others _
            rfl

theorem generateLabelledPair_refines (serverId : String) (params : GenerateParams)
    (makeKsk : Bool) (flags retries : Nat) (ws : WorkSpace) (sent : List LabelRequest) :
    Panics (exec (generateLabelledPair env source serverId params makeKsk flags retries)
        (ws, sent)) ∨
      ∃ relabel, forget (exec
          (generateLabelledPair env source serverId params makeKsk flags retries) (ws, sent)) =
        exec (generateUniquePair { env with relabel } serverId params flags retries) ws := by
  induction retries generalizing ws sent with
  | zero => exact Or.inr ⟨env.relabel, rfl⟩
  | succ retries induction =>
      have reads : exec (unlabelled get) (ws, sent) = (.ok ws, (ws, sent)) := rfl
      have counts : exec (unlabelled (perform nextCall)) (ws, sent) =
          (.ok ws.calls, ({ ws with calls := ws.calls + 1 }, sent)) := rfl
      rw [generateLabelledPair, exec_bind_of_ok reads]
      cases known : ws.state.kmip.servers.lookup serverId with
      | none => exact Or.inl ⟨_, rfl⟩
      | some server =>
          let request : LabelRequest :=
            .create (randomLabel source server.keyLabelConfig (source.publicBytes ws.calls))
              (randomLabel source server.keyLabelConfig (source.privateBytes ws.calls))
          have sends : exec (sendLabels request) ({ ws with calls := ws.calls + 1 }, sent) =
              (.ok (), ({ ws with calls := ws.calls + 1 }, sent ++ [request])) := rfl
          have round := fun relabel => @exec_generateUniquePair_succ { env with relabel } ws
            serverId server params flags retries known
          dsimp only at round ⊢
          rw [exec_bind_of_ok counts, exec_bind_of_ok sends]
          cases made : env.kmipGenerate ws.calls params flags with
          | error reason =>
              right
              apply Exists.intro env.relabel
              rw [round, made]
              rfl
          | ok pair =>
              have mapped : exec (mapErr (fun reason => s!"KMIP key generation failed: {reason}\n")
                  (.ok pair) : Labelled KmipKeyPair)
                  ({ ws with calls := ws.calls + 1 }, sent ++ [request]) =
                (.ok pair, ({ ws with calls := ws.calls + 1 }, sent ++ [request])) := rfl
              rw [exec_bind_of_ok mapped]
              have kept := @keepOrRetry_refines env source serverId server makeKsk ws.state.keyset
                (generateLabelledPair env source serverId params makeKsk flags retries)
                (fun relabel =>
                  generateUniquePair { env with relabel } serverId params flags retries)
                induction pair { ws with calls := ws.calls + 1 } (sent ++ [request])
              cases kept with
              | inl panics => exact Or.inl panics
              | inr refines =>
                  have ⟨relabel, same⟩ := refines
                  right
                  apply Exists.intro relabel
                  rw [round, made]
                  exact same

/-- Sending labels is all that they add to the generation of keys: unless making a label
panics, the run is one of `new_keys` for some outcome of the renaming. -/
theorem newLabelledKeys_refines (env : Environment) (source : LabelSource) (makeKsk : Bool)
    (ws : WorkSpace) (sent : List LabelRequest) :
    Panics (exec (newLabelledKeys env source makeKsk) (ws, sent)) ∨
      ∃ relabel, forget (exec (newLabelledKeys env source makeKsk) (ws, sent)) =
        exec (newKeys { env with relabel } makeKsk) ws := by
  have reads : exec (unlabelled get) (ws, sent) = (.ok ws, (ws, sent)) := rfl
  have parameters := exec_toGenerateParams ws.config.algorithm (ws, sent)
  unfold newLabelledKeys
  rw [exec_bind_of_ok reads]
  cases fits : ws.config.algorithm.bitsFit with
  | false =>
      rw [if_neg (by simp [fits])] at parameters
      rw [exec_bind_of_error parameters]
      exact Or.inl ⟨bitsDoNotFit, rfl⟩
  | true =>
      rw [if_pos fits] at parameters
      rw [exec_bind_of_ok parameters]
      cases asked : ws.state.kmip.defaultServerId with
      | none =>
          right
          apply Exists.intro env.relabel
          rw [exec_newKeys_files fits asked]
          apply forget_bind (forget_unlabelled _ ws sent)
          intro key after others _
          exact forget_unlabelled _ after others
      | some serverId =>
          dsimp only
          have pool := forget_unlabelled (perform (getPool env ws.state.kmip serverId)) ws sent
          rcases run : exec (unlabelled (perform (getPool env ws.state.kmip serverId))) (ws, sent)
            with ⟨outcome, after, others⟩
          have plain : exec (perform (getPool env ws.state.kmip serverId)) ws = (outcome, after) := by
            rw [← pool, run]
            rfl
          have hsm := fun relabel =>
            @exec_newKeys_hsm { env with relabel } ws makeKsk serverId fits asked
          cases outcome with
          | error fault =>
              right
              apply Exists.intro env.relabel
              rw [hsm, exec_bind_of_error run, exec_bind_of_error plain]
              rfl
          | ok _ =>
              rw [exec_bind_of_ok run]
              cases generateLabelledPair_refines serverId ws.config.algorithm.generateParams
                makeKsk (flagsOf makeKsk) maxKeyTagTries after others with
              | inl panics => exact Or.inl (panics_bind panics)
              | inr refines =>
                  have ⟨relabel, same⟩ := refines
                  right
                  apply Exists.intro relabel
                  have samePool : getPool { env with relabel } = getPool env := rfl
                  rw [hsm, samePool, exec_bind_of_ok plain]
                  apply forget_bind same
                  intro pair final _ _
                  rfl

end Refines

/-! ## Worked labels -/

namespace Reference

/-- Names without escapes. -/
def names : NameFormat where
  parse := fun text =>
    let labels := (text.toList.splitOn '.').map fun label => label.map Char.toUInt8
    let relative := if labels.getLast? = some [] then labels.dropLast else labels
    if relative.all fun label => !label.isEmpty && decide (label.length ≤ 63) then
      some (relative ++ [[]])
    else
      none
  display := fun labels =>
    ".".intercalate (labels.map fun label => String.ofList (label.map fun octet => Char.ofNat octet.toNat))

def labelSource : LabelSource where
  names := names
  encodeStringHex := Base32Hex.encode
  publicBytes := fun call index => UInt8.ofNat (7 * call + index)
  privateBytes := fun call index => UInt8.ofNat (11 * call + index)
  renamePublic := fun _ => .ok ()
  renamePrivate := fun _ => .ok ()

/-- A server that is configured to take no labels at all. -/
def bareServer : KmipServerConnectionConfig :=
  { hsmServer with keyLabelConfig.maxLabelBytes := 0 }

def bareDefault : WorkSpace :=
  { hsmDefault with state.kmip.servers := [("hsm", bareServer)] }

example : (exec (formatKeyLabel names "" "a.b.c.d.nlnetlabs.nl." "12345" "ksk" "" 20)
    ()).1.toOption = some "a.b.c..nl.-12345-ksk" := by decide +kernel

end Reference

theorem keyLabels_sound_bareDefault :
    LabelsSound Reference.onePair Reference.labelSource true Reference.bareDefault
      Reference.bareServer.keyLabelConfig :=
  (@keyLabels_sound_iff Reference.onePair Reference.labelSource Base32Hex.utf8ByteSize_encode
    Reference.bareDefault "hsm" Reference.bareServer true rfl rfl).mpr fun _ => rfl

/-- With the default limit of 32 bytes the random labels have 52. -/
theorem keyLabels_hsmDefault :
    ¬LabelsSound Reference.onePair Reference.labelSource true Reference.hsmDefault
      Reference.hsmServer.keyLabelConfig := by
  intro sound
  have long : ∃ request ∈ sentLabels Reference.onePair Reference.labelSource true
      Reference.hsmDefault, ∃ label ∈ request.labels, 32 < label.utf8ByteSize := by
    decide +kernel
  have ⟨request, sent, label, member, exceeds⟩ := long
  have fits := sound.sent request sent label member
  exact absurd exceeds (Nat.not_lt.mpr fits)

end Dnst.Keyset
