import Dnst.Keyset.Reference
import Dnst.Keyset.Runs

/-! # The update-ds command

Rolls ask for the DS RRset to be updated; that sets the flag on which an invocation
runs the update-ds command once the files are saved. Some subcommands rebuild the DS
RRset by themselves and leave the flag alone.
-/

namespace Dnst.Keyset

open Effect

/-! ## Where the command is run -/

/-- An invocation up to the update-ds command. The result says whether there was
something to save. -/
def beforeUpdateDs (env : Environment) (command : Commands) : Run Bool := do
  loadFiles env
  let changed ← compute env command
  onlyIf changed (persist env)
  return changed

/-- The invocation comes to the update-ds command in the given workspace. -/
structure RunsUpdateDs (env : Environment) (command : Commands) (system : System)
    (ws : WorkSpace) : Prop where
  reached : exec (beforeUpdateDs env command) system.load = (.ok true, ws)
  flagged : ws.runUpdateDsCommand = true
  configured : ws.config.updateDsCommand ≠ []

/-- What comes before the update-ds command, from where everything has been computed. -/
theorem beforeUpdateDs_ok {env : Environment} {command : Commands} {system : System}
    {ws : WorkSpace}
    (run : exec (beforeUpdateDs env command) system.load = (.ok true, ws)) :
    ∃ computed, exec (do loadFiles env; compute env command) system.load =
        (.ok true, computed) ∧
      exec (persist env) computed = (.ok ⟨⟩, ws) := by
  unfold beforeUpdateDs at run
  rw [← bind_assoc] at run
  rcases exec_bind_eq_ok.mp run with ⟨changed, computed, computing, rest⟩
  rcases exec_bind_eq_ok.mp rest with ⟨value, saved, saving, returns⟩
  cases returns
  exact ⟨computed, computing, saving⟩

theorem beforeUpdateDs_of_ok {env : Environment} {command : Commands} {system : System}
    {computed ws : WorkSpace}
    (computing : exec (do loadFiles env; compute env command) system.load =
      (.ok true, computed))
    (saving : exec (persist env) computed = (.ok ⟨⟩, ws)) :
    exec (beforeUpdateDs env command) system.load = (.ok true, ws) := by
  unfold beforeUpdateDs
  rw [← bind_assoc, exec_bind_of_ok computing]
  exact exec_bind_of_ok saving

/-- The command is the last thing that an invocation does. -/
theorem run_of_runsUpdateDs {env : Environment} {command : Commands} {system : System}
    {ws : WorkSpace} (runs : RunsUpdateDs env command system ws) :
    exec (do loadFiles env; run env command) system.load =
      exec (perform (executeCommand env (ws.config.updateDsCommand.headD ""))) ws := by
  rcases beforeUpdateDs_ok runs.reached with ⟨computed, computing, saving⟩
  have nonempty : ws.config.updateDsCommand.isEmpty = false :=
    List.isEmpty_eq_false_iff.mpr runs.configured
  unfold run
  rw [← bind_assoc, exec_bind_of_ok computing]
  change exec (do persist env; updateDs env) computed = _
  rw [exec_bind_of_ok saving]
  unfold updateDs
  rw [exec_bind_of_ok (exec_get ws), runs.flagged, nonempty]
  rfl

/-! ## Subcommands that take no step of a roll -/

/-- Whether a subcommand can start a roll or take a step of one. -/
def Commands.runsRolls (keyset : KeySet) : Commands → Bool
  | .init => !startsWithImported keyset
  | .roll _ _ => true
  | .cron => true
  | _ => false

theorem quietSubcommand_triple {env : Environment} {invariant : WorkSpace → Prop}
    {failed : Fault → WorkSpace → Prop} (storage : Storage env invariant failed fun _ => True)
    (signing : Signing env invariant failed)
    (kmipStable : KmipStable invariant) (configStable : ConfigStable invariant)
    (now : UnixTime) (command : Commands) :
    Triple (fun ws => invariant ws ∧ command.runsRolls ws.state.keyset = false ∧
        (command.rebuildsDs ws.state.keyset = true → SilentDs env invariant))
      (subcommand env now command) (fun _ => invariant) failed := by
  have tolerant := storage.toTolerant
  cases command with
  | init =>
      refine triple_bind_get fun ws holds => triple_drop ?_
      rcases holds with ⟨_, quiet, silent⟩
      have imported : startsWithImported ws.state.keyset = true := by
        simpa [Commands.runsRolls] using quiet
      refine keeps_bind (refuseIf_keeps tolerant _ _) fun _ => ?_
      refine keeps_ite (fun _ => ?_) fun fresh => absurd imported fresh
      exact keeps_bind (updateDnskeyRrset_keeps signing) fun _ =>
        keeps_bind (updateDsRrset_keeps signing (silent imported)) fun _ =>
          markStateChanged_keeps storage.toEditing
  | roll variant subcommand =>
      refine triple_pointwise fun ws holds => ?_
      exact absurd holds.2.1 (by simp [Commands.runsRolls])
  | importKey subcommand =>
      refine triple_pointwise fun ws holds => ?_
      have imported := importCommand_keeps storage.toEditing signing (holds.2.2 rfl) subcommand
      refine triple_weaken imported ?_ (fun _ _ after => after) (fun _ _ after => after)
      rintro _ rfl
      exact holds.1
  | removeKey key force continueFlag =>
      refine triple_pointwise fun ws holds => ?_
      have removed : Triple (fun ws => invariant ws ∧ True)
          (removeKeySubcommand env key force continueFlag) (fun _ => invariant) failed :=
        removeKeySubcommand_triple storage (fun _ _ _ _ _ => keyTouches_true _ _ _)
          force continueFlag signing holds.2.2
      refine triple_weaken removed ?_ (fun _ _ after => after) (fun _ _ after => after)
      rintro _ rfl
      exact ⟨holds.1, trivial⟩
  | status verbose => exact triple_drop (status_keeps storage.toEditing verbose)
  | actions => exact triple_drop (keeps_pure _)
  | keys => exact triple_drop (keeps_pure _)
  | get subcommand => exact triple_drop (getCommand_keeps tolerant subcommand)
  | set subcommand => exact triple_drop (setCommand_keeps tolerant configStable subcommand)
  | showConfig => exact triple_drop (keeps_pure _)
  | cron =>
      refine triple_pointwise fun ws holds => ?_
      exact absurd holds.2.1 (by simp [Commands.runsRolls])
  | kmip subcommand => exact triple_drop (kmipCommand_keeps tolerant kmipStable subcommand)

theorem rollSubcommand_triple {env : Environment} {invariant : WorkSpace → Prop}
    {failed : Fault → WorkSpace → Prop} (phases : Phases env invariant failed)
    (storage : Storage env invariant failed fun _ => True)
    (fresh : Triple (fun ws => invariant ws ∧ startsWithImported ws.state.keyset = false)
      (init env) (fun _ => invariant) failed)
    (now : UnixTime) (command : Commands) :
    Triple (fun ws => invariant ws ∧ command.runsRolls ws.state.keyset = true)
      (subcommand env now command) (fun _ => invariant) failed := by
  cases command with
  | init =>
      refine triple_weaken fresh ?_ (fun _ _ after => after) (fun _ _ after => after)
      intro ws holds
      exact ⟨holds.1, by simpa [Commands.runsRolls] using holds.2⟩
  | roll variant subcommand =>
      exact triple_drop (rollCommand_keeps phases.toOpenings subcommand variant)
  | cron => exact triple_drop (cron_keeps phases now (autoremovePhase_keeps storage))
  | _ => exact fun ws holds => absurd holds.2 (by simp [Commands.runsRolls])

/-- The update-ds command is not going to run, and the DS RRset is the given one. -/
def Quiet (records : List Record → Prop) (ws : WorkSpace) : Prop :=
  ws.runUpdateDsCommand = false ∧ records ws.state.dsRrset

theorem quiet_storage (env : Environment) (records : List Record → Prop) :
    Storage env (Quiet records) (fun _ _ => True) fun _ => True where
  fails := fun _ _ _ _ => trivial
  calls := fun _ _ quiet => quiet
  stateChanged := fun _ quiet => quiet
  keySet := fun _ _ quiet _ => quiet
  cronNext := fun _ _ quiet => quiet
  relabeled := fun _ _ quiet => quiet
  entry := fun _ _ _ _ _ _ _ _ => trivial
  absent := fun _ _ _ _ => trivial
  newFile := fun _ _ _ _ _ _ _ _ => trivial
  newPair := fun _ _ _ _ _ => ⟨fun _ _ => trivial, fun _ _ => trivial⟩
  keyStore := fun _ _ _ quiet _ => quiet

theorem quiet_signing (env : Environment) (records : List Record → Prop) :
    Signing env (Quiet records) fun _ _ => True where
  toTolerant := (quiet_storage env records).toTolerant
  dnskeyRrset := fun _ _ _ _ quiet _ => quiet
  cdsRrset := fun _ _ _ _ quiet _ => quiet

/-! ## Subcommands that take steps of rolls -/

/-- The config is the one that was loaded, and so is the DS RRset unless the update-ds
command is going to run. -/
def Announcing (system : System) (ws : WorkSpace) : Prop :=
  (ws.runUpdateDsCommand = true ∨ ws.state.dsRrset = system.state.dsRrset) ∧
    ws.config = system.config ∧ ws.configChanged = false

theorem announcing_rebuilding (env : Environment) (system : System) :
    Rebuilding env (Announcing system) fun _ _ => True where
  fails := fun _ _ _ _ => trivial
  calls := fun _ _ announcing => announcing
  dnskeyRrset := fun _ _ _ _ announcing _ => announcing
  cdsRrset := fun _ _ _ _ announcing _ => announcing
  runUpdateDsCommand := fun _ announcing => ⟨Or.inl rfl, announcing.2⟩
  cdsRemoved := fun _ announcing => announcing
  dsRrset := fun _ _ _ _ announcing flagged _ => ⟨Or.inl flagged, announcing.2⟩

theorem announcing_custody (env : Environment) (system : System) :
    Custody env (Announcing system) (fun _ _ => True) fun _ => True where
  toRebuilding := announcing_rebuilding env system
  stateChanged := fun _ announcing => announcing
  keySet := fun _ _ announcing _ => announcing
  cronNext := fun _ _ announcing => announcing
  relabeled := fun _ _ announcing => announcing
  entry := fun _ _ _ _ _ _ _ _ => trivial
  done := fun roll => keeps_bind (doDone_triple (announcing_rebuilding env system).toTolerant roll
      (fun _ _ _ _ _ _ _ => trivial) fun _ _ _ _ announcing _ => announcing) fun _ =>
    keeps_modify fun _ announcing => announcing
  starts := by
    intro roll actions
    refine triple_weaken (finishStart_keeps (announcing_rebuilding env system)
      (fun _ _ announcing => announcing) roll actions) ?_ (fun _ _ after => after)
      (fun _ _ after => after)
    rintro ws ⟨before, now, old, new, keyset, announcing, _, _, rfl⟩
    exact announcing
  absent := fun _ _ _ _ => trivial
  newFile := fun _ _ _ _ _ _ _ _ => trivial
  newPair := fun _ _ _ _ _ => ⟨fun _ _ => trivial, fun _ _ => trivial⟩
  keyStore := fun _ _ _ announcing _ => announcing

/-- A computation that marks the state as changed before it returns. -/
def Marks {Value : Type} (action : Run Value) : Prop :=
  Triple (fun _ => True) action (fun _ ws => ws.stateChanged = true) fun _ _ => True

theorem marks_markStateChanged : Marks markStateChanged := triple_modify fun _ _ => rfl

theorem marks_bind {Value Result : Type} {action : Run Value} {next : Value → Run Result}
    (later : ∀ value, Marks (next value)) : Marks (action >>= next) :=
  triple_bind (triple_of_runs (fun _ _ _ _ _ => trivial) fun _ _ _ _ _ => trivial) later

/-- The update-ds command only runs in an invocation that saves the state. -/
def Marked (ws : WorkSpace) : Prop :=
  ws.runUpdateDsCommand = true → ws.stateChanged = true

theorem Marks.keeps {Value : Type} {action : Run Value} (marks : Marks action) :
    Keeps Marked (fun _ _ => True) action :=
  triple_weaken marks (fun _ _ => trivial) (fun _ _ changed _ => changed) fun _ _ _ => trivial

theorem marked_storage (env : Environment) :
    Storage env Marked (fun _ _ => True) fun _ => True where
  fails := fun _ _ _ _ => trivial
  calls := fun _ _ marked => marked
  stateChanged := fun _ _ _ => rfl
  keySet := fun _ _ marked _ => marked
  cronNext := fun _ _ marked => marked
  relabeled := fun _ _ marked => marked
  entry := fun _ _ _ _ _ _ _ _ => trivial
  absent := fun _ _ _ _ => trivial
  newFile := fun _ _ _ _ _ _ _ _ => trivial
  newPair := fun _ _ _ _ _ => ⟨fun _ _ => trivial, fun _ _ => trivial⟩
  keyStore := fun _ _ _ marked _ => marked

/-- Every step that can ask for the update-ds command ends with a mark. -/
theorem marked_phases (env : Environment) : Phases env Marked fun _ _ => True := by
  have stepping : Stepping env Marked fun _ _ => True :=
    { toEditing := (marked_storage env).toEditing
      dnskeyRrset := fun _ _ _ _ marked _ => marked
      cdsRrset := fun _ _ _ _ marked _ => marked
      act := fun roll actions keyset ws marked _ =>
        triple_weaken (marks_bind fun _ => marks_bind fun _ => marks_markStateChanged)
          (fun _ _ => trivial) (fun _ _ changed _ => changed) fun _ _ _ => trivial
      done := fun _ => Marks.keeps (marks_bind fun _ => marks_markStateChanged) }
  refine stepping.phases (fun _ _ _ marked _ _ _ _ => marked) (stepping.openings fun _ => ?_)
  exact Marks.keeps (marks_bind fun _ => marks_markStateChanged)

theorem init_marks (env : Environment) : Marks (init env) := by
  refine marks_bind fun ws => marks_bind fun _ => ?_
  refine triple_ite (fun _ => ?_) fun _ => ?_
  · exact marks_bind fun _ => marks_bind fun _ => marks_markStateChanged
  · exact marks_bind fun _ => marks_bind fun _ => marks_markStateChanged

theorem marked_rollSubcommand (env : Environment) (now : UnixTime) (command : Commands) :
    Triple (fun ws => Marked ws ∧ command.runsRolls ws.state.keyset = true)
      (subcommand env now command) (fun _ => Marked) fun _ _ => True := by
  apply rollSubcommand_triple (marked_phases env) (marked_storage env)
  exact triple_weaken (init_marks env).keeps (fun _ holds => holds.1) (fun _ _ after => after)
    fun _ _ after => after

theorem announcing_rollSubcommand (env : Environment) (now : UnixTime) (command : Commands)
    (system : System) :
    Triple (fun ws => Announcing system ws ∧ command.runsRolls ws.state.keyset = true)
      (subcommand env now command) (fun _ => Announcing system) fun _ _ => True := by
  have custody := announcing_custody env system
  apply rollSubcommand_triple (custody.phases fun _ _ _ announcing _ _ _ _ => announcing)
    custody.toStorage
  refine triple_weaken (init_triple custody) ?_ (fun _ _ after => after) fun _ _ after => after
  rintro ws ⟨announcing, fresh⟩
  refine ⟨announcing, fun imported => ?_⟩
  rw [fresh] at imported
  cases imported

/-! ## What an invocation has computed -/

section Computed

variable {env : Environment} {command : Commands} {system : System}
variable {changed : Bool} {computed : WorkSpace}

/-- An invariant of the workspace that has been loaded and of all that follows. -/
theorem computed_of_triple {invariant known : WorkSpace → Prop}
    (editing : Editing env invariant fun _ _ => True) (counted : CallStable known)
    (subcommands : ∀ now, Triple (fun ws => invariant ws ∧ known ws)
      (subcommand env now command) (fun _ => invariant) fun _ _ => True)
    (loaded : invariant system.load) (start : known system.load)
    (run : exec (do loadFiles env; compute env command) system.load = (.ok changed, computed)) :
    invariant computed := by
  have counts : CallStable fun ws => invariant ws ∧ known ws := fun ws calls holds =>
    ⟨editing.calls ws calls holds.1, counted ws calls holds.2⟩
  have loads : Triple (fun ws => invariant ws ∧ known ws) (loadFiles env)
      (fun _ ws => invariant ws ∧ known ws) fun _ _ => True :=
    triple_weaken (perform_counts counts _) (fun _ holds => holds) (fun _ _ after => after)
      fun _ _ _ => trivial
  have whole := triple_bind loads fun _ => compute_triple editing counted subcommands
  exact whole.ok ⟨loaded, start⟩ run

/-- Only rolls ask for the update-ds command. -/
theorem quiet_of_computed (quiet : command.runsRolls system.state.keyset = false)
    (run : exec (do loadFiles env; compute env command) system.load = (.ok changed, computed)) :
    computed.runUpdateDsCommand = false := by
  have storage := quiet_storage env fun _ => True
  have silent : SilentDs env (Quiet fun _ => True) := fun _ _ _ _ still _ => ⟨still.1, trivial⟩
  have subcommands : ∀ now, Triple
      (fun ws => Quiet (fun _ => True) ws ∧ command.runsRolls ws.state.keyset = false ∧
        (command.rebuildsDs ws.state.keyset = true → SilentDs env (Quiet fun _ => True)))
      (subcommand env now command) (fun _ => Quiet fun _ => True) fun _ _ => True :=
    fun now => quietSubcommand_triple storage (quiet_signing env _) (fun _ _ _ still => still)
      (fun _ _ still => still) now command
  have still := computed_of_triple storage.toEditing (fun _ _ holds => holds) subcommands
    ⟨rfl, trivial⟩ ⟨quiet, fun _ => silent⟩ run
  exact still.1

/-- A run that asks for the update-ds command saves the state and nothing else. -/
theorem saved_of_flagged
    (run : exec (do loadFiles env; compute env command) system.load = (.ok changed, computed))
    (flagged : computed.runUpdateDsCommand = true) :
    computed.stateChanged = true ∧ computed.configChanged = false ∧
      computed.config = system.config := by
  cases rolls : command.runsRolls system.state.keyset with
  | false =>
      rw [quiet_of_computed rolls run] at flagged
      cases flagged
  | true =>
      have marked := computed_of_triple (marked_storage env).toEditing
        (fun _ _ holds => holds) (fun now => marked_rollSubcommand env now command)
        (fun off => by cases off) rolls run
      have announcing := computed_of_triple
        (announcing_custody env system).toEditing (fun _ _ holds => holds)
        (fun now => announcing_rollSubcommand env now command system)
        ⟨Or.inr rfl, rfl, rfl⟩ rolls run
      exact ⟨marked flagged, announcing.2.2, announcing.2.1⟩

/-- A subcommand that leaves the DS RRset to the rolls changes it only with the flag. -/
theorem flagged_of_computed (indirect : command.rebuildsDs system.state.keyset = false)
    (run : exec (do loadFiles env; compute env command) system.load = (.ok changed, computed)) :
    computed.runUpdateDsCommand = true ∨ computed.state.dsRrset = system.state.dsRrset := by
  cases rolls : command.runsRolls system.state.keyset with
  | false =>
      have storage := quiet_storage env (· = system.state.dsRrset)
      have still := computed_of_triple storage.toEditing (fun _ _ holds => holds)
        (fun now => quietSubcommand_triple storage (quiet_signing env _)
          (fun _ _ _ still => still) (fun _ _ still => still) now command)
        ⟨rfl, rfl⟩ ⟨rolls, fun direct => absurd (indirect.symm.trans direct) (by decide)⟩ run
      exact Or.inr still.2
  | true =>
      have announcing := computed_of_triple
        (announcing_custody env system).toEditing (fun _ _ holds => holds)
        (fun now => announcing_rollSubcommand env now command system)
        ⟨Or.inr rfl, rfl, rfl⟩ rolls run
      exact announcing.1

end Computed

/-! ## Subcommands that rebuild the DS RRset by themselves -/

/-- The DNSKEY RRset is brought up to date when it is not empty. -/
def refreshDnskeyRrset (env : Environment) : Run Unit := do
  let ws ← get
  onlyIf (!ws.state.dnskeyRrset.isEmpty) (updateDnskeyRrset env)

/-- What a subcommand does before it rebuilds the DS RRset by itself. -/
def untilDsRebuild (env : Environment) : Commands → Run Unit
  | .init => updateDnskeyRrset env
  | .importKey subcommand => do
      let ws ← get
      let now ← perform (faketimeOrNow env ws.config)
      match subcommand with
      | .publicKey path => importPublicKey env path now
      | .ksk subcommand => importKeyCommand env subcommand .ksk
      | .zsk subcommand => importKeyCommand env subcommand .zsk
      | .csk subcommand => importKeyCommand env subcommand .csk
      markStateChanged
      refreshDnskeyRrset env
  | .removeKey key force continueFlag => do
      removeKeyCommand env key force continueFlag
      refreshDnskeyRrset env
  | _ => return ()

/-- `init` rebuilds the DS RRset in any case, the others only one that is not empty. -/
def Commands.rebuildsAt (ws : WorkSpace) : Commands → Bool
  | .init => true
  | _ => !ws.state.dsRrset.isEmpty

/-- The workspace in which a subcommand comes to rebuild the DS RRset by itself. -/
def ComesToDsRebuild (env : Environment) (command : Commands) (system : System)
    (ws : WorkSpace) : Prop :=
  command.rebuildsDs system.state.keyset = true ∧ command.rebuildsAt ws = true ∧
    exec (do
      loadFiles env
      let ws ← get
      let _ ← perform (faketimeOrNow env ws.config)
      untilDsRebuild env command) system.load = (.ok ⟨⟩, ws)

/-- What a subcommand does after it has rebuilt the DS RRset by itself. -/
def afterDsRebuild (env : Environment) : Commands → Run Unit
  | .init => markStateChanged
  | .importKey _ => do
      let ws ← get
      onlyIf (!ws.state.cdsRrset.isEmpty) (createCdsRrset env)
  | _ => do
      let ws ← get
      onlyIf (!ws.state.cdsRrset.isEmpty) (createCdsRrset env)
      markStateChanged

/-- The subcommand with the rebuilding of the DS RRset made explicit. -/
def aroundDsRebuild (env : Environment) (command : Commands) : Run Unit := do
  untilDsRebuild env command
  let ws ← get
  onlyIf (command.rebuildsAt ws) (updateDsRrset env)
  afterDsRebuild env command

theorem importCommand_eq (env : Environment) (subcommand : ImportCommands) :
    importCommand env subcommand = aroundDsRebuild env (.importKey subcommand) := by
  cases subcommand <;>
    simp only [importCommand, refreshRrsets, aroundDsRebuild, untilDsRebuild,
      refreshDnskeyRrset, afterDsRebuild, Commands.rebuildsAt, bind_assoc]

theorem removeKeySubcommand_eq (env : Environment) (key : String) (continueFlag : Bool) :
    removeKeySubcommand env key true continueFlag =
      aroundDsRebuild env (.removeKey key true continueFlag) := by
  change (do
    removeKeyCommand env key true continueFlag
    refreshRrsets env
    markStateChanged) = _
  simp only [refreshRrsets, aroundDsRebuild, untilDsRebuild, refreshDnskeyRrset,
    afterDsRebuild, Commands.rebuildsAt, bind_assoc]

/-- Imported keys that have not been started with. -/
theorem init_ok {env : Environment} {ws final : WorkSpace}
    (imported : startsWithImported ws.state.keyset = true)
    (run : exec (init env) ws = (.ok ⟨⟩, final)) :
    exec (aroundDsRebuild env .init) ws = (.ok ⟨⟩, final) := by
  unfold init at run
  rw [exec_bind_of_ok (exec_get ws)] at run
  rcases exec_bind_eq_ok.mp run with ⟨_, allowed, refusal, rest⟩
  have same : allowed = ws := by
    unfold refuseIf at refusal
    split at refusal
    · cases refusal
    · cases refusal
      rfl
  rw [same] at rest
  dsimp only at rest
  split at rest
  · exact rest
  · next absent => exact absurd imported absent

theorem subcommand_ok {env : Environment} {now : UnixTime} {command : Commands}
    {ws final : WorkSpace} (direct : command.rebuildsDs ws.state.keyset = true)
    (run : exec (subcommand env now command) ws = (.ok ⟨⟩, final)) :
    exec (aroundDsRebuild env command) ws = (.ok ⟨⟩, final) := by
  cases command with
  | init => exact init_ok direct run
  | importKey subcommand =>
      rw [← importCommand_eq]
      exact run
  | removeKey key force continueFlag =>
      have forced : force = true := direct
      rw [forced, ← removeKeySubcommand_eq]
      rw [forced] at run
      exact run
  | _ => cases direct

theorem aroundDsRebuild_marks {env : Environment} {keyset : KeySet} {command : Commands}
    (direct : command.rebuildsDs keyset = true) : Marks (aroundDsRebuild env command) := by
  cases command with
  | init =>
      exact marks_bind fun _ => marks_bind fun _ => marks_bind fun _ => marks_markStateChanged
  | importKey subcommand =>
      have stays := (@stateChanged_lawful env).custody.toSigning
      have cds : Preserves (fun ws => ws.stateChanged = true)
          (afterDsRebuild env (.importKey subcommand)) :=
        keeps_bind keeps_get fun _ => onlyIf_keeps (createCdsRrset_keeps stays)
      have ds : Preserves (fun ws => ws.stateChanged = true) (do
          let ws ← get
          onlyIf ((Commands.importKey subcommand).rebuildsAt ws) (updateDsRrset env)
          afterDsRebuild env (.importKey subcommand)) :=
        keeps_bind keeps_get fun _ =>
          keeps_bind (onlyIf_keeps (updateDsRrset_keeps stays stateChanged_stable.silentDs))
            fun _ => cds
      have dnskey : Preserves (fun ws => ws.stateChanged = true) (refreshDnskeyRrset env) :=
        keeps_bind keeps_get fun _ => onlyIf_keeps (updateDnskeyRrset_keeps stays)
      have marks : Marks (untilDsRebuild env (.importKey subcommand)) := by
        have refreshed : Marks (do markStateChanged; refreshDnskeyRrset env) :=
          triple_bind marks_markStateChanged fun _ =>
            triple_weaken dnskey (fun _ changed => changed) (fun _ _ changed => changed)
              fun _ _ _ => trivial
        unfold untilDsRebuild
        refine marks_bind fun _ => marks_bind fun _ => ?_
        cases subcommand <;> exact marks_bind fun _ => refreshed
      exact triple_bind marks fun _ => triple_weaken ds (fun _ changed => changed)
        (fun _ _ changed => changed) fun _ _ _ => trivial
  | removeKey key force continueFlag =>
      exact marks_bind fun _ => marks_bind fun _ => marks_bind fun _ => marks_bind fun _ =>
        marks_bind fun _ => marks_markStateChanged
  | _ => cases direct

section Direct

variable {env : Environment} {command : Commands} {system : System}
variable {changed : Bool} {computed : WorkSpace}

/-- The keys change before the DS RRset does. -/
theorem untilDsRebuild_quiet (env : Environment) (command : Commands) (records : List Record) :
    Keeps (Quiet (· = records)) (fun _ _ => True) (untilDsRebuild env command) := by
  have storage := quiet_storage env (· = records)
  have signing := quiet_signing env (· = records)
  have dnskey : Keeps (Quiet (· = records)) (fun _ _ => True) (refreshDnskeyRrset env) :=
    keeps_bind keeps_get fun _ => onlyIf_keeps (updateDnskeyRrset_keeps signing)
  cases command with
  | init => exact updateDnskeyRrset_keeps signing
  | importKey subcommand =>
      have refreshed : ∀ _ : PUnit, Keeps (Quiet (· = records)) (fun _ _ => True) (do
          markStateChanged
          refreshDnskeyRrset env) := fun _ =>
        keeps_bind (markStateChanged_keeps storage.toEditing) fun _ => dnskey
      unfold untilDsRebuild
      refine keeps_bind keeps_get fun ws => ?_
      refine keeps_bind (faketimeOrNow_keeps storage.calls _) fun now => ?_
      cases subcommand with
      | publicKey path =>
          exact keeps_bind (importPublicKey_keeps storage.toEditing path now) refreshed
      | ksk subcommand =>
          exact keeps_bind (importKeyCommand_keeps storage.toEditing subcommand .ksk) refreshed
      | zsk subcommand =>
          exact keeps_bind (importKeyCommand_keeps storage.toEditing subcommand .zsk) refreshed
      | csk subcommand =>
          exact keeps_bind (importKeyCommand_keeps storage.toEditing subcommand .csk) refreshed
  | removeKey key force continueFlag =>
      have removed : Triple (fun ws => Quiet (· = records) ws ∧ True)
          (removeKeyCommand env key force continueFlag) (fun _ => Quiet (· = records))
          fun _ _ => True :=
        removeKeyCommand_triple storage (fun _ _ _ _ _ => keyTouches_true _ _ _) force
          continueFlag
      exact keeps_bind (keeps_of_and_true removed) fun _ => dnskey
  | _ => exact keeps_pure _

theorem afterDsRebuild_quiet (env : Environment) (command : Commands) (records : List Record) :
    Keeps (Quiet (· = records)) (fun _ _ => True) (afterDsRebuild env command) := by
  have storage := quiet_storage env (· = records)
  have marks := markStateChanged_keeps storage.toEditing
  have cds := createCdsRrset_keeps (quiet_signing env (· = records))
  cases command with
  | init => exact marks
  | importKey subcommand => exact keeps_bind keeps_get fun _ => onlyIf_keeps cds
  | _ => exact keeps_bind keeps_get fun _ => keeps_bind (onlyIf_keeps cds) fun _ => marks

/-- What a subcommand that rebuilds the DS RRset by itself makes of it. -/
theorem direct_of_computed (direct : command.rebuildsDs system.state.keyset = true)
    (run : exec (do loadFiles env; compute env command) system.load = (.ok changed, computed)) :
    changed = true ∧ computed.stateChanged = true ∧ computed.runUpdateDsCommand = false ∧
      ((∃ ws records calls, ComesToDsRebuild env command system ws ∧
          exec (dsRrset env ws) ws.calls = (.ok records, calls) ∧
          computed.state.dsRrset = records) ∨
        (∀ ws, ¬ComesToDsRebuild env command system ws) ∧
          computed.state.dsRrset = system.state.dsRrset) := by
  rcases exec_bind_eq_ok.mp run with ⟨_, loaded, loads, computing⟩
  rcases exec_perform_eq_ok loads with ⟨_, _, rfl⟩
  unfold compute at computing
  rw [exec_bind_of_ok (exec_get _)] at computing
  rcases exec_bind_eq_ok.mp computing with ⟨now, ticked, ticks, rest⟩
  rcases exec_perform_eq_ok ticks with ⟨_, _, rfl⟩
  rcases exec_bind_eq_ok.mp rest with ⟨_, done, commanded, rest⟩
  have around := subcommand_ok direct commanded
  have marked := (aroundDsRebuild_marks direct).ok trivial around
  rw [exec_bind_of_ok (exec_get done), marked, Bool.or_true, if_pos rfl] at rest
  rcases exec_bind_eq_ok.mp rest with ⟨_, scheduled, schedule, returns⟩
  cases returns
  have stillMarked : computed.stateChanged = true :=
    (updateCronNext_keeps stateChanged_stable.routine.toEditing now).ok marked schedule
  rcases exec_bind_eq_ok.mp around with ⟨_, middle, changing, rest⟩
  rw [exec_bind_of_ok (exec_get middle)] at rest
  rcases exec_bind_eq_ok.mp rest with ⟨_, rebuilt, rebuilding, finishing⟩
  have quiet := (untilDsRebuild_quiet env command system.state.dsRrset).ok ⟨rfl, rfl⟩ changing
  have comes : exec (do
      loadFiles env
      let ws ← get
      let _ ← perform (faketimeOrNow env ws.config)
      untilDsRebuild env command) system.load = (.ok ⟨⟩, middle) := by
    rw [exec_bind_of_ok loads, exec_bind_of_ok (exec_get _), exec_bind_of_ok ticks]
    exact changing
  have final : ∀ {records}, Quiet (· = records) rebuilt →
      computed.runUpdateDsCommand = false ∧ computed.state.dsRrset = records := by
    intro records before
    have after := (afterDsRebuild_quiet env command records).ok before finishing
    exact (updateCronNext_keeps (quiet_storage env (· = records)).toEditing now).ok after schedule
  cases rebuilds : command.rebuildsAt middle with
  | true =>
      rw [rebuilds] at rebuilding
      rcases exec_bind_eq_ok.mp rebuilding with ⟨known, start, read, rest⟩
      cases read
      rcases exec_bind_eq_ok.mp rest with ⟨records, counted, building, stores⟩
      rcases exec_perform_eq_ok building with ⟨calls, built, rfl⟩
      cases stores
      have after := final ⟨quiet.1, rfl⟩
      exact ⟨rfl, stillMarked, after.1, Or.inl ⟨middle, records, calls, ⟨direct, rebuilds, comes⟩,
        built, after.2⟩⟩
  | false =>
      rw [rebuilds] at rebuilding
      cases rebuilding
      have after := final quiet
      refine ⟨rfl, stillMarked, after.1, Or.inr ⟨?_, after.2⟩⟩
      intro ws other
      have same := comes.symm.trans other.2.2
      cases same
      exact absurd (rebuilds.symm.trans other.2.1) (by decide)

end Direct

/-! ## Announcing a new DS RRset -/

/-- The same records, whatever their order. -/
def SameRecords (one other : List Record) : Prop :=
  ∀ record, record ∈ one ↔ record ∈ other

/-- A new DS RRset is announced by the update-ds command, which finds it in the state
file. -/
structure AnnouncesDs (env : Environment) (command : Commands) (system : System) : Prop where
  announced : (invoke env command system).1 = .ok ⟨⟩ → system.config.updateDsCommand ≠ [] →
    ¬SameRecords (invoke env command system).2.state.dsRrset system.state.dsRrset →
    ∃ ws, RunsUpdateDs env command system ws
  afterRename : ∀ ws, RunsUpdateDs env command system ws →
    ws.savedState = (invoke env command system).2.state
  persisted : ∀ ws, RunsUpdateDs env command system ws →
    ws.stateChanged = true ∧ ws.savedState = ws.state

/-- The DS RRset that a subcommand rebuilds by itself is the one in the state file. -/
def RebuildsSameDs (env : Environment) (command : Commands) (system : System) : Prop :=
  ∀ ws records calls, ComesToDsRebuild env command system ws →
    exec (dsRrset env ws) ws.calls = (.ok records, calls) →
    SameRecords records system.state.dsRrset

section Announcing

variable {env : Environment} {command : Commands} {system : System} {ws : WorkSpace}

theorem RunsUpdateDs.saved (runs : RunsUpdateDs env command system ws) :
    ws.savedState = (invoke env command system).2.state := by
  have whole := run_of_runsUpdateDs runs
  unfold invoke
  rw [whole, exec_perform]
  rfl

theorem persist_flags {computed : WorkSpace}
    (saving : exec (persist env) computed = (.ok ⟨⟩, ws)) :
    ws.runUpdateDsCommand = computed.runUpdateDsCommand ∧
      ws.stateChanged = computed.stateChanged ∧
      ws.config = computed.config := by
  have kept : Preserves (fun other => other.runUpdateDsCommand = computed.runUpdateDsCommand ∧
      other.stateChanged = computed.stateChanged ∧ other.config = computed.config)
      (persist env) :=
    persist_preserves (fun _ _ same => same) (fun _ same => same) (fun _ same => same)
      fun _ same => same
  exact kept.ok ⟨rfl, rfl, rfl⟩ saving

theorem RunsUpdateDs.marked (runs : RunsUpdateDs env command system ws) :
    ws.stateChanged = true ∧ ws.savedState = ws.state := by
  rcases beforeUpdateDs_ok runs.reached with ⟨computed, computing, saving⟩
  rcases persist_flags saving with ⟨flagged, changed, _⟩
  have marked := saved_of_flagged computing (flagged.symm.trans runs.flagged)
  rcases persist_ok saving with ⟨_, savedState, state⟩
  rw [marked.1] at savedState state
  exact ⟨changed.trans marked.1, savedState.trans state.symm⟩

/-- A successful invocation has computed and saved everything. -/
theorem invoke_succeeds (success : (invoke env command system).1 = .ok ⟨⟩) :
    ∃ changed computed, exec (do loadFiles env; compute env command) system.load =
        (.ok changed, computed) ∧
      (changed = true → ∃ saved, exec (persist env) computed = (.ok ⟨⟩, saved) ∧
        (invoke env command system).2.state = saved.savedState) := by
  rcases computing : exec (do loadFiles env; compute env command) system.load with
    ⟨fault | changed, computed⟩
  · have failed : (invoke env command system).1 = .error fault := by
      unfold invoke run
      rw [← bind_assoc, exec_bind_of_error computing]
    rw [failed] at success
    cases success
  · refine ⟨changed, computed, rfl, ?_⟩
    rintro rfl
    have left := congrArg System.state (invoke_of_compute computing)
    rcases saving : exec (persist env) computed with ⟨fault | ⟨⟩, saved⟩
    · have failed : (invoke env command system).1 = .error fault := by
        unfold invoke run
        rw [← bind_assoc, exec_bind_of_ok computing]
        exact congrArg Prod.fst (exec_bind_of_error saving)
      rw [failed] at success
      cases success
    · rw [saving] at left
      exact ⟨saved, rfl, left⟩

end Announcing

/-- The update-ds command never runs before the state is saved. It announces every new
DS RRset exactly when the subcommands that rebuild the DS RRset by themselves do not
change it. -/
theorem ds_announced_iff (env : Environment) (command : Commands) (system : System) :
    AnnouncesDs env command system ↔
      ((invoke env command system).1 = .ok ⟨⟩ → system.config.updateDsCommand ≠ [] →
        RebuildsSameDs env command system) := by
  constructor
  · intro announces success configured ws records calls comes built
    rcases invoke_succeeds success with ⟨changed, computed, computing, saves⟩
    rcases direct_of_computed comes.1 computing with ⟨hasChanged, marked, quiet, rebuilt⟩
    rcases saves hasChanged with ⟨saved, saving, left⟩
    have records_eq : computed.state.dsRrset = records := by
      rcases rebuilt with ⟨other, otherRecords, otherCalls, otherComes, otherBuilt, result⟩ | none
      · have same := comes.2.2.symm.trans otherComes.2.2
        cases same
        rw [built] at otherBuilt
        cases otherBuilt
        exact result
      · exact absurd comes (none.1 ws)
    have final : (invoke env command system).2.state.dsRrset = records := by
      have written := (persist_ok saving).2.1
      rw [marked] at written
      rw [left, written]
      exact records_eq
    apply Classical.byContradiction
    intro different
    rw [← final] at different
    rcases announces.announced success configured different with ⟨last, runs⟩
    rcases beforeUpdateDs_ok runs.reached with ⟨again, computingAgain, savingAgain⟩
    have same := computing.symm.trans computingAgain
    cases same
    have flagged := (persist_flags savingAgain).1.symm.trans runs.flagged
    rw [quiet] at flagged
    cases flagged
  · intro same
    refine ⟨?_, fun ws runs => runs.saved, fun ws runs => runs.marked⟩
    intro success configured different
    rcases invoke_state env command system with unchanged | ⟨computed, computing, state⟩
    · rw [unchanged] at different
      exact absurd (fun _ => Iff.rfl) different
    · have dsRrset : (invoke env command system).2.state.dsRrset = computed.state.dsRrset := by
        rw [state]
        rfl
      rw [dsRrset] at different
      have flagged : computed.runUpdateDsCommand = true := by
        cases direct : command.rebuildsDs system.state.keyset with
        | true =>
            rcases direct_of_computed direct computing with ⟨_, _, _, rebuilt | kept⟩
            · rcases rebuilt with ⟨ws, records, calls, comes, built, result⟩
              rw [result] at different
              exact absurd (same success configured ws records calls comes built) different
            · rw [kept.2] at different
              exact absurd (fun _ => Iff.rfl) different
        | false =>
            cases flagged_of_computed direct computing with
            | inl flagged => exact flagged
            | inr kept =>
                rw [kept] at different
                exact absurd (fun _ => Iff.rfl) different
      rcases invoke_succeeds success with ⟨changed, again, computingAgain, saves⟩
      have repeated := computing.symm.trans computingAgain
      cases repeated
      rcases saves rfl with ⟨saved, saving, _⟩
      rcases persist_flags saving with ⟨sameFlag, _, sameConfig⟩
      rcases saved_of_flagged computing flagged with ⟨_, _, config⟩
      exact ⟨saved, beforeUpdateDs_of_ok computing saving, sameFlag.trans flagged,
        by rw [sameConfig, config]; exact configured⟩

/-! ## A KSK that is removed by force -/

namespace Reference

/-- The zone with a command that updates the DS records at the parent. -/
def announcing : System :=
  runAll (importing true ++ [day 4 (.set (.updateDsCommand ["/bin/update-ds"]))]) created

theorem announcing_reachable : Reachable platform announcing := by
  have start : Reachable platform created := .create _ _ _ _ _
  exact start.runAll ⟨⟨rfl, trivial⟩, ⟨rfl, trivial⟩, ⟨rfl, trivial⟩, ⟨rfl, trivial⟩, trivial⟩

def removal : Environment × Commands :=
  day 5 (.removeKey "file:///keys/ksk.key" true false)

end Reference

/-- The DS record of the key is gone, and nobody has been told. -/
theorem removed_ds_not_announced :
    Reachable Reference.platform Reference.announcing ∧
      ¬AnnouncesDs Reference.removal.1 Reference.removal.2 Reference.announcing := by
  refine ⟨Reference.announcing_reachable, ?_⟩
  intro announces
  have success : (invoke Reference.removal.1 Reference.removal.2 Reference.announcing).1 =
      .ok ⟨⟩ := ok_of_toOption (by decide +kernel)
  have configured : Reference.announcing.config.updateDsCommand ≠ [] := by decide +kernel
  have different : ¬SameRecords
      (invoke Reference.removal.1 Reference.removal.2 Reference.announcing).2.state.dsRrset
      Reference.announcing.state.dsRrset := by
    have before : Reference.announcing.state.dsRrset =
        [.ds defaultTtl Reference.importedKsk .sha256] := by decide +kernel
    have after : (invoke Reference.removal.1 Reference.removal.2
        Reference.announcing).2.state.dsRrset = [] := by decide +kernel
    rw [before, after]
    intro same
    simpa using (same _).mpr (List.mem_singleton.mpr rfl)
  rcases announces.announced success configured different with ⟨ws, runs⟩
  have quiet : (exec (beforeUpdateDs Reference.removal.1 Reference.removal.2)
      Reference.announcing.load).2.runUpdateDsCommand = false := by decide +kernel
  rw [runs.reached, runs.flagged] at quiet
  cases quiet

end Dnst.Keyset
