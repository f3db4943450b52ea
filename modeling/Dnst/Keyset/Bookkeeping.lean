import Dnst.Keyset.RollResolution

/-! # The bookkeeping of rolls

A roll has an entry in the report-state map exactly while it is in progress. Two maps
are updated one after the other, so the entries only follow the rolls from one step of
a subcommand to the next. A new entry is empty.
-/

namespace Dnst.Keyset

open Effect

/-- Exactly the rolls in progress have an entry. -/
def Tracked (state : KeySetState) : Prop :=
  ∀ roll, (state.internal roll).isSome = (state.keyset.rollstates roll).isSome

/-- In between the entry of one roll is still missing. -/
def TrackedBut (roll : RollType) (state : KeySetState) : Prop :=
  ∀ other, (state.keyset.rollstates other).isSome =
    (other == roll || (state.internal other).isSome)

/-- In between the entry of one roll is still there. -/
def TrackedOr (roll : RollType) (state : KeySetState) : Prop :=
  ∀ other, (state.keyset.rollstates other).isSome =
    (other != roll && (state.internal other).isSome)

theorem tracked_insert {roll : RollType} {state : KeySetState} (reports : RollStateReports)
    (but : TrackedBut roll state) :
    Tracked { state with internal := Function.update state.internal roll (some reports) } := by
  intro other
  dsimp only
  rw [but other]
  by_cases same : other = roll
  · simp [same]
  · simp [same]

theorem tracked_remove {roll : RollType} {state : KeySetState} (or : TrackedOr roll state) :
    Tracked { state with internal := Function.update state.internal roll none } := by
  intro other
  dsimp only
  rw [or other]
  by_cases same : other = roll
  · simp [same]
  · simp [same]

/-! ## Start and end of a roll -/

section Rolls

variable {env : Environment}

/-- Lookups of entries are the only faults that are not put up with. -/
abbrev EntriesKept (invariant : WorkSpace → Prop) {Value : Type} (action : Run Value) : Prop :=
  Keeps invariant (fun fault _ => Ordinary fault) action

theorem trackedBut_rebuilding (roll : RollType) :
    Rebuilding env (fun ws => TrackedBut roll ws.state) fun fault _ => Ordinary fault where
  fails := fun _ _ ordinary _ => ordinary
  calls := fun _ _ but => but
  runUpdateDsCommand := fun _ but => but
  dnskeyRrset := fun _ _ _ _ but _ => but
  cdsRrset := fun _ _ _ _ but _ => but
  cdsRemoved := fun _ but => but
  dsRrset := fun _ _ _ _ but _ _ => but

theorem finishStart_tracks (roll : RollType) (actions : List Action) :
    Triple (fun ws => TrackedBut roll ws.state) (finishStart env roll actions)
      (fun _ ws => Tracked ws.state) fun fault _ => Ordinary fault := by
  refine triple_bind (handleActions_keeps (trackedBut_rebuilding roll) actions) fun _ => ?_
  have inserted : Triple (fun ws => TrackedBut roll ws.state) (insertInternal roll .default)
      (fun _ ws => Tracked ws.state) fun fault _ => Ordinary fault :=
    triple_modify fun ws but => tracked_insert _ but
  exact triple_bind inserted fun _ => triple_pure fun _ tracked => tracked

theorem doDone_tracks (laws : RollStateLaws env.toPlatform) (roll : RollType) :
    EntriesKept (fun ws => Tracked ws.state) (doDone env roll) := by
  have counts : CallStable fun ws => Tracked ws.state := fun _ _ tracked => tracked
  have tolerant : Tolerant (fun ws => Tracked ws.state) fun fault _ => Ordinary fault :=
    ⟨fun _ _ ordinary _ => ordinary, counts⟩
  refine doDone_triple tolerant roll (fun _ _ _ _ _ _ _ => ordinary_error _) ?_
  intro ws now actions keyset tracked outcome
  have ended : TrackedOr roll { ws.state with keyset := keyset } := by
    intro other
    have gone := laws.ends _ _ _ _ _ outcome other
    rw [← tracked other] at gone
    exact gone
  exact tracked_remove ended

/-- The entries follow the rolls from one step to the next. -/
theorem tracked_custody (laws : RollStateLaws env.toPlatform) :
    Custody env (fun ws => Tracked ws.state) (fun fault _ => Ordinary fault)
      fun _ => True where
  fails := fun _ _ ordinary _ => ordinary
  calls := fun _ _ tracked => tracked
  runUpdateDsCommand := fun _ tracked => tracked
  dnskeyRrset := fun _ _ _ _ tracked _ => tracked
  cdsRrset := fun _ _ _ _ tracked _ => tracked
  cdsRemoved := fun _ tracked => tracked
  dsRrset := fun _ _ _ _ tracked _ _ => tracked
  stateChanged := fun _ tracked => tracked
  keySet := by
    intro ws keyset tracked change other
    have same := laws.plain env rfl _ _ change other
    rw [← tracked other] at same
    exact same.symm
  cronNext := fun _ _ tracked => tracked
  relabeled := fun _ _ tracked => tracked
  entry := by
    intro ws roll fault other tracked inProgress missing _
    have found := tracked roll
    rw [inProgress, missing] at found
    cases found
  done := fun roll => keeps_bind (doDone_tracks laws roll) fun _ =>
    keeps_modify fun _ tracked => tracked
  starts := by
    intro roll actions
    refine triple_weaken (finishStart_tracks roll actions) ?_ (fun _ _ after => after)
      (fun _ _ after => after)
    rintro ws ⟨before, now, old, new, keyset, tracked, startable, started, rfl⟩ other
    have begun := laws.starts _ _ _ _ _ _ _ started other
    rw [← tracked other] at begun
    exact begun
  absent := fun _ _ _ _ => trivial
  newFile := fun _ _ _ _ _ _ _ _ => trivial
  newPair := fun _ _ _ _ _ => ⟨fun _ _ => trivial, fun _ _ => trivial⟩
  keyStore := fun _ _ _ tracked _ => tracked

/-- The results of checks go to entries that exist. -/
theorem tracked_recording : Recording env fun ws => Tracked ws.state := by
  intro now roll ws tracked before after entry _ other
  unfold WorkSpace.withEntry
  dsimp only
  rw [← tracked other]
  by_cases same : other = roll
  · simp [same, entry]
  · simp [same]

end Rolls

/-! ## Whole invocations -/

section Invocation

variable {env : Environment} (laws : RollStateLaws env.toPlatform)

include laws

theorem compute_tracks (command : Commands) :
    EntriesKept (fun ws => Tracked ws.state) (compute env command) :=
  anyCompute_keeps (tracked_custody laws) (fun _ _ _ _ tracked _ => tracked)
    (fun _ _ tracked => tracked) command (fun _ => tracked_recording)
    fun _ _ _ _ _ tracked => tracked

/-- No lookup of an entry fails, and the entries follow the rolls. -/
theorem run_tracks (command : Commands) :
    EntriesKept (fun ws => Tracked ws.state) (do loadFiles env; run env command) := by
  have tolerant := (tracked_custody laws).toTolerant
  have attempted := perform_keeps tolerant (attempt_ordinary env id)
  have persisted : EntriesKept (fun ws => Tracked ws.state) (persist env) := by
    refine keeps_bind keeps_get fun ws => ?_
    refine keeps_bind (onlyIf_keeps ?_) fun _ => onlyIf_keeps ?_
    · exact keeps_bind (perform_keeps tolerant (writeToNewAndRename_ordinary env _)) fun _ =>
        keeps_modify fun _ tracked => tracked
    · exact keeps_bind (keeps_modify fun _ tracked => tracked) fun _ =>
        keeps_bind keeps_get fun ws =>
          keeps_bind (perform_keeps tolerant (writeToNewAndRename_ordinary env _)) fun _ =>
            keeps_modify fun _ tracked => tracked
  have announced : EntriesKept (fun ws => Tracked ws.state) (updateDs env) :=
    keeps_bind keeps_get fun ws =>
      onlyIf_keeps (perform_keeps tolerant (executeCommand_ordinary env _))
  refine keeps_bind attempted fun _ => keeps_bind (compute_tracks laws command) fun changed => ?_
  exact onlyIf_keeps (keeps_bind persisted fun _ => announced)

end Invocation

/-! ## New entries -/

/-- A roll starts with an empty entry and leaves none behind. -/
structure EntriesBeginEmpty (env : Environment) (ws : WorkSpace) : Prop where
  start : ∀ variant actions final, exec (RollVariant.start env variant) ws = (.ok actions, final) →
    final.state.internal (variant.rollVariantToRoll ws.config) = some .default
  init : ∀ final, exec (initNewKeys env) ws = (.ok ⟨⟩, final) →
    final.state.internal .algorithmRoll = some .default
  done : ∀ roll final, exec (doDone env roll) ws = (.ok ⟨⟩, final) →
    final.state.internal roll = none

/-- A computation that leaves the entry of a roll like this when it succeeds. -/
def Leaves (roll : RollType) (entry : Option RollStateReports) {Value : Type}
    (action : Run Value) : Prop :=
  ∀ ws value final, exec action ws = (.ok value, final) → final.state.internal roll = entry

section Leaves

variable {env : Environment} {roll : RollType} {entry : Option RollStateReports}

theorem leaves_next {Value Result : Type} {action : Run Value} {next : Value → Run Result}
    (rest : ∀ value, Leaves roll entry (next value)) : Leaves roll entry (action >>= next) := by
  intro ws result final run
  rcases exec_bind_eq_ok.mp run with ⟨value, middle, _, after⟩
  exact rest value middle result final after

theorem finishStart_leaves (actions : List Action) :
    Leaves roll (some .default) (finishStart env roll actions) := by
  refine leaves_next fun _ => ?_
  intro ws value final run
  cases run
  simp

theorem startSingleRoll_leaves (variant : KeyVariant) (makeKsk : Bool)
    (takesPart : KeyType → Bool) :
    Leaves roll (some .default) (startSingleRoll env roll variant makeKsk takesPart) :=
  leaves_next fun _ => leaves_next fun _ => leaves_next fun _ => leaves_next fun _ =>
    leaves_next fun _ => leaves_next fun _ => leaves_next fun _ => finishStart_leaves _

theorem startFullRoll_leaves (message : String → String) :
    Leaves roll (some .default) (startFullRoll env roll message) :=
  leaves_next fun _ => leaves_next fun _ => leaves_next fun _ => leaves_next fun _ =>
    finishStart_leaves _

theorem initNewKeys_leaves : Leaves .algorithmRoll (some .default) (initNewKeys env) := by
  refine leaves_next fun _ => leaves_next fun _ => leaves_next fun ws => ?_
  split
  · intro _ _ _ run
    cases run
  · refine leaves_next fun _ => ?_
    intro ws value final run
    rcases exec_bind_eq_ok.mp run with ⟨actions, middle, finish, rest⟩
    cases rest
    exact finishStart_leaves _ _ _ _ finish

theorem doDone_leaves : Leaves roll none (doDone env roll) := by
  refine leaves_next fun _ => leaves_next fun _ => leaves_next fun _ => leaves_next fun _ => ?_
  intro ws value final run
  cases run
  simp

end Leaves

theorem entries_begin_empty (env : Environment) (ws : WorkSpace) : EntriesBeginEmpty env ws where
  start := by
    intro variant actions final run
    cases variant with
    | ksk =>
        rw [RollVariant.start, startKskRoll, exec_bind_of_ok (exec_get ws)] at run
        exact startSingleRoll_leaves _ _ _ ws actions final run
    | zsk =>
        rw [RollVariant.start, startZskRoll, exec_bind_of_ok (exec_get ws)] at run
        exact startSingleRoll_leaves _ _ _ ws actions final run
    | csk =>
        rw [RollVariant.start, startCskRoll] at run
        exact startFullRoll_leaves _ ws actions final run
    | algorithm =>
        rw [RollVariant.start, startAlgorithmRoll] at run
        exact startFullRoll_leaves _ ws actions final run
  init := fun final run => initNewKeys_leaves ws _ final run
  done := fun roll final run => doDone_leaves ws _ final run

/-- What a subcommand that marks the state as changed leaves is persisted. -/
theorem invoke_leaves {env : Environment} {command : Commands} {system : System}
    {roll : RollType} {entry : Option RollStateReports}
    (leaves : ∀ now ws final, ws.config = system.config →
      exec (subcommand env now command) ws = (.ok ⟨⟩, final) →
      final.state.internal roll = entry ∧ final.stateChanged = true)
    (succeeds : (invoke env command system).1 = .ok ⟨⟩) :
    (invoke env command system).2.state.internal roll = entry := by
  rcases running : exec (do loadFiles env; run env command) system.load with ⟨outcome, final⟩
  unfold invoke at succeeds ⊢
  rw [running] at succeeds ⊢
  dsimp only at succeeds ⊢
  rw [succeeds] at running
  rcases exec_bind_eq_ok.mp running with ⟨_, loaded, loading, runs⟩
  rcases exec_perform_eq_ok loading with ⟨calls, _, rfl⟩
  rcases exec_bind_eq_ok.mp runs with ⟨changed, computed, computing, saves⟩
  unfold compute at computing
  rw [exec_bind_of_ok (exec_get _)] at computing
  rcases exec_bind_eq_ok.mp computing with ⟨now, started, reading, rest⟩
  rcases exec_perform_eq_ok reading with ⟨callsRead, _, rfl⟩
  rcases exec_bind_eq_ok.mp rest with ⟨_, done, subcommandRun, schedules⟩
  rcases leaves now _ done rfl subcommandRun with ⟨left, marked⟩
  rw [exec_bind_of_ok (exec_get done), marked, Bool.or_true, if_pos rfl] at schedules
  rcases exec_bind_eq_ok.mp schedules with ⟨_, scheduled, scheduling, finish⟩
  cases finish
  have stable : Stable env fun ws => ws.stateChanged = true := stateChanged_stable
  have stillMarked := (updateCronNext_keeps stable.routine.toEditing now).ok marked scheduling
  rcases updateCronNext_ok scheduling with ⟨entries, _, _, _, _, _, state⟩
  rcases exec_bind_eq_ok.mp saves with ⟨_, saved, persisting, announcing⟩
  have written := (persist_ok persisting).2.1
  rw [stillMarked, if_pos rfl, state] at written
  have counts : CallStable fun ws => ws.savedState = saved.savedState := fun _ _ same => same
  have announced : Preserves (fun ws => ws.savedState = saved.savedState) (updateDs env) :=
    keeps_bind keeps_get fun ws => onlyIf_keeps (perform_counts counts _)
  have kept := announced.ok rfl announcing
  change final.savedState.internal roll = entry
  rw [kept, written]
  exact left

/-- In every reachable state exactly the rolls in progress have an entry, no command
looks one up in vain, an entry is empty when its roll has started and gone when the roll
is done. -/
theorem bookkeeping_follows_rolls {platform : Platform} (laws : RollStateLaws platform)
    {system : System} (reachable : Reachable platform system) (env : Environment)
    (same : env.toPlatform = platform) :
    Tracked system.state ∧
      (∀ command fault, (invoke env command system).1 = .error fault → ¬MissesEntry fault) ∧
      (∀ ws, EntriesBeginEmpty env ws) ∧
      (∀ variant, (invoke env (.roll variant .startRoll) system).1 = .ok ⟨⟩ →
        (invoke env (.roll variant .startRoll) system).2.state.internal
          (variant.rollVariantToRoll system.config) = some .default) ∧
      ∀ variant, (invoke env (.roll variant .rollDone) system).1 = .ok ⟨⟩ →
        (invoke env (.roll variant .rollDone) system).2.state.internal
          (variant.rollVariantToRoll system.config) = none := by
  subst same
  have tracked : Tracked system.state := by
    refine reachable.state (fun _ _ => rfl) (fun _ tracked => tracked) ?_
    intro other command system computed samePlatform _ before run
    have otherLaws : RollStateLaws other.toPlatform := by
      rw [samePlatform]
      exact laws
    have loading := perform_keeps (tracked_custody otherLaws).toTolerant
      (attempt_ordinary other id)
    have whole := keeps_bind loading fun _ => compute_tracks otherLaws command
    exact Keeps.ok whole before run
  refine ⟨tracked, ?_, entries_begin_empty env, ?_, ?_⟩
  · intro command fault fails
    have loaded : Tracked system.load.state := tracked
    rcases running : exec (do loadFiles env; run env command) system.load with ⟨outcome, final⟩
    unfold invoke at fails
    rw [running] at fails
    dsimp only at fails
    rw [fails] at running
    exact Triple.error (run_tracks laws command) loaded running
  · intro variant succeeds
    refine invoke_leaves ?_ succeeds
    intro now ws final sameConfig run
    rw [subcommand, rollCommand, exec_bind_of_ok (exec_get ws)] at run
    rcases exec_bind_eq_ok.mp run with ⟨actions, started, starting, marking⟩
    cases marking
    rw [← sameConfig]
    exact ⟨(entries_begin_empty env ws).start variant actions started starting, rfl⟩
  · intro variant succeeds
    refine invoke_leaves ?_ succeeds
    intro now ws final sameConfig run
    rw [subcommand, rollCommand, exec_bind_of_ok (exec_get ws)] at run
    rcases exec_bind_eq_ok.mp run with ⟨value, done, ending, marking⟩
    cases marking
    rw [← sameConfig]
    exact ⟨(entries_begin_empty env ws).done _ done ending, rfl⟩

theorem bookkeeping_follows_begun_kskRoll :
    Tracked Reference.kskRollBegun.state ∧
      (∀ command fault, (invoke (Reference.environment 5 (fromSecs 2000000)) command
        Reference.kskRollBegun).1 = .error fault → ¬MissesEntry fault) ∧
      (∀ ws, EntriesBeginEmpty (Reference.environment 5 (fromSecs 2000000)) ws) ∧
      (∀ variant, (invoke (Reference.environment 5 (fromSecs 2000000))
          (.roll variant .startRoll) Reference.kskRollBegun).1 = .ok ⟨⟩ →
        (invoke (Reference.environment 5 (fromSecs 2000000)) (.roll variant .startRoll)
          Reference.kskRollBegun).2.state.internal
            (variant.rollVariantToRoll Reference.kskRollBegun.config) = some .default) ∧
      ∀ variant, (invoke (Reference.environment 5 (fromSecs 2000000))
          (.roll variant .rollDone) Reference.kskRollBegun).1 = .ok ⟨⟩ →
        (invoke (Reference.environment 5 (fromSecs 2000000)) (.roll variant .rollDone)
          Reference.kskRollBegun).2.state.internal
            (variant.rollVariantToRoll Reference.kskRollBegun.config) = none :=
  bookkeeping_follows_rolls Reference.rollStateLaws
    (Reference.kskRollBegun_reachable.mono fun _ _ _ _ => trivial) _ rfl

end Dnst.Keyset
