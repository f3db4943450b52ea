import Dnst.Foundation.Effect

/-! # Pre- and postconditions

A triple has two postconditions: one for a value that is returned and one for a
fault. Both speak about the state that is left behind.
-/

namespace Dnst.Effect

variable {State View Fault Value Result Item : Type}

def Triple (pre : State → Prop) (action : Effect State Fault Value)
    (post : Value → State → Prop) (failed : Fault → State → Prop) : Prop :=
  ∀ state, pre state →
    match exec action state with
    | (.ok value, final) => post value final
    | (.error fault, final) => failed fault final

section Rules

variable {pre : State → Prop} {action : Effect State Fault Value}
variable {post : Value → State → Prop} {failed : Fault → State → Prop}

theorem Triple.ok (triple : Triple pre action post failed) {state final : State}
    {value : Value} (holds : pre state) (run : exec action state = (.ok value, final)) :
    post value final := by
  have result := triple state holds
  rw [run] at result
  exact result

theorem Triple.error (triple : Triple pre action post failed) {state final : State}
    {fault : Fault} (holds : pre state)
    (run : exec action state = (.error fault, final)) :
    failed fault final := by
  have result := triple state holds
  rw [run] at result
  exact result

/-- When both postconditions agree the outcome does not matter. -/
theorem Triple.final {after : State → Prop}
    (triple : Triple pre action (fun _ => after) (fun _ => after)) {state : State}
    (holds : pre state) : after (exec action state).2 := by
  have result := triple state holds
  rcases run : exec action state with ⟨_ | _, final⟩ <;> rw [run] at result <;> exact result

theorem triple_of_runs
    (returns : ∀ state value final, pre state →
      exec action state = (.ok value, final) → post value final)
    (fails : ∀ state fault final, pre state →
      exec action state = (.error fault, final) → failed fault final) :
    Triple pre action post failed := by
  intro state holds
  rcases run : exec action state with ⟨outcome, final⟩
  cases outcome with
  | ok value => exact returns state value final holds run
  | error fault => exact fails state fault final holds run

theorem triple_pure {value : Value} (holds : ∀ state, pre state → post value state) :
    Triple pre (pure value : Effect State Fault Value) post failed :=
  fun state before => holds state before

theorem triple_throw {fault : Fault} (holds : ∀ state, pre state → failed fault state) :
    Triple pre (throw fault : Effect State Fault Value) post failed :=
  fun state before => holds state before

theorem triple_get {post : State → State → Prop}
    (holds : ∀ state, pre state → post state state) :
    Triple pre (get : Effect State Fault State) post failed :=
  fun state before => holds state before

theorem triple_modify {change : State → State} {post : PUnit → State → Prop}
    (holds : ∀ state, pre state → post ⟨⟩ (change state)) :
    Triple pre (modify change : Effect State Fault PUnit) post failed :=
  fun state before => holds state before

theorem triple_bind {middle : Value → State → Prop}
    {next : Value → Effect State Fault Result} {post : Result → State → Prop}
    (first : Triple pre action middle failed)
    (later : ∀ value, Triple (middle value) (next value) post failed) :
    Triple pre (action >>= next) post failed := by
  intro state before
  rw [exec_bind]
  rcases run : exec action state with ⟨outcome, between⟩
  cases outcome with
  | ok value => exact later value between (first.ok before run)
  | error fault => exact first.error before run

theorem triple_weaken {pre' : State → Prop} {post' : Value → State → Prop}
    {failed' : Fault → State → Prop} (triple : Triple pre' action post' failed')
    (before : ∀ state, pre state → pre' state)
    (returned : ∀ value state, post' value state → post value state)
    (stopped : ∀ fault state, failed' fault state → failed fault state) :
    Triple pre action post failed :=
  triple_of_runs
    (fun _ _ _ holds run => returned _ _ (triple.ok (before _ holds) run))
    (fun _ _ _ holds run => stopped _ _ (triple.error (before _ holds) run))

/-- What else is known may be forgotten. -/
theorem triple_drop {known : State → Prop} (triple : Triple pre action post failed) :
    Triple (fun state => pre state ∧ known state) action post failed :=
  fun state holds => triple state holds.1

/-- A computation can be followed from every start on its own. -/
theorem triple_pointwise
    (each : ∀ start, pre start → Triple (fun state => state = start) action post failed) :
    Triple pre action post failed :=
  fun state before => each state before state rfl

/-- Reading the state makes it known in the rest of the computation. -/
theorem triple_read {next : State → Effect State Fault Value}
    (later : ∀ known, pre known → Triple (fun state => state = known) (next known) post failed) :
    Triple pre (get >>= next) post failed := by
  intro state before
  exact later state before state rfl

/-- What has been read satisfies the precondition, which still holds. -/
theorem triple_bind_get {next : State → Effect State Fault Value}
    (later : ∀ known, pre known → Triple pre (next known) post failed) :
    Triple pre (get >>= next) post failed :=
  fun state before => later state before state before

/-- A fact about no state is known in the rest of the computation. -/
theorem triple_fact {fact : Prop} (later : fact → Triple pre action post failed) :
    Triple (fun state => pre state ∧ fact) action post failed :=
  fun state before => later before.2 state before.1

theorem triple_ite {condition : Prop} [Decidable condition]
    {other : Effect State Fault Value}
    (whenTrue : condition → Triple pre action post failed)
    (whenFalse : ¬condition → Triple pre other post failed) :
    Triple pre (if condition then action else other) post failed := by
  by_cases holds : condition
  · rw [if_pos holds]
    exact whenTrue holds
  · rw [if_neg holds]
    exact whenFalse holds

theorem triple_zoom {view : State → View} {put : State → View → State}
    {part : Effect View Fault Value}
    (triple : ∀ state, pre state →
      Triple (fun shown => shown = view state) part
        (fun value shown => post value (put state shown))
        (fun fault shown => failed fault (put state shown))) :
    Triple pre (zoom view put part) post failed := by
  intro state before
  rw [exec_zoom]
  rcases run : exec part (view state) with ⟨outcome, shown⟩
  cases outcome with
  | ok value => exact (triple state before).ok rfl run
  | error fault => exact (triple state before).error rfl run

/-- The invariant of a loop holds between any two visits. -/
theorem triple_collect {visit : Item → Effect State Fault (Option Value)}
    {invariant : State → Prop} {found : Value → Prop} (items : List Item)
    (each : ∀ item, item ∈ items →
      Triple invariant (visit item)
        (fun result state => invariant state ∧ ∀ value, result = some value → found value)
        failed) :
    Triple invariant (collect visit items)
      (fun values state => invariant state ∧ ∀ value, value ∈ values → found value)
      failed := by
  induction items with
  | nil =>
      refine triple_pure fun state holds => ⟨holds, ?_⟩
      intro value member
      cases member
  | cons item items induction =>
      refine triple_bind (each item (by simp)) fun result => ?_
      refine triple_of_runs ?_ ?_
      · intro state values final before run
        rcases exec_bind_eq_ok.mp run with ⟨others, middle, rest, finish⟩
        cases finish
        have restTriple := induction fun item member => each item (by simp [member])
        rcases restTriple.ok before.1 rest with ⟨holds, othersFound⟩
        refine ⟨holds, ?_⟩
        intro value member
        rcases List.mem_append.mp member with inResult | inOthers
        · exact before.2 value (by simpa using inResult)
        · exact othersFound value inOthers
      · intro state fault final before run
        have restTriple := induction fun item member => each item (by simp [member])
        rw [exec_bind] at run
        rcases rest : exec (collect visit items) state with ⟨outcome, middle⟩
        rw [rest] at run
        cases outcome with
        | ok others => cases run
        | error reason =>
            cases run
            exact restTriple.error before.1 rest

end Rules

/-! ## Computations that keep an invariant -/

/-- The invariant holds after a computation that does not fail. -/
def Keeps (invariant : State → Prop) (failed : Fault → State → Prop)
    (action : Effect State Fault Value) : Prop :=
  Triple invariant action (fun _ => invariant) failed

section Keeps

variable {invariant : State → Prop} {failed : Fault → State → Prop}
variable {action : Effect State Fault Value}

theorem Keeps.ok (keeps : Keeps invariant failed action) {state final : State} {value : Value}
    (holds : invariant state) (run : exec action state = (.ok value, final)) :
    invariant final :=
  Triple.ok keeps holds run

theorem keeps_of_runs
    (returns : ∀ state value final, invariant state → exec action state = (.ok value, final) →
      invariant final)
    (fails : ∀ state fault final, invariant state → exec action state = (.error fault, final) →
      failed fault final) :
    Keeps invariant failed action :=
  triple_of_runs returns fails

theorem keeps_pure (value : Value) :
    Keeps invariant failed (pure value : Effect State Fault Value) :=
  triple_pure fun _ holds => holds

theorem keeps_throw {fault : Fault} (stops : ∀ state, invariant state → failed fault state) :
    Keeps invariant failed (throw fault : Effect State Fault Value) :=
  triple_throw stops

theorem keeps_get : Keeps invariant failed (get : Effect State Fault State) :=
  triple_get fun _ holds => holds

theorem keeps_modify {change : State → State}
    (holds : ∀ state, invariant state → invariant (change state)) :
    Keeps invariant failed (modify change : Effect State Fault PUnit) :=
  triple_modify holds

theorem keeps_bind {next : Value → Effect State Fault Result}
    (first : Keeps invariant failed action)
    (later : ∀ value, Keeps invariant failed (next value)) :
    Keeps invariant failed (action >>= next) :=
  triple_bind first later

theorem keeps_ite {condition : Prop} [Decidable condition]
    {other : Effect State Fault Value} (whenTrue : condition → Keeps invariant failed action)
    (whenFalse : ¬condition → Keeps invariant failed other) :
    Keeps invariant failed (if condition then action else other) :=
  triple_ite whenTrue whenFalse

end Keeps

/-- The invariant holds afterwards whatever the outcome. -/
abbrev Preserves (invariant : State → Prop) (action : Effect State Fault Value) : Prop :=
  Keeps invariant (fun _ => invariant) action

section Preserves

variable {invariant : State → Prop} {action : Effect State Fault Value}

theorem Preserves.final (preserves : Preserves invariant action) {state : State}
    (holds : invariant state) : invariant (exec action state).2 :=
  Triple.final preserves holds

theorem preserves_of_final (final : ∀ state, invariant state → invariant (exec action state).2) :
    Preserves invariant action := by
  refine keeps_of_runs ?_ ?_
  · intro state value after holds run
    simpa [run] using final state holds
  · intro state fault after holds run
    simpa [run] using final state holds

theorem preserves_throw (fault : Fault) :
    Preserves invariant (throw fault : Effect State Fault Value) :=
  keeps_throw fun _ holds => holds

theorem preserves_zoom {view : State → View} {put : State → View → State}
    {part : Effect View Fault Value}
    (holds : ∀ state shown, invariant state → invariant (put state shown)) :
    Preserves invariant (zoom view put part) := by
  refine preserves_of_final ?_
  intro state before
  rw [exec_zoom]
  exact holds state _ before

end Preserves

/-! ## Results alone -/

/-- Every value that is returned satisfies the condition. -/
def Yields (post : Value → Prop) (action : Effect State Fault Value) : Prop :=
  Triple (fun _ => True) action (fun value _ => post value) (fun _ _ => True)

section Yields

variable {post : Value → Prop} {action : Effect State Fault Value}

theorem yields_of_runs
    (returns : ∀ state value final, exec action state = (.ok value, final) → post value) :
    Yields post action :=
  triple_of_runs (fun state value final _ run => returns state value final run)
    (fun _ _ _ _ _ => trivial)

theorem Yields.ok (yields : Yields post action) {state final : State} {value : Value}
    (run : exec action state = (.ok value, final)) : post value :=
  Triple.ok yields trivial run

theorem yields_pure {value : Value} (holds : post value) :
    Yields post (pure value : Effect State Fault Value) :=
  triple_pure fun _ _ => holds

theorem yields_throw (fault : Fault) :
    Yields post (throw fault : Effect State Fault Value) :=
  triple_throw fun _ _ => trivial

theorem yields_bind {next : Value → Effect State Fault Result} {later : Result → Prop}
    (first : Yields post action) (rest : ∀ value, post value → Yields later (next value)) :
    Yields later (action >>= next) := by
  refine yields_of_runs ?_
  intro state result final run
  rcases exec_bind_eq_ok.mp run with ⟨value, middle, before, after⟩
  exact (rest value (first.ok before)).ok after

theorem yields_next {next : Value → Effect State Fault Result} {later : Result → Prop}
    (rest : ∀ value, Yields later (next value)) : Yields later (action >>= next) := by
  refine yields_of_runs ?_
  intro state result final run
  rcases exec_bind_eq_ok.mp run with ⟨value, middle, _, after⟩
  exact (rest value).ok after

theorem yields_collect {visit : Item → Effect State Fault (Option Value)} (items : List Item)
    (each : ∀ item, item ∈ items →
      Yields (fun result => ∀ value, result = some value → post value) (visit item)) :
    Yields (fun values => ∀ value, value ∈ values → post value) (collect visit items) := by
  have visits : ∀ item, item ∈ items →
      Triple (fun _ => True) (visit item)
        (fun result _ => True ∧ ∀ value, result = some value → post value)
        (fun _ _ => True) := by
    intro item member
    exact triple_weaken (each item member) (fun _ _ => trivial)
      (fun _ _ holds => ⟨trivial, holds⟩) (fun _ _ _ => trivial)
  exact triple_weaken (triple_collect items visits) (fun _ _ => trivial)
    (fun _ _ holds => holds.2) (fun _ _ _ => trivial)

/-- Nothing is collected exactly when no visit finds anything. -/
theorem yields_collect_nil {visit : Item → Effect State Fault (Option Value)}
    {finds : Item → Bool}
    (each : ∀ item, Yields (fun result => result.isSome = finds item) (visit item))
    (items : List Item) :
    Yields (fun values => values = [] ↔ ∀ item ∈ items, finds item = false)
      (collect visit items) := by
  induction items with
  | nil => exact yields_pure (by simp)
  | cons item items induction =>
      refine yields_bind (each item) fun found known => ?_
      refine yields_bind induction fun others rest => yields_pure ?_
      rw [List.append_eq_nil_iff, rest, List.forall_mem_cons, ← known]
      cases found <;> simp

/-- What a value satisfies is known in the rest of the computation. -/
theorem triple_bind_yields {pre : State → Prop} {middle : Value → State → Prop}
    {failed : Fault → State → Prop}
    {next : Value → Effect State Fault Result} {later : Result → State → Prop}
    (first : Triple pre action middle failed) (yields : Yields post action)
    (rest : ∀ value, post value → Triple (middle value) (next value) later failed) :
    Triple pre (action >>= next) later failed := by
  intro state before
  rw [exec_bind]
  rcases run : exec action state with ⟨outcome, between⟩
  cases outcome with
  | error fault => exact first.error before run
  | ok value => exact rest value (yields.ok run) between (first.ok before run)

theorem keeps_bind_yields {invariant : State → Prop} {failed : Fault → State → Prop}
    {next : Value → Effect State Fault Result} (first : Keeps invariant failed action)
    (yields : Yields post action)
    (later : ∀ value, post value → Keeps invariant failed (next value)) :
    Keeps invariant failed (action >>= next) :=
  triple_bind_yields first yields later

theorem yields_zoom {view : State → View} {put : State → View → State}
    {part : Effect View Fault Value} (yields : Yields post part) :
    Yields post (zoom view put part : Effect State Fault Value) := by
  refine yields_of_runs ?_
  intro state value final run
  rw [exec_zoom] at run
  simp only [Prod.mk.injEq] at run
  exact yields.ok (Prod.ext run.1 rfl)

end Yields

/-! ## Computations that only read -/

/-- The state is left alone and every value that is returned satisfies the condition. -/
def Reads (post : Value → Prop) (action : Effect State Fault Value) : Prop :=
  ∀ state, (exec action state).2 = state ∧
    ∀ value, (exec action state).1 = .ok value → post value

section Reads

variable {post : Value → Prop} {action : Effect State Fault Value}

theorem reads_pure {value : Value} (holds : post value) :
    Reads post (pure value : Effect State Fault Value) := by
  intro state
  apply And.intro rfl
  intro other same
  cases same
  exact holds

theorem reads_throw (fault : Fault) : Reads post (throw fault : Effect State Fault Value) := by
  intro state
  apply And.intro rfl
  intro value impossible
  cases impossible

theorem reads_bind {next : Value → Effect State Fault Result} {later : Result → Prop}
    (first : Reads post action) (rest : ∀ value, post value → Reads later (next value)) :
    Reads later (action >>= next) := by
  intro state
  have ⟨kept, returns⟩ := first state
  rcases run : exec action state with ⟨outcome, after⟩
  rw [run] at kept returns
  cases kept
  cases outcome with
  | error fault =>
      rw [exec_bind_of_error run]
      exact reads_throw fault after
  | ok value =>
      rw [exec_bind_of_ok run]
      exact rest value (returns value rfl) after

theorem Reads.weaken {weaker : Value → Prop} (reads : Reads post action)
    (implied : ∀ value, post value → weaker value) : Reads weaker action :=
  fun state => ⟨(reads state).1, fun value returned => implied value ((reads state).2 value returned)⟩

theorem Reads.preserves (reads : Reads post action) (invariant : State → Prop) :
    Preserves invariant action := by
  apply preserves_of_final
  intro state holds
  rw [(reads state).1]
  exact holds

theorem Reads.yields (reads : Reads post action) : Yields post action :=
  yields_of_runs fun state value _ run =>
    (reads state).2 value (congrArg Prod.fst run)

end Reads

/-! ## Faults alone -/

/-- Nothing but the given faults can stop the computation. -/
def Raises (possible : Fault → Prop) (action : Effect State Fault Value) : Prop :=
  Triple (fun _ => True) action (fun _ _ => True) (fun fault _ => possible fault)

section Raises

variable {possible : Fault → Prop} {action : Effect State Fault Value}

theorem Raises.error (raises : Raises possible action) {state final : State} {fault : Fault}
    (run : exec action state = (.error fault, final)) : possible fault :=
  Triple.error raises trivial run

theorem Raises.weaken {wider : Fault → Prop} (raises : Raises possible action)
    (implied : ∀ fault, possible fault → wider fault) : Raises wider action :=
  triple_weaken raises (fun _ _ => trivial) (fun _ _ _ => trivial)
    (fun fault _ raised => implied fault raised)

theorem raises_pure (value : Value) :
    Raises possible (pure value : Effect State Fault Value) :=
  triple_pure fun _ _ => trivial

theorem raises_throw {fault : Fault} (raised : possible fault) :
    Raises possible (throw fault : Effect State Fault Value) :=
  triple_throw fun _ _ => raised

theorem raises_get : Raises possible (get : Effect State Fault State) :=
  triple_get fun _ _ => trivial

theorem raises_modify (change : State → State) :
    Raises possible (modify change : Effect State Fault PUnit) :=
  triple_modify fun _ _ => trivial

theorem raises_bind {next : Value → Effect State Fault Result} (first : Raises possible action)
    (later : ∀ value, Raises possible (next value)) : Raises possible (action >>= next) :=
  triple_bind first later

theorem raises_ite {condition : Prop} [Decidable condition]
    {other : Effect State Fault Value} (whenTrue : Raises possible action)
    (whenFalse : Raises possible other) :
    Raises possible (if condition then action else other) :=
  triple_ite (fun _ => whenTrue) fun _ => whenFalse

theorem raises_collect {visit : Item → Effect State Fault (Option Value)} (items : List Item)
    (each : ∀ item, Raises possible (visit item)) : Raises possible (collect visit items) := by
  induction items with
  | nil => exact raises_pure _
  | cons item items induction =>
      exact raises_bind (each item) fun _ => raises_bind induction fun _ => raises_pure _

theorem raises_zoom {view : State → View} {put : State → View → State}
    {part : Effect View Fault Value} (raises : Raises possible part) :
    Raises possible (zoom view put part : Effect State Fault Value) :=
  triple_zoom fun _ _ => triple_weaken raises (fun _ _ => trivial) (fun _ _ _ => trivial)
    (fun _ _ raised => raised)

/-- A computation that keeps an invariant and raises only the given faults. -/
theorem Preserves.raises {invariant : State → Prop} (preserves : Preserves invariant action)
    (raises : Raises possible action) :
    Triple invariant action (fun _ => invariant)
      (fun fault state => invariant state ∧ possible fault) :=
  triple_of_runs (fun _ _ _ holds run => preserves.ok holds run)
    (fun _ _ _ holds run => ⟨preserves.error holds run, raises.error run⟩)

end Raises

/-! ## What a failure leaves behind -/

/-- The computation does not fail. -/
def Completes (action : Effect State Fault Value) (state : State) : Prop :=
  ∃ value final, exec action state = (.ok value, final)

/-- A computation that fails leaves a fault and a state that satisfy the condition. -/
def OnError (left : Fault → State → Prop) (action : Effect State Fault Value)
    (state : State) : Prop :=
  ∀ fault final, exec action state = (.error fault, final) → left fault final

section OnError

variable {left : Fault → State → Prop} {action : Effect State Fault Value} {state : State}

theorem onError_pure (value : Value) :
    OnError left (pure value : Effect State Fault Value) state := by
  intro fault final run
  cases run

theorem onError_get : OnError left (get : Effect State Fault State) state := by
  intro fault final run
  cases run

theorem onError_modify (change : State → State) :
    OnError left (modify change : Effect State Fault PUnit) state := by
  intro fault final run
  cases run

/-- A sequence fails in its first half, or in its second half after a first half that
has succeeded. -/
theorem onError_bind {next : Value → Effect State Fault Result} :
    OnError left (action >>= next) state ↔
      OnError left action state ∧
        ∀ value middle, exec action state = (.ok value, middle) →
          OnError left (next value) middle := by
  constructor
  · intro whole
    constructor
    · intro fault final first
      exact whole fault final (exec_bind_of_error first)
    · intro value middle first fault final later
      apply whole fault final
      rw [exec_bind_of_ok first]
      exact later
  · intro parts fault final run
    rw [exec_bind] at run
    rcases first : exec action state with ⟨reason | value, middle⟩
    · rw [first] at run
      cases run
      exact parts.1 _ _ first
    · rw [first] at run
      exact parts.2 value middle first fault final run

/-- A step whose failure changes nothing can fail only where it may. -/
theorem onError_of_unchanged {allowed : Prop}
    (unchanged : ∀ fault final, exec action state = (.error fault, final) →
      (left fault final ↔ allowed)) :
    OnError left action state ↔ (¬allowed → Completes action state) := by
  constructor
  · intro onError forbidden
    rcases run : exec action state with ⟨fault | value, final⟩
    · exact absurd ((unchanged fault final run).mp (onError fault final run)) forbidden
    · exact ⟨value, final, run⟩
  · intro completes fault final run
    apply (unchanged fault final run).mpr
    apply Classical.byContradiction
    intro forbidden
    rcases completes forbidden with ⟨value, other, success⟩
    rw [run] at success
    cases success

end OnError

end Dnst.Effect
