import Mathlib.Logic.Basic

/-! # Stateful computations that may stop early

The carrier is the standard `ExceptT` over `StateM`: the state reached when a
computation stops is kept, so nothing that happened before a failure is undone.
-/

namespace Dnst

abbrev Effect (State Fault Value : Type) := ExceptT Fault (StateM State) Value

namespace Effect

variable {State Fault Value Result View Item : Type}

/-- Outcome and final state of a computation started in `state`. -/
def exec (action : Effect State Fault Value) (state : State) :
    Except Fault Value × State :=
  (ExceptT.run action).run state

@[simp] theorem exec_pure (value : Value) (state : State) :
    exec (pure value : Effect State Fault Value) state = (.ok value, state) := rfl

@[simp] theorem exec_throw (fault : Fault) (state : State) :
    exec (throw fault : Effect State Fault Value) state = (.error fault, state) := rfl

@[simp] theorem exec_get (state : State) :
    exec (get : Effect State Fault State) state = (.ok state, state) := rfl

@[simp] theorem exec_modify (change : State → State) (state : State) :
    exec (modify change : Effect State Fault PUnit) state = (.ok ⟨⟩, change state) := rfl

theorem exec_bind (action : Effect State Fault Value)
    (next : Value → Effect State Fault Result) (state : State) :
    exec (action >>= next) state =
      match exec action state with
      | (.ok value, middle) => exec (next value) middle
      | (.error fault, final) => (.error fault, final) := by
  change (ExceptT.run (action >>= next)).run state = _
  rw [ExceptT.run_bind, StateT.run_bind]
  unfold exec
  rcases StateT.run (ExceptT.run action) state with ⟨outcome, middle⟩
  cases outcome <;> rfl

theorem exec_bind_of_ok {action : Effect State Fault Value}
    {next : Value → Effect State Fault Result} {state middle : State} {value : Value}
    (first : exec action state = (.ok value, middle)) :
    exec (action >>= next) state = exec (next value) middle := by
  rw [exec_bind, first]

theorem exec_bind_of_error {action : Effect State Fault Value}
    {next : Value → Effect State Fault Result} {state final : State} {fault : Fault}
    (first : exec action state = (.error fault, final)) :
    exec (action >>= next) state = (.error fault, final) := by
  rw [exec_bind, first]

/-- A sequence succeeds exactly when both halves do. -/
theorem exec_bind_eq_ok {action : Effect State Fault Value}
    {next : Value → Effect State Fault Result} {state final : State} {result : Result} :
    exec (action >>= next) state = (.ok result, final) ↔
      ∃ value middle, exec action state = (.ok value, middle) ∧
        exec (next value) middle = (.ok result, final) := by
  rw [exec_bind]
  rcases exec action state with ⟨outcome, middle⟩
  cases outcome with
  | ok value =>
      constructor
      · intro later
        exact ⟨value, middle, rfl, later⟩
      · rintro ⟨_, _, first, later⟩
        cases first
        exact later
  | error fault =>
      constructor
      · intro impossible
        cases impossible
      · rintro ⟨_, _, first, _⟩
        cases first

theorem exec_bind_pure_state (action : Effect State Fault Value) (result : Value → Result)
    (state : State) :
    (exec (action >>= fun value => pure (result value)) state).2 = (exec action state).2 := by
  rw [exec_bind]
  rcases exec action state with ⟨outcome, final⟩
  cases outcome <;> rfl

theorem ok_of_toOption {result : Except Fault Value} {value : Value}
    (returned : result.toOption = some value) : result = .ok value := by
  cases result with
  | ok other =>
      cases returned
      rfl
  | error fault => cases returned

/-- A run that returns a value, from the value alone. -/
theorem exec_eq_of_toOption {action : Effect State Fault Value} {state : State} {value : Value}
    (returned : (exec action state).1.toOption = some value) :
    exec action state = (.ok value, (exec action state).2) :=
  Prod.ext (ok_of_toOption returned) rfl

/-- A sequence of results succeeds only when both do. -/
theorem bind_eq_ok {first : Except Fault Value} {next : Value → Except Fault Result}
    {result : Result} (run : first >>= next = .ok result) :
    ∃ value, first = .ok value ∧ next value = .ok result := by
  cases first with
  | ok value => exact ⟨value, rfl, run⟩
  | error fault => cases run

/-! ## Part of the state -/

/-- Run a computation on the part of the state that `view` shows. -/
def zoom (view : State → View) (put : State → View → State)
    (action : Effect View Fault Value) : Effect State Fault Value := do
  let state ← get
  let result := exec action (view state)
  set (put state result.2)
  match result.1 with
  | .ok value => return value
  | .error fault => throw fault

theorem exec_zoom (view : State → View) (put : State → View → State)
    (action : Effect View Fault Value) (state : State) :
    exec (zoom view put action) state =
      ((exec action (view state)).1, put state (exec action (view state)).2) := by
  simp only [zoom]
  rw [exec_bind_of_ok (exec_get state)]
  cases outcome : (exec action (view state)).1 <;> rfl

/-! ## Loops -/

/-- Visit the items in order and collect what the visits return. -/
def collect (visit : Item → Effect State Fault (Option Value)) :
    List Item → Effect State Fault (List Value)
  | [] => return []
  | item :: items => do
      let found ← visit item
      let others ← collect visit items
      return found.toList ++ others

end Effect

end Dnst
