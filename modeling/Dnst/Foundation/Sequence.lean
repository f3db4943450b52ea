import Dnst.Foundation.Triple

/-! # Computations one after the other

A list of computations runs until one of them fails. What a run does is told by its steps,
each of which starts where the ones before it have ended.
-/

namespace Dnst.Effect

variable {State Fault Value Result : Type}

def inSequence : List (Effect State Fault Unit) → Effect State Fault Unit
  | [] => return ()
  | step :: steps => do
      step
      inSequence steps

/-- A run of these steps comes to one of them in the given state. -/
def ComesTo (steps : List (Effect State Fault Unit)) (start : State)
    (step : Effect State Fault Unit) (state : State) : Prop :=
  ∃ earlier later, steps = earlier ++ step :: later ∧
    exec (inSequence earlier) start = (.ok ⟨⟩, state)

variable {steps earlier later : List (Effect State Fault Unit)}
variable {first step : Effect State Fault Unit} {start middle state final : State}

theorem inSequence_append :
    inSequence (earlier ++ later) = (do inSequence earlier; inSequence later) := by
  induction earlier with
  | nil => rfl
  | cons step earlier induction =>
      rw [List.cons_append, inSequence, inSequence, induction, bind_assoc]

theorem ComesTo.mem (comes : ComesTo steps start step state) : step ∈ steps := by
  rcases comes with ⟨earlier, later, rfl, _⟩
  exact List.mem_append_right earlier List.mem_cons_self

theorem comesTo_cons :
    ComesTo (first :: steps) start step state ↔
      (step = first ∧ state = start) ∨
        ∃ middle, exec first start = (.ok ⟨⟩, middle) ∧ ComesTo steps middle step state := by
  constructor
  · rintro ⟨earlier, later, split, run⟩
    cases earlier with
    | nil =>
        cases split
        cases run
        exact Or.inl ⟨rfl, rfl⟩
    | cons one earlier =>
        cases split
        rcases exec_bind_eq_ok.mp run with ⟨_, middle, one, rest⟩
        exact Or.inr ⟨middle, one, earlier, later, rfl, rest⟩
  · rintro (⟨rfl, rfl⟩ | ⟨middle, one, earlier, later, rfl, rest⟩)
    · exact ⟨[], steps, rfl, rfl⟩
    · exact ⟨first :: earlier, later, rfl, (exec_bind_of_ok one).trans rest⟩

theorem comesTo_append :
    ComesTo (earlier ++ later) start step state ↔
      ComesTo earlier start step state ∨
        ∃ middle, exec (inSequence earlier) start = (.ok ⟨⟩, middle) ∧
          ComesTo later middle step state := by
  induction earlier generalizing start with
  | nil =>
      refine ⟨fun comes => Or.inr ⟨start, rfl, comes⟩, ?_⟩
      rintro (comes | ⟨middle, run, comes⟩)
      · cases comes.mem
      · cases run
        exact comes
  | cons first earlier induction =>
      rw [List.cons_append, comesTo_cons, comesTo_cons, or_assoc]
      refine or_congr Iff.rfl ?_
      constructor
      · rintro ⟨between, one, comes⟩
        rcases induction.mp comes with comes | ⟨middle, run, comes⟩
        · exact Or.inl ⟨between, one, comes⟩
        · exact Or.inr ⟨middle, (exec_bind_of_ok one).trans run, comes⟩
      · rintro (⟨between, one, comes⟩ | ⟨middle, run, comes⟩)
        · exact ⟨between, one, induction.mpr (Or.inl comes)⟩
        · rcases exec_bind_eq_ok.mp run with ⟨_, between, one, rest⟩
          exact ⟨between, one, induction.mpr (Or.inr ⟨middle, rest, comes⟩)⟩

/-- A run of the same step for each item comes to the step for one of them. -/
theorem comesTo_map {Item : Type} {items : List Item} {each : Item → Effect State Fault Unit} :
    ComesTo (items.map each) start step state ↔
      ∃ before item after, items = before ++ item :: after ∧ step = each item ∧
        exec (inSequence (before.map each)) start = (.ok ⟨⟩, state) := by
  constructor
  · rintro ⟨earlier, later, split, run⟩
    rcases List.map_eq_append_iff.mp split with ⟨before, rest, rfl, rfl, others⟩
    rcases List.map_eq_cons_iff.mp others with ⟨item, after, rfl, rfl, _⟩
    exact ⟨before, item, after, rfl, rfl, run⟩
  · rintro ⟨before, item, after, rfl, rfl, run⟩
    exact ⟨before.map each, after.map each, by rw [List.map_append, List.map_cons], run⟩

/-- What the steps of a run hand on from one to the next holds at its end. -/
theorem inSequence_induction {holds : State → Prop}
    (each : ∀ step state next, ComesTo steps start step state → holds state →
      exec step state = (.ok ⟨⟩, next) → holds next)
    (before : holds start) (run : exec (inSequence steps) start = (.ok ⟨⟩, final)) :
    holds final := by
  induction steps generalizing start with
  | nil =>
      cases run
      exact before
  | cons first steps induction =>
      rcases exec_bind_eq_ok.mp run with ⟨_, middle, one, rest⟩
      have reached : holds middle :=
        each first start middle (comesTo_cons.mpr (Or.inl ⟨rfl, rfl⟩)) before one
      refine induction ?_ reached rest
      intro step state next comes
      exact each step state next (comesTo_cons.mpr (Or.inr ⟨middle, one, comes⟩))

/-- It also holds wherever the run comes to a step. -/
theorem comesTo_induction {holds : State → Prop}
    (each : ∀ step state next, ComesTo steps start step state → holds state →
      exec step state = (.ok ⟨⟩, next) → holds next)
    (before : holds start) (comes : ComesTo steps start step state) : holds state := by
  rcases comes with ⟨earlier, later, rfl, run⟩
  refine inSequence_induction ?_ before run
  intro other between next comes
  exact each other between next (comesTo_append.mpr (Or.inl comes))

theorem completes_bind {action : Effect State Fault Value}
    {next : Value → Effect State Fault Result} :
    Completes (action >>= next) start ↔
      Completes action start ∧
        ∀ value middle, exec action start = (.ok value, middle) →
          Completes (next value) middle := by
  constructor
  · rintro ⟨result, final, run⟩
    rcases exec_bind_eq_ok.mp run with ⟨value, middle, one, rest⟩
    refine ⟨⟨value, middle, one⟩, ?_⟩
    intro other between same
    rw [one] at same
    cases same
    exact ⟨result, final, rest⟩
  · rintro ⟨⟨value, middle, one⟩, rest⟩
    rcases rest value middle one with ⟨result, final, run⟩
    exact ⟨result, final, (exec_bind_of_ok one).trans run⟩

/-- A run fails exactly when one of the steps that it comes to does. -/
theorem completes_inSequence_iff :
    Completes (inSequence steps) start ↔
      ∀ step state, ComesTo steps start step state → Completes step state := by
  induction steps generalizing start with
  | nil =>
      refine ⟨?_, fun _ => ⟨⟨⟩, start, rfl⟩⟩
      rintro _ step state ⟨earlier, later, split, _⟩
      cases earlier <;> cases split
  | cons first steps induction =>
      rw [inSequence, completes_bind]
      constructor
      · rintro ⟨one, rest⟩ step state comes
        rcases comesTo_cons.mp comes with ⟨rfl, rfl⟩ | ⟨middle, run, comes⟩
        · exact one
        · exact induction.mp (rest ⟨⟩ middle run) step state comes
      · intro each
        refine ⟨each first start (comesTo_cons.mpr (Or.inl ⟨rfl, rfl⟩)), ?_⟩
        intro value middle run
        refine induction.mpr fun step state comes => ?_
        exact each step state (comesTo_cons.mpr (Or.inr ⟨middle, run, comes⟩))

end Dnst.Effect
