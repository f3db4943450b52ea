import Mathlib.Logic.Function.Basic

/-! # Steps on the files of a directory

A sequence of steps ends with the first one that fails. Nothing is undone: what the
steps before it did stays, and a write may have got a part of its content into the file.
-/

namespace Dnst.FileSteps

inductive Entry (Path Octet : Type) where
  | file (mode : Nat) (content : List Octet)
  | link (target : Path)
  | directory
  deriving DecidableEq, Repr

abbrev Directory (Path Octet : Type) := Path → Option (Entry Path Octet)

inductive Step (Path Octet : Type) where
  /-- Create a file that does not exist. -/
  | create (path : Path) (mode : Nat)
  | link (target path : Path)
  | move (old new : Path)
  /-- Write to a file that has been created. -/
  | write (path : Path) (content : List Octet)
  deriving DecidableEq, Repr

/-- Failures from outside, by the number of the call. -/
structure Failures where
  failure : Nat → Option String
  /-- How much of its content a failing write gets into the file. -/
  taken : Nat → Nat

structure State (Path Octet : Type) where
  directory : Directory Path Octet
  calls : Nat

variable {Path Octet : Type} [DecidableEq Path]

namespace Step

/-- The file at the path gets the content. -/
def fill (path : Path) (content : List Octet) (directory : Directory Path Octet) :
    Directory Path Octet :=
  match directory path with
  | some (.file mode _) => Function.update directory path (some (.file mode content))
  | _ => directory

def apply (directory : Directory Path Octet) : Step Path Octet → Directory Path Octet
  | .create path mode => Function.update directory path (some (.file mode []))
  | .link target path => Function.update directory path (some (.link target))
  | .move old new => Function.update (Function.update directory new (directory old)) old none
  | .write path content => fill path content directory

@[simp] theorem apply_create (directory : Directory Path Octet) (path : Path) (mode : Nat) :
    apply directory (.create path mode) =
      Function.update directory path (some (.file mode [])) := rfl

@[simp] theorem apply_link (directory : Directory Path Octet) (target path : Path) :
    apply directory (.link target path) =
      Function.update directory path (some (.link target)) := rfl

@[simp] theorem apply_move (directory : Directory Path Octet) (old new : Path) :
    apply directory (.move old new) =
      Function.update (Function.update directory new (directory old)) old none := rfl

@[simp] theorem apply_write (directory : Directory Path Octet) (path : Path)
    (content : List Octet) :
    apply directory (.write path content) = fill path content directory := rfl

/-- What a failing step leaves behind. -/
def partly (taken : Nat) (directory : Directory Path Octet) :
    Step Path Octet → Directory Path Octet
  | .write path content => fill path (content.take (min taken (content.length - 1))) directory
  | _ => directory

/-- Why an entry cannot take the place of another one. -/
def moveObstacle : Option (Entry Path Octet) → Option (Entry Path Octet) → Option String
  | none, _ => some "No such file or directory (os error 2)"
  | some _, some .directory => some "Is a directory (os error 21)"
  | some _, _ => none

/-- Why the directory does not allow the step. -/
def obstacle (directory : Directory Path Octet) : Step Path Octet → Option String
  | .create path _ =>
      if (directory path).isSome then some "File exists (os error 17)" else none
  | .link _ path =>
      if (directory path).isSome then some "File exists (os error 17)" else none
  | .move old new => moveObstacle (directory old) (directory new)
  | .write _ _ => none

/-- The paths whose entries a step may change. -/
def touches : Step Path Octet → List Path
  | .create path _ => [path]
  | .link _ path => [path]
  | .move old new => [old, new]
  | .write path _ => [path]

/-- The path that a step takes away. -/
def removes : Step Path Octet → Option Path
  | .move old _ => some old
  | _ => none

end Step

/-- One step: the directory behind it, or the reason and what is left behind. -/
def attempt (failures : Failures) (step : Step Path Octet) (state : State Path Octet) :
    Except String Unit × State Path Octet :=
  match failures.failure state.calls with
  | some reason =>
      (.error reason,
        ⟨step.partly (failures.taken state.calls) state.directory, state.calls + 1⟩)
  | none =>
      match step.obstacle state.directory with
      | some reason => (.error reason, ⟨state.directory, state.calls + 1⟩)
      | none => (.ok (), ⟨step.apply state.directory, state.calls + 1⟩)

/-- Steps up to the first one that fails. -/
def runSteps (failures : Failures) :
    List (Step Path Octet) → State Path Octet → Except String Unit × State Path Octet
  | [], state => (.ok (), state)
  | step :: steps, state =>
      match attempt failures step state with
      | (.ok _, next) => runSteps failures steps next
      | (.error reason, final) => (.error reason, final)

def applyAll (directory : Directory Path Octet) (steps : List (Step Path Octet)) :
    Directory Path Octet :=
  steps.foldl Step.apply directory

/-! ## Single steps -/

section Steps

variable {failures : Failures} {step : Step Path Octet} {path : Path}
variable {directory : Directory Path Octet} {state final : State Path Octet}

theorem fill_frame {other : Path} {content : List Octet} (outside : other ≠ path) :
    Step.fill path content directory other = directory other := by
  unfold Step.fill
  cases found : directory path with
  | none => rfl
  | some entry =>
      cases entry with
      | file mode old => exact Function.update_of_ne outside _ _
      | _ => rfl

theorem fill_file {mode : Nat} {old content : List Octet}
    (file : directory path = some (.file mode old)) :
    Step.fill path content directory path = some (.file mode content) := by
  unfold Step.fill
  rw [file]
  exact Function.update_self _ _ _

theorem fill_isSome {other : Path} {content : List Octet}
    (present : (directory other).isSome = true) :
    (Step.fill path content directory other).isSome = true := by
  by_cases same : other = path
  · rw [same] at present ⊢
    unfold Step.fill
    cases found : directory path with
    | none =>
        rw [found] at present
        cases present
    | some entry =>
        cases entry with
        | file mode old => simp
        | _ => simp [found]
  · rw [fill_frame same]
    exact present

theorem apply_frame (untouched : path ∉ step.touches) :
    step.apply directory path = directory path := by
  cases step with
  | create other mode => exact Function.update_of_ne (by simpa [Step.touches] using untouched) _ _
  | link target other => exact Function.update_of_ne (by simpa [Step.touches] using untouched) _ _
  | move old new =>
      have outside : path ≠ old ∧ path ≠ new := by simpa [Step.touches] using untouched
      rw [Step.apply_move, Function.update_of_ne outside.1, Function.update_of_ne outside.2]
  | write other content => exact fill_frame (by simpa [Step.touches] using untouched)

/-- Only a move takes a path away. -/
theorem apply_isSome (stays : step.removes ≠ some path)
    (present : (directory path).isSome = true)
    (allowed : step.obstacle directory = none) :
    (step.apply directory path).isSome = true := by
  cases step with
  | create other mode =>
      rw [Step.apply_create]
      by_cases same : path = other
      · simp [same]
      · rw [Function.update_of_ne same]
        exact present
  | link target other =>
      rw [Step.apply_link]
      by_cases same : path = other
      · simp [same]
      · rw [Function.update_of_ne same]
        exact present
  | move old new =>
      have kept : path ≠ old := by
        intro same
        exact stays (by rw [same]; rfl)
      rw [Step.apply_move, Function.update_of_ne kept]
      by_cases same : path = new
      · rw [same, Function.update_self]
        change Step.moveObstacle (directory old) (directory new) = none at allowed
        cases found : directory old with
        | none =>
            rw [found] at allowed
            cases allowed
        | some entry => rfl
      · rw [Function.update_of_ne same]
        exact present
  | write other content => exact fill_isSome present

theorem partly_isSome (taken : Nat) (present : (directory path).isSome = true) :
    (step.partly taken directory path).isSome = true := by
  cases step with
  | write other content => exact fill_isSome present
  | _ => exact present

end Steps

/-! ## Sequences of steps -/

section Sequences

variable {failures : Failures} {steps : List (Step Path Octet)} {path : Path}
variable {directory : Directory Path Octet} {state final : State Path Octet}

@[simp] theorem applyAll_nil : applyAll directory ([] : List (Step Path Octet)) = directory := rfl

@[simp] theorem applyAll_cons (step : Step Path Octet) (steps : List (Step Path Octet)) :
    applyAll directory (step :: steps) = applyAll (step.apply directory) steps := rfl

theorem applyAll_append (left right : List (Step Path Octet)) :
    applyAll directory (left ++ right) = applyAll (applyAll directory left) right :=
  List.foldl_append

theorem applyAll_frame (untouched : ∀ step ∈ steps, path ∉ step.touches) :
    applyAll directory steps path = directory path := by
  induction steps generalizing directory with
  | nil => rfl
  | cons step steps induction =>
      rw [applyAll_cons, induction fun other member => untouched other (by simp [member])]
      exact apply_frame (untouched step (by simp))

theorem runSteps_append (left right : List (Step Path Octet)) :
    runSteps failures (left ++ right) state =
      match runSteps failures left state with
      | (.ok _, middle) => runSteps failures right middle
      | (.error reason, final) => (.error reason, final) := by
  induction left generalizing state with
  | nil => rfl
  | cons step left induction =>
      rw [List.cons_append, runSteps, runSteps]
      rcases attempt failures step state with ⟨reason | _, next⟩
      · rfl
      · exact induction

/-- A step that is allowed and does not fail. -/
theorem attempt_ok {step : Step Path Octet}
    (run : attempt failures step state = (.ok (), final)) :
    step.obstacle state.directory = none ∧ final.directory = step.apply state.directory := by
  unfold attempt at run
  split at run
  · cases run
  · split at run
    · cases run
    · next allowed =>
        cases run
        exact ⟨allowed, rfl⟩

theorem attempt_error {step : Step Path Octet} {reason : String}
    (run : attempt failures step state = (.error reason, final)) :
    final.directory = state.directory ∨
      ∃ taken, final.directory = step.partly taken state.directory := by
  unfold attempt at run
  split at run
  · cases run
    exact Or.inr ⟨_, rfl⟩
  · split at run
    · cases run
      exact Or.inl rfl
    · cases run

theorem runSteps_ok (run : runSteps failures steps state = (.ok (), final)) :
    final.directory = applyAll state.directory steps := by
  induction steps generalizing state with
  | nil =>
      cases run
      rfl
  | cons step steps induction =>
      unfold runSteps at run
      split at run
      · next result next first =>
          rw [induction run, (attempt_ok first).2]
          rfl
      · cases run

/-- The directory behind the steps before one that fails, which may have written a part
of its content. -/
def Stopped (before : Directory Path Octet) (done rest : List (Step Path Octet))
    (after : Directory Path Octet) : Prop :=
  ∃ next others, rest = next :: others ∧
    (after = applyAll before done ∨
      ∃ taken, after = next.partly taken (applyAll before done))

theorem runSteps_error {reason : String}
    (run : runSteps failures steps state = (.error reason, final)) :
    ∃ done rest, steps = done ++ rest ∧ Stopped state.directory done rest final.directory ∧
      ∃ middle, runSteps failures done state = (.ok (), middle) := by
  induction steps generalizing state with
  | nil => cases run
  | cons step steps induction =>
      unfold runSteps at run
      split at run
      · next result next first =>
          rcases induction run with ⟨done, rest, split, stopped, middle, reached⟩
          unfold Stopped at stopped
          rw [(attempt_ok first).2] at stopped
          refine ⟨step :: done, rest, by rw [split]; rfl, stopped, middle, ?_⟩
          unfold runSteps
          rw [first]
          exact reached
      · next reason' final' first =>
          cases run
          refine ⟨[], step :: steps, rfl, ⟨step, steps, rfl, attempt_error first⟩, state, rfl⟩

/-- Steps that are all allowed take no path away but those they move. -/
theorem runSteps_isSome (stays : ∀ step ∈ steps, step.removes ≠ some path)
    (present : (state.directory path).isSome = true)
    (run : runSteps failures steps state = (.ok (), final)) :
    (final.directory path).isSome = true := by
  induction steps generalizing state with
  | nil =>
      cases run
      exact present
  | cons step steps induction =>
      unfold runSteps at run
      split at run
      · next result next first =>
          apply induction (fun other member => stays other (by simp [member])) _ run
          rw [(attempt_ok first).2]
          exact apply_isSome (stays step (by simp)) present (attempt_ok first).1
      · cases run

/-- A file that a successful sequence begins with is new, and stays. -/
theorem runSteps_created {mode : Nat}
    (stays : ∀ step ∈ steps, step.removes ≠ some path)
    (run : runSteps failures (.create path mode :: steps) state = (.ok (), final)) :
    state.directory path = none ∧ (final.directory path).isSome = true := by
  unfold runSteps at run
  split at run
  · next result next first =>
      rcases attempt_ok first with ⟨allowed, same⟩
      have absent : state.directory path = none := by
        by_contra present
        rw [Step.obstacle, if_pos (Option.isSome_iff_ne_none.mpr present)] at allowed
        cases allowed
      apply And.intro absent
      apply runSteps_isSome stays _ run
      rw [same, Step.apply_create, Function.update_self]
      rfl
  · cases run

/-- Writes and moves are about what has been made before, which is `mine`. -/
def Owns : List Path → List (Step Path Octet) → Prop
  | _, [] => True
  | mine, .create path _ :: rest => Owns (path :: mine) rest
  | mine, .link _ path :: rest => Owns (path :: mine) rest
  | mine, .move old _ :: rest => old ∈ mine ∧ Owns mine rest
  | mine, .write path _ :: rest => path ∈ mine ∧ Owns mine rest

omit [DecidableEq Path] in
/-- An allowed step of this kind touches only what is its own. -/
theorem not_touched {mine : List Path} {step : Step Path Octet}
    (owns : Owns mine (step :: steps)) (foreign : path ∉ mine)
    (present : (directory path).isSome = true) (stays : ∀ old, step ≠ .move old path)
    (allowed : step.obstacle directory = none) :
    path ∉ step.touches ∧ ∃ others, Owns others steps ∧ path ∉ others := by
  have ownPath : ∀ other, (if (directory other).isSome then
      some "File exists (os error 17)" else none) = none → path ≠ other := by
    intro other free same
    rw [← same, if_pos present] at free
    cases free
  cases step with
  | create other mode =>
      have differs := ownPath other allowed
      refine ⟨by simpa [Step.touches] using differs, other :: mine, owns, ?_⟩
      simp [differs, foreign]
  | link target other =>
      have differs := ownPath other allowed
      refine ⟨by simpa [Step.touches] using differs, other :: mine, owns, ?_⟩
      simp [differs, foreign]
  | move old new =>
      have source : path ≠ old := by
        intro same
        exact foreign (by rw [same]; exact owns.1)
      have replaced : path ≠ new := by
        intro same
        exact stays old (by rw [same])
      exact ⟨by simp [Step.touches, source, replaced], mine, owns.2, foreign⟩
  | write other content =>
      have differs : path ≠ other := by
        intro same
        exact foreign (by rw [same]; exact owns.1)
      exact ⟨by simpa [Step.touches] using differs, mine, owns.2, foreign⟩

theorem partly_keeps {mine : List Path} {step : Step Path Octet}
    (owns : Owns mine (step :: steps)) (foreign : path ∉ mine) (taken : Nat) :
    step.partly taken directory path = directory path := by
  cases step with
  | write other content =>
      apply fill_frame
      intro same
      exact foreign (by rw [same]; exact owns.1)
  | _ => rfl

/-- What is there before such steps stays as it is, unless it is replaced by a move. -/
theorem runSteps_keeps {mine : List Path} (owns : Owns mine steps) (foreign : path ∉ mine)
    (present : (state.directory path).isSome = true)
    (stays : ∀ old, Step.move old path ∉ steps) :
    (runSteps failures steps state).2.directory path = state.directory path := by
  induction steps generalizing mine state with
  | nil => rfl
  | cons step steps induction =>
      unfold runSteps
      rcases tried : attempt failures step state with ⟨reason | _, next⟩
      · rcases attempt_error tried with same | ⟨taken, same⟩
        · dsimp only
          rw [same]
        · dsimp only
          rw [same]
          exact partly_keeps owns foreign taken
      · rcases attempt_ok tried with ⟨allowed, same⟩
        have others : ∀ old, step ≠ .move old path := by
          intro old moves
          exact stays old (by simp [moves])
        rcases not_touched owns foreign present others allowed with
          ⟨untouched, later, ownsLater, foreignLater⟩
        have kept : next.directory path = state.directory path := by
          rw [same]
          exact apply_frame untouched
        dsimp only
        rw [induction ownsLater foreignLater (by rw [kept]; exact present)
          fun old member => stays old (by simp [member]), kept]

/-- What the last step that touches a path makes of it. -/
theorem applyAll_last {before after : List (Step Path Octet)} {step : Step Path Octet}
    (untouched : ∀ other ∈ after, path ∉ other.touches) :
    applyAll directory (before ++ step :: after) path =
      step.apply (applyAll directory before) path := by
  rw [applyAll_append, applyAll_cons, applyAll_frame untouched]

end Sequences

end Dnst.FileSteps
