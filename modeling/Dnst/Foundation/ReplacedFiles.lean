import Dnst.Foundation.FileLinks

/-! # Replacing files by renaming

A file is replaced by writing its new content to another file that is then renamed.
Whoever reads the path at any moment finds the old content or all of the new one, as
long as the other file is not on the way to anything that is read.
-/

namespace Dnst.FileSteps

variable {Path Octet : Type}

/-! ## Reading through links -/

/-- The paths that are looked at on the way from a path to where it leads. -/
def visits (directory : Directory Path Octet) : Nat → Path → List Path
  | 0, path => [path]
  | links + 1, path =>
      match directory path with
      | some (.link target) => path :: visits directory links target
      | _ => [path]

/-- What is read from a path. -/
def contentAt (directory : Directory Path Octet) (path : Path) : Option (List Octet) :=
  match follow directory maxLinks path with
  | none => none
  | some target =>
      match directory target with
      | some (.file _ content) => some content
      | _ => none

section Reading

variable {directory other : Directory Path Octet} {path target : Path} {links : Nat}

theorem self_mem_visits : path ∈ visits directory links path := by
  cases links with
  | zero => simp [visits]
  | succ links =>
      unfold visits
      split <;> simp

theorem visits_self (plain : ∀ target, directory path ≠ some (.link target)) :
    visits directory links path = [path] := by
  cases links with
  | zero => rfl
  | succ links =>
      unfold visits
      split
      · next found => exact absurd found (plain _)
      · rfl

theorem follow_mem_visits (leads : follow directory links path = some target) :
    target ∈ visits directory links path := by
  induction links generalizing path with
  | zero =>
      unfold follow at leads
      split at leads
      · cases leads
      · cases leads
        exact self_mem_visits
  | succ links induction =>
      unfold follow at leads
      split at leads
      · next found =>
          unfold visits
          rw [found]
          exact List.mem_cons_of_mem path (induction leads)
      · cases leads
        exact self_mem_visits

/-- Only what is looked at matters. -/
theorem visits_congr
    (same : ∀ place ∈ visits directory links path, other place = directory place) :
    visits other links path = visits directory links path ∧
      follow other links path = follow directory links path := by
  have here := same path self_mem_visits
  induction links generalizing path with
  | zero =>
      simp only [visits, follow, here]
      exact ⟨trivial, trivial⟩
  | succ links induction =>
      unfold visits follow
      rw [here]
      cases found : directory path with
      | none => exact ⟨rfl, rfl⟩
      | some entry =>
          cases entry with
          | link target =>
              have further : ∀ place ∈ visits directory links target,
                  other place = directory place := by
                intro place visited
                apply same
                unfold visits
                rw [found]
                exact List.mem_cons_of_mem path visited
              have rest := induction further (further target self_mem_visits)
              exact ⟨congrArg (path :: ·) rest.1, rest.2⟩
          | _ => exact ⟨rfl, rfl⟩

theorem contentAt_congr
    (same : ∀ place ∈ visits directory maxLinks path, other place = directory place) :
    contentAt other path = contentAt directory path := by
  unfold contentAt
  rw [(visits_congr same).2]
  cases leads : follow directory maxLinks path with
  | none => rfl
  | some target =>
      dsimp only
      rw [same target (follow_mem_visits leads)]

theorem contentAt_file {mode : Nat} {content : List Octet}
    (file : directory path = some (.file mode content)) :
    contentAt directory path = some content := by
  have plain : ∀ target, directory path ≠ some (.link target) := by
    intro target found
    rw [file] at found
    cases found
  unfold contentAt
  rw [follow_self plain]
  dsimp only
  rw [file]

end Reading

/-! ## Writing out of the way -/

structure Replacement (Path Octet : Type) where
  path : Path
  content : List Octet
  deriving DecidableEq, Repr

section Between

variable {new : Path → Path} {watched : Path → Prop} {replacement : Replacement Path Octet}
variable {directory after : Directory Path Octet} {path : Path}

/-- The files that are written to are out of the way of what is read. -/
structure Apart (new : Path → Path) (watched : Path → Prop)
    (directory : Directory Path Octet) : Prop where
  plain : ∀ path, watched path → ∀ target, directory (new path) ≠ some (.link target)
  unread : ∀ path other, watched path → watched other →
    new path ∉ visits directory maxLinks other
  own : ∀ path other, watched path → watched other →
    path ∈ visits directory maxLinks other → path = other

/-- Only the other file is touched, and it is no link. -/
structure Aside (path : Path) (directory after : Directory Path Octet) : Prop where
  same : ∀ place, place ≠ path → after place = directory place
  plain : ∀ target, after path ≠ some (.link target)

/-- The content is in place and the other file is gone. -/
structure InPlace (new : Path → Path) (replacement : Replacement Path Octet)
    (directory after : Directory Path Octet) : Prop where
  same : ∀ place, place ≠ new replacement.path → place ≠ replacement.path →
    after place = directory place
  gone : after (new replacement.path) = none
  file : ∃ kept, after replacement.path = some (.file kept replacement.content)

/-- A path that matters for what is read and written. -/
def LooksAt (new : Path → Path) (watched : Path → Prop) (directory : Directory Path Octet)
    (place : Path) : Prop :=
  ∃ path, watched path ∧ (place = new path ∨ place ∈ visits directory maxLinks path)

theorem contentAt_elsewhere
    (same : ∀ place, LooksAt new watched directory place → after place = directory place)
    (seen : watched path) : contentAt after path = contentAt directory path :=
  contentAt_congr fun place visited => same place ⟨path, seen, Or.inr visited⟩

/-- What happens elsewhere does no harm. -/
theorem Apart.elsewhere (apart : Apart new watched directory)
    (same : ∀ place, LooksAt new watched directory place → after place = directory place) :
    Apart new watched after := by
  have visited : ∀ other, watched other →
      visits after maxLinks other = visits directory maxLinks other :=
    fun other read => (visits_congr fun place seen => same place ⟨other, read, Or.inr seen⟩).1
  constructor
  · intro other read
    rw [same (new other) ⟨other, read, Or.inl rfl⟩]
    exact apart.plain other read
  · intro one other first second
    rw [visited other second]
    exact apart.unread one other first second
  · intro one other first second
    rw [visited other second]
    exact apart.own one other first second

theorem Apart.distinct (apart : Apart new watched directory) {path : Path} (seen : watched path) :
    new path ≠ path := by
  intro same
  apply apart.unread path path seen seen
  rw [same]
  exact self_mem_visits

theorem Aside.contentAt (aside : Aside (new path) directory after)
    (apart : Apart new watched directory) (seen : watched path) {other : Path}
    (read : watched other) : contentAt after other = contentAt directory other := by
  apply contentAt_congr
  intro place visited
  apply aside.same
  intro same
  exact apart.unread path other seen read (same ▸ visited)

theorem Aside.apart (aside : Aside (new path) directory after)
    (apart : Apart new watched directory) (seen : watched path) : Apart new watched after := by
  have visited : ∀ other, watched other →
      visits after maxLinks other = visits directory maxLinks other := by
    intro other read
    refine (visits_congr fun place visited => aside.same place ?_).1
    intro same
    exact apart.unread path other seen read (same ▸ visited)
  constructor
  · intro other read target found
    by_cases same : new other = new path
    · rw [same] at found
      exact aside.plain target found
    · rw [aside.same _ same] at found
      exact apart.plain other read target found
  · intro one other first second
    rw [visited other second]
    exact apart.unread one other first second
  · intro one other first second
    rw [visited other second]
    exact apart.own one other first second

theorem InPlace.visits_other (inPlace : InPlace new replacement directory after)
    (apart : Apart new watched directory) (seen : watched replacement.path) {other : Path}
    (read : watched other) (differs : other ≠ replacement.path) :
    ∀ place ∈ visits directory maxLinks other, after place = directory place := by
  intro place visited
  apply inPlace.same
  · intro same
    exact apart.unread replacement.path other seen read (same ▸ visited)
  · intro same
    exact differs (apart.own replacement.path other seen read (same ▸ visited)).symm

theorem InPlace.plain (inPlace : InPlace new replacement directory after) (target : Path) :
    after replacement.path ≠ some (.link target) := by
  rcases inPlace.file with ⟨kept, file⟩
  rw [file]
  intro impossible
  cases impossible

theorem InPlace.contentAt [DecidableEq Path]
    (inPlace : InPlace new replacement directory after)
    (apart : Apart new watched directory) (seen : watched replacement.path) {other : Path}
    (read : watched other) :
    contentAt after other =
      if replacement.path = other then some replacement.content
      else contentAt directory other := by
  by_cases same : replacement.path = other
  · rcases inPlace.file with ⟨kept, file⟩
    rw [if_pos same, ← same]
    exact contentAt_file file
  · rw [if_neg same]
    exact contentAt_congr (inPlace.visits_other apart seen read fun reverse => same reverse.symm)

theorem InPlace.visits_eq (inPlace : InPlace new replacement directory after)
    (apart : Apart new watched directory) (seen : watched replacement.path) {other : Path}
    (read : watched other) :
    visits after maxLinks other = [other] ∨
      visits after maxLinks other = visits directory maxLinks other := by
  by_cases same : other = replacement.path
  · left
    rw [same]
    exact visits_self inPlace.plain
  · exact Or.inr (visits_congr (inPlace.visits_other apart seen read same)).1

theorem InPlace.apart (inPlace : InPlace new replacement directory after)
    (apart : Apart new watched directory) (seen : watched replacement.path) :
    Apart new watched after := by
  have fewer : ∀ place other, watched other → place ∈ visits after maxLinks other →
      place ∈ visits directory maxLinks other := by
    intro place other read visited
    rcases inPlace.visits_eq apart seen read with alone | same
    · rw [alone, List.mem_singleton] at visited
      rw [visited]
      exact self_mem_visits
    · exact same ▸ visited
  constructor
  · intro other read target found
    by_cases written : new other = new replacement.path
    · rw [written, inPlace.gone] at found
      cases found
    · by_cases replaced : new other = replacement.path
      · rw [replaced] at found
        exact inPlace.plain target found
      · rw [inPlace.same _ written replaced] at found
        exact apart.plain other read target found
  · intro one other first second visited
    exact apart.unread one other first second (fewer _ other second visited)
  · intro one other first second visited
    exact apart.own one other first second (fewer _ other second visited)

end Between

/-! ## Replacing files -/

section Replacing

variable [DecidableEq Path] (new : Path → Path) (mode : Nat)

/-- Write the content to the other file and rename that. -/
def replace (replacement : Replacement Path Octet) (directory : Directory Path Octet) :
    Except String (Directory Path Octet) :=
  match truncateWork mode (new replacement.path) directory with
  | .error reason => .error reason
  | .ok (target, opened) =>
      let written := Step.fill target replacement.content opened
      let rename : Step Path Octet := .move (new replacement.path) replacement.path
      match rename.obstacle written with
      | some reason => .error reason
      | none => .ok (rename.apply written)

/-- What there is at some moment while a file is replaced. -/
inductive Moment (replacement : Replacement Path Octet) (directory : Directory Path Octet) :
    Directory Path Octet → Prop
  | begin : Moment replacement directory directory
  | writing {target : Path} {opened : Directory Path Octet} (taken : Nat) :
      truncateWork mode (new replacement.path) directory = .ok (target, opened) →
      Moment replacement directory
        (Step.fill target (replacement.content.take taken) opened)
  | finish {after : Directory Path Octet} :
      replace new mode replacement directory = .ok after →
      Moment replacement directory after

/-- What there is at some moment while files are replaced one after the other. -/
inductive Moments : List (Replacement Path Octet) → Directory Path Octet →
    Directory Path Octet → Prop
  | begin (replacements directory) : Moments replacements directory directory
  | during {replacement replacements directory after} :
      Moment new mode replacement directory after →
      Moments (replacement :: replacements) directory after
  | next {replacement replacements directory middle after} :
      replace new mode replacement directory = .ok middle →
      Moments replacements middle after →
      Moments (replacement :: replacements) directory after

variable {new mode} {watched : Path → Prop} {replacement : Replacement Path Octet}
variable {directory after : Directory Path Octet}

/-- Opening a path that is no link makes an empty file of it. -/
theorem truncateWork_plain {path target : Path} {opened : Directory Path Octet}
    (plain : ∀ further, directory path ≠ some (.link further))
    (truncated : truncateWork mode path directory = .ok (target, opened)) :
    target = path ∧
      ∃ kept, opened = Function.update directory path (some (.file kept [])) := by
  unfold truncateWork at truncated
  rw [follow_self plain] at truncated
  dsimp only at truncated
  split at truncated
  · cases truncated
  · cases truncated
    apply And.intro rfl
    cases directory path with
    | none => exact ⟨mode, rfl⟩
    | some entry =>
        cases entry with
        | file old content => exact ⟨old, rfl⟩
        | _ => exact ⟨mode, rfl⟩

theorem fill_aside {path : Path} {kept : Nat} {content : List Octet} :
    Aside path directory
      (Step.fill path content (Function.update directory path (some (.file kept [])))) := by
  have file : Function.update directory path (some (.file kept [])) path =
      some (.file kept []) := Function.update_self _ _ _
  constructor
  · intro place elsewhere
    rw [fill_frame elsewhere, Function.update_of_ne elsewhere]
  · intro target found
    rw [fill_file file] at found
    cases found

theorem replace_inPlace
    (plain : ∀ target, directory (new replacement.path) ≠ some (.link target))
    (distinct : new replacement.path ≠ replacement.path)
    (replaced : replace new mode replacement directory = .ok after) :
    InPlace new replacement directory after := by
  unfold replace at replaced
  cases truncated : truncateWork mode (new replacement.path) directory with
  | error reason =>
      rw [truncated] at replaced
      cases replaced
  | ok result =>
      rcases result with ⟨target, opened⟩
      rw [truncated] at replaced
      rcases truncateWork_plain plain truncated with ⟨rfl, kept, rfl⟩
      dsimp only at replaced
      split at replaced
      · cases replaced
      · cases replaced
        have aside := @fill_aside _ _ _ directory (new replacement.path) kept replacement.content
        have filled : Step.fill (new replacement.path) replacement.content
            (Function.update directory (new replacement.path) (some (.file kept [])))
              (new replacement.path) = some (.file kept replacement.content) :=
          fill_file (Function.update_self _ _ _)
        constructor
        · intro place outside elsewhere
          rw [Step.apply_move, Function.update_of_ne outside, Function.update_of_ne elsewhere]
          exact aside.same place outside
        · rw [Step.apply_move, Function.update_self]
        · have moved : Function.update (Function.update (Step.fill (new replacement.path)
              replacement.content (Function.update directory (new replacement.path)
                (some (.file kept [])))) replacement.path (some (.file kept replacement.content)))
                (new replacement.path) none replacement.path =
              some (.file kept replacement.content) := by
            rw [Function.update_of_ne distinct.symm, Function.update_self]
          exact ⟨kept, by rw [Step.apply_move, filled, moved]⟩

theorem Apart.inPlace (apart : Apart new watched directory) (seen : watched replacement.path)
    (replaced : replace new mode replacement directory = .ok after) :
    InPlace new replacement directory after :=
  replace_inPlace (apart.plain _ seen) (apart.distinct seen) replaced

/-- A moment is before the rename or behind it. -/
theorem Apart.moment (apart : Apart new watched directory) (seen : watched replacement.path)
    (moment : Moment new mode replacement directory after) :
    Aside (new replacement.path) directory after ∨ InPlace new replacement directory after := by
  cases moment with
  | begin => exact Or.inl ⟨fun _ _ => rfl, apart.plain _ seen⟩
  | writing taken truncated =>
      rcases truncateWork_plain (apart.plain _ seen) truncated with ⟨rfl, kept, rfl⟩
      exact Or.inl fill_aside
  | finish replaced => exact Or.inr (apart.inPlace seen replaced)

/-- What a path holds when the files have been replaced. -/
def latest (replacements : List (Replacement Path Octet)) (path : Path)
    (content : Option (List Octet)) : Option (List Octet) :=
  replacements.foldl (fun found replacement =>
    if replacement.path = path then some replacement.content else found) content

@[simp] theorem latest_nil (path : Path) (content : Option (List Octet)) :
    latest [] path content = content := rfl

@[simp] theorem latest_cons (replacement : Replacement Path Octet)
    (replacements : List (Replacement Path Octet)) (path : Path)
    (content : Option (List Octet)) :
    latest (replacement :: replacements) path content =
      latest replacements path
        (if replacement.path = path then some replacement.content else content) := rfl

/-- At every moment some of the files have been replaced, in order, and the others are
as they were. -/
theorem Moments.contentAt {replacements : List (Replacement Path Octet)}
    (moments : Moments new mode replacements directory after)
    (apart : Apart new watched directory)
    (seen : ∀ replacement ∈ replacements, watched replacement.path) :
    Apart new watched after ∧
      ∃ done rest, replacements = done ++ rest ∧ ∀ path, watched path →
        contentAt after path = latest done path (contentAt directory path) := by
  induction moments with
  | begin replacements directory =>
      exact ⟨apart, [], replacements, rfl, fun _ _ => rfl⟩
  | @during replacement replacements directory after moment =>
      have first := seen replacement List.mem_cons_self
      rcases apart.moment first moment with aside | inPlace
      · refine ⟨aside.apart apart first, [], replacement :: replacements, rfl, ?_⟩
        intro path read
        exact aside.contentAt apart first read
      · refine ⟨inPlace.apart apart first, [replacement], replacements, rfl, ?_⟩
        intro path read
        exact inPlace.contentAt apart first read
  | @next replacement replacements directory middle after replaced _ induction =>
      have first := seen replacement List.mem_cons_self
      have inPlace := apart.inPlace first replaced
      have later : ∀ other ∈ replacements, watched other.path :=
        fun other member => seen other (List.mem_cons_of_mem _ member)
      rcases induction (inPlace.apart apart first) later with
        ⟨apartAfter, done, rest, split, contents⟩
      refine ⟨apartAfter, replacement :: done, rest, by rw [split]; rfl, ?_⟩
      intro path read
      rw [contents path read, inPlace.contentAt apart first read]
      rfl

end Replacing

end Dnst.FileSteps
