import Dnst.Foundation.FileSteps

/-! # Opening files through links

A path may lead to a file through links. Opening for writing empties the file that is
found, or makes one where the links lead.
-/

namespace Dnst.FileSteps

variable {Path Octet Value : Type}

/-- Where a path leads when at most so many links are followed. -/
def follow (directory : Directory Path Octet) : Nat → Path → Option Path
  | 0, path =>
      match directory path with
      | some (.link _) => none
      | _ => some path
  | links + 1, path =>
      match directory path with
      | some (.link target) => follow directory links target
      | _ => some path

section Follow

variable {directory other : Directory Path Octet} {path target : Path} {links : Nat}

/-- A path that is no link leads to itself. -/
theorem follow_self (plain : ∀ target, directory path ≠ some (.link target)) :
    follow directory links path = some path := by
  cases links with
  | zero =>
      unfold follow
      split
      · next found => exact absurd found (plain _)
      · rfl
  | succ links =>
      unfold follow
      split
      · next found => exact absurd found (plain _)
      · rfl

theorem follow_link (found : directory path = some (.link target)) :
    follow directory (links + 1) path = follow directory links target := by
  simp only [follow, found]

/-- Following ends at something that is no link. -/
theorem follow_plain (leads : follow directory links path = some target) :
    ∀ further, directory target ≠ some (.link further) := by
  induction links generalizing path with
  | zero =>
      unfold follow at leads
      split at leads
      · cases leads
      · next plain =>
          cases leads
          exact plain
  | succ links induction =>
      unfold follow at leads
      split at leads
      · exact induction leads
      · next plain =>
          cases leads
          exact plain

/-- Only the links matter for where a path leads. -/
theorem follow_congr
    (same : ∀ path target, directory path = some (.link target) ↔
      other path = some (.link target)) :
    follow directory links path = follow other links path := by
  induction links generalizing path with
  | zero =>
      by_cases isLink : ∃ target, directory path = some (.link target)
      · rcases isLink with ⟨target, found⟩
        simp only [follow, found, (same path target).mp found]
      · have plain : ∀ target, directory path ≠ some (.link target) :=
          fun target found => isLink ⟨target, found⟩
        rw [follow_self plain, follow_self fun target found => plain target ((same _ _).mpr found)]
  | succ links induction =>
      by_cases isLink : ∃ target, directory path = some (.link target)
      · rcases isLink with ⟨target, found⟩
        rw [follow_link found, follow_link ((same path target).mp found), induction]
      · have plain : ∀ target, directory path ≠ some (.link target) :=
          fun target found => isLink ⟨target, found⟩
        rw [follow_self plain, follow_self fun target found => plain target ((same _ _).mpr found)]

end Follow

/-- How many links a path may lead through. -/
def maxLinks : Nat := 40

def tooManyLinks : String := "Too many levels of symbolic links (os error 40)"

/-- A call that fails from outside or does its work. -/
def call (failures : Failures)
    (work : Directory Path Octet → Except String (Value × Directory Path Octet))
    (state : State Path Octet) : Except String Value × State Path Octet :=
  match failures.failure state.calls with
  | some reason => (.error reason, ⟨state.directory, state.calls + 1⟩)
  | none =>
      match work state.directory with
      | .error reason => (.error reason, ⟨state.directory, state.calls + 1⟩)
      | .ok (value, directory) => (.ok value, ⟨directory, state.calls + 1⟩)

/-- Open a file that exists. The result is where it is. -/
def openWork (path : Path) (directory : Directory Path Octet) :
    Except String (Path × Directory Path Octet) :=
  match follow directory maxLinks path with
  | none => .error tooManyLinks
  | some target =>
      match directory target with
      | none => .error "No such file or directory (os error 2)"
      | some _ => .ok (target, directory)

/-- Read all of a file that is open. -/
def readWork (path : Path) (directory : Directory Path Octet) :
    Except String (List Octet × Directory Path Octet) :=
  match directory path with
  | some (.file _ content) => .ok (content, directory)
  | _ => .error "Is a directory (os error 21)"

variable [DecidableEq Path]

/-- The empty file in the place of an entry. -/
def emptied (mode : Nat) : Option (Entry Path Octet) → Entry Path Octet
  | some (.file old _) => .file old []
  | _ => .file mode []

/-- Open a file for writing and empty it, or create it. -/
def truncateWork (mode : Nat) (path : Path) (directory : Directory Path Octet) :
    Except String (Path × Directory Path Octet) :=
  match follow directory maxLinks path with
  | none => .error tooManyLinks
  | some target =>
      match directory target with
      | some .directory => .error "Is a directory (os error 21)"
      | entry => .ok (target, Function.update directory target (some (emptied mode entry)))

end Dnst.FileSteps
