import Mathlib.Algebra.GroupWithZero.Nat
import Mathlib.Data.List.Infix

/-! # Greedy selection

Items are taken from a list in order as long as they fit beside what has been taken.
The selection is an initial segment exactly when no item fits in the place of an
earlier one that does not.
-/

namespace Dnst.Greedy

variable {Item : Type} (weight : Item → Nat) (fits : Nat → Item → Prop)

/-- Total weight. -/
def load (items : List Item) : Nat := (items.map weight).sum

@[simp] theorem load_nil : load weight [] = 0 := rfl

@[simp] theorem load_cons (item : Item) (items : List Item) :
    load weight (item :: items) = weight item + load weight items := rfl

theorem load_append (left right : List Item) :
    load weight (left ++ right) = load weight left + load weight right := by
  unfold load
  rw [List.map_append, List.sum_append]

/-- Nothing behind an item that does not fit would fit in its place. -/
def InOrder (used : Nat) (items : List Item) : Prop :=
  ∀ before item behind, items = before ++ item :: behind →
    ¬fits (used + load weight before) item →
      ∀ later ∈ behind, ¬fits (used + load weight before) later

/-- What has been taken leaves less room. -/
def Antitone (fits : Nat → Item → Prop) : Prop :=
  ∀ used more item, fits (used + more) item → fits used item

variable {weight fits} {used : Nat} {item : Item} {items : List Item}

theorem inOrder_cons_of_fits (enough : fits used item) :
    InOrder weight fits used (item :: items) ↔
      InOrder weight fits (used + weight item) items := by
  constructor
  · intro order before other behind split
    have moved := order (item :: before) other behind (by rw [split]; rfl)
    rw [load_cons, ← Nat.add_assoc] at moved
    exact moved
  · intro order before other behind split
    cases before with
    | nil =>
        cases split
        intro full
        exact absurd enough full
    | cons first before =>
        cases split
        have moved := order before other behind rfl
        rw [load_cons, ← Nat.add_assoc]
        exact moved

theorem inOrder_cons_of_not_fits (antitone : Antitone fits) (full : ¬fits used item) :
    InOrder weight fits used (item :: items) ↔ ∀ later ∈ items, ¬fits used later := by
  constructor
  · intro order
    exact order [] item items rfl full
  · intro none before other behind split _ later member
    have behindItem : later ∈ items := by
      cases before with
      | nil =>
          cases split
          exact member
      | cons first before =>
          cases split
          simp [member]
    intro enough
    exact none later behindItem (antitone used _ later enough)

/-! ## The selection -/

section Selection

variable [∀ used item, Decidable (fits used item)]

variable (weight fits) in
def select : Nat → List Item → List Item
  | _, [] => []
  | used, item :: items =>
      if fits used item then item :: select (used + weight item) items else select used items

theorem select_cons_of_fits (enough : fits used item) :
    select weight fits used (item :: items) =
      item :: select weight fits (used + weight item) items := if_pos enough

theorem select_cons_of_not_fits (full : ¬fits used item) :
    select weight fits used (item :: items) = select weight fits used items := if_neg full

theorem select_sublist (used : Nat) (items : List Item) :
    (select weight fits used items).Sublist items := by
  induction items generalizing used with
  | nil => exact List.Sublist.slnil
  | cons item items induction =>
      by_cases enough : fits used item
      · rw [select_cons_of_fits enough]
        exact (induction (used + weight item)).cons_cons item
      · rw [select_cons_of_not_fits enough]
        exact (induction used).cons item

theorem fits_of_mem_select (antitone : Antitone fits) {chosen : Item}
    (member : chosen ∈ select weight fits used items) : fits used chosen := by
  induction items generalizing used with
  | nil => cases member
  | cons item items induction =>
      by_cases enough : fits used item
      · rw [select_cons_of_fits enough] at member
        cases List.mem_cons.mp member with
        | inl first =>
            rw [first]
            exact enough
        | inr later => exact antitone used (weight item) chosen (induction later)
      · rw [select_cons_of_not_fits enough] at member
        exact induction member

theorem select_eq_nil (none : ∀ later ∈ items, ¬fits used later) :
    select weight fits used items = [] := by
  induction items with
  | nil => rfl
  | cons item items induction =>
      rw [select_cons_of_not_fits (none item (by simp))]
      exact induction fun later member => none later (by simp [member])

theorem not_fits_of_select_eq_nil (empty : select weight fits used items = []) :
    ∀ later ∈ items, ¬fits used later := by
  induction items with
  | nil => simp
  | cons item items induction =>
      by_cases enough : fits used item
      · rw [select_cons_of_fits enough] at empty
        cases empty
      · rw [select_cons_of_not_fits enough] at empty
        intro later member
        cases List.mem_cons.mp member with
        | inl first =>
            rw [first]
            exact enough
        | inr behind => exact induction empty later behind

/-- The first item that is taken out of turn fits where the skipped one does not, so the
two differ. -/
theorem select_prefix_iff (antitone : Antitone fits) (used : Nat) (items : List Item) :
    select weight fits used items <+: items ↔ InOrder weight fits used items := by
  induction items generalizing used with
  | nil =>
      constructor
      · intro _ before item behind split
        simp at split
      · intro _
        exact List.prefix_refl []
  | cons item items induction =>
      by_cases enough : fits used item
      · rw [select_cons_of_fits enough, inOrder_cons_of_fits enough, List.prefix_cons_inj,
          induction]
      · rw [select_cons_of_not_fits enough, inOrder_cons_of_not_fits antitone enough]
        constructor
        · intro start
          apply not_fits_of_select_eq_nil
          cases chosen : select weight fits used items with
          | nil => rfl
          | cons first others =>
              rw [chosen, List.cons_prefix_cons] at start
              have taken : first ∈ select weight fits used items := by simp [chosen]
              have room := fits_of_mem_select antitone taken
              rw [start.1] at room
              exact absurd room enough
        · intro none
          rw [select_eq_nil none]
          exact List.nil_prefix

end Selection

end Dnst.Greedy
