import Mathlib.Data.List.Nodup

/-! # Using up a list of targets

Items are walked in order, and each one uses up the first target that it fits. The walk
stops at an item that fits no target that is left, and at one for which it is undefined
what it fits, unless no target is left to compare it with.
-/

namespace Dnst.Consumption

/-! ## Sets kept as lists -/

section Distinct

variable {Item Key : Type} [DecidableEq Key] (key : Item → Key)

/-- Of items with the same key only the first one stays. -/
def distinctBy : List Item → List Item
  | [] => []
  | item :: items => item :: (distinctBy items).filter fun other => key other ≠ key item

variable {key} {items : List Item}

theorem mem_map_distinctBy {value : Key} :
    value ∈ (distinctBy key items).map key ↔ value ∈ items.map key := by
  induction items with
  | nil => rfl
  | cons head items induction =>
      unfold distinctBy
      rw [List.map_cons, List.map_cons, List.mem_cons, List.mem_cons, ← induction]
      by_cases isHead : value = key head
      · simp [isHead]
      · simp only [isHead, false_or, List.mem_map, List.mem_filter, decide_eq_true_eq]
        constructor
        · rintro ⟨item, ⟨member, _⟩, same⟩
          exact ⟨item, member, same⟩
        · rintro ⟨item, member, rfl⟩
          exact ⟨item, ⟨member, isHead⟩, rfl⟩

theorem distinctBy_nodup : ((distinctBy key items).map key).Nodup := by
  induction items with
  | nil => exact List.nodup_nil
  | cons head items induction =>
      unfold distinctBy
      rw [List.map_cons]
      apply List.nodup_cons.mpr
      constructor
      · intro member
        obtain ⟨item, kept, same⟩ := List.mem_map.mp member
        have other := (List.mem_filter.mp kept).2
        simp [same] at other
      · exact induction.sublist (List.filter_sublist.map key)

end Distinct

/-! ## The walk -/

inductive Outcome (Item Target : Type) where
  | left (targets : List Target)
  | unmatched (item : Item)
  | undefined (item : Item)
  deriving DecidableEq

variable {Item Target : Type}

def consume [BEq Target] (defined : Item → Bool) (fits : Item → Target → Bool) :
    List Item → List Target → Outcome Item Target
  | [], targets => .left targets
  | item :: items, targets =>
      if !targets.isEmpty && !defined item then .undefined item
      else
        match targets.find? (fits item) with
        | some target => consume defined fits items (targets.erase target)
        | none => .unmatched item

/-- Every item fits a target, and no two of them the same. -/
structure FitApart (fits : Item → Target → Bool) (items : List Item)
    (targets : List Target) : Prop where
  each : ∀ item ∈ items, ∃ target ∈ targets, fits item target = true
  apart : items.Pairwise fun one other =>
    ∀ target ∈ targets, fits one target = true → fits other target = false

/-- The targets that no item fits. -/
def unused (fits : Item → Target → Bool) (items : List Item) (targets : List Target) :
    List Target :=
  targets.filter fun target => !items.any fun item => fits item target

/-- No item fits two of the targets. -/
def Unambiguous (fits : Item → Target → Bool) (targets : List Target) : Prop :=
  ∀ item, ∀ one ∈ targets, ∀ other ∈ targets,
    fits item one = true → fits item other = true → one = other

variable {defined : Item → Bool} {fits : Item → Target → Bool} {item : Item}
  {items : List Item} {target : Target} {targets : List Target}

theorem not_fitApart_cons (missing : ∀ target ∈ targets, fits item target = false) :
    ¬ FitApart fits (item :: items) targets := by
  rintro ⟨each, _⟩
  obtain ⟨target, member, fitting⟩ := each item List.mem_cons_self
  rw [missing target member] at fitting
  cases fitting

theorem FitApart.nil : FitApart fits ([] : List Item) targets where
  each := by simp
  apart := List.Pairwise.nil

variable [BEq Target]

theorem Unambiguous.erase (unambiguous : Unambiguous fits targets) :
    Unambiguous fits (targets.erase target) := by
  intro item one oneMember other otherMember
  exact unambiguous item one (List.mem_of_mem_erase oneMember) other
    (List.mem_of_mem_erase otherMember)

/-- How one item is dealt with. -/
theorem consume_cons (item : Item) (items : List Item) (targets : List Target)
    (defines : ∀ item target, fits item target = true → defined item = true) :
    (∃ target ∈ targets, fits item target = true ∧
        consume defined fits (item :: items) targets =
          consume defined fits items (targets.erase target)) ∨
      (∀ target ∈ targets, fits item target = false) ∧
        consume defined fits (item :: items) targets =
          if targets ≠ [] ∧ defined item = false then .undefined item
          else .unmatched item := by
  cases found : targets.find? (fits item) with
  | some target =>
      have member := List.mem_of_find?_eq_some found
      have fitting := List.find?_some found
      left
      refine ⟨target, member, fitting, ?_⟩
      rw [consume, found]
      simp [defines item target fitting]
  | none =>
      right
      constructor
      · intro target member
        simpa using List.find?_eq_none.mp found target member
      · rw [consume, found]
        simp

variable [LawfulBEq Target]

/-- What an item leaves is what it does not fit. -/
theorem erase_eq_filter (nodup : targets.Nodup) (unambiguous : Unambiguous fits targets)
    (member : target ∈ targets) (fitting : fits item target = true) :
    targets.erase target = targets.filter fun other => !fits item other := by
  rw [nodup.erase_eq_filter]
  apply List.filter_congr
  intro other otherMember
  by_cases same : other = target
  · simp [same, fitting]
  · have misfit : fits item other = false := by
      apply Bool.eq_false_iff.mpr
      intro alsoFits
      exact same (unambiguous item other otherMember target member alsoFits fitting)
    simp [same, misfit]

theorem unused_cons (nodup : targets.Nodup) (unambiguous : Unambiguous fits targets)
    (member : target ∈ targets) (fitting : fits item target = true) :
    unused fits (item :: items) targets = unused fits items (targets.erase target) := by
  unfold unused
  rw [erase_eq_filter nodup unambiguous member fitting, List.filter_filter]
  apply List.filter_congr
  intro other _
  simp [Bool.and_comm]

theorem fitApart_cons_iff (nodup : targets.Nodup) (unambiguous : Unambiguous fits targets)
    (member : target ∈ targets) (fitting : fits item target = true) :
    FitApart fits (item :: items) targets ↔ FitApart fits items (targets.erase target) := by
  have left : ∀ {other : Target},
      other ∈ targets.erase target ↔ other ∈ targets ∧ fits item other = false := by
    intro other
    rw [erase_eq_filter nodup unambiguous member fitting, List.mem_filter]
    simp
  constructor
  · rintro ⟨each, apart⟩
    obtain ⟨fromItem, apart⟩ := List.pairwise_cons.mp apart
    constructor
    · intro later laterMember
      obtain ⟨other, otherMember, otherFits⟩ :=
        each later (List.mem_cons_of_mem item laterMember)
      refine ⟨other, left.mpr ⟨otherMember, ?_⟩, otherFits⟩
      apply Bool.eq_false_iff.mpr
      intro shared
      have misfit := fromItem later laterMember other otherMember shared
      rw [misfit] at otherFits
      cases otherFits
    · apply apart.imp
      intro one two disjoint other otherMember
      exact disjoint other (List.mem_of_mem_erase otherMember)
  · rintro ⟨each, apart⟩
    constructor
    · intro later laterMember
      rcases List.mem_cons.mp laterMember with rfl | laterMember
      · exact ⟨target, member, fitting⟩
      · obtain ⟨other, otherMember, otherFits⟩ := each later laterMember
        exact ⟨other, List.mem_of_mem_erase otherMember, otherFits⟩
    · have own : ∀ later ∈ items, fits later target = false := by
        intro later laterMember
        obtain ⟨other, otherMember, otherFits⟩ := each later laterMember
        apply Bool.eq_false_iff.mpr
        intro alsoFits
        have same := unambiguous later other (List.mem_of_mem_erase otherMember) target
          member otherFits alsoFits
        have misfit := (left.mp otherMember).2
        rw [same, fitting] at misfit
        cases misfit
      apply List.pairwise_cons.mpr
      constructor
      · intro later laterMember other otherMember itemFits
        have same := unambiguous item other otherMember target member itemFits fitting
        rw [same]
        exact own later laterMember
      · apply List.Pairwise.imp_of_mem _ apart
        intro one two _ twoMember disjoint other otherMember oneFits
        by_cases same : other = target
        · rw [same]
          exact own two twoMember
        · exact disjoint other ((List.mem_erase_of_ne same).mpr otherMember) oneFits

section Spec

variable (defines : ∀ item target, fits item target = true → defined item = true)
  (nodup : targets.Nodup) (unambiguous : Unambiguous fits targets)

include defines nodup unambiguous

/-- The walk gets to its end when every item fits a target of its own. -/
theorem consume_eq_left_iff {rest : List Target} :
    consume defined fits items targets = .left rest ↔
      FitApart fits items targets ∧ rest = unused fits items targets := by
  induction items generalizing targets with
  | nil =>
      have all : unused fits [] targets = targets := by simp [unused]
      rw [all]
      unfold consume
      constructor
      · intro same
        cases same
        exact ⟨FitApart.nil, rfl⟩
      · rintro ⟨_, rfl⟩
        rfl
  | cons item items induction =>
      rcases consume_cons item items targets defines with
        ⟨target, member, fitting, step⟩ | ⟨missing, step⟩
      · rw [step, induction (nodup.erase target) unambiguous.erase,
          fitApart_cons_iff nodup unambiguous member fitting,
          unused_cons nodup unambiguous member fitting]
      · rw [step]
        constructor
        · intro same
          split at same <;> cases same
        · rintro ⟨apart, _⟩
          exact absurd apart (not_fitApart_cons missing)

/-- It is stopped by an undefined item when the items before it fit targets of their own
and leave one. -/
theorem consume_eq_undefined_iff :
    (∃ item, consume defined fits items targets = .undefined item) ↔
      ∃ before item after, items = before ++ item :: after ∧ FitApart fits before targets ∧
        unused fits before targets ≠ [] ∧ defined item = false := by
  induction items generalizing targets with
  | nil =>
      constructor
      · rintro ⟨item, same⟩
        cases same
      · rintro ⟨before, item, after, same, _⟩
        simp at same
  | cons item items induction =>
      rcases consume_cons item items targets defines with
        ⟨target, member, fitting, step⟩ | ⟨missing, step⟩
      · rw [step, induction (nodup.erase target) unambiguous.erase]
        constructor
        · rintro ⟨before, other, after, rfl, apart, left, isUndefined⟩
          refine ⟨item :: before, other, after, rfl, ?_, ?_, isUndefined⟩
          · exact (fitApart_cons_iff nodup unambiguous member fitting).mpr apart
          · rwa [unused_cons nodup unambiguous member fitting]
        · rintro ⟨before, other, after, same, apart, left, isUndefined⟩
          cases before with
          | nil =>
              cases same
              rw [defines item target fitting] at isUndefined
              cases isUndefined
          | cons head before =>
              cases same
              refine ⟨before, other, after, rfl, ?_, ?_, isUndefined⟩
              · exact (fitApart_cons_iff nodup unambiguous member fitting).mp apart
              · rwa [← unused_cons nodup unambiguous member fitting]
      · rw [step]
        constructor
        · rintro ⟨other, same⟩
          split at same
          · rename_i stopped
            refine ⟨[], item, items, rfl, FitApart.nil, ?_, stopped.2⟩
            simpa [unused] using stopped.1
          · cases same
        · rintro ⟨before, other, after, same, apart, left, isUndefined⟩
          cases before with
          | nil =>
              cases same
              have some : targets ≠ [] := by simpa [unused] using left
              exact ⟨item, if_pos ⟨some, isUndefined⟩⟩
          | cons head before =>
              cases same
              exact absurd apart (not_fitApart_cons missing)

end Spec

end Dnst.Consumption
