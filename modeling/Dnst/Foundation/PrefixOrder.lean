import Mathlib.Data.List.Infix
import Mathlib.Data.List.Lex
import Mathlib.Order.Lattice

/-! # Walking a tree in the order of its paths

A node is known by its path from the root. Ordering paths lexicographically puts every
subtree in one piece, right behind its top. A walk in this order can therefore tell with
a single remembered node whether it is below one of the nodes where the tree was cut.
-/

namespace Dnst.PrefixOrder

variable {Label Node : Type} [LinearOrder Label]

/-! ## Paths -/

theorem lt_of_prefix {top node : List Label} (above : top <+: node) (ne : top ≠ node) :
    top < node := by
  obtain ⟨rest, rfl⟩ := above
  induction top with
  | nil =>
      cases rest with
      | nil => exact absurd rfl ne
      | cons label rest => exact List.nil_lt_cons label rest
  | cons label top induction =>
      have others : top ≠ top ++ rest := by
        intro same
        apply ne
        rw [List.cons_append, ← same]
      apply List.cons_lt_cons_iff.mpr
      exact Or.inr ⟨rfl, induction others⟩

/-- What lies between the top of a subtree and one of its nodes is in the subtree. -/
theorem prefix_of_between {top middle node : List Label} (after : top < middle)
    (before : middle < node) (above : top <+: node) : top <+: middle := by
  induction top generalizing middle node with
  | nil => exact List.nil_prefix
  | cons label top induction =>
      obtain ⟨rest, rfl⟩ := above
      cases middle with
      | nil => exact absurd after (List.not_lt_nil _)
      | cons other middle =>
          rw [List.cons_append] at before
          have low := List.cons_lt_cons_iff.mp after
          have high := List.cons_lt_cons_iff.mp before
          have same : label = other := by
            rcases low with low | ⟨same, _⟩
            · rcases high with high | ⟨same, _⟩
              · exact absurd (lt_trans low high) (lt_irrefl _)
              · exact same.symm
            · exact same
          subst same
          have inner : top < middle := by
            simpa using low
          have outer : middle < top ++ rest := by
            simpa using high
          have below := induction inner outer (List.prefix_append top rest)
          exact List.cons_prefix_cons.mpr ⟨rfl, below⟩

theorem prefix_of_le {top middle node : List Label} (after : top ≤ middle)
    (before : middle ≤ node) (above : top <+: node) : top <+: middle := by
  rcases after.eq_or_lt with same | after
  · rw [same]
  · rcases before.eq_or_lt with same | before
    · rw [same]
      exact above
    · exact prefix_of_between after before above

/-! ## The walk -/

variable (path : Node → List Label) (cut : Node → Prop)

def Ordered (nodes : List Node) : Prop :=
  nodes.Pairwise fun earlier later => path earlier < path later

/-- Properly below a node where the tree is cut. -/
def Below (nodes : List Node) (node : Node) : Prop :=
  ∃ top ∈ nodes, cut top ∧ path top <+: path node ∧ path top ≠ path node

/-- The remembered node is above this one. -/
def Covers (current : Option Node) (node : Node) : Prop :=
  ∃ nearest, current = some nearest ∧ path nearest <+: path node

/-- What a walk knows after these nodes: whatever is still to come is below a cut seen
so far only if it is below the remembered one. -/
structure Remembers (visited : List Node) (current : Option Node) : Prop where
  visited_of_current : ∀ top, current = some top → top ∈ visited ∧ cut top
  covers_of_cut : ∀ top ∈ visited, cut top →
    ∀ node, (∀ earlier ∈ visited, path earlier < path node) →
      path top <+: path node → Covers path current node

variable {path cut} {visited rest : List Node} {current : Option Node} {node : Node}

theorem Remembers.start : Remembers path cut [] none where
  visited_of_current := by simp
  covers_of_cut := by simp

/-- A node below the remembered one changes nothing. -/
theorem Remembers.skip (remembers : Remembers path cut visited current)
    (covered : Covers path current node) :
    Remembers path cut (visited ++ [node]) current where
  visited_of_current := by
    intro top same
    have known := remembers.visited_of_current top same
    exact ⟨List.mem_append_left _ known.1, known.2⟩
  covers_of_cut := by
    intro top member isCut later after above
    have afterVisited : ∀ earlier ∈ visited, path earlier < path later := by
      intro earlier seen
      exact after earlier (List.mem_append_left _ seen)
    rcases List.mem_append.mp member with seen | isNode
    · exact remembers.covers_of_cut top seen isCut later afterVisited above
    · obtain rfl := List.mem_singleton.mp isNode
      obtain ⟨nearest, same, prefixed⟩ := covered
      exact ⟨nearest, same, prefixed.trans above⟩

/-- A node outside replaces the remembered one: the subtree of that one is over. -/
theorem Remembers.visit (remembers : Remembers path cut visited current)
    (after : ∀ earlier ∈ visited, path earlier < path node)
    (outside : ¬ Covers path current node) {next : Option Node}
    (isNext : ∀ top, next = some top ↔ top = node ∧ cut node) :
    Remembers path cut (visited ++ [node]) next where
  visited_of_current := by
    intro top same
    obtain ⟨rfl, isCut⟩ := (isNext top).mp same
    exact ⟨by simp, isCut⟩
  covers_of_cut := by
    intro top member isCut later afterAll above
    have afterNode : path node < path later := afterAll node (by simp)
    rcases List.mem_append.mp member with seen | isNode
    · have between := prefix_of_between (after top seen) afterNode above
      exact absurd (remembers.covers_of_cut top seen isCut node after between) outside
    · obtain rfl := List.mem_singleton.mp isNode
      exact ⟨top, (isNext top).mpr ⟨rfl, isCut⟩, above⟩

/-- The remembered node decides whether the next one is below a cut, seen or not. -/
theorem Remembers.covers_iff (remembers : Remembers path cut visited current)
    (ordered : Ordered path (visited ++ node :: rest)) :
    Covers path current node ↔ Below path cut (visited ++ node :: rest) node := by
  obtain ⟨_, orderedRest, before⟩ := List.pairwise_append.mp ordered
  have after : ∀ earlier ∈ visited, path earlier < path node := by
    intro earlier seen
    exact before earlier seen node List.mem_cons_self
  constructor
  · rintro ⟨nearest, same, above⟩
    obtain ⟨seen, isCut⟩ := remembers.visited_of_current nearest same
    exact ⟨nearest, List.mem_append_left _ seen, isCut, above, (after nearest seen).ne⟩
  · rintro ⟨top, member, isCut, above, ne⟩
    have earlier : path top < path node := lt_of_prefix above ne
    rcases List.mem_append.mp member with seen | later
    · exact remembers.covers_of_cut top seen isCut node after above
    · rcases List.mem_cons.mp later with rfl | later
      · exact absurd rfl ne
      · have behind := (List.pairwise_cons.mp orderedRest).1 top later
        exact absurd (lt_trans earlier behind) (lt_irrefl _)

end Dnst.PrefixOrder
