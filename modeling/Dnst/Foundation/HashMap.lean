import Mathlib.Data.List.Basic

/-! # Association lists as hash maps

Entries are found by key. `insert` replaces the entry of a key and `remove` drops
it; the order of the entries has no meaning.
-/

namespace Dnst.HashMap

variable {Key Value : Type} [BEq Key]

def remove (key : Key) (entries : List (Key × Value)) : List (Key × Value) :=
  entries.filter fun entry => entry.1 != key

def insert (key : Key) (value : Value) (entries : List (Key × Value)) :
    List (Key × Value) :=
  (key, value) :: remove key entries

def contains (key : Key) (entries : List (Key × Value)) : Bool :=
  (entries.lookup key).isSome

variable [LawfulBEq Key]

theorem lookup_remove_of_ne {key other : Key} (different : other ≠ key)
    (entries : List (Key × Value)) :
    (remove key entries).lookup other = entries.lookup other := by
  induction entries with
  | nil => rfl
  | cons entry entries induction =>
      rcases entry with ⟨head, value⟩
      unfold remove at induction ⊢
      rw [List.filter_cons]
      by_cases same : head = key
      · subst same
        have skipped : (other == head) = false := by simpa using different
        rw [List.lookup_cons, skipped]
        simpa using induction
      · have kept : (head != key) = true := by simpa using same
        rw [if_pos kept, List.lookup_cons, List.lookup_cons, induction]

@[simp] theorem lookup_remove_self (key : Key) (entries : List (Key × Value)) :
    (remove key entries).lookup key = none := by
  unfold remove
  rw [List.lookup_eq_none_iff]
  intro entry member
  have kept : entry.1 ≠ key := by simpa using List.of_mem_filter member
  simpa using Ne.symm kept

omit [LawfulBEq Key] in
@[simp] theorem remove_remove (key : Key) (entries : List (Key × Value)) :
    remove key (remove key entries) = remove key entries := by
  unfold remove
  rw [List.filter_filter]
  simp

@[simp] theorem lookup_insert_self (key : Key) (value : Value)
    (entries : List (Key × Value)) : (insert key value entries).lookup key = some value := by
  unfold insert
  rw [List.lookup_cons]
  simp

theorem lookup_insert_of_ne {key other : Key} (different : other ≠ key) (value : Value)
    (entries : List (Key × Value)) :
    (insert key value entries).lookup other = entries.lookup other := by
  have skipped : (other == key) = false := by simpa using different
  unfold insert
  rw [List.lookup_cons, skipped]
  exact lookup_remove_of_ne different entries

/-- A key that is gone leaves nothing behind when it was the only one. -/
theorem lookup_of_remove_nil {key other : Key} {entries : List (Key × Value)}
    (emptied : remove key entries = []) (different : other ≠ key) :
    entries.lookup other = none := by
  rw [← lookup_remove_of_ne different, emptied]
  rfl

theorem contains_iff {key : Key} {entries : List (Key × Value)} :
    contains key entries = true ↔ key ∈ entries.map Prod.fst := by
  unfold contains
  induction entries with
  | nil => simp
  | cons entry entries induction =>
      rw [List.lookup_cons, List.map_cons, List.mem_cons]
      by_cases same : key = entry.1
      · simp [same]
      · have skipped : (key == entry.1) = false := by simpa using same
        rw [skipped, induction]
        simp [same]

theorem contains_insert {key other : Key} (value : Value) {entries : List (Key × Value)}
    (listed : contains other entries = true) :
    contains other (insert key value entries) = true := by
  unfold contains at listed ⊢
  by_cases same : other = key
  · rw [same, lookup_insert_self]
    rfl
  · rw [lookup_insert_of_ne same]
    exact listed

theorem contains_insert_self (key : Key) (value : Value) (entries : List (Key × Value)) :
    contains key (insert key value entries) = true := by
  unfold contains
  rw [lookup_insert_self]
  rfl

theorem contains_remove {key other : Key} (different : other ≠ key)
    (entries : List (Key × Value)) :
    contains other (remove key entries) = contains other entries := by
  unfold contains
  rw [lookup_remove_of_ne different]

theorem remove_of_not_contains {key : Key} {entries : List (Key × Value)}
    (absent : contains key entries = false) : remove key entries = entries := by
  unfold remove
  rw [List.filter_eq_self]
  intro entry member
  by_contra same
  have found : contains key entries = true :=
    contains_iff.mpr (List.mem_map.mpr ⟨entry, member, by simpa using same⟩)
  rw [absent] at found
  cases found

end Dnst.HashMap
