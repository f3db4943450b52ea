import Mathlib.Data.List.Chain
import Mathlib.Data.List.Pairwise
import Mathlib.Data.List.Permutation
import Mathlib.Data.List.SplitBy
import Mathlib.Order.Lattice

/-! # Lists sorted by a key

A collection without duplicates is kept as a list whose keys increase. It is built by
inserting items one at a time; an item whose key is already there is not inserted.
-/

namespace Dnst.SortedList

variable {Item Key : Type} [LinearOrder Key] (key : Item → Key)

/-- Keys increase, so that no two items share one. -/
def Sorted (items : List Item) : Prop := items.Pairwise fun one other => key one < key other

/-- Insert an item in its place, unless there is one with its key. -/
def insert? (item : Item) : List Item → Option (List Item)
  | [] => some [item]
  | head :: rest =>
      if key item < key head then some (item :: head :: rest)
      else if key item = key head then none
      else (insert? item rest).map (head :: ·)

/-- Insert the items that are new. -/
def extend (items : List Item) : List Item → List Item
  | [] => items
  | item :: others => extend ((insert? key item items).getD items) others

/-- Sort and remove duplicates. -/
def ofList (items : List Item) : List Item := extend key [] items

/-- Change the first item that matches. -/
def updateFirst (matcher : Item → Bool) (change : Item → Item) : List Item → List Item
  | [] => []
  | head :: rest =>
      if matcher head then change head :: rest else head :: updateFirst matcher change rest

/-! ## Insertion -/

section Insert

variable {key} {item : Item} {items result : List Item}

theorem insert?_perm (inserted : insert? key item items = some result) :
    result.Perm (item :: items) := by
  induction items generalizing result with
  | nil =>
      cases inserted
      exact List.Perm.refl _
  | cons head rest induction =>
      unfold insert? at inserted
      split at inserted
      · cases inserted
        exact List.Perm.refl _
      · split at inserted
        · cases inserted
        · rcases Option.map_eq_some_iff.mp inserted with ⟨tail, found, rfl⟩
          exact ((induction found).cons head).trans (List.Perm.swap item head rest)

theorem insert?_sorted (sorted : Sorted key items)
    (inserted : insert? key item items = some result) : Sorted key result := by
  induction items generalizing result with
  | nil =>
      cases inserted
      exact List.pairwise_singleton _ _
  | cons head rest induction =>
      rcases List.pairwise_cons.mp sorted with ⟨least, ordered⟩
      unfold insert? at inserted
      split at inserted
      · next below =>
          cases inserted
          apply List.pairwise_cons.mpr
          refine ⟨?_, sorted⟩
          intro other member
          rcases List.mem_cons.mp member with rfl | later
          · exact below
          · exact lt_trans below (least other later)
      · next notBelow =>
          split at inserted
          · cases inserted
          · next different =>
              rcases Option.map_eq_some_iff.mp inserted with ⟨tail, found, rfl⟩
              apply List.pairwise_cons.mpr
              refine ⟨?_, induction ordered found⟩
              intro other member
              rcases List.mem_cons.mp ((insert?_perm found).mem_iff.mp member) with rfl | later
              · exact lt_of_le_of_ne (not_lt.mp notBelow) (Ne.symm different)
              · exact least other later

theorem insert?_eq_none (sorted : Sorted key items) :
    insert? key item items = none ↔ ∃ other ∈ items, key other = key item := by
  induction items with
  | nil => simp [insert?]
  | cons head rest induction =>
      rcases List.pairwise_cons.mp sorted with ⟨least, ordered⟩
      unfold insert?
      by_cases below : key item < key head
      · rw [if_pos below]
        constructor
        · intro impossible
          cases impossible
        · rintro ⟨other, member, same⟩
          rcases List.mem_cons.mp member with rfl | later
          · exact absurd same (ne_of_gt below)
          · exact absurd same (ne_of_gt (lt_trans below (least other later)))
      · rw [if_neg below]
        by_cases same : key item = key head
        · rw [if_pos same]
          simp [same]
        · rw [if_neg same, Option.map_eq_none_iff, induction ordered]
          have notHead : key head ≠ key item := fun equal => same equal.symm
          simp [notHead]

/-- An item with a new key is inserted. -/
theorem insert?_of_new (new : ∀ other ∈ items, key other ≠ key item) :
    ∃ result, insert? key item items = some result := by
  induction items with
  | nil => exact ⟨[item], rfl⟩
  | cons head rest induction =>
      unfold insert?
      split
      · exact ⟨_, rfl⟩
      · rw [if_neg fun same => new head List.mem_cons_self same.symm]
        rcases induction fun other member => new other (List.mem_cons_of_mem _ member) with
          ⟨tail, found⟩
        rw [found]
        exact ⟨_, rfl⟩

/-- Where an item is inserted. -/
theorem insert?_split (inserted : insert? key item items = some result) :
    ∃ before after, items = before ++ after ∧ result = before ++ item :: after ∧
      (∀ other ∈ before, key other < key item) ∧
        ∀ other, after.head? = some other → key item < key other := by
  induction items generalizing result with
  | nil =>
      cases inserted
      exact ⟨[], [], rfl, rfl, by simp, by simp⟩
  | cons head rest induction =>
      unfold insert? at inserted
      by_cases below : key item < key head
      · rw [if_pos below] at inserted
        cases inserted
        refine ⟨[], head :: rest, rfl, rfl, by simp, ?_⟩
        intro other first
        cases first
        exact below
      · rw [if_neg below] at inserted
        by_cases same : key item = key head
        · rw [if_pos same] at inserted
          cases inserted
        · rw [if_neg same] at inserted
          have ⟨tail, found, joined⟩ := Option.map_eq_some_iff.mp inserted
          have ⟨before, after, whole, placed, lower, upper⟩ := induction found
          have above : key head < key item :=
            lt_of_le_of_ne (not_lt.mp below) fun equal => same equal.symm
          refine ⟨head :: before, after, by rw [whole]; rfl, by rw [← joined, placed]; rfl, ?_,
            upper⟩
          intro other member
          cases List.mem_cons.mp member with
          | inl first =>
              rw [first]
              exact above
          | inr later => exact lower other later

theorem insert_getD_sorted (sorted : Sorted key items) :
    Sorted key ((insert? key item items).getD items) := by
  cases inserted : insert? key item items with
  | none => exact sorted
  | some result => exact insert?_sorted sorted inserted

end Insert

/-! ## Building a list -/

section Extend

variable {key} {items others : List Item}

theorem extend_sorted (sorted : Sorted key items) : Sorted key (extend key items others) := by
  induction others generalizing items with
  | nil => exact sorted
  | cons item others induction => exact induction (insert_getD_sorted sorted)

theorem ofList_sorted : Sorted key (ofList key others) := extend_sorted List.Pairwise.nil

theorem extend_append (more : List Item) :
    extend key items (others ++ more) = extend key (extend key items others) more := by
  induction others generalizing items with
  | nil => rfl
  | cons item others induction => exact induction

/-- What has been inserted stays. -/
theorem mem_extend_left {item : Item} (member : item ∈ items) :
    item ∈ extend key items others := by
  induction others generalizing items with
  | nil => exact member
  | cons other others induction =>
      apply induction
      cases inserted : insert? key other items with
      | none => exact member
      | some result => exact (insert?_perm inserted).mem_iff.mpr (List.mem_cons_of_mem _ member)

theorem mem_of_mem_extend {item : Item} (member : item ∈ extend key items others) :
    item ∈ items ∨ item ∈ others := by
  induction others generalizing items with
  | nil => exact Or.inl member
  | cons other others induction =>
      rcases induction member with found | later
      · cases inserted : insert? key other items with
        | none =>
            rw [inserted] at found
            exact Or.inl found
        | some result =>
            rw [inserted] at found
            rcases List.mem_cons.mp ((insert?_perm inserted).mem_iff.mp found) with rfl | before
            · exact Or.inr List.mem_cons_self
            · exact Or.inl before
      · exact Or.inr (List.mem_cons_of_mem _ later)

/-- Every item is there, or one with the same key. -/
theorem exists_key_extend (sorted : Sorted key items) {item : Item}
    (member : item ∈ items ∨ item ∈ others) :
    ∃ other ∈ extend key items others, key other = key item := by
  induction others generalizing items with
  | nil => exact ⟨item, member.resolve_right List.not_mem_nil, rfl⟩
  | cons first others induction =>
      have next := @induction _ (@insert_getD_sorted _ _ _ _ first _ sorted)
      rcases member with before | inList
      · apply next
        left
        cases inserted : insert? key first items with
        | none => exact before
        | some result =>
            exact (insert?_perm inserted).mem_iff.mpr (List.mem_cons_of_mem _ before)
      · rcases List.mem_cons.mp inList with rfl | later
        · have stays : ∀ {other}, other ∈ (insert? key item items).getD items →
              other ∈ extend key items (item :: others) := by
            intro other found
            have kept : other ∈ extend key ((insert? key item items).getD items) others :=
              mem_extend_left found
            exact kept
          cases inserted : insert? key item items with
          | some result =>
              refine ⟨item, stays ?_, rfl⟩
              rw [inserted]
              exact (insert?_perm inserted).mem_iff.mpr List.mem_cons_self
          | none =>
              rcases (insert?_eq_none sorted).mp inserted with ⟨other, found, same⟩
              refine ⟨other, stays ?_, same⟩
              rw [inserted]
              exact found
        · exact next (Or.inr later)

/-- Items with new and different keys are all inserted. -/
theorem extend_perm (sorted : Sorted key items)
    (different : others.Pairwise fun one other => key one ≠ key other)
    (new : ∀ item ∈ others, ∀ other ∈ items, key other ≠ key item) :
    (extend key items others).Perm (items ++ others) := by
  induction others generalizing items with
  | nil =>
      rw [List.append_nil]
      exact List.Perm.refl _
  | cons item others induction =>
      rcases List.pairwise_cons.mp different with ⟨apart, rest⟩
      rcases insert?_of_new (new item List.mem_cons_self) with ⟨result, inserted⟩
      have perm := insert?_perm inserted
      have stillNew : ∀ one ∈ others, ∀ other ∈ result, key other ≠ key one := by
        intro one inOthers other inResult
        rcases List.mem_cons.mp (perm.mem_iff.mp inResult) with rfl | before
        · exact apart one inOthers
        · exact new one (List.mem_cons_of_mem _ inOthers) other before
      unfold extend
      rw [inserted, Option.getD_some]
      have grown := induction (insert?_sorted sorted inserted) rest stillNew
      exact grown.trans ((perm.append_right others).trans List.perm_middle.symm)

end Extend

/-! ## Sorted lists with the same items -/

variable {key}

theorem Sorted.eq_of_perm {one other : List Item} (sorted : Sorted key one)
    (alsoSorted : Sorted key other) (perm : one.Perm other) : one = other :=
  perm.eq_of_pairwise (fun _ _ _ _ below above => absurd above (lt_asymm below))
    sorted alsoSorted

theorem Sorted.nodup {items : List Item} (sorted : Sorted key items) : items.Nodup :=
  sorted.imp fun below same => absurd (congrArg key same) (ne_of_lt below)

theorem Sorted.keys_ne {items : List Item} (sorted : Sorted key items) :
    items.Pairwise fun one other => key one ≠ key other :=
  sorted.imp fun below => ne_of_lt below

theorem Sorted.filter {items : List Item} (sorted : Sorted key items) (keeps : Item → Bool) :
    Sorted key (items.filter keeps) :=
  List.Pairwise.filter _ sorted

/-- A sorted list has at most one item with each key. -/
theorem Sorted.length_le_one {items : List Item} (sorted : Sorted key items)
    (same : ∀ one ∈ items, ∀ other ∈ items, key one = key other) : items.length ≤ 1 := by
  match items with
  | [] => exact Nat.zero_le 1
  | [_] => exact Nat.le_refl 1
  | one :: other :: rest =>
      have below := (List.pairwise_cons.mp sorted).1 other List.mem_cons_self
      have equal := same one List.mem_cons_self other
        (List.mem_cons_of_mem _ List.mem_cons_self)
      exact absurd equal (ne_of_lt below)

/-- Sorting the items of a sorted list gives this list. -/
theorem ofList_of_perm {items sorted : List Item} (isSorted : Sorted key sorted)
    (perm : items.Perm sorted) : ofList key items = sorted := by
  have symmetric : ∀ {one other : Item}, key one ≠ key other → key other ≠ key one :=
    fun different same => different same.symm
  have different := (perm.pairwise_iff symmetric).mpr isSorted.keys_ne
  have built : (ofList key items).Perm ([] ++ items) :=
    extend_perm List.Pairwise.nil different fun _ _ _ member => absurd member List.not_mem_nil
  exact ofList_sorted.eq_of_perm isSorted (built.trans perm)

/-! ## Filters

A filter that looks at nothing but the key commutes with insertion.
-/

section Filter

variable {keeps : Item → Bool} {items others : List Item}

theorem insert?_of_least {item : Item} (least : ∀ other ∈ items, key item < key other) :
    insert? key item items = some (item :: items) := by
  cases items with
  | nil => rfl
  | cons head rest => exact if_pos (least head List.mem_cons_self)

theorem filter_insert (sorted : Sorted key items)
    (byKey : ∀ one other, key one = key other → keeps one = keeps other) {item : Item} :
    ((insert? key item items).getD items).filter keeps =
      if keeps item then (insert? key item (items.filter keeps)).getD (items.filter keeps)
      else items.filter keeps := by
  induction items with
  | nil => cases kept : keeps item <;> simp [insert?, kept]
  | cons head rest induction =>
      rcases List.pairwise_cons.mp sorted with ⟨least, later⟩
      by_cases below : key item < key head
      · have first : insert? key item (head :: rest) = some (item :: head :: rest) := if_pos below
        have leastKept : ∀ other ∈ (head :: rest).filter keeps, key item < key other := by
          intro other member
          rcases List.mem_cons.mp (List.mem_filter.mp member).1 with same | inRest
          · rw [same]
            exact below
          · exact lt_trans below (least other inRest)
        rw [first, insert?_of_least leastKept]
        cases kept : keeps item <;> simp [kept]
      · by_cases same : key item = key head
        · have refused : insert? key item (head :: rest) = none := by
            unfold insert?
            rw [if_neg below, if_pos same]
          rw [refused, Option.getD_none]
          cases kept : keeps item with
          | false => rfl
          | true =>
              have headKept : keeps head = true := by
                rw [← byKey item head same]
                exact kept
              rw [List.filter_cons_of_pos headKept]
              unfold insert?
              rw [if_neg below, if_pos same]
              rfl
        · have step (more : List Item) : (insert? key item (head :: more)).getD (head :: more) =
              head :: (insert? key item more).getD more := by
            rw [insert?, if_neg below, if_neg same]
            cases insert? key item more <;> rfl
          rw [step]
          have tail := induction later
          cases headKept : keeps head with
          | false => simpa [headKept] using tail
          | true =>
              rw [List.filter_cons_of_pos headKept, List.filter_cons_of_pos headKept, tail]
              cases kept : keeps item with
              | false => rfl
              | true =>
                  rw [if_pos rfl, if_pos rfl, step]

theorem filter_extend (sorted : Sorted key items)
    (byKey : ∀ one other, key one = key other → keeps one = keeps other) :
    (extend key items others).filter keeps =
      extend key (items.filter keeps) (others.filter keeps) := by
  induction others generalizing items with
  | nil => rfl
  | cons item others induction =>
      have next := induction (@insert_getD_sorted _ _ _ _ item _ sorted)
      rw [extend, next, filter_insert sorted byKey]
      cases kept : keeps item with
      | true =>
          rw [List.filter_cons_of_pos kept, extend]
          rfl
      | false =>
          rw [List.filter_cons_of_neg (by simp [kept])]
          rfl

theorem filter_ofList (byKey : ∀ one other, key one = key other → keeps one = keeps other) :
    (ofList key items).filter keeps = ofList key (items.filter keeps) :=
  filter_extend List.Pairwise.nil byKey

/-- Other items than those that are inserted stay as they are. -/
theorem filter_insert?_of_not {item : Item} {result : List Item}
    (inserted : insert? key item items = some result) (dropped : keeps item = false) :
    result.filter keeps = items.filter keeps := by
  rcases insert?_split inserted with ⟨before, after, whole, placed, _, _⟩
  rw [whole, placed, List.filter_append, List.filter_append,
    List.filter_cons_of_neg (by simp [dropped])]

end Filter

/-! ## Changing one item -/

section Update

variable {matcher : Item → Bool} {change : Item → Item} {items : List Item}

/-- Without a match nothing changes. Otherwise the first item that matches does. -/
theorem updateFirst_cases (matcher : Item → Bool) (change : Item → Item) (items : List Item) :
    (updateFirst matcher change items = items ∧ ∀ item ∈ items, matcher item = false) ∨
      ∃ before item after, items = before ++ item :: after ∧ matcher item = true ∧
        (∀ other ∈ before, matcher other = false) ∧
        updateFirst matcher change items = before ++ change item :: after := by
  induction items with
  | nil => exact Or.inl ⟨rfl, fun _ member => absurd member List.not_mem_nil⟩
  | cons head rest induction =>
      cases matched : matcher head with
      | true =>
          right
          refine ⟨[], head, rest, rfl, matched, fun _ member => absurd member List.not_mem_nil, ?_⟩
          simp [updateFirst, matched]
      | false =>
          rcases induction with ⟨same, none⟩ | ⟨before, item, after, split, found, none, changed⟩
          · left
            simp only [updateFirst, matched, Bool.false_eq_true, if_false, same, true_and]
            intro item member
            rcases List.mem_cons.mp member with rfl | later
            · exact matched
            · exact none item later
          · right
            refine ⟨head :: before, item, after, by rw [split]; rfl, found, ?_, ?_⟩
            · intro other member
              rcases List.mem_cons.mp member with rfl | later
              · exact matched
              · exact none other later
            · simp only [updateFirst, matched, Bool.false_eq_true, if_false, changed]
              rfl

/-- Among the items that match, the first one is changed. -/
theorem filter_updateFirst_self
    (goesOn : ∀ item, matcher item = true → matcher (change item) = true) :
    (updateFirst matcher change items).filter matcher =
      match items.filter matcher with
      | [] => []
      | first :: others => change first :: others := by
  induction items with
  | nil => rfl
  | cons head rest induction =>
      cases matched : matcher head with
      | true => simp [updateFirst, matched, goesOn head matched]
      | false => simpa [updateFirst, matched] using induction

/-- What does not match stays, when changed items go on matching. -/
theorem filter_updateFirst {keeps : Item → Bool}
    (dropped : ∀ item, matcher item = true → keeps item = false ∧ keeps (change item) = false) :
    (updateFirst matcher change items).filter keeps = items.filter keeps := by
  rcases updateFirst_cases matcher change items with
    ⟨same, _⟩ | ⟨before, item, after, split, found, _, changed⟩
  · rw [same]
  · rw [changed, split]
    simp [List.filter_append, dropped item found]

end Update

/-! ## Runs of items -/

/-- The longest runs of adjacent items that agree. -/
def runs {Kind : Type} [LinearOrder Kind] (kind : Item → Kind) (items : List Item) :
    List (List Item) :=
  items.splitBy fun one other => kind one == kind other

section Runs

variable {Kind : Type} [LinearOrder Kind] {kind : Item → Kind} {items : List Item}

/-- Items come in the order of their kinds. -/
def Ordered (kind : Item → Kind) (items : List Item) : Prop :=
  items.Pairwise fun one other => kind one ≤ kind other

theorem flatten_runs : (runs kind items).flatten = items := List.flatten_splitBy _ _

theorem run_ne_nil {run : List Item} (member : run ∈ runs kind items) : run ≠ [] :=
  List.ne_nil_of_mem_splitBy member

theorem kind_of_mem_run {run : List Item} (member : run ∈ runs kind items) {one other : Item}
    (inRun : one ∈ run) (alsoInRun : other ∈ run) : kind one = kind other := by
  have chain := List.isChain_of_mem_splitBy member
  have equal : run.IsChain fun one other => kind one = kind other :=
    chain.imp fun _ _ same => by simpa using same
  have agree : run.Pairwise fun one other => kind one = kind other :=
    List.isChain_iff_pairwise.mp equal
  have flipped : run.Pairwise (flip fun one other => kind one = kind other) :=
    agree.imp fun same => same.symm
  have itself : ∀ item ∈ run, kind item = kind item := fun _ _ => rfl
  have all := fun reflexive => List.Pairwise.forall_of_forall_of_flip reflexive agree flipped
  exact all itself inRun alsoInRun

theorem mem_run {run : List Item} (member : run ∈ runs kind items) {item : Item}
    (inRun : item ∈ run) : item ∈ items := by
  rw [← @flatten_runs _ _ _ kind items]
  exact List.mem_flatten.mpr ⟨run, member, inRun⟩

theorem exists_run {item : Item} (member : item ∈ items) :
    ∃ run ∈ runs kind items, item ∈ run := by
  rw [← @flatten_runs _ _ _ kind items] at member
  exact List.mem_flatten.mp member

/-- The kinds of the runs of an ordered list increase. -/
theorem runs_increase (ordered : Ordered kind items) :
    (runs kind items).Pairwise fun run later =>
      ∀ one ∈ run, ∀ other ∈ later, kind one < kind other := by
  have whole : (runs kind items).flatten.Pairwise fun one other => kind one ≤ kind other := by
    rw [flatten_runs]
    exact ordered
  have weakly := (List.pairwise_flatten.mp whole).2
  have apart := List.isChain_getLast_head_splitBy (fun one other => kind one == kind other) items
  let below (run later : List Item) : Prop :=
    run ≠ [] ∧ later ≠ [] ∧ ∀ one ∈ run, ∀ other ∈ later, kind one < kind other
  have transitive : ∀ {run middle later}, below run middle → below middle later →
      below run later := by
    intro run middle later first second
    refine ⟨first.1, second.2.1, ?_⟩
    intro one inRun other inLater
    rcases List.exists_mem_of_ne_nil _ first.2.1 with ⟨between, inMiddle⟩
    exact lt_trans (first.2.2 one inRun between inMiddle)
      (second.2.2 between inMiddle other inLater)
  have : Trans below below below := ⟨transitive⟩
  have strictly : (runs kind items).IsChain below := by
    apply List.isChain_iff_forall_rel_of_append_cons_cons.mpr
    intro run later before after split
    have adjacent := List.isChain_iff_forall_rel_of_append_cons_cons.mp apart split
    rcases adjacent with ⟨runFull, laterFull, different⟩
    refine ⟨runFull, laterFull, ?_⟩
    intro one inRun other inLater
    have inRuns : run ∈ runs kind items := by simp [split]
    have laterInRuns : later ∈ runs kind items := by simp [split]
    rw [split] at weakly
    have ascending := (List.pairwise_append.mp weakly).2.1
    have atMost := (List.pairwise_cons.mp ascending).1 later List.mem_cons_self one inRun
      other inLater
    apply lt_of_le_of_ne atMost
    intro same
    have lastKind := kind_of_mem_run inRuns inRun (List.getLast_mem runFull)
    have headKind := kind_of_mem_run laterInRuns inLater (List.head_mem laterFull)
    rw [lastKind, headKind] at same
    simp [same] at different
  exact (List.isChain_iff_pairwise.mp strictly).imp fun related => related.2.2

/-- An ordered list has one run of each kind, with all items of this kind. -/
theorem run_eq_filter (ordered : Ordered kind items) {run : List Item}
    (member : run ∈ runs kind items) {one : Item} (inRun : one ∈ run) :
    run = items.filter fun other => kind other = kind one := by
  rcases List.append_of_mem member with ⟨before, after, split⟩
  have increase := runs_increase ordered
  rw [split] at increase
  have flat : items = before.flatten ++ (run ++ after.flatten) := by
    have whole : (runs kind items).flatten = items := flatten_runs
    rw [split, List.flatten_append, List.flatten_cons] at whole
    exact whole.symm
  have ofRun : run.filter (fun other => kind other = kind one) = run := by
    apply List.filter_eq_self.mpr
    intro other alsoInRun
    simp [kind_of_mem_run member alsoInRun inRun]
  have notBefore : before.flatten.filter (fun other => kind other = kind one) = [] := by
    apply List.filter_eq_nil_iff.mpr
    intro other inBefore
    rcases List.mem_flatten.mp inBefore with ⟨earlier, isBefore, inEarlier⟩
    have smaller := (List.pairwise_append.mp increase).2.2 earlier isBefore run List.mem_cons_self
      other inEarlier one inRun
    simp [ne_of_lt smaller]
  have notAfter : after.flatten.filter (fun other => kind other = kind one) = [] := by
    apply List.filter_eq_nil_iff.mpr
    intro other inAfter
    rcases List.mem_flatten.mp inAfter with ⟨later, isAfter, inLater⟩
    have larger := (List.pairwise_cons.mp (List.pairwise_append.mp increase).2.1).1 later isAfter
      one inRun other inLater
    simp [(ne_of_lt larger).symm]
  have filtered : items.filter (fun other => kind other = kind one) =
      (before.flatten ++ (run ++ after.flatten)).filter fun other => kind other = kind one :=
    congrArg (List.filter _) flat
  rw [filtered, List.filter_append, List.filter_append, ofRun, notBefore, notAfter]
  simp

end Runs

/-! ## Items by kind -/

section Kinds

variable {Kind : Type} [DecidableEq Kind]

/-- Items collected kind by kind are those of these kinds. -/
theorem flatMap_filter_perm (kind : Item → Kind) (items : List Item) {kinds : List Kind}
    (nodup : kinds.Nodup) :
    (kinds.flatMap fun one => items.filter fun item => kind item = one).Perm
      (items.filter fun item => kind item ∈ kinds) := by
  induction kinds with
  | nil => simp
  | cons one kinds induction =>
      rcases List.nodup_cons.mp nodup with ⟨new, rest⟩
      have others := (induction rest).append_left (items.filter fun item => kind item = one)
      have ofOne : (items.filter fun item => kind item ∈ one :: kinds).filter
          (fun item => kind item = one) = items.filter fun item => kind item = one := by
        rw [List.filter_filter]
        apply List.filter_congr
        intro item _
        simp only [List.mem_cons, Bool.decide_or]
        grind
      have ofOthers : (items.filter fun item => kind item ∈ one :: kinds).filter
          (fun item => !decide (kind item = one)) = items.filter fun item => kind item ∈ kinds := by
        rw [List.filter_filter]
        apply List.filter_congr
        intro item _
        by_cases isOne : kind item = one
        · simp [isOne, new]
        · simp [isOne]
      have split := List.filter_append_perm (fun item => kind item = one)
        (items.filter fun item => kind item ∈ one :: kinds)
      rw [ofOne, ofOthers] at split
      rw [List.flatMap_cons]
      exact others.trans split

/-- Of blocks of different kinds, each one holds all items that are chosen by its kind. -/
theorem filter_blocks {Block Tag : Type} {kindOf : Block → Tag} {blocks : List Block}
    (contents : Block → List Item) (chooses : Tag → Item → Bool)
    (different : (blocks.map kindOf).Nodup)
    (apart : ∀ block ∈ blocks, ∀ other ∈ blocks, kindOf other ≠ kindOf block →
      ∀ item ∈ contents other, chooses (kindOf block) item = false)
    {block : Block} (member : block ∈ blocks) :
    (blocks.flatMap contents).filter (chooses (kindOf block)) =
      (contents block).filter (chooses (kindOf block)) := by
  have none_ : ∀ others : List Block, (∀ other ∈ others, other ∈ blocks) →
      (∀ other ∈ others, kindOf other ≠ kindOf block) →
        (others.flatMap contents).filter (chooses (kindOf block)) = [] := by
    intro others inBlocks differ
    apply List.filter_eq_nil_iff.mpr
    intro item inOthers
    rcases List.mem_flatMap.mp inOthers with ⟨other, isOther, inContents⟩
    rw [apart block member other (inBlocks other isOther) (differ other isOther) item inContents]
    exact Bool.false_ne_true
  rcases List.append_of_mem member with ⟨before, after, split⟩
  have nodup := different
  rw [split, List.map_append, List.map_cons, List.nodup_middle, List.nodup_cons] at nodup
  have differ : ∀ other ∈ before ++ after, kindOf other ≠ kindOf block := by
    intro other isOther same
    apply nodup.1
    rw [← same, ← List.map_append]
    exact List.mem_map_of_mem isOther
  have inBlocks : ∀ other ∈ before ++ after, other ∈ blocks := by
    intro other isOther
    rw [split]
    rcases List.mem_append.mp isOther with inBefore | inAfter
    · exact List.mem_append_left _ inBefore
    · exact List.mem_append_right _ (List.mem_cons_of_mem _ inAfter)
  have first := none_ before (fun other isOther => inBlocks other (List.mem_append_left _ isOther))
    fun other isOther => differ other (List.mem_append_left _ isOther)
  have last := none_ after (fun other isOther => inBlocks other (List.mem_append_right _ isOther))
    fun other isOther => differ other (List.mem_append_right _ isOther)
  rw [split, List.flatMap_append, List.flatMap_cons, List.filter_append, List.filter_append,
    first, last, List.nil_append, List.append_nil]

end Kinds

/-! ## Insertion into ordered items

Within each kind the keys increase, but not necessarily across the whole list.
-/

section OneKind

variable {Kind : Type} [LinearOrder Kind] {kind : Item → Kind}

/-- The items of one kind are sorted. -/
def SortedWithin (key : Item → Key) (kind : Item → Kind) (one : Kind) (items : List Item) :
    Prop :=
  Sorted key (items.filter (kind · = one))

/-- A change among other kinds. -/
theorem updateFirst_sortedWithin {matcher : Item → Bool} {change : Item → Item} {one : Kind}
    {items : List Item}
    (others : ∀ item, matcher item = true → kind item ≠ one ∧ kind (change item) ≠ one)
    (sorted : SortedWithin key kind one items) :
    SortedWithin key kind one (updateFirst matcher change items) := by
  unfold SortedWithin
  rw [filter_updateFirst]
  · exact sorted
  · intro item matched
    have different := others item matched
    exact ⟨decide_eq_false different.1, decide_eq_false different.2⟩

variable {item : Item} {items result : List Item}
variable (monotone : ∀ one other, key one ≤ key other → kind one ≤ kind other)

include monotone

/-- A change to the only item of its kind leaves it in its place. -/
theorem updateFirst_sorted {matcher : Item → Bool} {change : Item → Item}
    (strict : ∀ one other, kind one < kind other → key one < key other)
    (sameKind : ∀ item, matcher item = true → kind (change item) = kind item)
    (alone : ∀ item ∈ items, matcher item = true →
      ∀ other ∈ items, kind other = kind item → other = item)
    (sorted : Sorted key items) : Sorted key (updateFirst matcher change items) := by
  rcases updateFirst_cases matcher change items with
    ⟨same, _⟩ | ⟨before, item, after, split, matched, _, changed⟩
  · rw [same]
    exact sorted
  · rw [split] at sorted alone
    rcases List.pairwise_append.mp sorted with ⟨first, middle, apart⟩
    rcases List.pairwise_cons.mp middle with ⟨least, last⟩
    have only := alone item (by simp) matched
    have below : ∀ other ∈ before, key other < key (change item) := by
      intro other member
      have less := apart other member item List.mem_cons_self
      have different : kind other ≠ kind item := by
        intro same
        rw [only other (by simp [member]) same] at less
        exact lt_irrefl _ less
      apply strict
      rw [sameKind item matched]
      exact lt_of_le_of_ne (monotone _ _ (le_of_lt less)) different
    have above : ∀ other ∈ after, key (change item) < key other := by
      intro other member
      have less := least other member
      have different : kind item ≠ kind other := by
        intro same
        rw [only other (by simp [member]) same.symm] at less
        exact lt_irrefl _ less
      apply strict
      rw [sameKind item matched]
      exact lt_of_le_of_ne (monotone _ _ (le_of_lt less)) different
    rw [changed]
    apply List.pairwise_append.mpr
    refine ⟨first, List.pairwise_cons.mpr ⟨above, last⟩, ?_⟩
    intro other member one inRest
    rcases List.mem_cons.mp inRest with same | behind
    · rw [same]
      exact below other member
    · exact apart other member one (List.mem_cons_of_mem _ behind)

/-- Items of the same kind behind the place of an insertion have greater keys. -/
theorem below_of_head {after : List Item} (ordered : Ordered kind after)
    (sorted : SortedWithin key kind (kind item) after)
    (head : ∀ other, after.head? = some other → key item < key other) {other : Item}
    (member : other ∈ after) (sameKind : kind other = kind item) : key item < key other := by
  cases after with
  | nil => cases member
  | cons first rest =>
      have below := head first rfl
      cases List.mem_cons.mp member with
      | inl equal =>
          rw [equal]
          exact below
      | inr later =>
          have least := (List.pairwise_cons.mp ordered).1 other later
          have firstKind : kind first = kind item :=
            le_antisymm (sameKind ▸ least) (monotone _ _ (le_of_lt below))
          unfold SortedWithin at sorted
          rw [List.filter_cons_of_pos (by simpa using firstKind)] at sorted
          have inRest : other ∈ rest.filter (kind · = kind item) :=
            List.mem_filter.mpr ⟨later, by simpa using sameKind⟩
          exact lt_trans below ((List.pairwise_cons.mp sorted).1 other inRest)

theorem insert?_eq_none_of_kind (ordered : Ordered kind items)
    (sorted : SortedWithin key kind (kind item) items) :
    insert? key item items = none ↔ ∃ other ∈ items, key other = key item := by
  constructor
  · intro refused
    by_contra new
    have ⟨result, found⟩ := @insert?_of_new Item Key _ key item items
      fun other member same => new ⟨other, member, same⟩
    rw [refused] at found
    cases found
  · intro ⟨other, member, same⟩
    cases inserted : insert? key item items with
    | none => rfl
    | some result =>
        have ⟨before, after, whole, _, lower, upper⟩ := insert?_split inserted
        unfold SortedWithin at sorted
        rw [whole] at member ordered sorted
        rw [List.filter_append] at sorted
        have sameKind : kind other = kind item :=
          le_antisymm (monotone _ _ (le_of_eq same)) (monotone _ _ (le_of_eq same.symm))
        cases List.mem_append.mp member with
        | inl left => exact absurd same (ne_of_lt (lower other left))
        | inr right =>
            have below := below_of_head monotone (List.pairwise_append.mp ordered).2.1
              (List.pairwise_append.mp sorted).2.1 upper right sameKind
            exact absurd same (ne_of_gt below)

theorem filter_insert?_sorted (ordered : Ordered kind items)
    (inserted : insert? key item items = some result) {one : Kind}
    (sorted : SortedWithin key kind one items) : SortedWithin key kind one result := by
  unfold SortedWithin at sorted ⊢
  have ⟨before, after, whole, placed, lower, upper⟩ := insert?_split inserted
  rw [whole] at ordered sorted
  rw [placed, List.filter_append]
  rw [List.filter_append] at sorted
  by_cases sameKind : kind item = one
  · rw [List.filter_cons_of_pos (by simpa using sameKind)]
    have parts := List.pairwise_append.mp sorted
    rw [← sameKind] at parts ⊢
    apply List.pairwise_append.mpr
    refine ⟨parts.1, List.pairwise_cons.mpr ⟨?_, parts.2.1⟩, ?_⟩
    · intro other member
      have ⟨inAfter, otherKind⟩ := List.mem_filter.mp member
      exact below_of_head monotone (List.pairwise_append.mp ordered).2.1 parts.2.1 upper inAfter
        (by simpa using otherKind)
    · intro first inBefore second member
      cases List.mem_cons.mp member with
      | inl equal =>
          rw [equal]
          exact lower first (List.mem_filter.mp inBefore).1
      | inr inAfter => exact parts.2.2 first inBefore second inAfter
  · rw [List.filter_cons_of_neg (by simpa using sameKind)]
    exact sorted

end OneKind

end Dnst.SortedList
