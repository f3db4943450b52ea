import Dnst.Foundation.Greedy
import Dnst.Keyset.ZoneNames

/-! # Abbreviated zone names

The shortened name is an abbreviation of the zone name as long as the labels that fit
are its first labels.
-/

namespace Dnst.Keyset

open Effect

/-! ## The labels that are kept -/

/-- Octets of a label in wire format. -/
def wireOctets (label : NameLabel) : Nat := label.length + 1

/-- The test for one more label, with one octet for the second dot of `..`. -/
def FitsBeside (endLen maxZoneNameLen used : Nat) (label : NameLabel) : Prop :=
  used + label.length + endLen < maxZoneNameLen - 1

instance (endLen maxZoneNameLen used : Nat) (label : NameLabel) :
    Decidable (FitsBeside endLen maxZoneNameLen used label) :=
  inferInstanceAs (Decidable (_ < _))

theorem fitsBeside_antitone (endLen maxZoneNameLen : Nat) :
    Greedy.Antitone (FitsBeside endLen maxZoneNameLen) := by
  intro used more label fits
  unfold FitsBeside at fits ⊢
  omega

/-- Labels of a name apart from the root label. -/
def SizedLabels (labels : List NameLabel) : Prop :=
  ∀ label ∈ labels, label ≠ [] ∧ label.length ≤ 63

theorem NameBuilder.len_eq (name : NameBuilder) :
    name.len = Greedy.load wireOctets name.labels := rfl

section Kept

variable {State : Type} {state : State} {endLen maxZoneNameLen : Nat}

theorem exec_appendLabel {name : NameBuilder} {label : NameLabel} (some : label ≠ [])
    (short : label.length ≤ 63) (room : name.len + wireOctets label ≤ 254) :
    exec (name.appendLabel label) state = (.ok ⟨name.labels ++ [label]⟩, state) := by
  have filled : ¬label.isEmpty = true := by simp [some]
  unfold wireOctets at room
  unfold NameBuilder.appendLabel
  rw [if_neg filled, if_neg (by omega), if_neg (by omega)]
  rfl

/-- The loop takes labels greedily. -/
theorem exec_appendFitting (labels : List NameLabel) (startName : NameBuilder)
    (sized : SizedLabels labels)
    (room : startName.len + Greedy.load wireOctets labels ≤ 254) :
    exec (appendFitting endLen maxZoneNameLen labels startName) state =
      (.ok ⟨startName.labels ++ Greedy.select wireOctets (FitsBeside endLen maxZoneNameLen)
        startName.len labels⟩, state) := by
  induction labels generalizing startName with
  | nil =>
      unfold Greedy.select
      rw [List.append_nil]
      rfl
  | cons label labels induction =>
      have others : SizedLabels labels := fun other member => sized other (by simp [member])
      rcases sized label (by simp) with ⟨some, short⟩
      rw [Greedy.load_cons] at room
      by_cases fits : startName.len + label.length + endLen < maxZoneNameLen - 1
      · have beside : FitsBeside endLen maxZoneNameLen startName.len label := fits
        have appended : exec (startName.appendLabel label) state =
            (.ok ⟨startName.labels ++ [label]⟩, state) :=
          exec_appendLabel some short (by omega)
        have longer : (⟨startName.labels ++ [label]⟩ : NameBuilder).len =
            startName.len + wireOctets label := by
          rw [NameBuilder.len_eq, Greedy.load_append, ← NameBuilder.len_eq]
          rfl
        rw [appendFitting, if_pos fits, exec_bind_of_ok appended,
          induction _ others (by omega), Greedy.select_cons_of_fits beside, longer]
        simp
      · have full : ¬FitsBeside endLen maxZoneNameLen startName.len label := fits
        rw [appendFitting, if_neg fits, induction startName others (by omega),
          Greedy.select_cons_of_not_fits full]

/-- The text that is made of the labels that are kept. -/
def shortened (names : NameFormat) (kept : List NameLabel) (tld : NameLabel) : String :=
  names.display kept ++ ".." ++ names.display [tld] ++ "."

/-- The labels that are taken from those in front of the last label. -/
def keptLabels (front : List NameLabel) (tld : NameLabel) (maxZoneNameLen : Nat) :
    List NameLabel :=
  Greedy.select wireOctets (FitsBeside (wireOctets tld) maxZoneNameLen) 0 front

theorem exec_dropLabels (names : NameFormat) {front : List NameLabel} {tld : NameLabel}
    (some : front ≠ []) (sized : SizedLabels (front ++ [tld]))
    (room : Greedy.load wireOctets (front ++ [tld]) ≤ 254) :
    exec (dropLabels names (front ++ [tld, []]) maxZoneNameLen) state =
      (.ok (if (keptLabels front tld maxZoneNameLen).isEmpty then none
        else if (shortened names (keptLabels front tld maxZoneNameLen) tld).utf8ByteSize ≤
          maxZoneNameLen then
          Option.some (shortened names (keptLabels front tld maxZoneNameLen) tld)
        else none), state) := by
  rcases sized tld (by simp) with ⟨tldSome, tldShort⟩
  have frontSized : SizedLabels front := fun label member => sized label (by simp [member])
  rw [Greedy.load_append, Greedy.load_cons, Greedy.load_nil] at room
  have reversed : (front ++ [tld, []]).reverse = [] :: tld :: front.reverse := by simp
  have taken : (front ++ [tld, []]).take ((front ++ [tld, []]).length - 2) = front := by simp
  have rootIgnored : exec (NameBuilder.new.appendLabel []) state = (.ok NameBuilder.new, state) :=
    rfl
  have empty : NameBuilder.new.len = 0 := rfl
  have tldAppended : exec (NameBuilder.new.appendLabel tld) state = (.ok ⟨[tld]⟩, state) :=
    exec_appendLabel tldSome tldShort (by rw [empty]; omega)
  have endLen : (⟨[tld]⟩ : NameBuilder).len = wireOctets tld := by
    rw [NameBuilder.len_eq, Greedy.load_cons, Greedy.load_nil]
    rfl
  have kept : exec (appendFitting (wireOctets tld) maxZoneNameLen front NameBuilder.new) state =
      (.ok ⟨keptLabels front tld maxZoneNameLen⟩, state) := by
    apply exec_appendFitting front NameBuilder.new frontSized
    change 0 + Greedy.load wireOctets front ≤ 254
    omega
  cases others : front.reverse with
  | nil => exact absurd (List.reverse_eq_nil_iff.mp others) some
  | cons last others' =>
      unfold dropLabels
      rw [reversed, others]
      dsimp only
      rw [exec_bind_of_ok rootIgnored, exec_bind_of_ok tldAppended, taken, endLen,
        exec_bind_of_ok kept]
      change exec (if (keptLabels front tld maxZoneNameLen).isEmpty then _ else
        if (shortened names (keptLabels front tld maxZoneNameLen) tld).utf8ByteSize ≤
          maxZoneNameLen then _ else _) state = _
      split
      · rfl
      · split
        · rfl
        · rfl

end Kept

/-! ## Names that are cut -/

section Cut

variable {State : Type} {state : State} {names : NameFormat} {zoneName : String}
variable {maxZoneNameLen : Nat}

def Ascii (text : String) : Prop := ∀ char ∈ text.toList, char.utf8Size = 1

instance (text : String) : Decidable (Ascii text) := List.decidableBAll _ text.toList

theorem utf8ByteSize_eq (text : String) : text.utf8ByteSize = Utf8.size text.toList := by
  rw [← Utf8.utf8ByteSize_ofList, String.ofList_toList]

theorem exec_truncate (ascii : Ascii zoneName) :
    exec (truncate zoneName maxZoneNameLen) state =
      (.ok (String.ofList (zoneName.toList.take maxZoneNameLen)), state) := by
  have size : zoneName.utf8ByteSize = zoneName.toList.length := by
    rw [utf8ByteSize_eq, Utf8.size_of_ascii ascii]
  unfold truncate
  by_cases fits : zoneName.utf8ByteSize ≤ maxZoneNameLen
  · rw [if_pos fits, List.take_of_length_le (by omega), String.ofList_toList]
    rfl
  · rw [if_neg fits, Utf8.take_of_ascii ascii (by omega)]
    rfl

/-- The name is cut when its labels do not help. -/
theorem exec_truncateZoneName_cut (ascii : Ascii zoneName)
    (unhelpful : exec (shortenByLabels names zoneName maxZoneNameLen) state = (.ok none, state))
    (long : maxZoneNameLen < zoneName.utf8ByteSize) :
    exec (truncateZoneName names zoneName maxZoneNameLen) state =
      (.ok (String.ofList (zoneName.toList.take maxZoneNameLen)), state) := by
  unfold truncateZoneName
  rw [if_neg (by omega), exec_bind_of_ok unhelpful]
  exact exec_truncate ascii

theorem exec_truncateZoneName_shortened {shorter : String}
    (helpful : exec (shortenByLabels names zoneName maxZoneNameLen) state =
      (.ok (some shorter), state))
    (long : maxZoneNameLen < zoneName.utf8ByteSize) :
    exec (truncateZoneName names zoneName maxZoneNameLen) state = (.ok shorter, state) := by
  unfold truncateZoneName
  rw [if_neg (by omega), exec_bind_of_ok helpful]
  rfl

/-- Names of the `domain` crate in presentation format. -/
structure NameFormat.Laws (names : NameFormat) : Prop where
  /-- A name has at most 255 octets, labels of at most 63 and the root label at its end. -/
  parsed : ∀ text labels, names.parse text = some labels →
    ∃ relative, labels = relative ++ [[]] ∧ SizedLabels relative ∧
      Greedy.load wireOctets relative ≤ 254
  /-- Different labels of a name read differently. -/
  display_injective : ∀ text labels, names.parse text = some labels → ∀ left right,
    (∀ label ∈ left, label ∈ labels ∧ label ≠ []) →
      (∀ label ∈ right, label ∈ labels ∧ label ≠ []) →
        names.display left = names.display right → left = right
  /-- No label is empty but the last. -/
  empty_refused : ∀ text labels, names.parse text = some labels → ∀ kept rest, kept ≠ [] →
    (∀ label ∈ kept, label ∈ labels ∧ label ≠ []) →
      names.parse (names.display kept ++ ".." ++ rest) = none

/-- Some labels in front of the last one are kept and the text of them is short enough. -/
structure Shortens (names : NameFormat) (zoneName : String) (maxZoneNameLen : Nat)
    (front : List NameLabel) (tld : NameLabel) : Prop where
  parsed : names.parse zoneName = some (front ++ [tld, []])
  kept : keptLabels front tld maxZoneNameLen ≠ []
  short : (shortened names (keptLabels front tld maxZoneNameLen) tld).utf8ByteSize ≤
    maxZoneNameLen

theorem sized_of_parsed (laws : names.Laws) {front : List NameLabel} {tld : NameLabel}
    (parsed : names.parse zoneName = some (front ++ [tld, []])) :
    SizedLabels (front ++ [tld]) ∧ Greedy.load wireOctets (front ++ [tld]) ≤ 254 := by
  rcases laws.parsed zoneName _ parsed with ⟨relative, same, sized, room⟩
  have split : front ++ [tld, []] = (front ++ [tld]) ++ [[]] := by simp
  rw [split] at same
  rw [List.append_cancel_right same]
  exact ⟨sized, room⟩

theorem keptLabels_zero (front : List NameLabel) (tld : NameLabel) :
    keptLabels front tld 0 = [] := by
  apply Greedy.select_eq_nil
  intro label _ fits
  unfold FitsBeside at fits
  omega

theorem exec_shortenByLabels_of_shortens (laws : names.Laws) {front : List NameLabel}
    {tld : NameLabel} (shortens : Shortens names zoneName maxZoneNameLen front tld) :
    exec (shortenByLabels names zoneName maxZoneNameLen) state =
      (.ok (some (shortened names (keptLabels front tld maxZoneNameLen) tld)), state) := by
  rcases sized_of_parsed laws shortens.parsed with ⟨sized, room⟩
  have positive : 0 < maxZoneNameLen := by
    apply Nat.pos_of_ne_zero
    intro zero
    apply shortens.kept
    rw [zero]
    exact keptLabels_zero front tld
  have some : front ≠ [] := by
    intro none
    apply shortens.kept
    rw [none]
    rfl
  have filled : ¬(keptLabels front tld maxZoneNameLen).isEmpty = true := by
    simp [shortens.kept]
  unfold shortenByLabels
  rw [if_pos positive, shortens.parsed]
  dsimp only
  rw [exec_dropLabels names some sized room, if_neg filled, if_pos shortens.short]

theorem exec_shortenByLabels_of_not_shortens (laws : names.Laws)
    (never : ∀ front tld, ¬Shortens names zoneName maxZoneNameLen front tld) :
    exec (shortenByLabels names zoneName maxZoneNameLen) state = (.ok none, state) := by
  unfold shortenByLabels
  by_cases positive : 0 < maxZoneNameLen
  · rw [if_pos positive]
    cases parsed : names.parse zoneName with
    | none => rfl
    | some labels =>
        dsimp only
        rcases laws.parsed zoneName labels parsed with ⟨relative, same, sized, room⟩
        rcases List.eq_nil_or_concat relative with none | ⟨front, tld, split⟩
        · rw [same, none]
          rfl
        · rw [split, List.concat_eq_append] at same sized room
          have shape : labels = front ++ [tld, []] := by
            rw [same]
            simp
          rw [shape] at parsed ⊢
          by_cases some : front = []
          · rw [some]
            rfl
          · rw [exec_dropLabels names some sized room]
            by_cases empty : (keptLabels front tld maxZoneNameLen).isEmpty = true
            · rw [if_pos empty]
            · rw [if_neg empty, if_neg]
              intro short
              exact never front tld ⟨parsed, by simpa using empty, short⟩
  · rw [if_neg positive]
    rfl

end Cut

/-! ## Faithful abbreviations -/

/-- What stands for the name is short enough, the name itself when it fits, and either its
first octets or its first labels in order, an ellipsis and the last label. -/
structure Abbreviates (names : NameFormat) (zoneName : String) (maxZoneNameLen : Nat)
    (result : String) : Prop where
  short : result.utf8ByteSize ≤ maxZoneNameLen
  whole : zoneName.utf8ByteSize ≤ maxZoneNameLen → result = zoneName
  shape : result.toList <+: zoneName.toList ∨
    ∃ front tld run, names.parse zoneName = some (front ++ [tld, []]) ∧ run ≠ [] ∧
      run <+: front ∧ result = shortened names run tld

/-- The name is shortened without a panic to an abbreviation of it. -/
def Faithful (names : NameFormat) (zoneName : String) (maxZoneNameLen : Nat) : Prop :=
  ∃ result, exec (truncateZoneName names zoneName maxZoneNameLen : Effect Unit Fault String) () =
    (.ok result, ()) ∧ Abbreviates names zoneName maxZoneNameLen result

/-- When the labels that fit are used, none of them fits in the place of an earlier label
that does not. -/
def KeepsOrder (names : NameFormat) (zoneName : String) (maxZoneNameLen : Nat) : Prop :=
  ∀ front tld, names.parse zoneName = some (front ++ [tld, []]) →
    maxZoneNameLen < zoneName.utf8ByteSize →
      (shortened names (keptLabels front tld maxZoneNameLen) tld).utf8ByteSize ≤
        maxZoneNameLen →
        Greedy.InOrder wireOctets (FitsBeside (wireOctets tld) maxZoneNameLen) 0 front

section Faithful

variable {names : NameFormat} {zoneName : String} {maxZoneNameLen : Nat}

theorem faithful_of_cut (ascii : Ascii zoneName) (long : maxZoneNameLen < zoneName.utf8ByteSize)
    (unhelpful : exec (shortenByLabels names zoneName maxZoneNameLen :
      Effect Unit Fault (Option String)) () = (.ok none, ())) :
    Faithful names zoneName maxZoneNameLen := by
  refine ⟨_, exec_truncateZoneName_cut ascii unhelpful long, ?_, ?_, ?_⟩
  · rw [Utf8.utf8ByteSize_ofList, Utf8.size_of_ascii]
    · rw [List.length_take]
      omega
    · intro char member
      exact ascii char (List.mem_of_mem_take member)
  · intro fits
    omega
  · left
    rw [String.toList_ofList]
    exact List.take_prefix maxZoneNameLen zoneName.toList

theorem keptLabels_prefix_iff (front : List NameLabel) (tld : NameLabel) :
    keptLabels front tld maxZoneNameLen <+: front ↔
      Greedy.InOrder wireOctets (FitsBeside (wireOctets tld) maxZoneNameLen) 0 front :=
  Greedy.select_prefix_iff (fitsBeside_antitone _ _) 0 front

theorem faithful_of_keepsOrder (laws : names.Laws) (ascii : Ascii zoneName)
    (ordered : KeepsOrder names zoneName maxZoneNameLen) :
    Faithful names zoneName maxZoneNameLen := by
  by_cases long : maxZoneNameLen < zoneName.utf8ByteSize
  · by_cases never : ∀ front tld, ¬Shortens names zoneName maxZoneNameLen front tld
    · exact faithful_of_cut ascii long (exec_shortenByLabels_of_not_shortens laws never)
    · have some : ∃ front tld, Shortens names zoneName maxZoneNameLen front tld := by
        simpa using never
      rcases some with ⟨front, tld, shortens⟩
      have helpful : exec (shortenByLabels names zoneName maxZoneNameLen :
          Effect Unit Fault (Option String)) () = _ :=
        exec_shortenByLabels_of_shortens laws shortens
      refine ⟨_, exec_truncateZoneName_shortened helpful long, shortens.short, ?_, ?_⟩
      · intro fits
        omega
      · right
        have start := ordered front tld shortens.parsed long shortens.short
        rw [← keptLabels_prefix_iff] at start
        exact ⟨front, tld, _, shortens.parsed, shortens.kept, start, rfl⟩
  · refine ⟨zoneName, ?_, by omega, fun _ => rfl, Or.inl (List.prefix_refl _)⟩
    unfold truncateZoneName
    rw [if_pos (by omega)]
    rfl

/-- The text of labels with an ellipsis is no start of a name. -/
theorem shortened_not_initial (laws : names.Laws) {labels kept : List NameLabel} {tld : NameLabel}
    (parsed : names.parse zoneName = some labels) (some : kept ≠ [])
    (among : ∀ label ∈ kept, label ∈ labels ∧ label ≠ []) :
    ¬(shortened names kept tld).toList <+: zoneName.toList := by
  rintro ⟨rest, same⟩
  have whole : zoneName = names.display kept ++ ".." ++
      (names.display [tld] ++ "." ++ String.ofList rest) := by
    apply String.toList_injective
    rw [← same]
    unfold shortened
    simp
  have refused := laws.empty_refused zoneName labels parsed kept
    (names.display [tld] ++ "." ++ String.ofList rest) some among
  rw [← whole, parsed] at refused
  cases refused

theorem keepsOrder_of_faithful (laws : names.Laws)
    (faithful : Faithful names zoneName maxZoneNameLen) :
    KeepsOrder names zoneName maxZoneNameLen := by
  intro front tld parsed long short
  rw [← keptLabels_prefix_iff]
  by_cases kept : keptLabels front tld maxZoneNameLen = []
  · rw [kept]
    exact List.nil_prefix
  · have helpful : exec (shortenByLabels names zoneName maxZoneNameLen :
        Effect Unit Fault (Option String)) () = _ :=
      exec_shortenByLabels_of_shortens laws ⟨parsed, kept, short⟩
    rcases faithful with ⟨result, run, abbreviates⟩
    rw [exec_truncateZoneName_shortened helpful long] at run
    cases run
    rcases sized_of_parsed laws parsed with ⟨sized, _⟩
    have among : ∀ chosen : List NameLabel, (∀ label ∈ chosen, label ∈ front) →
        ∀ label ∈ chosen, label ∈ front ++ [tld, []] ∧ label ≠ [] := by
      intro chosen inside label member
      have found := inside label member
      exact ⟨by simp [found], (sized label (by simp [found])).1⟩
    have keptAmong := among (keptLabels front tld maxZoneNameLen) fun label member =>
      (Greedy.select_sublist 0 front).subset member
    rcases abbreviates.shape with cut | ⟨otherFront, otherTld, run, again, some, start, same⟩
    · exact absurd cut (shortened_not_initial laws parsed kept keptAmong)
    · rw [parsed] at again
      have split : front = otherFront ∧ tld = otherTld := by
        have lists := List.append_inj' (Option.some.inj again) rfl
        have ends := lists.2
        simp only [List.cons.injEq, and_true] at ends
        exact ⟨lists.1, ends⟩
      rw [← split.1] at start
      rw [← split.2] at same
      have texts : names.display (keptLabels front tld maxZoneNameLen) = names.display run := by
        unfold shortened at same
        rw [String.append_left_inj, String.append_left_inj, String.append_left_inj] at same
        exact same
      have runAmong := among run fun label member => start.subset member
      rw [laws.display_injective zoneName _ parsed _ _ keptAmong runAmong texts]
      exact start

/-- A name is shortened faithfully exactly when no label that is kept fits in the place of
an earlier one that is dropped. -/
theorem truncateZoneName_faithful_iff (names : NameFormat) (laws : names.Laws)
    (zoneName : String) (ascii : Ascii zoneName) (maxZoneNameLen : Nat) :
    Faithful names zoneName maxZoneNameLen ↔ KeepsOrder names zoneName maxZoneNameLen :=
  ⟨keepsOrder_of_faithful laws, faithful_of_keepsOrder laws ascii⟩

end Faithful

/-! ## Names of plain letters -/

namespace PlainNames

def isPlain (char : Char) : Bool := char.isAlphanum || char == '-'

def isLabel (label : List Char) : Bool :=
  !label.isEmpty && label.length ≤ 63 && label.all isPlain

/-- The labels of a text, without the empty one behind a final dot. -/
def relativeLabels (text : String) : List (List Char) :=
  let labels := text.toList.splitOn '.'
  if labels.getLast? = some [] then labels.dropLast else labels

def octets (label : List Char) : NameLabel := label.map Char.toUInt8

/-- Names without escapes. -/
def parse (text : String) : Option (List NameLabel) :=
  let labels := (relativeLabels text).map octets
  if (relativeLabels text).all isLabel ∧ Greedy.load wireOctets labels ≤ 254 then
    some (labels ++ [[]])
  else
    none

def chars (label : NameLabel) : List Char :=
  label.map fun octet => Char.ofNat octet.toNat

def display (labels : List NameLabel) : String :=
  String.ofList (['.'].intercalate (labels.map chars))

def format : NameFormat where
  parse := parse
  display := display

theorem toNat_of_plain {char : Char} (plain : isPlain char = true) : char.toNat < 128 := by
  change ((decide ('A'.val ≤ char.val ∧ char.val ≤ 'Z'.val) ||
      (decide ('a'.val ≤ char.val) && decide (char.val ≤ 'z'.val)) ||
      (decide ('0'.val ≤ char.val) && decide (char.val ≤ '9'.val))) || char == '-') = true at plain
  simp at plain
  rcases plain with ranges | dash
  · simp [UInt32.le_iff_toNat_le] at ranges
    omega
  · rw [dash]
    decide

theorem char_of_plain {char : Char} (plain : isPlain char = true) :
    Char.ofNat char.toUInt8.toNat = char := by
  have small := toNat_of_plain plain
  have same : char.toUInt8.toNat = char.toNat := by
    unfold Char.toUInt8
    rw [UInt32.toNat_toUInt8]
    exact Nat.mod_eq_of_lt (by change char.toNat < 256; omega)
  rw [same, Char.ofNat_toNat]

theorem isLabel_iff {label : List Char} :
    isLabel label = true ↔
      (label ≠ [] ∧ label.length ≤ 63) ∧ ∀ char ∈ label, isPlain char = true := by
  unfold isLabel
  simp

theorem chars_octets {label : List Char} (accepted : isLabel label = true) :
    chars (octets label) = label := by
  unfold chars octets
  rw [List.map_map]
  have each : ∀ char ∈ label,
      ((fun octet : UInt8 => Char.ofNat octet.toNat) ∘ Char.toUInt8) char = id char := by
    intro char member
    exact char_of_plain ((isLabel_iff.mp accepted).2 char member)
  rw [List.map_congr_left each, List.map_id]

theorem dot_not_mem {label : List Char} (accepted : isLabel label = true) : '.' ∉ label := by
  intro member
  have plain := (isLabel_iff.mp accepted).2 '.' member
  exact absurd plain (by decide)

theorem parse_eq_some {text : String} {labels : List NameLabel}
    (parsed : parse text = some labels) :
    labels = (relativeLabels text).map octets ++ [[]] ∧
      (∀ label ∈ relativeLabels text, isLabel label = true) ∧
      Greedy.load wireOctets ((relativeLabels text).map octets) ≤ 254 := by
  unfold parse at parsed
  dsimp only at parsed
  split at parsed
  · next accepted =>
      cases parsed
      exact ⟨rfl, List.all_eq_true.mp accepted.1, accepted.2⟩
  · cases parsed

/-- Labels of a name. -/
def Labels (labels : List NameLabel) : Prop :=
  ∀ label ∈ labels, octets (chars label) = label ∧ isLabel (chars label) = true

theorem labels_of_parsed {text : String} {labels chosen : List NameLabel}
    (parsed : parse text = some labels) (among : ∀ label ∈ chosen, label ∈ labels ∧ label ≠ []) :
    Labels chosen := by
  intro label member
  rcases among label member with ⟨inside, some⟩
  rcases parse_eq_some parsed with ⟨same, accepted, _⟩
  rw [same] at inside
  rcases List.mem_append.mp inside with relative | root
  · rcases List.mem_map.mp relative with ⟨piece, found, octetsOf⟩
    rw [← octetsOf, chars_octets (accepted piece found)]
    exact ⟨rfl, accepted piece found⟩
  · exact absurd (List.mem_singleton.mp root) some

theorem splitOn_display {labels : List NameLabel} (valid : Labels labels) (some : labels ≠ []) :
    (display labels).toList.splitOn '.' = labels.map chars := by
  unfold display
  rw [String.toList_ofList]
  apply List.splitOn_intercalate
  · intro piece member
    rcases List.mem_map.mp member with ⟨label, found, same⟩
    rw [← same]
    exact dot_not_mem (valid label found).2
  · simpa using some

/-- The labels can be read back. -/
theorem octets_chars {labels : List NameLabel} (valid : Labels labels) :
    (labels.map chars).map octets = labels := by
  rw [List.map_map]
  have each : ∀ label ∈ labels, (octets ∘ chars) label = id label := by
    intro label member
    exact (valid label member).1
  rw [List.map_congr_left each, List.map_id]

theorem display_eq_nil {labels : List NameLabel} (valid : Labels labels)
    (empty : (display labels).toList = []) : labels = [] := by
  by_contra some
  have pieces := splitOn_display valid some
  rw [empty] at pieces
  have none : [] ∈ labels.map chars := by
    rw [← pieces]
    simp
  rcases List.mem_map.mp none with ⟨label, member, same⟩
  have accepted := (valid label member).2
  rw [same] at accepted
  cases accepted

theorem display_injective {left right : List NameLabel} (leftValid : Labels left)
    (rightValid : Labels right) (same : display left = display right) : left = right := by
  by_cases none : left = []
  · rw [none] at same ⊢
    have empty : (display right).toList = [] := by
      rw [← same]
      rfl
    exact (display_eq_nil rightValid empty).symm
  · have some : right ≠ [] := by
      intro nothing
      rw [nothing] at same
      have empty : (display left).toList = [] := by
        rw [same]
        rfl
      exact none (display_eq_nil leftValid empty)
    rw [← octets_chars leftValid, ← splitOn_display leftValid none, same,
      splitOn_display rightValid some, octets_chars rightValid]

/-- Two dots in a row leave an empty label between them. -/
theorem nil_mem_relativeLabels (before rest : List Char) :
    [] ∈ relativeLabels (String.ofList (before ++ '.' :: '.' :: rest)) := by
  have pieces : (before ++ '.' :: '.' :: rest).splitOn '.' =
      before.splitOn '.' ++ [] :: rest.splitOn '.' := by
    rw [List.splitOn_append_cons_self, List.splitOn_cons_eq_if_modifyHead, if_pos (by decide)]
  have behind : rest.splitOn '.' ≠ [] := List.splitOn_ne_nil '.' rest
  unfold relativeLabels
  rw [String.toList_ofList, pieces]
  dsimp only
  split
  · rw [List.dropLast_append_of_ne_nil (List.cons_ne_nil _ _),
      List.dropLast_cons_of_ne_nil behind]
    simp
  · simp

theorem laws : format.Laws where
  parsed := by
    intro text labels parsed
    rcases parse_eq_some parsed with ⟨same, accepted, room⟩
    refine ⟨_, same, ?_, room⟩
    intro label member
    rcases List.mem_map.mp member with ⟨piece, found, octetsOf⟩
    have sized := (isLabel_iff.mp (accepted piece found)).1
    rw [← octetsOf]
    unfold octets
    rw [List.length_map]
    exact ⟨by simpa using sized.1, sized.2⟩
  display_injective := by
    intro text labels parsed left right leftAmong rightAmong same
    exact display_injective (labels_of_parsed parsed leftAmong)
      (labels_of_parsed parsed rightAmong) same
  empty_refused := by
    intro text labels _ kept rest _ _
    have whole : display kept ++ ".." ++ rest =
        String.ofList ((display kept).toList ++ '.' :: '.' :: rest.toList) := by
      apply String.toList_injective
      simp
    have empty := nil_mem_relativeLabels (display kept).toList rest.toList
    rw [← whole] at empty
    change parse (display kept ++ ".." ++ rest) = none
    unfold parse
    dsimp only
    rw [if_neg]
    rintro ⟨accepted, _⟩
    exact absurd (List.all_eq_true.mp accepted [] empty) (by decide)

example : (exec (truncateZoneName format "a.b.c.d.nlnetlabs.nl." 10) ()).1.toOption =
    some "a.b.c..nl." := by decide

end PlainNames

theorem truncateZoneName_faithful_plain :
    Faithful PlainNames.format "a.b.c.d.nlnetlabs.nl." 10 := by
  apply (truncateZoneName_faithful_iff PlainNames.format PlainNames.laws "a.b.c.d.nlnetlabs.nl."
    (by decide) 10).mpr
  intro front tld parsed long short
  have labels : PlainNames.format.parse "a.b.c.d.nlnetlabs.nl." =
      some (["a", "b", "c", "d", "nlnetlabs"].map (fun label => PlainNames.octets label.toList) ++
        [PlainNames.octets "nl".toList, []]) := by decide
  rw [labels] at parsed
  have lists := List.append_inj' (Option.some.inj parsed) rfl
  have tldSame := lists.2
  simp only [List.cons.injEq, and_true] at tldSame
  rw [← lists.1, ← tldSame, ← keptLabels_prefix_iff]
  decide

/-- A short label is taken behind a long one that is left out. -/
theorem truncateZoneName_skips :
    ¬Faithful PlainNames.format "a.nlnetlabs.b.nl." 10 := by
  intro faithful
  have labels : PlainNames.format.parse "a.nlnetlabs.b.nl." =
      some (["a", "nlnetlabs", "b"].map (fun label => PlainNames.octets label.toList) ++
        [PlainNames.octets "nl".toList, []]) := by decide
  have ordered := keepsOrder_of_faithful PlainNames.laws faithful _ _ labels (by decide) (by decide)
  rw [← keptLabels_prefix_iff] at ordered
  exact absurd ordered (by decide)

end Dnst.Keyset
