import Dnst.Foundation.Numeral
import Dnst.Keyset.Environment

/-! # Search for the prefix of an NSEC3 hash

Numbers are turned into labels in front of the origin until the hash of the name starts
as asked for. The search runs for as many steps as it is given.
-/

namespace Dnst.Nsec3Hash

open Effect
open Keyset (Fault expect expectMessage mapErr)

/-! ## Names -/

/-- Octets of labels in wire format. -/
def wireLen (labels : List (List UInt8)) : Nat :=
  (labels.map fun label => label.length + 1).sum

def Sized (labels : List (List UInt8)) : Prop :=
  ∀ label ∈ labels, 1 ≤ label.length ∧ label.length ≤ 63

instance (labels : List (List UInt8)) : Decidable (Sized labels) :=
  inferInstanceAs (Decidable (∀ label ∈ labels, _))

/-- A name without its root label, as the argument parser accepts it. -/
structure Name where
  labels : List (List UInt8)
  sized : Sized labels
  short : wireLen labels + 1 ≤ 255

def Name.composeLen (name : Name) : Nat := wireLen name.labels + 1

/-- What is used of the `domain` crate. -/
structure Domain where
  /-- `append_chars` on a new `NameBuilder`. -/
  appendChars : List Char → Except String (List (List UInt8))
  appendOrigin : List (List UInt8) → Name → Except String Name
  /-- `nsec3_hash` in base 32. -/
  nsec3Hash : Name → Nat → UInt16 → List UInt8 → Except String String

structure Search where
  searched : String
  originName : Name
  algorithm : Nat
  iterations : UInt16
  salt : List UInt8

/-! ## Labels -/

/-- `char::from_u32`. -/
def fromU32 (code : Nat) : Option Char :=
  if code.isValidChar then some (Char.ofNat code) else none

/-- `expect` on a character. -/
def expectChar {State : Type} (message : String) : Option Char → Effect State Fault Char
  | some char => return char
  | none => Keyset.panic message

/-- The loop of `number_to_label`. -/
def labelFrom {State : Type} (n : Nat) (label : List Char) : Effect State Fault (List Char) :=
  if n ≠ 0 then do
    let char ← expectChar "should not fail" (fromU32 ('a'.toNat + n % 26))
    labelFrom (n / 26) (label ++ [char])
  else
    return label
termination_by n
decreasing_by omega

/-- Create a label for a number using lower case letters. -/
def numberToLabel {State : Type} (n : UInt64) : Effect State Fault (List Char) := do
  let label ← labelFrom n.toNat []
  if label.isEmpty then return label ++ ['a'] else return label

/-! ## The search -/

/-- The message of an overflow that is checked for. -/
def addOverflow : String := "attempt to add with overflow"

/-- `next` of the range: the number behind is formed before the number is given out. -/
def forward {State : Type} (checked : Bool) (u : UInt64) : Effect State Fault UInt64 :=
  if checked ∧ u.toNat + 1 = 2 ^ 64 then Keyset.panic addOverflow else return u + 1

def candidateName {State : Type} (domain : Domain) (originName : Name) (label : List Char) :
    Effect State Fault Name := do
  let name ← expect "should not fail" (domain.appendChars label)
  expect "should not fail" (domain.appendOrigin name originName)

/-- `str::to_lowercase` of base 32. -/
def toLowercase (text : String) : String := String.ofList (text.toList.map Char.toLower)

def candidateHash {State : Type} (domain : Domain) (search : Search) (name : Name) :
    Effect State Fault String := do
  let hash ← mapErr (fun reason => s!"Error creating NSEC3 hash: {reason}")
    (domain.nsec3Hash name search.algorithm search.iterations search.salt)
  return toLowercase hash

/-- What is printed for a match. -/
structure Found where
  name : Name
  hash : String

def startsWith (hash searched : String) : Bool := searched.toList.isPrefixOf hash.toList

/-- A run next to the labels that have been tried. -/
abbrev Tried (Value : Type) := Effect (List (List Char)) Fault Value

/-- The body of the loop. -/
def tryLabel (domain : Domain) (search : Search) (label : List Char) : Tried (Option Found) := do
  modify fun tried => tried ++ [label]
  let name ← candidateName domain search.originName label
  let hash ← candidateHash domain search name
  if startsWith hash search.searched then return some ⟨name, hash⟩ else return none

/-- The loop of `find_prefix`, which only a match ends. -/
def findFrom (domain : Domain) (checked : Bool) (search : Search) :
    Nat → UInt64 → Tried (Option Found)
  | 0, _ => return none
  | steps + 1, u => do
      let after ← forward checked u
      let label ← numberToLabel u
      match ← tryLabel domain search label with
      | some found => return some found
      | none => findFrom domain checked search steps after

/-- The outcome of the first steps, with the labels that they try. -/
def findPrefix (domain : Domain) (checked : Bool) (search : Search) (steps : Nat) :
    Except Fault (Option Found) × List (List Char) :=
  exec (findFrom domain checked search steps 0) []

/-! ## Labels are numerals -/

def letter (digit : Nat) : Char := Char.ofNat ('a'.toNat + digit)

def labelOf (number : Nat) : List Char := (numeral 26 number).map letter

theorem fromU32_letter {digit : Nat} (small : digit < 26) :
    fromU32 ('a'.toNat + digit) = some (letter digit) := by
  have all : ∀ digit : Fin 26, fromU32 ('a'.toNat + digit) = some (letter digit) := by decide
  exact all ⟨digit, small⟩

theorem toNat_letter {digit : Nat} (small : digit < 26) : (letter digit).toNat = 97 + digit := by
  have all : ∀ digit : Fin 26, (letter digit).toNat = 97 + digit := by decide
  exact all ⟨digit, small⟩

theorem exec_labelFrom {State : Type} (n : Nat) (label : List Char) (state : State) :
    exec (labelFrom n label) state = (.ok (label ++ (Nat.digits 26 n).map letter), state) := by
  induction n using Nat.strong_induction_on generalizing label with
  | _ n induction =>
      rw [labelFrom]
      by_cases zero : n = 0
      · rw [if_neg (not_not.mpr zero), zero]
        simp
      · have digit : n % 26 < 26 := Nat.mod_lt n (by omega)
        have pushed : exec (expectChar "should not fail" (fromU32 ('a'.toNat + n % 26)) :
            Effect State Fault Char) state = (.ok (letter (n % 26)), state) := by
          rw [fromU32_letter digit]
          rfl
        rw [if_pos zero, exec_bind_of_ok pushed, induction (n / 26) (by omega),
          Nat.digits_def' (by omega) (by omega : 0 < n)]
        simp

theorem exec_numberToLabel {State : Type} (n : UInt64) (state : State) :
    exec (numberToLabel n) state = (.ok (labelOf n.toNat), state) := by
  unfold numberToLabel
  rw [exec_bind_of_ok (exec_labelFrom n.toNat [] state), List.nil_append]
  unfold labelOf
  by_cases zero : n.toNat = 0
  · rw [zero, numeral_zero]
    rfl
  · rw [numeral_of_ne zero]
    have digits : Nat.digits 26 n.toNat ≠ [] := Nat.digits_ne_nil_iff_ne_zero.mpr zero
    simp [digits]

theorem letter_between {digit : Nat} (small : digit < 26) :
    'a' ≤ letter digit ∧ letter digit ≤ 'z' := by
  have all : ∀ digit : Fin 26, 'a' ≤ letter digit ∧ letter digit ≤ 'z' := by decide
  exact all ⟨digit, small⟩

theorem labelOf_lowercase {number : Nat} :
    ∀ char ∈ labelOf number, 'a' ≤ char ∧ char ≤ 'z' := by
  intro char member
  rcases List.mem_map.mp member with ⟨digit, found, same⟩
  rw [← same]
  exact letter_between (digit_lt (by omega) found)

theorem labelOf_ne_nil (number : Nat) : labelOf number ≠ [] := by
  unfold labelOf
  simp [numeral_ne_nil]

theorem length_labelOf (number : Nat) : (labelOf number).length = Nat.log 26 number + 1 := by
  unfold labelOf
  rw [List.length_map, length_numeral (by omega)]

theorem length_labelOf_le {number : Nat} (small : number < 2 ^ 64) :
    (labelOf number).length ≤ 14 := by
  have bound : number < 26 ^ (13 + 1) := by omega
  unfold labelOf
  rw [List.length_map]
  exact length_numeral_le (by omega) bound

/-- The number can be read back from its label. -/
theorem labelOf_injective : Function.Injective labelOf := by
  have readBack : Function.LeftInverse
      (fun label => Nat.ofDigits 26 (label.map fun char => char.toNat - 97)) labelOf := by
    intro number
    have digits : (labelOf number).map (fun char => char.toNat - 97) = numeral 26 number := by
      unfold labelOf
      rw [List.map_map]
      have readDigit : ∀ digit ∈ numeral 26 number,
          ((fun char : Char => char.toNat - 97) ∘ letter) digit = id digit := by
        intro digit member
        have code := toNat_letter (digit_lt (by omega) member)
        dsimp only [Function.comp_apply, id]
        omega
      rw [List.map_congr_left readDigit, List.map_id]
    dsimp only
    rw [digits, ofDigits_numeral]
  exact readBack.injective

/-! ## Steps of the search -/

/-- What the command relies on of the `domain` crate. -/
structure Domain.Laws (domain : Domain) : Prop where
  /-- Letters stand for themselves. -/
  letters : ∀ label : List Char, label ≠ [] → label.length ≤ 63 →
    (∀ char ∈ label, 'a' ≤ char ∧ char ≤ 'z') →
      domain.appendChars label = .ok [label.map fun char => UInt8.ofNat char.toNat]
  /-- A name has at most 255 octets. -/
  origin : ∀ labels originName, Sized labels →
    ((∃ name, domain.appendOrigin labels originName = .ok name) ↔
      wireLen labels + originName.composeLen ≤ 255)

/-- The name of a candidate. -/
def Forms (domain : Domain) (search : Search) (number : Nat) (name : Name) : Prop :=
  ∃ labels, domain.appendChars (labelOf number) = .ok labels ∧
    domain.appendOrigin labels search.originName = .ok name

/-- The search ends with the candidate: its hash matches or cannot be made. -/
def EndsAt (domain : Domain) (search : Search) (number : Nat) : Prop :=
  ∃ name, Forms domain search number name ∧
    ∀ hash, domain.nsec3Hash name search.algorithm search.iterations search.salt = .ok hash →
      startsWith (toLowercase hash) search.searched = true

/-- There is room for the label of the number in front of the origin. -/
def HasRoom (search : Search) (number : Nat) : Prop :=
  Nat.log 26 number + 2 + search.originName.composeLen ≤ 255

section Steps

variable {domain : Domain} {search : Search} {checked : Bool} {number : Nat}
variable {tried : List (List Char)}

theorem appendChars_labelOf (laws : domain.Laws) (small : number < 2 ^ 64) :
    domain.appendChars (labelOf number) =
      .ok [(labelOf number).map fun char => UInt8.ofNat char.toNat] := by
  have short := length_labelOf_le small
  exact laws.letters _ (labelOf_ne_nil number) (by omega) labelOf_lowercase

theorem forms_iff (laws : domain.Laws) (small : number < 2 ^ 64) {name : Name} :
    Forms domain search number name ↔
      domain.appendOrigin [(labelOf number).map fun char => UInt8.ofNat char.toNat]
        search.originName = .ok name := by
  unfold Forms
  rw [appendChars_labelOf laws small]
  constructor
  · rintro ⟨labels, same, formed⟩
    cases same
    exact formed
  · intro formed
    exact ⟨_, rfl, formed⟩

theorem exists_forms_iff (laws : domain.Laws) (small : number < 2 ^ 64) :
    (∃ name, Forms domain search number name) ↔ HasRoom search number := by
  have short := length_labelOf_le small
  have sized : Sized [(labelOf number).map fun char => UInt8.ofNat char.toNat] := by
    intro label member
    rw [List.mem_singleton.mp member, List.length_map]
    have some := List.length_pos_of_ne_nil (labelOf_ne_nil number)
    omega
  have length : wireLen [(labelOf number).map fun char => UInt8.ofNat char.toNat] =
      Nat.log 26 number + 2 := by
    unfold wireLen
    simp [length_labelOf]
  unfold HasRoom
  rw [← length, ← laws.origin _ _ sized]
  simp only [forms_iff laws small]

theorem exec_expect_ok {State Value : Type} (message : String) (value : Value) (state : State) :
    exec (expect message (.ok value)) state = (.ok value, state) := rfl

theorem exec_candidateName_of_forms {State : Type} {name : Name} {state : State}
    (forms : Forms domain search number name) :
    exec (candidateName domain search.originName (labelOf number)) state = (.ok name, state) := by
  rcases forms with ⟨labels, appended, formed⟩
  unfold candidateName
  rw [appended, exec_bind_of_ok (exec_expect_ok _ labels state), formed]
  rfl

/-- Without room the second `expect` fails. -/
theorem exec_candidateName_of_noRoom {State : Type} {state : State} (laws : domain.Laws)
    (small : number < 2 ^ 64) (full : ¬HasRoom search number) :
    ∃ reason, exec (candidateName domain search.originName (labelOf number)) state =
      (.error (.panic (expectMessage "should not fail" reason)), state) := by
  rw [← exists_forms_iff laws small] at full
  simp only [forms_iff laws small] at full
  unfold candidateName
  rw [appendChars_labelOf laws small]
  cases formed : domain.appendOrigin
      [(labelOf number).map fun char => UInt8.ofNat char.toNat] search.originName with
  | ok name => exact absurd ⟨name, formed⟩ full
  | error reason =>
      apply Exists.intro reason
      rw [exec_bind_of_ok (exec_expect_ok _ _ state), formed]
      rfl

theorem tryLabel_of_noRoom (tried : List (List Char)) (laws : domain.Laws) (small : number < 2 ^ 64)
    (full : ¬HasRoom search number) :
    ∃ reason, exec (tryLabel domain search (labelOf number)) tried =
      (.error (.panic (expectMessage "should not fail" reason)), tried ++ [labelOf number]) := by
  rcases exec_candidateName_of_noRoom laws small full with ⟨reason, failed⟩
  apply Exists.intro reason
  unfold tryLabel
  rw [exec_bind_of_ok (exec_modify _ _), exec_bind_of_error failed]

/-- The candidate is left behind. -/
theorem tryLabel_of_goesOn (tried : List (List Char)) (laws : domain.Laws) (small : number < 2 ^ 64)
    (room : HasRoom search number) (goesOn : ¬EndsAt domain search number) :
    exec (tryLabel domain search (labelOf number)) tried =
      (.ok none, tried ++ [labelOf number]) := by
  rcases (exists_forms_iff laws small).mpr room with ⟨name, forms⟩
  have other : ∃ hash, domain.nsec3Hash name search.algorithm search.iterations search.salt =
      .ok hash ∧ ¬startsWith (toLowercase hash) search.searched = true := by
    by_contra none
    apply goesOn
    refine ⟨name, forms, ?_⟩
    intro hash hashed
    by_contra differs
    exact none ⟨hash, hashed, differs⟩
  rcases other with ⟨hash, hashed, differs⟩
  unfold tryLabel
  rw [exec_bind_of_ok (exec_modify _ _),
    exec_bind_of_ok (exec_candidateName_of_forms forms)]
  unfold candidateHash
  rw [hashed]
  change exec (if startsWith (toLowercase hash) search.searched = true then _ else _) _ = _
  rw [if_neg differs]
  rfl

/-- The search ends with a match or with the error of the hash. -/
theorem tryLabel_of_endsAt (tried : List (List Char)) (ends : EndsAt domain search number) :
    (∃ found, exec (tryLabel domain search (labelOf number)) tried =
        (.ok (some found), tried ++ [labelOf number])) ∨
      ∃ message, exec (tryLabel domain search (labelOf number)) tried =
        (.error (.error message), tried ++ [labelOf number]) := by
  rcases ends with ⟨name, forms, stops⟩
  unfold tryLabel
  rw [exec_bind_of_ok (exec_modify _ _),
    exec_bind_of_ok (exec_candidateName_of_forms forms)]
  unfold candidateHash
  cases hashed : domain.nsec3Hash name search.algorithm search.iterations search.salt with
  | error reason => exact Or.inr ⟨_, rfl⟩
  | ok hash =>
      left
      apply Exists.intro ⟨name, toLowercase hash⟩
      change exec (if startsWith (toLowercase hash) search.searched = true then _ else _) _ = _
      rw [if_pos (stops hash hashed)]
      rfl

/-- How many numbers the range gives out before it wraps around or overflows. -/
def numbers (checked : Bool) : Nat := if checked then 2 ^ 64 - 1 else 2 ^ 64

theorem numbers_le (checked : Bool) : numbers checked ≤ 2 ^ 64 := by
  cases checked <;> decide

theorem exec_forward {State : Type} {state : State} (given : number < numbers checked) :
    exec (forward checked (UInt64.ofNat number)) state =
      (.ok (UInt64.ofNat (number + 1)), state) := by
  have bound := numbers_le checked
  have value : (UInt64.ofNat number).toNat = number :=
    UInt64.toNat_ofNat_of_lt' (Nat.lt_of_lt_of_le given bound)
  have unlike : ¬(checked = true ∧ (UInt64.ofNat number).toNat + 1 = 2 ^ 64) := by
    rintro ⟨yes, last⟩
    rw [value] at last
    rw [yes] at given
    unfold numbers at given
    simp only [if_true] at given
    omega
  unfold forward
  rw [if_neg unlike, UInt64.ofNat_add]
  rfl

theorem exec_forward_last {State : Type} (state : State) :
    exec (forward true (UInt64.ofNat (numbers true))) state =
      (.error (.panic addOverflow), state) := by
  have last : true = true ∧ (UInt64.ofNat (numbers true)).toNat + 1 = 2 ^ 64 := by decide
  unfold forward
  rw [if_pos last]
  rfl

theorem findFrom_overflows (steps : Nat) :
    exec (findFrom domain true search (steps + 1) (UInt64.ofNat (numbers true))) tried =
      (.error (.panic addOverflow), tried) := by
  have fails : exec (forward true (UInt64.ofNat (numbers true)) :
      Effect (List (List Char)) Fault UInt64) tried = (.error (.panic addOverflow), tried) :=
    exec_forward_last tried
  generalize UInt64.ofNat (numbers true) = u at fails ⊢
  rw [findFrom, exec_bind_of_error fails]

/-- A step for a number that the range gives out. -/
theorem findFrom_given (given : number < numbers checked) (steps : Nat) :
    exec (findFrom domain checked search (steps + 1) (UInt64.ofNat number)) tried =
      exec (do
        match ← tryLabel domain search (labelOf number) with
        | some found => return some found
        | none => findFrom domain checked search steps (UInt64.ofNat (number + 1))) tried := by
  have bound := numbers_le checked
  have value : (UInt64.ofNat number).toNat = number :=
    UInt64.toNat_ofNat_of_lt' (Nat.lt_of_lt_of_le given bound)
  have labelled := exec_numberToLabel (UInt64.ofNat number) tried
  rw [value] at labelled
  rw [findFrom, exec_bind_of_ok (exec_forward given), exec_bind_of_ok labelled]

theorem findFrom_next (given : number < numbers checked) (steps : Nat)
    (goesOn : exec (tryLabel domain search (labelOf number)) tried =
      (.ok none, tried ++ [labelOf number])) :
    exec (findFrom domain checked search (steps + 1) (UInt64.ofNat number)) tried =
      exec (findFrom domain checked search steps (UInt64.ofNat (number + 1)))
        (tried ++ [labelOf number]) := by
  rw [findFrom_given given, exec_bind_of_ok goesOn]

theorem findFrom_found {found : Found} (given : number < numbers checked) (steps : Nat)
    (ends : exec (tryLabel domain search (labelOf number)) tried =
      (.ok (some found), tried ++ [labelOf number])) :
    exec (findFrom domain checked search (steps + 1) (UInt64.ofNat number)) tried =
      (.ok (some found), tried ++ [labelOf number]) := by
  rw [findFrom_given given, exec_bind_of_ok ends]
  rfl

theorem findFrom_failed {fault : Fault} (given : number < numbers checked) (steps : Nat)
    (fails : exec (tryLabel domain search (labelOf number)) tried =
      (.error fault, tried ++ [labelOf number])) :
    exec (findFrom domain checked search (steps + 1) (UInt64.ofNat number)) tried =
      (.error fault, tried ++ [labelOf number]) := by
  rw [findFrom_given given, exec_bind_of_error fails]

end Steps

/-! ## Runs of the search -/

def labelsBelow (count : Nat) : List (List Char) := (List.range count).map labelOf

theorem labelsBelow_succ (count : Nat) :
    labelsBelow (count + 1) = labelsBelow count ++ [labelOf count] := by
  unfold labelsBelow
  rw [List.range_succ, List.map_append, List.map_singleton]

theorem labelsBelow_nodup (count : Nat) : (labelsBelow count).Nodup :=
  List.Nodup.map labelOf_injective List.nodup_range

/-- The search is left to go on behind the first candidates. -/
def GoesOn (domain : Domain) (search : Search) (count : Nat) : Prop :=
  ∀ number < count, HasRoom search number ∧ ¬EndsAt domain search number

/-- No label is tried twice, and no candidate name is the reason of a panic. -/
structure Enumerates (domain : Domain) (checked : Bool) (search : Search) : Prop where
  once : ∀ steps, (findPrefix domain checked search steps).2.Nodup
  forms : ∀ steps message,
    (findPrefix domain checked search steps).1 = .error (.panic message) → message = addOverflow

/-- Every candidate that is asked for has room, and a range that wraps around is left
before its end. -/
structure Searchable (domain : Domain) (checked : Bool) (search : Search) : Prop where
  room : ∀ number < numbers checked,
    (∀ earlier < number, ¬EndsAt domain search earlier) → HasRoom search number
  ends : checked = false → ∃ number < 2 ^ 64, EndsAt domain search number

section Runs

variable {domain : Domain} {search : Search} {checked : Bool} {count : Nat}

theorem findFrom_goesOn (laws : domain.Laws) (given : count ≤ numbers checked)
    (goesOn : GoesOn domain search count) (steps : Nat) :
    exec (findFrom domain checked search (count + steps) 0) [] =
      exec (findFrom domain checked search steps (UInt64.ofNat count)) (labelsBelow count) := by
  induction count generalizing steps with
  | zero =>
      rw [Nat.zero_add]
      rfl
  | succ count induction =>
      have bound := numbers_le checked
      have earlier : GoesOn domain search count := by
        intro number below
        exact goesOn number (by omega)
      rcases goesOn count (by omega) with ⟨room, others⟩
      have left := tryLabel_of_goesOn (labelsBelow count) laws (by omega) room others
      have same : count + 1 + steps = count + (steps + 1) := by omega
      rw [same, induction (by omega) earlier, findFrom_next (by omega) steps left, labelsBelow_succ]

theorem expectMessage_ne_addOverflow (reason : String) :
    expectMessage "should not fail" reason ≠ addOverflow := by
  intro same
  have first : (expectMessage "should not fail" reason).toList.head? = some 's' := by
    change ("should not fail" ++ ": " ++ reason).toList.head? = some 's'
    rw [String.toList_append, String.toList_append, List.append_assoc, List.head?_append]
    rfl
  rw [same] at first
  exact absurd first (by decide)

theorem room_of_goesOn (laws : domain.Laws) (sound : Enumerates domain checked search)
    (given : count < numbers checked) (earlier : GoesOn domain search count) :
    HasRoom search count := by
  have bound := numbers_le checked
  by_contra full
  rcases tryLabel_of_noRoom (labelsBelow count) laws (by omega) full with ⟨reason, failed⟩
  have run := findFrom_goesOn laws (Nat.le_of_lt given) earlier 1
  rw [findFrom_failed given 0 failed] at run
  have panics := sound.forms (count + 1) (expectMessage "should not fail" reason)
  unfold findPrefix at panics
  rw [run] at panics
  exact expectMessage_ne_addOverflow reason (panics rfl)

theorem goesOn_of_enumerates (laws : domain.Laws) (sound : Enumerates domain checked search)
    (given : count ≤ numbers checked) (others : ∀ number < count, ¬EndsAt domain search number) :
    GoesOn domain search count := by
  induction count with
  | zero => exact fun number below => absurd below (Nat.not_lt_zero number)
  | succ count induction =>
      have earlier := induction (by omega) fun number below => others number (by omega)
      have room := room_of_goesOn laws sound given earlier
      intro number below
      by_cases last : number = count
      · rw [last]
        exact ⟨room, others count (by omega)⟩
      · exact earlier number (by omega)

/-- A range that wraps around starts again with the first label. -/
theorem not_goesOn_of_wraps (laws : domain.Laws) (sound : Enumerates domain false search)
    (given : count ≤ numbers false) (positive : 0 < count) (wraps : UInt64.ofNat count = 0) :
    ¬GoesOn domain search count := by
  intro goesOn
  rcases goesOn 0 positive with ⟨room, others⟩
  have left := tryLabel_of_goesOn (labelsBelow count) laws (by omega) room others
  have run := findFrom_goesOn laws given goesOn 1
  have again := findFrom_next (by omega : 0 < numbers false) 0 left
  have once := sound.once (count + 1)
  unfold findPrefix at once
  rw [run, wraps] at once
  have tried : (exec (findFrom domain false search 1 0) (labelsBelow count)).2 =
      labelsBelow count ++ [labelOf 0] := congrArg Prod.snd again
  have first : labelOf 0 ∈ labelsBelow count := by
    unfold labelsBelow
    exact List.mem_map.mpr ⟨0, List.mem_range.mpr positive, rfl⟩
  rw [tried, List.nodup_append] at once
  exact once.2.2 (labelOf 0) first (labelOf 0) (List.mem_singleton.mpr rfl) rfl

theorem ends_of_enumerates (laws : domain.Laws) (sound : Enumerates domain false search) :
    ∃ number < 2 ^ 64, EndsAt domain search number := by
  by_contra never
  have others : ∀ number < 2 ^ 64, ¬EndsAt domain search number := by
    intro number below ends
    exact never ⟨number, below, ends⟩
  have given : 2 ^ 64 ≤ numbers false := Nat.le_refl (2 ^ 64)
  have goesOn := goesOn_of_enumerates laws sound given others
  exact not_goesOn_of_wraps laws sound given (by omega) rfl goesOn

/-- Behind candidates that go on the labels are tried in order. -/
theorem findFrom_enumerates (laws : domain.Laws) (searchable : Searchable domain checked search)
    (given : count ≤ numbers checked) (others : ∀ number < count, ¬EndsAt domain search number)
    (steps : Nat) :
    (∃ last, (exec (findFrom domain checked search steps (UInt64.ofNat count))
        (labelsBelow count)).2 = labelsBelow last) ∧
      ∀ message, (exec (findFrom domain checked search steps (UInt64.ofNat count))
        (labelsBelow count)).1 = .error (.panic message) → message = addOverflow := by
  induction steps generalizing count with
  | zero =>
      constructor
      · exact ⟨count, rfl⟩
      · intro message impossible
        cases impossible
  | succ steps induction =>
      have bound := numbers_le checked
      by_cases within : count < numbers checked
      · have room := searchable.room count within others
        by_cases ends : EndsAt domain search count
        · rcases tryLabel_of_endsAt (labelsBelow count) ends with ⟨found, last⟩ | ⟨message, last⟩
          · rw [findFrom_found within steps last, ← labelsBelow_succ]
            constructor
            · exact ⟨count + 1, rfl⟩
            · intro message impossible
              cases impossible
          · rw [findFrom_failed within steps last, ← labelsBelow_succ]
            constructor
            · exact ⟨count + 1, rfl⟩
            · intro message impossible
              cases impossible
        · have left := tryLabel_of_goesOn (labelsBelow count) laws (by omega) room ends
          rw [findFrom_next within steps left, ← labelsBelow_succ]
          apply induction within
          intro number below
          by_cases last : number = count
          · rw [last]
            exact ends
          · exact others number (by omega)
      · -- Only a checked range comes to its end.
        have last : count = numbers checked := by omega
        cases kind : checked with
        | false =>
            rw [kind] at last
            rcases searchable.ends kind with ⟨number, below, ends⟩
            exact absurd ends (others number (by rw [last]; exact below))
        | true =>
            rw [kind] at last
            rw [last, findFrom_overflows]
            constructor
            · apply Exists.intro (numbers true)
              dsimp only
            · intro message overflow
              cases overflow
              rfl

theorem enumerates_of_searchable (laws : domain.Laws)
    (searchable : Searchable domain checked search) : Enumerates domain checked search := by
  have none : ∀ number < 0, ¬EndsAt domain search number := by
    intro number below
    exact absurd below (Nat.not_lt_zero number)
  have run := findFrom_enumerates laws searchable (Nat.zero_le (numbers checked)) none
  constructor
  · intro steps
    rcases (run steps).1 with ⟨last, tried⟩
    have same : (findPrefix domain checked search steps).2 = labelsBelow last := tried
    rw [same]
    exact labelsBelow_nodup last
  · intro steps
    exact (run steps).2

end Runs

/-! ## Room in front of the origin -/

theorem hasRoom_of_short {search : Search} (short : search.originName.composeLen ≤ 240)
    {number : Nat} (small : number < 2 ^ 64) : HasRoom search number := by
  have length := length_labelOf_le small
  rw [length_labelOf] at length
  unfold HasRoom
  omega

theorem not_hasRoom_of_long {search : Search} (long : 254 ≤ search.originName.composeLen)
    (number : Nat) : ¬HasRoom search number := by
  unfold HasRoom
  omega

/-- In front of a long origin the first candidate already panics. -/
theorem not_enumerates_of_long {domain : Domain} (laws : domain.Laws) (checked : Bool)
    {search : Search} (long : 254 ≤ search.originName.composeLen) :
    ¬Enumerates domain checked search := by
  intro sound
  have given : 0 < numbers checked := by
    cases checked <;> decide
  have earlier : GoesOn domain search 0 := by
    intro number below
    exact absurd below (Nat.not_lt_zero number)
  exact not_hasRoom_of_long long 0 (room_of_goesOn laws sound given earlier)

/-! ## Hashes of names below `nlnetlabs.nl` -/

namespace Reference

def octets (text : String) : List UInt8 := text.toList.map fun char => UInt8.ofNat char.toNat

def isLabel (label : List Char) : Bool :=
  !label.isEmpty && label.length ≤ 63 && label.all fun char => 'a' ≤ char && char ≤ 'z'

def appendChars (label : List Char) : Except String (List (List UInt8)) :=
  if isLabel label then .ok [label.map fun char => UInt8.ofNat char.toNat]
  else .error "illegal character"

def appendOrigin (labels : List (List UInt8)) (originName : Name) : Except String Name :=
  if fits : Sized labels ∧ wireLen labels + originName.composeLen ≤ 255 then
    .ok {
      labels := labels ++ originName.labels
      sized := by
        intro label member
        rcases List.mem_append.mp member with before | behind
        · exact fits.1 label before
        · exact originName.sized label behind
      short := by
        have total := fits.2
        unfold Name.composeLen at total
        unfold wireLen at total ⊢
        rw [List.map_append, List.sum_append]
        omega }
  else
    .error "long domain name"

/-- Without iterations and salt. -/
def hashes : List (List UInt8 × String) :=
  [(octets "a", "7QF85M63I9PNMN556UKJVLNH2M7E9P27"),
    (octets "b", "JG7FNFG2DIA954S7DTDUSDOFO7K5GRTI"),
    (octets "c", "N74EORKRSGRT5V0GA6T1ED0EFTPKVR17")]

def nsec3Hash (name : Name) (algorithm : Nat) (_ : UInt16) (_ : List UInt8) :
    Except String String :=
  if algorithm = 1 then
    match name.labels with
    | label :: _ => ((hashes.lookup label).map .ok).getD (.error "unknown")
    | [] => .error "unknown"
  else
    .error "algorithm not supported"

def domain : Domain where
  appendChars := appendChars
  appendOrigin := appendOrigin
  nsec3Hash := nsec3Hash

theorem laws : domain.Laws where
  letters := by
    intro label some short lowercase
    have accepted : isLabel label = true := by
      unfold isLabel
      simp only [Bool.and_eq_true, Bool.not_eq_true', List.isEmpty_eq_false_iff, ne_eq,
        decide_eq_true_eq, List.all_eq_true]
      exact ⟨⟨some, short⟩, lowercase⟩
    exact if_pos accepted
  origin := by
    intro labels originName sized
    change (∃ name, appendOrigin labels originName = .ok name) ↔ _
    unfold appendOrigin
    constructor
    · rintro ⟨name, formed⟩
      split at formed
      · next fits => exact fits.2
      · cases formed
    · intro short
      rw [dif_pos ⟨sized, short⟩]
      exact ⟨_, rfl⟩

/-- `--find-prefix n74 nlnetlabs.nl`. -/
def search : Search where
  searched := "n74"
  originName := ⟨[octets "nlnetlabs", octets "nl"], by decide, by decide⟩
  algorithm := 1
  iterations := 0
  salt := []

/-- An origin of 255 octets. -/
def longSearch : Search where
  searched := "n74"
  originName := ⟨[List.replicate 63 97, List.replicate 63 97, List.replicate 63 97,
    List.replicate 61 97], by decide, by decide⟩
  algorithm := 1
  iterations := 0
  salt := []

theorem candidate_c : labelOf 2 = ['c'] := by
  unfold labelOf numeral
  rw [if_neg (by omega), Nat.digits_of_lt 26 2 (by omega) (by omega)]
  rfl

def nameOfC : Name :=
  ⟨[octets "c", octets "nlnetlabs", octets "nl"], by decide, by decide⟩

theorem endsAt_c : EndsAt domain search 2 := by
  have forms : Forms domain search 2 nameOfC := by
    apply Exists.intro [octets "c"]
    rw [candidate_c]
    exact ⟨rfl, rfl⟩
  refine ⟨nameOfC, forms, ?_⟩
  intro hash hashed
  cases hashed
  unfold startsWith toLowercase
  rw [String.toList_ofList]
  decide

end Reference

/-! ## The enumeration of candidates -/

/-- Every number has a label of its own with 1 to 14 lower-case letters, which never
panics to make; and the search tries no label twice and forms every name it asks for
exactly while there is room. -/
theorem findPrefix_enumerates_iff (domain : Domain) (laws : domain.Laws) (checked : Bool)
    (search : Search) :
    (∃ label : UInt64 → List Char,
      (∀ n, exec (numberToLabel n : Effect Unit Fault (List Char)) () = (.ok (label n), ())) ∧
      (∀ n, 1 ≤ (label n).length ∧ (label n).length ≤ 14 ∧
        ∀ char ∈ label n, 'a' ≤ char ∧ char ≤ 'z') ∧
      Function.Injective label) ∧
    (Enumerates domain checked search ↔ Searchable domain checked search) := by
  constructor
  · refine ⟨fun n => labelOf n.toNat, ?_, ?_, ?_⟩
    · intro n
      exact exec_numberToLabel n ()
    · intro n
      refine ⟨?_, length_labelOf_le n.toNat_lt, labelOf_lowercase⟩
      exact List.length_pos_of_ne_nil (labelOf_ne_nil n.toNat)
    · intro left right same
      exact UInt64.toNat_inj.mp (labelOf_injective same)
  · constructor
    · intro sound
      constructor
      · intro number given others
        have earlier := goesOn_of_enumerates laws sound (Nat.le_of_lt given) others
        exact room_of_goesOn laws sound given earlier
      · intro unchecked
        rw [unchecked] at sound
        exact ends_of_enumerates laws sound
    · exact enumerates_of_searchable laws

theorem findPrefix_enumerates_nlnetlabs :
    Enumerates Reference.domain false Reference.search := by
  apply (findPrefix_enumerates_iff Reference.domain Reference.laws false Reference.search).2.mpr
  constructor
  · intro number given _
    exact hasRoom_of_short (by decide) given
  · intro _
    exact ⟨2, by omega, Reference.endsAt_c⟩

/-- A name of 255 octets is accepted as the origin. -/
theorem findPrefix_panics_long :
    ¬Enumerates Reference.domain false Reference.longSearch ∧
      ¬Enumerates Reference.domain true Reference.longSearch := by
  have long : 254 ≤ Reference.longSearch.originName.composeLen := by decide
  exact ⟨not_enumerates_of_long Reference.laws false long,
    not_enumerates_of_long Reference.laws true long⟩

end Dnst.Nsec3Hash
