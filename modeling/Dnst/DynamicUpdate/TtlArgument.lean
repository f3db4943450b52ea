import Dnst.DynamicUpdate.Faithful

/-! # The TTL argument

A TTL is a decimal number with an optional unit. The number is read with a check of its
range, the product with the unit is not checked.
-/

namespace Dnst.DynamicUpdate

open Keyset (Fault)

/-! ## Parsing -/

def digitValue (digit : Char) : Nat := digit.toNat - '0'.toNat

/-- The digits that are left, behind a number that has been read. -/
def parseDigits : Nat → List Char → Except String Nat
  | value, [] => .ok value
  | value, digit :: digits =>
      if digit.isDigit then
        if value * 10 + digitValue digit < 2 ^ 32 then
          parseDigits (value * 10 + digitValue digit) digits
        else .error "number too large to fit in target type"
      else .error "invalid digit found in string"

/-- `str::parse` of a `u32`. -/
def parseU32 : List Char → Except String Nat
  | [] => .error "cannot parse integer from empty string"
  | first :: digits =>
      if first = '+' ∧ digits ≠ [] then parseDigits 0 digits else parseDigits 0 (first :: digits)

/-- Seconds in a unit. -/
def unitSeconds : Char → Option Nat
  | 's' => some 1
  | 'm' => some 60
  | 'h' => some 3600
  | 'd' => some 86400
  | _ => none

/-- The text in front of the unit and the seconds in the unit. -/
def stripUnit (arg : List Char) : List Char × Nat :=
  match arg.getLast?.bind unitSeconds with
  | some seconds => (arg.dropLast, seconds)
  | none => (arg, 1)

/-- `t * 60` and its like, with or without overflow checks. -/
def multiplyU32 (checked : Bool) (left right : Nat) : Except Fault Nat :=
  if left * right < 2 ^ 32 then .ok (left * right)
  else if checked then .error (.panic "attempt to multiply with overflow")
  else .ok (left * right % 2 ^ 32)

def parseTtl (checked : Bool) (arg : String) : Except Fault Ttl :=
  let (number, seconds) := stripUnit arg.toList
  match parseU32 number with
  | .ok value => multiplyU32 checked value seconds
  | .error reason => .error (.error s!"Invalid TTL: {reason}")

/-! ## What a TTL denotes -/

/-- The number that the digits denote, of any size. -/
def decimal (digits : List Char) : Option Nat :=
  if digits ≠ [] ∧ digits.all Char.isDigit then
    some (digits.foldl (fun value digit => value * 10 + digitValue digit) 0)
  else none

/-- Seconds, by the number in front of the unit. -/
def denotes (arg : String) : Option Nat :=
  (decimal (stripUnit arg.toList).1).map (· * (stripUnit arg.toList).2)

/-- The TTL is read exactly, and so is that of every record that is added. -/
structure ExactTtl (checked : Bool) (arg : String) : Prop where
  exact : ∀ ttl, parseTtl checked arg = .ok ttl → denotes arg = some ttl
  noPanic : ∀ message, parseTtl checked arg ≠ .error (.panic message)
  tooLarge : ∀ value, denotes arg = some value → 2 ^ 32 ≤ value →
    ∃ reason, parseTtl checked arg = .error (.error reason)
  added : ∀ (domain : Domain) (update : Update) (apex : Name) (soa : Serial) (message : Message)
    (rtype : Rtype) (rdata : List String), update.action = .add rtype rdata →
    parseTtl checked arg = .ok update.ttl → update.message domain apex soa = .ok message →
    ∀ record ∈ message.update, denotes arg = some record.ttl

/-- A number that fits `u32` still does so in seconds. -/
def FitsInSeconds (arg : String) : Prop :=
  ∀ value, decimal (stripUnit arg.toList).1 = some value → value < 2 ^ 32 →
    value * (stripUnit arg.toList).2 < 2 ^ 32

/-- A plus sign in front of a number that fits `u32`. -/
def Signed (arg : String) : Prop :=
  ∃ digits value, (stripUnit arg.toList).1 = '+' :: digits ∧ decimal digits = some value ∧
    value < 2 ^ 32

/-! ## Numbers -/

def readDigits (value : Nat) (digits : List Char) : Nat :=
  digits.foldl (fun value digit => value * 10 + digitValue digit) value

theorem le_readDigits (digits : List Char) : ∀ value, value ≤ readDigits value digits := by
  induction digits with
  | nil => exact fun value => Nat.le_refl value
  | cons digit digits induction =>
      intro value
      have later := induction (value * 10 + digitValue digit)
      unfold readDigits at later ⊢
      rw [List.foldl_cons]
      omega

/-- What has been read never gets smaller, so that only the whole number matters. -/
theorem parseDigits_eq_ok_iff (digits : List Char) (result : Nat) :
    ∀ value, value < 2 ^ 32 →
      (parseDigits value digits = .ok result ↔
        digits.all Char.isDigit = true ∧ readDigits value digits = result ∧ result < 2 ^ 32) := by
  induction digits with
  | nil =>
      intro value fits
      unfold parseDigits readDigits
      rw [List.foldl_nil, Except.ok.injEq]
      constructor
      · intro same
        exact ⟨rfl, same, same ▸ fits⟩
      · intro read
        exact read.2.1
  | cons digit digits induction =>
      intro value fits
      have whole : readDigits value (digit :: digits) =
          readDigits (value * 10 + digitValue digit) digits := rfl
      unfold parseDigits
      rw [whole, List.all_cons, Bool.and_eq_true]
      by_cases isDigit : digit.isDigit = true
      · rw [if_pos isDigit]
        by_cases small : value * 10 + digitValue digit < 2 ^ 32
        · rw [if_pos small, induction _ small]
          exact ⟨fun read => ⟨⟨isDigit, read.1⟩, read.2⟩, fun read => ⟨read.1.2, read.2⟩⟩
        · rw [if_neg small]
          have grows := le_readDigits digits (value * 10 + digitValue digit)
          constructor
          · intro impossible
            cases impossible
          · rintro ⟨_, same, bounded⟩
            omega
      · rw [if_neg isDigit]
        constructor
        · intro impossible
          cases impossible
        · rintro ⟨⟨digitTrue, _⟩, _⟩
          exact absurd digitTrue isDigit

theorem decimal_eq_some_iff (digits : List Char) (value : Nat) :
    decimal digits = some value ↔
      digits ≠ [] ∧ digits.all Char.isDigit = true ∧ readDigits 0 digits = value := by
  unfold decimal
  by_cases number : digits ≠ [] ∧ digits.all Char.isDigit = true
  · rw [if_pos number, Option.some.injEq]
    exact ⟨fun same => ⟨number.1, number.2, same⟩, fun read => read.2.2⟩
  · rw [if_neg number]
    constructor
    · intro impossible
      cases impossible
    · rintro ⟨nonempty, allDigits, _⟩
      exact absurd ⟨nonempty, allDigits⟩ number

theorem decimal_signed (digits : List Char) : decimal ('+' :: digits) = none := by
  have sign : '+'.isDigit = false := by decide
  unfold decimal
  simp [sign]

theorem parseU32_eq_ok_iff (text : List Char) (value : Nat) :
    parseU32 text = .ok value ↔
      (decimal text = some value ∨
        ∃ digits, text = '+' :: digits ∧ decimal digits = some value) ∧ value < 2 ^ 32 := by
  have zero : 0 < 2 ^ 32 := by decide
  cases text with
  | nil =>
      constructor
      · intro impossible
        cases impossible
      · rintro ⟨number | ⟨digits, impossible, _⟩, _⟩
        · cases number
        · cases impossible
  | cons first digits =>
      rw [parseU32]
      by_cases sign : first = '+' ∧ digits ≠ []
      · rw [if_pos sign, parseDigits_eq_ok_iff digits value 0 zero, sign.1, decimal_signed]
        constructor
        · rintro ⟨allDigits, same, bounded⟩
          refine ⟨Or.inr ⟨digits, rfl, ?_⟩, bounded⟩
          exact (decimal_eq_some_iff digits value).mpr ⟨sign.2, allDigits, same⟩
        · rintro ⟨impossible | ⟨others, same, number⟩, bounded⟩
          · cases impossible
          · cases same
            have read := (decimal_eq_some_iff digits value).mp number
            exact ⟨read.2.1, read.2.2, bounded⟩
      · rw [if_neg sign, parseDigits_eq_ok_iff _ value 0 zero, decimal_eq_some_iff]
        constructor
        · rintro ⟨allDigits, same, bounded⟩
          exact ⟨Or.inl ⟨List.cons_ne_nil _ _, allDigits, same⟩, bounded⟩
        · rintro ⟨read | ⟨others, same, number⟩, bounded⟩
          · exact ⟨read.2.1, read.2.2, bounded⟩
          · cases same
            have read := (decimal_eq_some_iff _ value).mp number
            exact absurd ⟨rfl, read.1⟩ sign

/-! ## Exactness -/

theorem parseTtl_of_ok {checked : Bool} {arg : String} {value : Nat}
    (parsed : parseU32 (stripUnit arg.toList).1 = .ok value) :
    parseTtl checked arg = multiplyU32 checked value (stripUnit arg.toList).2 := by
  unfold parseTtl
  dsimp only
  rw [parsed]

theorem parseTtl_of_error {checked : Bool} {arg reason : String}
    (refused : parseU32 (stripUnit arg.toList).1 = .error reason) :
    ∃ message, parseTtl checked arg = .error (.error message) := by
  unfold parseTtl
  dsimp only
  rw [refused]
  exact ⟨_, rfl⟩

theorem denotes_eq {arg : String} {value : Nat}
    (number : decimal (stripUnit arg.toList).1 = some value) :
    denotes arg = some (value * (stripUnit arg.toList).2) := by
  unfold denotes
  rw [number]
  rfl

theorem multiplyU32_fits {left right : Nat} (fits : left * right < 2 ^ 32) (checked : Bool) :
    multiplyU32 checked left right = .ok (left * right) := by
  unfold multiplyU32
  rw [if_pos fits]

/-- A product that does not fit wraps around or panics. -/
theorem multiplyU32_overflows {left right : Nat} (large : ¬ left * right < 2 ^ 32)
    (checked : Bool) :
    (∃ message, multiplyU32 checked left right = .error (.panic message)) ∨
      ∃ result, multiplyU32 checked left right = .ok result ∧ result < 2 ^ 32 := by
  unfold multiplyU32
  rw [if_neg large]
  cases checked with
  | true => exact Or.inl ⟨_, rfl⟩
  | false => exact Or.inr ⟨_, rfl, Nat.mod_lt _ (by decide)⟩

/-- Without a sign and with a product that fits, the result is the product. -/
theorem parseTtl_exact {checked : Bool} {arg : String} (fits : FitsInSeconds arg)
    (unsigned : ¬ Signed arg) :
    (∃ message, parseTtl checked arg = .error (.error message)) ∨
      ∃ ttl : Nat, parseTtl checked arg = .ok ttl ∧ denotes arg = some ttl ∧ ttl < 2 ^ 32 := by
  cases parsed : parseU32 (stripUnit arg.toList).1 with
  | error reason => exact Or.inl (parseTtl_of_error parsed)
  | ok value =>
      right
      rcases (parseU32_eq_ok_iff _ value).mp parsed with ⟨number | ⟨digits, sign, number⟩, small⟩
      · have product := fits value number small
        refine ⟨value * (stripUnit arg.toList).2, ?_, denotes_eq number, product⟩
        rw [parseTtl_of_ok parsed, multiplyU32_fits product]
      · exact absurd ⟨digits, value, sign, number, small⟩ unsigned

theorem ExactTtl.fitsInSeconds {checked : Bool} {arg : String} (exact : ExactTtl checked arg) :
    FitsInSeconds arg := by
  intro value number small
  by_contra large
  have parsed := (parseU32_eq_ok_iff _ value).mpr ⟨Or.inl number, small⟩
  have whole := @parseTtl_of_ok checked arg value parsed
  rcases multiplyU32_overflows large checked with ⟨message, panics⟩ | ⟨result, wraps, bounded⟩
  · exact exact.noPanic message (whole.trans panics)
  · have denoted := exact.exact result (whole.trans wraps)
    rw [denotes_eq number] at denoted
    have same := Option.some.inj denoted
    omega

theorem ExactTtl.not_signed {checked : Bool} {arg : String} (exact : ExactTtl checked arg) :
    ¬ Signed arg := by
  rintro ⟨digits, value, sign, number, small⟩
  have parsed := (parseU32_eq_ok_iff _ value).mpr ⟨Or.inr ⟨digits, sign, number⟩, small⟩
  have whole := @parseTtl_of_ok checked arg value parsed
  have nothing : denotes arg = none := by
    unfold denotes
    rw [sign, decimal_signed]
    rfl
  have notRead : ∀ result, multiplyU32 checked value (stripUnit arg.toList).2 ≠ .ok result := by
    intro result read
    have denoted := exact.exact result (whole.trans read)
    rw [nothing] at denoted
    cases denoted
  by_cases fits : value * (stripUnit arg.toList).2 < 2 ^ 32
  · exact notRead _ (multiplyU32_fits fits checked)
  · rcases multiplyU32_overflows fits checked with ⟨message, panics⟩ | ⟨result, wraps, _⟩
    · exact exact.noPanic message (whole.trans panics)
    · exact notRead result wraps

/-- Every record that is added has the TTL of the arguments. -/
theorem added_ttl {domain : Domain} {update : Update} {apex : Name} {soa : Serial}
    {message : Message} {rtype : Rtype} {rdata : List String}
    (action : update.action = .add rtype rdata)
    (created : update.message domain apex soa = .ok message) :
    ∀ record ∈ message.update, record.ttl = update.ttl := by
  rcases message_created created with ⟨prerequisites, changes, _, made, same⟩
  rw [same]
  unfold ChangesMade at made
  rw [action] at made
  intro record member
  rcases forall₂_right made.2 member with ⟨text, _, read, _, isAddition⟩
  rw [isAddition]
  rfl

theorem parseTtl_exact_iff (checked : Bool) (arg : String) :
    ExactTtl checked arg ↔ FitsInSeconds arg ∧ ¬ Signed arg := by
  constructor
  · intro exact
    exact ⟨exact.fitsInSeconds, exact.not_signed⟩
  · rintro ⟨fits, unsigned⟩
    have outcome := @parseTtl_exact checked arg fits unsigned
    have exact : ∀ ttl, parseTtl checked arg = .ok ttl → denotes arg = some ttl := by
      intro ttl parsed
      rcases outcome with ⟨message, refused⟩ | ⟨result, read, denoted, _⟩
      · rw [refused] at parsed
        cases parsed
      · rw [read] at parsed
        cases parsed
        exact denoted
    refine ⟨exact, ?_, ?_, ?_⟩
    · intro message panics
      rcases outcome with ⟨reason, refused⟩ | ⟨result, read, _, _⟩
      · rw [refused] at panics
        cases panics
      · rw [read] at panics
        cases panics
    · intro value denoted large
      rcases outcome with refused | ⟨result, _, same, small⟩
      · exact refused
      · rw [denoted] at same
        cases same
        omega
    · intro domain update apex soa message rtype rdata action parsed created record member
      rw [added_ttl action created record member]
      exact exact update.ttl parsed

/-- 49711 days are more seconds than fit. -/
theorem parseTtl_days : ¬ ExactTtl false "49711d" ∧ ¬ ExactTtl true "49711d" := by
  have inexact : ∀ checked, ¬ ExactTtl checked "49711d" := by
    intro checked exact
    have fits := exact.fitsInSeconds 49711 (by decide +kernel) (by decide)
    revert fits
    decide +kernel
  exact ⟨inexact false, inexact true⟩

end Dnst.DynamicUpdate
