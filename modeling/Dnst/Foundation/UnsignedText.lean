import Dnst.Foundation.Numeral

/-! # Unsigned integers as text

Decimal digits, with an optional plus sign, of a number below a bound.
-/

namespace Dnst.UnsignedText

def digitValue (digit : Char) : Nat := digit.toNat - '0'.toNat

def digitChar (digit : Nat) : Char := Char.ofNat (digit + '0'.toNat)

/-- The digits that are left, behind a number that has been read. -/
def parseDigits (bound : Nat) : Nat → List Char → Except String Nat
  | value, [] => .ok value
  | value, digit :: digits =>
      if digit.isDigit then
        if value * 10 + digitValue digit < bound then
          parseDigits bound (value * 10 + digitValue digit) digits
        else .error "number too large to fit in target type"
      else .error "invalid digit found in string"

def parse (bound : Nat) : List Char → Except String Nat
  | [] => .error "cannot parse integer from empty string"
  | first :: digits =>
      if first = '+' ∧ digits ≠ [] then parseDigits bound 0 digits
      else parseDigits bound 0 (first :: digits)

def decimal (number : Nat) : List Char := ((numeral 10 number).map digitChar).reverse

theorem digitChar_isDigit {digit : Nat} (small : digit < 10) :
    (digitChar digit).isDigit = true := by
  revert digit
  decide

theorem digitValue_digitChar {digit : Nat} (small : digit < 10) :
    digitValue (digitChar digit) = digit := by
  revert digit
  decide

theorem parseDigits_append (bound value : Nat) (digits others : List Char) :
    parseDigits bound value (digits ++ others) =
      (parseDigits bound value digits).bind fun read => parseDigits bound read others := by
  induction digits generalizing value with
  | nil => rfl
  | cons digit digits induction =>
      rw [List.cons_append, parseDigits, parseDigits]
      split
      · split
        · exact induction _
        · rfl
      · rfl

theorem parseDigits_lt {bound value number : Nat} {digits : List Char}
    (small : value < bound ∨ digits ≠ []) (reads : parseDigits bound value digits = .ok number) :
    number < bound := by
  induction digits generalizing value with
  | nil =>
      cases reads
      exact small.elim id fun impossible => absurd rfl impossible
  | cons digit digits induction =>
      rw [parseDigits] at reads
      split at reads
      · split at reads
        · next fits => exact induction (Or.inl fits) reads
        · cases reads
      · cases reads

theorem parse_lt {bound number : Nat} {text : List Char} (reads : parse bound text = .ok number) :
    number < bound := by
  cases text with
  | nil => cases reads
  | cons first digits =>
      rw [parse] at reads
      split at reads
      · next signed => exact parseDigits_lt (Or.inr signed.2) reads
      · exact parseDigits_lt (Or.inr (List.cons_ne_nil first digits)) reads

/-- The number that digits stand for, the least significant one first. -/
theorem parseDigits_reverse {bound : Nat} (digits : List Nat)
    (small : ∀ digit ∈ digits, digit < 10) (fits : Nat.ofDigits 10 digits < bound) :
    parseDigits bound 0 (digits.map digitChar).reverse = .ok (Nat.ofDigits 10 digits) := by
  induction digits with
  | nil => rfl
  | cons digit digits induction =>
      have isSmall := small digit List.mem_cons_self
      rw [Nat.ofDigits_cons] at fits ⊢
      have less : Nat.ofDigits 10 digits < bound := by omega
      rw [List.map_cons, List.reverse_cons, parseDigits_append,
        induction (fun other member => small other (List.mem_cons_of_mem _ member)) less]
      change parseDigits bound _ [digitChar digit] = _
      rw [parseDigits, if_pos (digitChar_isDigit isSmall), digitValue_digitChar isSmall]
      have sum : Nat.ofDigits 10 digits * 10 + digit = digit + 10 * Nat.ofDigits 10 digits := by
        omega
      rw [sum, if_pos fits, parseDigits]

/-- The decimal text of a number below the bound is read as that number. -/
theorem parse_decimal {bound number : Nat} (fits : number < bound) :
    parse bound (decimal number) = .ok number := by
  have small : ∀ digit ∈ numeral 10 number, digit < 10 :=
    fun _ member => digit_lt (by decide) member
  have reads := parseDigits_reverse (numeral 10 number) small
    (by rw [ofDigits_numeral]; exact fits)
  rw [ofDigits_numeral] at reads
  unfold decimal
  cases text : ((numeral 10 number).map digitChar).reverse with
  | nil =>
      rw [List.reverse_eq_nil_iff, List.map_eq_nil_iff] at text
      exact absurd text (numeral_ne_nil 10 number)
  | cons first digits =>
      have member : first ∈ ((numeral 10 number).map digitChar).reverse :=
        text ▸ List.mem_cons_self
      rcases List.mem_map.mp (List.mem_reverse.mp member) with ⟨digit, isDigit, same⟩
      have unsigned : first ≠ '+' := by
        intro sign
        have digits := digitChar_isDigit (small digit isDigit)
        rw [same, sign] at digits
        cases digits
      rw [parse, if_neg fun signed => unsigned signed.1, ← text]
      exact reads

end Dnst.UnsignedText
