import Dnst.Foundation.Utf8

/-! # Base 32 with the extended hex alphabet

Without padding, as names and labels use it: five bits become one character.
-/

namespace Dnst.Base32Hex

/-- Bits of an octet, the most significant first. -/
def octetBits (octet : UInt8) : List Bool :=
  [7, 6, 5, 4, 3, 2, 1, 0].map octet.toNat.testBit

def bits (octets : List UInt8) : List Bool := octets.flatMap octetBits

def alphabet : List Char := "0123456789ABCDEFGHIJKLMNOPQRSTUV".toList

/-- The character for five bits. -/
def digit (first second third fourth fifth : Bool) : Char :=
  alphabet.getD (16 * first.toNat + 8 * second.toNat + 4 * third.toNat + 2 * fourth.toNat +
    fifth.toNat) '0'

/-- Missing bits at the end are zero. -/
def digits : List Bool → List Char
  | [] => []
  | [first] => [digit first false false false false]
  | [first, second] => [digit first second false false false]
  | [first, second, third] => [digit first second third false false]
  | [first, second, third, fourth] => [digit first second third fourth false]
  | first :: second :: third :: fourth :: fifth :: rest =>
      digit first second third fourth fifth :: digits rest

def encode (octets : List UInt8) : String := String.ofList (digits (bits octets))

theorem length_bits (octets : List UInt8) : (bits octets).length = 8 * octets.length := by
  induction octets with
  | nil => rfl
  | cons octet octets induction =>
      have head : (octetBits octet).length = 8 := rfl
      unfold bits at induction ⊢
      rw [List.flatMap_cons, List.length_append, List.length_cons, induction, head]
      omega

theorem length_digits (bits : List Bool) : (digits bits).length = (bits.length + 4) / 5 := by
  fun_induction digits bits with
  | case6 first second third fourth fifth rest induction =>
      rw [List.length_cons, induction]
      simp only [List.length_cons]
      omega
  | _ => simp

theorem digit_ascii (first second third fourth fifth : Bool) :
    (digit first second third fourth fifth).utf8Size = 1 := by
  cases first <;> cases second <;> cases third <;> cases fourth <;> cases fifth <;> rfl

theorem digits_ascii (bits : List Bool) : ∀ char ∈ digits bits, char.utf8Size = 1 := by
  fun_induction digits bits with
  | case1 => simp
  | case6 first second third fourth fifth rest induction =>
      intro char member
      cases List.mem_cons.mp member with
      | inl head =>
          rw [head]
          exact digit_ascii first second third fourth fifth
      | inr later => exact induction char later
  | _ => simp [digit_ascii]

/-- Eight characters for every five octets, rounded up. -/
theorem utf8ByteSize_encode (octets : List UInt8) :
    (encode octets).utf8ByteSize = (8 * octets.length + 4) / 5 := by
  unfold encode
  rw [Utf8.utf8ByteSize_ofList, Utf8.size_of_ascii (digits_ascii _), length_digits, length_bits]

example : encode [102, 111, 111, 98] = "CPNMUOG" := by decide

end Dnst.Base32Hex
