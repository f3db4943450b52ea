import Mathlib.Algebra.GroupWithZero.Nat
import Mathlib.Data.List.Basic

/-! # Sizes of UTF-8 text

Text is cut at a number of octets, which has to be a character boundary.
-/

namespace Dnst.Utf8

/-- Octets of the characters. -/
def size (chars : List Char) : Nat := (chars.map Char.utf8Size).sum

@[simp] theorem size_nil : size [] = 0 := rfl

@[simp] theorem size_cons (char : Char) (chars : List Char) :
    size (char :: chars) = char.utf8Size + size chars := rfl

theorem utf8ByteSize_ofList (chars : List Char) :
    (String.ofList chars).utf8ByteSize = size chars := by
  induction chars with
  | nil => rfl
  | cons char chars induction =>
      rw [String.ofList_cons, String.utf8ByteSize_append, String.utf8ByteSize_singleton,
        induction, size_cons]

/-- Every character takes a single octet. -/
theorem size_of_ascii {chars : List Char} (ascii : ∀ char ∈ chars, char.utf8Size = 1) :
    size chars = chars.length := by
  induction chars with
  | nil => rfl
  | cons char chars induction =>
      have first := ascii char (by simp)
      have rest := induction fun other member => ascii other (by simp [member])
      rw [size_cons, List.length_cons, first, rest]
      omega

/-- The first characters up to a number of octets, unless that splits a character. -/
def take : Nat → List Char → Option (List Char)
  | 0, _ => some []
  | _ + 1, [] => none
  | octets + 1, char :: chars =>
      if char.utf8Size ≤ octets + 1 then
        (take (octets + 1 - char.utf8Size) chars).map (char :: ·)
      else
        none

theorem size_of_take {octets : Nat} {chars taken : List Char}
    (cut : take octets chars = some taken) : size taken = octets := by
  induction chars generalizing octets taken with
  | nil =>
      cases octets with
      | zero =>
          cases cut
          rfl
      | succ octets => cases cut
  | cons char chars induction =>
      cases octets with
      | zero =>
          cases cut
          rfl
      | succ octets =>
          rw [take] at cut
          split at cut
          · next fits =>
              have ⟨rest, found, same⟩ := Option.map_eq_some_iff.mp cut
              rw [← same, size_cons, induction found]
              omega
          · cases cut

theorem take_of_ascii {octets : Nat} {chars : List Char}
    (ascii : ∀ char ∈ chars, char.utf8Size = 1) (enough : octets ≤ chars.length) :
    take octets chars = some (chars.take octets) := by
  induction chars generalizing octets with
  | nil =>
      cases octets with
      | zero => rfl
      | succ octets => simp at enough
  | cons char chars induction =>
      cases octets with
      | zero => rfl
      | succ octets =>
          have single := ascii char (by simp)
          have rest : octets ≤ chars.length := by simpa using enough
          have others : ∀ other ∈ chars, other.utf8Size = 1 := by
            intro other member
            exact ascii other (by simp [member])
          rw [take, single, if_pos (by omega), Nat.add_sub_cancel, induction others rest]
          rfl

end Dnst.Utf8
