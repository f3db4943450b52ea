import Mathlib.Algebra.GroupWithZero.Nat
import Mathlib.Logic.Basic

/-! # Serial number arithmetic

Comparison of 32-bit serial numbers as RFC 1982 defines it: two serials at a
distance of `2 ^ 31` are not comparable.
-/

namespace Dnst.SerialNumber

/-- Distance from `left` up to `right`, modulo `2 ^ 32`. -/
def distance (left right : Nat) : Nat := (right + (2 ^ 32 - left % 2 ^ 32)) % 2 ^ 32

def compare (left right : Nat) : Option Ordering :=
  if distance left right = 0 then some .eq
  else if distance left right < 2 ^ 31 then some .lt
  else if distance left right = 2 ^ 31 then none
  else some .gt

def lt (left right : Nat) : Bool := compare left right == some .lt

def le (left right : Nat) : Bool :=
  compare left right == some .lt || compare left right == some .eq

theorem distance_of_le {left right : Nat} (ordered : left ≤ right) (fits : right < 2 ^ 32) :
    distance left right = right - left := by
  have small : left % 2 ^ 32 = left := Nat.mod_eq_of_lt (by omega)
  unfold distance
  rw [small]
  omega

theorem distance_of_gt {left right : Nat} (ordered : right < left) (fits : left < 2 ^ 32) :
    distance left right = 2 ^ 32 - (left - right) := by
  have small : left % 2 ^ 32 = left := Nat.mod_eq_of_lt fits
  unfold distance
  rw [small]
  omega

/-- One serial is before another if it takes an addition to get there, as RFC 1982
defines it. -/
theorem distance_eq_iff {left right increment : Nat} (leftFits : left < 2 ^ 32)
    (rightFits : right < 2 ^ 32) (bounded : increment < 2 ^ 32) :
    distance left right = increment ↔ right = (left + increment) % 2 ^ 32 := by
  by_cases ordered : left ≤ right
  · rw [distance_of_le ordered rightFits]
    omega
  · rw [distance_of_gt (by omega) leftFits]
    omega

theorem lt_iff_distance (left right : Nat) :
    lt left right = true ↔ 1 ≤ distance left right ∧ distance left right ≤ 2 ^ 31 - 1 := by
  unfold lt compare
  grind

theorem le_iff_distance {left right : Nat} :
    le left right = true ↔ distance left right < 2 ^ 31 := by
  unfold le compare
  grind

theorem distance_swap (left right : Nat) :
    distance right left = (2 ^ 32 - distance left right) % 2 ^ 32 := by
  unfold distance
  omega

theorem lt_eq_false_of_le {left right : Nat} (ordered : le left right = true) :
    lt right left = false := by
  have near : distance left right < 2 ^ 31 := by
    unfold le compare at ordered
    grind
  unfold lt compare
  rw [distance_swap]
  grind

/-- Without half the range between them, two serials are in one order or the other. -/
theorem le_eq_not_lt {left right : Nat} (comparable : distance left right ≠ 2 ^ 31) :
    le left right = !lt right left := by
  have bounded : distance left right < 2 ^ 32 := Nat.mod_lt _ (by decide)
  unfold le lt compare
  rw [distance_swap left right]
  grind

theorem distance_ne_of_le {left right : Nat} (ordered : le left right = true) :
    distance left right ≠ 2 ^ 31 := by
  intro half
  unfold le compare at ordered
  rw [half] at ordered
  revert ordered
  decide

theorem distance_ne_of_lt {left right : Nat} (ordered : lt left right = true) :
    distance left right ≠ 2 ^ 31 := by
  apply distance_ne_of_le
  unfold lt at ordered
  unfold le
  rw [ordered]
  rfl

theorem distance_ne_swap {left right : Nat} (comparable : distance left right ≠ 2 ^ 31) :
    distance right left ≠ 2 ^ 31 := by
  rw [distance_swap]
  omega

example : lt 4294967295 3 = true := by decide

example : le 0 (2 ^ 31) = false ∧ le (2 ^ 31) 0 = false := by decide

end Dnst.SerialNumber
