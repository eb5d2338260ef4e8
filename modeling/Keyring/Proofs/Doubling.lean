import Keyring.Curve.Doubling
import Mathlib.Tactic.Ring

/-!
What repetition by doubling computes. `repeated_induction` is the one induction over the
binary digits: whatever holds of the unit for zero and of the value for one, and adds up
along the combination, holds of the repeated combination for its count.
-/

namespace Keyring

/-- The number that binary digits add to a number written before them. -/
def appendDigits (value : Nat) (digits : List Bool) : Nat :=
  digits.foldl (fun total digit => 2 * total + digit.toNat) value

/-- The lowest `width` digits of a number, written after another number. -/
theorem appendDigits_testBit (count width value : Nat) :
    appendDigits value ((List.range width).reverse.map count.testBit) =
      value * 2 ^ width + count % 2 ^ width := by
  induction width generalizing value with
  | zero => simp [appendDigits, Nat.mod_one]
  | succ width ih =>
    have lower := ih (2 * value + (count.testBit width).toNat)
    rw [appendDigits] at lower
    rw [List.range_succ, List.reverse_concat, List.map_cons, appendDigits, List.foldl_cons, lower,
      Nat.mod_pow_succ, Nat.toNat_testBit]
    ring

/-- The binary digits of a number write the number. -/
theorem appendDigits_binaryDigits (count : Nat) : appendDigits 0 (binaryDigits count) = count := by
  rw [binaryDigits, appendDigits_testBit, Nat.zero_mul, Nat.zero_add]
  exact Nat.mod_eq_of_lt Nat.lt_log2_self

section Repetition

variable {α : Type} {combine : α → α → α} {unit x : α} (Stands : Nat → α → Prop)

/-- Reading further digits keeps the total in step with the number read. -/
theorem foldl_digits_induction
    (one : Stands 1 x)
    (add : ∀ {m n a b}, Stands m a → Stands n b → Stands (m + n) (combine a b))
    (digits : List Bool) {value : Nat} {total : α} (stands : Stands value total) :
    Stands (appendDigits value digits)
      (digits.foldl
        (fun total digit =>
          let twice := combine total total
          if digit then combine twice x else twice)
        total) := by
  induction digits generalizing value total with
  | nil => exact stands
  | cons digit digits ih =>
    have twice : Stands (2 * value) (combine total total) := by
      rw [Nat.two_mul]
      exact add stands stands
    cases digit with
    | false => exact ih twice
    | true => exact ih (add twice one)

/-- Whatever the unit stands in at zero and the value at one, and what adds up along the
combination, the repeated combination stands in at its count. -/
theorem repeated_induction
    (none : Stands 0 unit)
    (one : Stands 1 x)
    (add : ∀ {m n a b}, Stands m a → Stands n b → Stands (m + n) (combine a b))
    (count : Nat) : Stands count (repeated combine unit x count) := by
  have stands := foldl_digits_induction Stands one add (binaryDigits count) none
  rw [appendDigits_binaryDigits] at stands
  exact stands

end Repetition

end Keyring
