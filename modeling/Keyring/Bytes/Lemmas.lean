import Keyring.Bytes
import Mathlib.Algebra.Ring.Nat
import Mathlib.Data.Nat.Digits.Lemmas

/-!
Reading and writing numbers as bytes. Reading back what was written gives the number
again when it fits the width (`toNat_ofNat`), and every byte string is the writing of its
number at its own length (`ofNat_toNat`). Two numbers of one width written behind each other
are told apart by length (`halves_eq_iff`). The bytes are the digits of their number in base
256 (`toNat_eq_ofDigits`).
-/

namespace Keyring.Bytes

/-- A number that fits the width is read back from its writing. -/
theorem toNat_ofNat {width value : Nat} (fits : value < 256 ^ width) :
    toNat (ofNat width value) = value := by
  induction width generalizing value with
  | zero =>
    have none : value = 0 := by simpa using fits
    simp [ofNat, none]
  | succ width ih =>
    rw [pow_succ] at fits
    have fitsRest : value / 256 < 256 ^ width := by omega
    rw [ofNat, toNat_concat, ih fitsRest]
    have lastDigit : (UInt8.ofNat value).toNat = value % 256 := rfl
    omega

/-- A byte string of `width` bytes writes a number below `256 ^ width`. -/
theorem toNat_lt (bytes : Bytes) : toNat bytes < 256 ^ bytes.length := by
  induction length : bytes.length generalizing bytes with
  | zero => simp [List.eq_nil_of_length_eq_zero length]
  | succ width ih =>
    have nonempty : bytes ≠ [] := by rintro rfl; simp at length
    rw [← List.dropLast_concat_getLast nonempty, toNat_concat, pow_succ]
    have shorter := ih bytes.dropLast (by simp [length])
    have last := (bytes.getLast nonempty).toNat_lt
    omega

/-- Every byte string is the writing of its number at its own length. -/
theorem ofNat_toNat (bytes : Bytes) : ofNat bytes.length (toNat bytes) = bytes := by
  induction length : bytes.length generalizing bytes with
  | zero => simp [List.eq_nil_of_length_eq_zero length, ofNat]
  | succ width ih =>
    have nonempty : bytes ≠ [] := by rintro rfl; simp at length
    have last := (bytes.getLast nonempty).toNat_lt
    have value : toNat bytes =
        toNat bytes.dropLast * 256 + (bytes.getLast nonempty).toNat := by
      conv => lhs; rw [← List.dropLast_concat_getLast nonempty]
      exact toNat_concat _ _
    have quotient : toNat bytes / 256 = toNat bytes.dropLast := by omega
    have lastDigit : UInt8.ofNat (toNat bytes) = bytes.getLast nonempty := by
      apply UInt8.toNat_inj.1
      have digit : (UInt8.ofNat (toNat bytes)).toNat = toNat bytes % 256 := rfl
      omega
    rw [ofNat, quotient, ih bytes.dropLast (by simp [length]), lastDigit,
      List.dropLast_concat_getLast nonempty]

/-- The two halves of bytes write two numbers when the bytes are the one number behind the
other. -/
theorem halves_eq_iff {width first second : Nat} {bytes : Bytes} :
    (bytes.length = 2 * width ∧ toNat (bytes.take width) = first ∧
      toNat (bytes.drop width) = second) ↔
    bytes = ofNat width first ++ ofNat width second ∧
      first < 256 ^ width ∧ second < 256 ^ width := by
  constructor
  · rintro ⟨length, rfl, rfl⟩
    have front : (bytes.take width).length = width := by rw [List.length_take, length]; omega
    have back : (bytes.drop width).length = width := by rw [List.length_drop, length]; omega
    have writtenFront := ofNat_toNat (bytes.take width)
    have writtenBack := ofNat_toNat (bytes.drop width)
    have smallFront := toNat_lt (bytes.take width)
    have smallBack := toNat_lt (bytes.drop width)
    rw [front] at writtenFront smallFront
    rw [back] at writtenBack smallBack
    refine ⟨?_, smallFront, smallBack⟩
    rw [writtenFront, writtenBack, List.take_append_drop]
  · rintro ⟨rfl, smallFront, smallBack⟩
    have front := length_ofNat width first
    refine ⟨?_, ?_, ?_⟩
    · rw [List.length_append, length_ofNat, length_ofNat, two_mul]
    · rw [List.take_left' front, toNat_ofNat smallFront]
    · rw [List.drop_left' front, toNat_ofNat smallBack]

/-- Bytes are the digits of their number in base 256. -/
theorem toNat_eq_ofDigits (bytes : Bytes) :
    toNat bytes = Nat.ofDigits 256 (bytes.map UInt8.toNat).reverse := by
  induction bytes using List.reverseRecOn with
  | nil => rfl
  | append_singleton bytes byte ih =>
    rw [toNat_concat, ih, List.map_append, List.reverse_append]
    simp only [List.map_singleton, List.reverse_singleton, List.singleton_append, Nat.ofDigits_cons]
    omega

theorem toNat_cons (byte : UInt8) (bytes : Bytes) :
    toNat (byte :: bytes) = byte.toNat * 256 ^ bytes.length + toNat bytes := by
  rw [toNat_eq_ofDigits, toNat_eq_ofDigits, List.map_cons, List.reverse_cons, Nat.ofDigits_append,
    Nat.ofDigits_singleton, List.length_reverse, List.length_map, mul_comm, add_comm]

end Keyring.Bytes
