import Keyring.Curve.Secp256k1
import Keyring.Proofs.Doubling
import Mathlib.FieldTheory.Finite.Basic

/-!
Residues as elements of the ring of integers modulo a number.

`residue` reads a residue as a ring element and `ofResidue` writes it back. The arithmetic
of residues is that of the ring: a power is a power, and modulo a prime an inverse is an
inverse.
-/

namespace Keyring.Curve

variable {modulus : Nat}

/-! ## Reading and writing -/

/-- A residue as a ring element. -/
def residue (a : Fin modulus) : ZMod modulus := a.val

/-- A ring element as a residue. -/
def ofResidue [IsModulus modulus] (a : ZMod modulus) : Fin modulus := ⟨a.val, a.val_lt⟩

@[simp] theorem residue_ofResidue [IsModulus modulus] (a : ZMod modulus) :
    residue (ofResidue a) = a :=
  ZMod.natCast_zmod_val a

@[simp] theorem ofResidue_residue [IsModulus modulus] (a : Fin modulus) :
    ofResidue (residue a) = a :=
  Fin.ext (ZMod.val_cast_of_lt a.isLt)

/-- The number below the modulus that a residue stands for is the one its ring element
stands for. -/
theorem val_residue (a : Fin modulus) : (residue a).val = a.val :=
  ZMod.val_cast_of_lt a.isLt

theorem residue_injective : Function.Injective (@residue modulus) := by
  intro a b same
  apply Fin.ext
  rw [← val_residue a, ← val_residue b, same]

@[simp] theorem residue_inj {a b : Fin modulus} : residue a = residue b ↔ a = b :=
  residue_injective.eq_iff

theorem ofResidue_injective [IsModulus modulus] :
    Function.Injective (@ofResidue modulus _) :=
  Function.LeftInverse.injective residue_ofResidue

@[simp] theorem ofResidue_inj [IsModulus modulus] {a b : ZMod modulus} :
    ofResidue a = ofResidue b ↔ a = b :=
  ofResidue_injective.eq_iff

/-! ## Arithmetic -/

@[simp] theorem residue_add (a b : Fin modulus) : residue (a + b) = residue a + residue b := by
  simp [residue, Fin.val_add]

@[simp] theorem residue_mul (a b : Fin modulus) : residue (a * b) = residue a * residue b := by
  simp [residue, Fin.val_mul]

@[simp] theorem residue_sub (a b : Fin modulus) : residue (a - b) = residue a - residue b := by
  have below : b.val ≤ modulus := b.isLt.le
  simp only [residue, Fin.val_sub, ZMod.natCast_mod, Nat.cast_add, Nat.cast_sub below,
    CharP.cast_eq_zero]
  ring

@[simp] theorem residue_ofNat [IsModulus modulus] (value : Nat) :
    residue (Fin.ofNat modulus value) = value := by
  simp [residue, Fin.ofNat]

@[simp] theorem residue_zero [IsModulus modulus] : residue (0 : Fin modulus) = 0 :=
  (residue_ofNat 0).trans Nat.cast_zero

@[simp] theorem residue_one [IsModulus modulus] : residue (1 : Fin modulus) = 1 :=
  (residue_ofNat 1).trans Nat.cast_one

@[simp] theorem residue_numeral [IsModulus modulus] (value : Nat) [value.AtLeastTwo] :
    residue (ofNat(value) : Fin modulus) = OfNat.ofNat value :=
  residue_ofNat value

@[simp] theorem residue_eq_zero [IsModulus modulus] {a : Fin modulus} :
    residue a = 0 ↔ a = 0 := by
  rw [← residue_zero, residue_inj]

/-- The power of a residue is the power of its ring element. -/
@[simp] theorem residue_power [IsModulus modulus] (a : Fin modulus) (exponent : Nat) :
    residue (power a exponent) = residue a ^ exponent := by
  refine repeated_induction (fun count total => residue total = residue a ^ count)
    ?_ ?_ ?_ exponent
  · rw [residue_one, pow_zero]
  · rw [pow_one]
  · intro m n total further first second
    rw [residue_mul, first, second, pow_add]

/-- Modulo an odd prime the inverse of a residue is the inverse of its ring element. -/
theorem residue_inverse [IsModulus modulus] [prime : Fact modulus.Prime] (odd : 2 < modulus)
    (a : Fin modulus) : residue (inverse a) = (residue a)⁻¹ := by
  rw [inverse, residue_power]
  by_cases zero : residue a = 0
  · rw [zero, zero_pow (by omega), inv_zero]
  · apply eq_inv_of_mul_eq_one_left
    rw [← pow_succ]
    have exponent : modulus - 2 + 1 = modulus - 1 := by omega
    rw [exponent]
    exact ZMod.pow_card_sub_one_eq_one zero

end Keyring.Curve
