import Keyring.Proofs.Jacobian
import Mathlib.Algebra.Module.ZMod
import Mathlib.GroupTheory.Perm.Cycle.Type

/-!
The group of the curve has `order` elements.

The generator has the prime order `order`, and over each of `fieldSize` abscissas lie two
points at most, so the group has `order` or twice as many elements. The second would give
a point of order two, whose abscissa would be a cube root of `-7`; there is none. Hence
scalars act on the group (`instModuleCurveGroup`), and every multiple by a number depends
on the number modulo `order` only.
-/

namespace Keyring.Curve

/-! ## The generator -/

theorem onCurve_generator : generator.OnCurve := by decide +kernel

/-- The generator as a group element. -/
def basePoint : CurveGroup := generator.toGroup onCurve_generator

@[simp] theorem ofGroup_basePoint : Point.ofGroup basePoint = generator :=
  Point.ofGroup_toGroup generator onCurve_generator

theorem basePoint_ne_zero : basePoint ≠ 0 := by
  rw [Ne, ← Point.ofGroup_eq_infinity, ofGroup_basePoint]
  decide

theorem order_nsmul_basePoint : order • basePoint = 0 := by
  rw [← Point.ofGroup_eq_infinity, Point.ofGroup_nsmul, ofGroup_basePoint, generator,
    Jacobian.multiple_eq]
  decide +kernel

theorem addOrderOf_basePoint : addOrderOf basePoint = order :=
  addOrderOf_eq_prime order_nsmul_basePoint basePoint_ne_zero

/-! ## Points over one abscissa -/

/-- A nonzero element and its opposite differ in parity, as their sum is the odd
`fieldSize`. -/
theorem val_neg_mod_two {y : ZMod fieldSize} (nonzero : y ≠ 0) :
    (-y).val % 2 ≠ y.val % 2 := by
  have odd : fieldSize % 2 = 1 := by decide
  have below := y.val_lt
  rw [ZMod.neg_val, if_neg nonzero]
  omega

/-- Of the two roots of a square the parity tells which is meant. -/
theorem eq_of_square_of_parity {y z : ZMod fieldSize} (square : y * y = z * z)
    (parity : y.val % 2 = z.val % 2) : y = z := by
  rcases mul_self_eq_mul_self_iff.mp square with same | opposite
  · exact same
  · by_cases zero : z = 0
    · rw [opposite, zero, neg_zero]
    · rw [opposite] at parity
      exact absurd parity (val_neg_mod_two zero)

/-- What is left of a group element in the compressed form of its point. -/
def abscissaAndParity : CurveGroup → Option (ZMod fieldSize × Bool)
  | .zero => none
  | .some x y _ => some (x, y.val % 2 == 0)

theorem abscissaAndParity_injective : Function.Injective abscissaAndParity := by
  intro P Q same
  rcases P with _ | ⟨x₁, y₁, smooth₁⟩ <;> rcases Q with _ | ⟨x₂, y₂, smooth₂⟩
  · rfl
  · cases same
  · cases same
  · simp only [abscissaAndParity, Option.some.injEq, Prod.mk.injEq] at same
    obtain ⟨rfl, parity⟩ := same
    have square : y₁ * y₁ = y₂ * y₂ :=
      (nonsingular_iff.mp smooth₁).trans (nonsingular_iff.mp smooth₂).symm
    have parity : y₁.val % 2 = y₂.val % 2 := by grind
    cases eq_of_square_of_parity square parity
    rfl

instance : Finite CurveGroup := Finite.of_injective _ abscissaAndParity_injective

/-- Two points at most over each abscissa, and the neutral element. -/
theorem card_le : Nat.card CurveGroup ≤ 2 * fieldSize + 1 := by
  have bound := Nat.card_le_card_of_injective _ abscissaAndParity_injective
  rw [Finite.card_option, Nat.card_prod, Nat.card_zmod, @Nat.card_eq_fintype_card Bool,
    Fintype.card_bool] at bound
  omega

/-! ## No point of order two -/

/-- The equation has no solution with `y` zero: `-7` is not a cube, as its power by a third
of `fieldSize - 1` is not one. -/
theorem cubic_ne_zero (x : ZMod fieldSize) : x * x * x + 7 ≠ 0 := by
  intro root
  have cube : x ^ 3 = -7 := by linear_combination root
  have nonzero : x ≠ 0 := by
    rintro rfl
    have seven : (7 : ZMod fieldSize) ≠ 0 := by decide +kernel
    exact seven (by linear_combination root)
  have one : (-7 : ZMod fieldSize) ^ ((fieldSize - 1) / 3) = 1 := by
    rw [← cube, ← pow_mul]
    exact ZMod.pow_card_sub_one_eq_one nonzero
  have notOne : power (0 - 7 : Coordinate) ((fieldSize - 1) / 3) ≠ 1 := by decide +kernel
  apply notOne
  rw [← residue_inj, residue_power, residue_sub, residue_zero, residue_numeral, zero_sub,
    residue_one]
  exact one

/-- Only the neutral element is its own opposite. -/
theorem eq_zero_of_two_nsmul {P : CurveGroup} (twice : 2 • P = 0) : P = 0 := by
  rw [two_nsmul, add_eq_zero_iff_eq_neg] at twice
  rcases P with _ | ⟨x, y, smooth⟩
  · rfl
  · rw [WeierstrassCurve.Affine.Point.neg_some, WeierstrassCurve.Affine.Point.some.injEq] at twice
    have flat : y = -y := by simpa [WeierstrassCurve.Affine.negY, weierstrass] using twice
    have two : (2 : ZMod fieldSize) ≠ 0 := by decide +kernel
    have zero : y = 0 := by
      have double : 2 * y = 0 := by linear_combination flat
      exact (mul_eq_zero.mp double).resolve_left two
    rw [nonsingular_iff, zero, zero_mul] at smooth
    exact absurd smooth.symm (cubic_ne_zero x)

/-! ## The order of the group -/

/-- The group of the curve has `order` elements. -/
theorem card_curveGroup : Nat.card CurveGroup = order := by
  obtain ⟨c, card⟩ : order ∣ Nat.card CurveGroup := by
    rw [← addOrderOf_basePoint]
    exact addOrderOf_dvd_natCard basePoint
  have positive : 0 < Nat.card CurveGroup := Nat.card_pos
  have bound := card_le
  have wide : 2 * fieldSize + 1 < 3 * order := by decide
  have few : c < 3 := by
    rw [card] at bound
    exact lt_of_mul_lt_mul_left (by omega) (Nat.zero_le order)
  interval_cases c
  · omega
  · rw [card, mul_one]
  · have even : 2 ∣ Nat.card CurveGroup := ⟨order, by rw [card, mul_comm]⟩
    obtain ⟨P, two⟩ := exists_prime_addOrderOf_dvd_card' 2 even
    have torsion : 2 • P = 0 := by rw [← two]; exact addOrderOf_nsmul_eq_zero P
    rw [eq_zero_of_two_nsmul torsion, addOrderOf_zero] at two
    omega

theorem order_nsmul (P : CurveGroup) : order • P = 0 := by
  rw [← card_curveGroup]
  exact card_nsmul_eq_zero'

/-- Scalars act on the group. -/
instance instModuleCurveGroup : Module (ZMod order) CurveGroup :=
  AddCommGroup.zmodModule order_nsmul

/-- The multiple by the number a scalar stands for. -/
theorem val_nsmul (a : ZMod order) (P : CurveGroup) : a.val • P = a • P := by
  rw [← Nat.cast_smul_eq_nsmul (ZMod order), ZMod.natCast_zmod_val]

end Keyring.Curve
