import Keyring.Bytes.Lemmas
import Keyring.Ecdsa.Signature
import Keyring.Proofs.GroupOrder

/-!
What the signature check computes, in the group of the curve.

`check` compares `r` with the abscissa of `combination`, the element `(e/s)·G + (r/s)·Q`.
As the group has `order` elements, the combination is neutral exactly when `r·Q` is the
opposite of `e·G`, whatever `s` is (`combination_eq_zero_iff`).
-/

namespace Keyring.Ecdsa

open Curve

/-! ## The two numbers -/

theorem natCast_ne_zero_of_inRange {value : Nat} (inRange : InRange value) :
    (value : ZMod order) ≠ 0 := by
  obtain ⟨positive, below⟩ := inRange
  rw [Ne, ZMod.natCast_eq_zero_iff]
  exact Nat.not_dvd_of_pos_of_lt positive below

theorem nsmul_basePoint_ne_zero {value : Nat} (inRange : InRange value) :
    value • basePoint ≠ 0 := by
  rw [← Nat.cast_smul_eq_nsmul (ZMod order)]
  exact smul_ne_zero (natCast_ne_zero_of_inRange inRange) basePoint_ne_zero

theorem lt_of_inRange {value : Nat} (inRange : InRange value) : value < 256 ^ 32 :=
  inRange.2.trans (by decide)

/-- Sixty-four bytes are read as the two numbers that they write, half by half. -/
theorem Signature.ofBytes?_eq_some_iff {bytes : Bytes} {r s : Nat} :
    Signature.ofBytes? bytes = some ⟨r, s⟩ ↔
      bytes = Bytes.ofNat 32 r ++ Bytes.ofNat 32 s ∧ r < 256 ^ 32 ∧ s < 256 ^ 32 := by
  rw [← Bytes.halves_eq_iff, Signature.ofBytes?]
  split
  case isTrue length =>
    simp only [Option.some.injEq, Signature.mk.injEq]
    exact (and_iff_right length).symm
  case isFalse other => simp [other]

/-! ## The combination -/

/-- The combination `(e/s)·G + (r/s)·Q` that `r` is compared with; the multipliers are the
numbers below `order` that the quotients stand for. -/
def combination (Q : CurveGroup) (hash r s : Nat) : CurveGroup :=
  (hash * (s : ZMod order)⁻¹ : ZMod order).val • basePoint +
    (r * (s : ZMod order)⁻¹ : ZMod order).val • Q

theorem combination_eq_smul (Q : CurveGroup) (hash r s : Nat) :
    combination Q hash r s =
      (s : ZMod order)⁻¹ • ((hash : ZMod order) • basePoint + (r : ZMod order) • Q) := by
  rw [combination, val_nsmul, val_nsmul, smul_add, smul_smul, smul_smul, mul_comm,
    mul_comm (r : ZMod order)]

/-- The combination is neutral when `r·Q` and `e·G` are opposite: `s` has no part in it. -/
theorem combination_eq_zero_iff {Q : CurveGroup} {hash r s : Nat} (inRange : InRange s) :
    combination Q hash r s = 0 ↔ hash • basePoint + r • Q = 0 := by
  have nonzero : (s : ZMod order)⁻¹ ≠ 0 := inv_ne_zero (natCast_ne_zero_of_inRange inRange)
  rw [combination_eq_smul, smul_eq_zero_iff_right nonzero, Nat.cast_smul_eq_nsmul,
    Nat.cast_smul_eq_nsmul]

/-- Under the generator any `r` belongs to an `s` whose combination is the generator. -/
theorem combination_basePoint {hash r : Nat} (inRange : InRange ((hash + r) % order)) :
    combination basePoint hash r ((hash + r) % order) = basePoint := by
  have nonzero := natCast_ne_zero_of_inRange inRange
  rw [ZMod.natCast_mod, Nat.cast_add] at nonzero
  rw [combination_eq_smul, ZMod.natCast_mod, Nat.cast_add, ← add_smul, smul_smul,
    inv_mul_cancel₀ nonzero, one_smul]

/-! ## The check -/

/-- A quotient modulo `order`, as the check computes it. -/
theorem mul_inverse_mod_order (value divisor : Nat) :
    value * (inverse (Fin.ofNat order divisor)).val % order =
      (value * (divisor : ZMod order)⁻¹ : ZMod order).val := by
  rw [← ZMod.val_natCast, Nat.cast_mul]
  change (value * residue (inverse (Fin.ofNat order divisor)) : ZMod order).val = _
  rw [residue_inverse_scalar, residue_ofNat]

theorem check_of_not_inRange {point : Point} {hash : Nat} {r s : Nat}
    (outside : ¬(InRange r ∧ InRange s)) :
    check point hash ⟨r, s⟩ = .invalid :=
  if_neg outside

/-- Numbers in range are checked by the abscissa of their combination. -/
theorem check_of_inRange {point : Point} (onCurve : point.OnCurve) {hash : Nat}
    {r s : Nat} (inRange : InRange r ∧ InRange s) :
    check point hash ⟨r, s⟩ =
      match combination (point.toGroup onCurve) hash r s with
      | .zero => .degenerate
      | .some x _ _ => if x.val % order = r then .valid else .invalid := by
  have sum :
      (generator.multiple (hash * (inverse (Fin.ofNat order s)).val % order)).add
        (point.multiple (r * (inverse (Fin.ofNat order s)).val % order)) =
      Point.ofGroup (combination (point.toGroup onCurve) hash r s) := by
    rw [combination, Point.ofGroup_add, Point.ofGroup_nsmul, Point.ofGroup_nsmul,
      ofGroup_basePoint, Point.ofGroup_toGroup, mul_inverse_mod_order, mul_inverse_mod_order]
  rw [check, if_pos inRange]
  simp only [sum]
  cases combination (point.toGroup onCurve) hash r s <;> rfl

section Verdicts

variable {point : Point} (onCurve : point.OnCurve) {hash : Nat} {r s : Nat}

/-- A signature is valid when its numbers are in range and `r` is the abscissa of the
combination modulo `order`. -/
theorem check_eq_valid_iff :
    check point hash ⟨r, s⟩ = .valid ↔
      (InRange r ∧ InRange s) ∧
        ∃ x y smooth,
          combination (point.toGroup onCurve) hash r s = .some x y smooth ∧
            x.val % order = r := by
  by_cases inRange : InRange r ∧ InRange s
  · rw [check_of_inRange onCurve inRange]
    cases combination (point.toGroup onCurve) hash r s with
    | zero => simp
    | some x y smooth => simp [inRange, smooth]
  · rw [check_of_not_inRange inRange]
    simp [inRange]

/-- A check has nothing to compare with when the numbers are in range and `r·Q` is the
opposite of `e·G`. -/
theorem check_eq_degenerate_iff :
    check point hash ⟨r, s⟩ = .degenerate ↔
      (InRange r ∧ InRange s) ∧
        hash • basePoint + r • point.toGroup onCurve = 0 := by
  by_cases inRange : InRange r ∧ InRange s
  · rw [check_of_inRange onCurve inRange, ← combination_eq_zero_iff inRange.2]
    cases combination (point.toGroup onCurve) hash r s with
    | zero => simp [inRange, ← WeierstrassCurve.Affine.Point.zero_def]
    | some x y smooth => by_cases same : x.val % order = r <;> simp [same]
  · rw [check_of_not_inRange inRange]
    simp [inRange]

end Verdicts

end Keyring.Ecdsa
