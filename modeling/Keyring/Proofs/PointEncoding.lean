import Keyring.Bytes.Lemmas
import Keyring.Curve.PointEncoding
import Keyring.Key
import Keyring.Proofs.GroupOrder
import Keyring.Proofs.KeyText

/-!
Public keys are read back from what they write.

The compressed form of a point tells its abscissa and the parity of its ordinate. Of the
two ordinates over the abscissa, which are the roots of one square, reading finds one and
takes it or its opposite as the parity says (`decodePoint_compressed`). The text of a key
is the encoding of these bytes, so it is read as the key again (`pointOfText_hex`).
-/

namespace Keyring.Curve

/-! ## Roots -/

/-- The power that `squareRoot?` takes is a root of a square: twice its exponent is one more
than half of `fieldSize - 1`, and the power of a square by that half is one. -/
theorem pow_root (y : ZMod fieldSize) :
    (y * y) ^ ((fieldSize + 1) / 4) * (y * y) ^ ((fieldSize + 1) / 4) = y * y := by
  by_cases zero : y = 0
  · have positive : (fieldSize + 1) / 4 ≠ 0 := by decide
    rw [zero, mul_zero, zero_pow positive, mul_zero]
  · have exponent : 2 * (2 * ((fieldSize + 1) / 4)) = fieldSize - 1 + 2 := by decide
    calc (y * y) ^ ((fieldSize + 1) / 4) * (y * y) ^ ((fieldSize + 1) / 4)
        = y ^ (2 * (2 * ((fieldSize + 1) / 4))) := by
          rw [← pow_two, ← pow_two, ← pow_mul, ← pow_mul, mul_comm _ 2]
      _ = y ^ (fieldSize - 1) * y ^ 2 := by rw [exponent, pow_add]
      _ = y * y := by rw [ZMod.pow_card_sub_one_eq_one zero, one_mul, pow_two]

/-- A square has a root, though not always the one that was squared. -/
theorem squareRoot?_mul_self (y : Coordinate) :
    ∃ root, squareRoot? (y * y) = some root ∧ root * root = y * y := by
  have square : power (y * y) ((fieldSize + 1) / 4) * power (y * y) ((fieldSize + 1) / 4) =
      y * y := by
    rw [← residue_inj, residue_mul, residue_power, residue_mul, pow_root]
  refine ⟨power (y * y) ((fieldSize + 1) / 4), ?_, square⟩
  rw [squareRoot?]
  exact if_pos square

/-- The root with the parity of `y` is `y`. -/
theorem root_of_parity {root y : Coordinate} (square : root * root = y * y) :
    (if y.val % 2 = root.val % 2 then root.val else fieldSize - root.val) = y.val := by
  rw [← residue_inj, residue_mul, residue_mul] at square
  split
  case isTrue parity =>
    have same : residue y = residue root := by
      apply eq_of_square_of_parity square.symm
      rw [val_residue, val_residue, parity]
    rw [residue_inj.mp same]
  case isFalse parity =>
    rcases mul_self_eq_mul_self_iff.mp square with same | opposite
    · rw [residue_inj.mp same] at parity
      exact absurd rfl parity
    · have nonzero : residue y ≠ 0 := by
        intro zero
        rw [zero, neg_zero, ← zero, residue_inj] at opposite
        rw [opposite] at parity
        exact parity rfl
      have value : root.val = fieldSize - y.val := by
        rw [← val_residue root, opposite, ZMod.neg_val, if_neg nonzero, val_residue]
      have below := y.isLt
      omega

/-! ## Reading back a point -/

/-- Reduced coordinates of a point of the curve are accepted. -/
theorem finitePoint_of_onCurve {x y : Coordinate} (onCurve : (Point.affine x y).OnCurve) :
    finitePoint x.val y.val = .ok (.affine x y) := by
  rw [finitePoint, dif_pos ⟨x.isLt, y.isLt⟩]
  exact if_pos onCurve

theorem coordinate_lt (x : Coordinate) : x.val < 256 ^ coordinateSize :=
  x.isLt.trans (by decide)

/-- The abscissa and a form byte with the parity of the ordinate tell the point. -/
theorem decodeShort_of_onCurve {form : UInt8} {x y : Coordinate}
    (onCurve : (Point.affine x y).OnCurve) (known : form = 2 ∨ form = 3)
    (parity : form.toNat % 2 = y.val % 2) :
    decodeShort form (Bytes.ofNat coordinateSize x.val) = .ok (.affine x y) := by
  obtain ⟨root, found, square⟩ := squareRoot?_mul_self y
  rw [show y * y = cubic x from onCurve] at found
  rw [decodeShort, if_pos known, Bytes.toNat_ofNat (coordinate_lt x), parity]
  simp only [Fin.ofNat_val_eq_self, found, root_of_parity square]
  exact finitePoint_of_onCurve onCurve

/-- A point other than the neutral element is read back from its compressed form. -/
theorem decodePoint_compressed {point : Point} (onCurve : point.OnCurve)
    (finite : point ≠ .infinity) : decodePoint point.compressed = .ok point := by
  cases point with
  | infinity => exact absurd rfl finite
  | affine x y =>
    obtain ⟨form, written, known, parity⟩ : ∃ form : UInt8,
        (Point.affine x y).compressed = form :: Bytes.ofNat coordinateSize x.val ∧
          (form = 2 ∨ form = 3) ∧ form.toNat % 2 = y.val % 2 := by
      rcases Nat.mod_two_eq_zero_or_one y.val with even | odd
      · refine ⟨2, ?_, .inl rfl, even.symm⟩
        rw [Point.compressed, if_pos even]
      · refine ⟨3, ?_, .inr rfl, odd.symm⟩
        rw [Point.compressed, odd, if_neg one_ne_zero]
    have length : (form :: Bytes.ofNat coordinateSize x.val).length = coordinateSize + 1 := by
      rw [List.length_cons, Bytes.length_ofNat]
    rw [written, decodePoint, length, if_neg (by decide), if_neg (by decide), if_pos rfl]
    exact decodeShort_of_onCurve onCurve known parity

end Keyring.Curve

namespace Keyring

/-! ## Reading back a text -/

/-- The text of a public key on the curve is read as the key again. -/
theorem PublicKey.pointOfText_hex {point : Curve.Point} (onCurve : point.OnCurve)
    (finite : point ≠ .infinity) :
    PublicKey.pointOfText (PublicKey.curve point).hex = .ok point := by
  rw [pointOfText, hex, keyBytes_encode]
  change (Curve.decodePoint point.compressed).mapError KeyFault.publicPoint = .ok point
  rw [Curve.decodePoint_compressed onCurve finite]
  rfl

end Keyring
