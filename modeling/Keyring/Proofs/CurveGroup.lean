import Keyring.Proofs.Primes
import Mathlib.AlgebraicGeometry.EllipticCurve.Affine.Point

/-!
The points of the curve as the group of a Weierstrass curve.

`Point.ofGroup` writes a group element as a point and `Point.toGroup` reads a point of the
curve as a group element. Sums and multiples of points are those of the group
(`ofGroup_add`, `ofGroup_nsmul`), so the chord-and-tangent law has all laws of an abelian
group wherever points lie on the curve.
-/

namespace Keyring.Curve

/-- The curve `y² = x³ + 7` over the field of coordinates. -/
def weierstrass : WeierstrassCurve.Affine (ZMod fieldSize) := ⟨0, 0, 0, 0, 7⟩

/-- The points of the curve under the chord-and-tangent law. -/
abbrev CurveGroup := weierstrass.Point

/-! ## The equation -/

theorem equation_iff {x y : ZMod fieldSize} :
    weierstrass.Equation x y ↔ y * y = x * x * x + 7 := by
  rw [WeierstrassCurve.Affine.equation_iff, weierstrass]
  ring_nf

theorem discriminant_ne_zero : WeierstrassCurve.Δ weierstrass ≠ 0 := by
  have value : WeierstrassCurve.Δ weierstrass = -(21168 : Nat) := by
    simp only [WeierstrassCurve.Δ, WeierstrassCurve.b₂, WeierstrassCurve.b₄, WeierstrassCurve.b₆,
      WeierstrassCurve.b₈, weierstrass]
    norm_num
  rw [value, neg_ne_zero, Ne, ZMod.natCast_eq_zero_iff]
  decide

/-- The curve is smooth, so its equation is all that a point has to satisfy. -/
theorem nonsingular_iff {x y : ZMod fieldSize} :
    weierstrass.Nonsingular x y ↔ y * y = x * x * x + 7 := by
  rw [← WeierstrassCurve.Affine.equation_iff_nonsingular_of_Δ_ne_zero discriminant_ne_zero,
    equation_iff]

@[simp] theorem residue_cubic (x : Coordinate) :
    residue (cubic x) = residue x * residue x * residue x + 7 := by
  simp [cubic]

theorem onCurve_affine_iff {x y : Coordinate} :
    (Point.affine x y).OnCurve ↔ weierstrass.Nonsingular (residue x) (residue y) := by
  rw [nonsingular_iff, ← residue_mul, ← residue_cubic, residue_inj, Point.OnCurve]

/-! ## Points and group elements -/

namespace Point

/-- A group element as a point. -/
def ofGroup : CurveGroup → Point
  | .zero => infinity
  | .some x y _ => affine (ofResidue x) (ofResidue y)

/-- A point of the curve as a group element. -/
def toGroup : (point : Point) → point.OnCurve → CurveGroup
  | infinity, _ => .zero
  | affine x y, onCurve => .some (residue x) (residue y) (onCurve_affine_iff.mp onCurve)

@[simp] theorem ofGroup_zero : ofGroup 0 = infinity := rfl

@[simp] theorem ofGroup_toGroup (point : Point) (onCurve : point.OnCurve) :
    ofGroup (point.toGroup onCurve) = point := by
  cases point with
  | infinity => rfl
  | affine x y => rw [toGroup, ofGroup, ofResidue_residue, ofResidue_residue]

theorem onCurve_ofGroup (P : CurveGroup) : (ofGroup P).OnCurve := by
  cases P with
  | zero => trivial
  | some x y nonsingular =>
    rw [ofGroup, onCurve_affine_iff, residue_ofResidue, residue_ofResidue]
    exact nonsingular

theorem ofGroup_injective : Function.Injective ofGroup := by
  intro P Q same
  cases P with
  | zero =>
    cases Q with
    | zero => rfl
    | some => cases same
  | some =>
    cases Q with
    | zero => cases same
    | some =>
      simp only [ofGroup, affine.injEq, ofResidue_inj] at same
      simp only [same.1, same.2]

theorem ofGroup_eq_infinity {P : CurveGroup} : ofGroup P = infinity ↔ P = 0 := by
  rw [← ofGroup_zero, ofGroup_injective.eq_iff]

/-! ## The law -/

/-- The slope of the line through two points with different abscissas. -/
theorem residue_chord {x₁ y₁ x₂ y₂ : Coordinate} (different : x₁ ≠ x₂) :
    residue ((y₂ - y₁) * inverse (x₂ - x₁)) =
      weierstrass.slope (residue x₁) (residue x₂) (residue y₁) (residue y₂) := by
  have distance : residue x₁ ≠ residue x₂ := residue_injective.ne different
  rw [WeierstrassCurve.Affine.slope_of_X_ne distance, residue_mul,
    residue_inverse_coordinate, residue_sub, residue_sub, ← div_eq_mul_inv,
    ← neg_div_neg_eq, neg_sub, neg_sub]

/-- The slope of the tangent at a point that is not its own opposite. -/
theorem residue_tangent {x y : Coordinate}
    (notOpposite : residue y ≠ weierstrass.negY (residue x) (residue y)) :
    residue (3 * x * x * inverse (2 * y)) =
      weierstrass.slope (residue x) (residue x) (residue y) (residue y) := by
  rw [WeierstrassCurve.Affine.slope_of_Y_ne rfl notOpposite, residue_mul,
    residue_inverse_coordinate, ← div_eq_mul_inv]
  simp only [residue_mul, residue_numeral, WeierstrassCurve.Affine.negY, weierstrass]
  ring_nf

/-- The point along a line has the coordinates that the group gives the sum of two points on
the line. -/
theorem alongLine_eq (slope x₁ y₁ x₂ : Coordinate) :
    alongLine slope x₁ y₁ x₂ =
      affine
        (ofResidue (weierstrass.addX (residue x₁) (residue x₂) (residue slope)))
        (ofResidue (weierstrass.addY (residue x₁) (residue x₂) (residue y₁) (residue slope))) := by
  have abscissa : slope * slope - x₁ - x₂ =
      ofResidue (weierstrass.addX (residue x₁) (residue x₂) (residue slope)) := by
    apply residue_injective
    simp only [residue_ofResidue, residue_sub, residue_mul, WeierstrassCurve.Affine.addX,
      weierstrass]
    ring
  rw [alongLine, abscissa]
  congr 1
  apply residue_injective
  simp only [residue_ofResidue, residue_sub, residue_mul, WeierstrassCurve.Affine.addY,
    WeierstrassCurve.Affine.negAddY, WeierstrassCurve.Affine.negY, weierstrass]
  ring

theorem add_opposite {x y₁ y₂ : Coordinate} (opposite : y₁ + y₂ = 0) :
    (affine x y₁).add (affine x y₂) = infinity := by
  simp only [add, if_true, opposite]

theorem add_self {x y : Coordinate} (notOpposite : y + y ≠ 0) :
    (affine x y).add (affine x y) = alongLine (3 * x * x * inverse (2 * y)) x y x := by
  simp only [add, if_true, if_neg notOpposite]

theorem add_chord {x₁ y₁ x₂ y₂ : Coordinate} (different : x₁ ≠ x₂) :
    (affine x₁ y₁).add (affine x₂ y₂) =
      alongLine ((y₂ - y₁) * inverse (x₂ - x₁)) x₁ y₁ x₂ := by
  simp only [add, if_neg different]

/-- The ordinates of opposite points add up to zero. -/
theorem eq_negY_iff {x y₁ y₂ : Coordinate} :
    residue y₁ = weierstrass.negY (residue x) (residue y₂) ↔ y₁ + y₂ = 0 := by
  rw [← residue_eq_zero, residue_add, ← eq_neg_iff_add_eq_zero]
  simp [WeierstrassCurve.Affine.negY, weierstrass]

/-- Sums of points of the curve are those of the group. -/
theorem ofGroup_add (P Q : CurveGroup) : ofGroup (P + Q) = (ofGroup P).add (ofGroup Q) := by
  rcases P with _ | ⟨X₁, Y₁, smooth₁⟩
  · exact congrArg ofGroup (zero_add Q)
  rcases Q with _ | ⟨X₂, Y₂, smooth₂⟩
  · exact congrArg ofGroup (add_zero _)
  obtain ⟨x₁, rfl⟩ : ∃ x₁, residue x₁ = X₁ := ⟨_, residue_ofResidue X₁⟩
  obtain ⟨y₁, rfl⟩ : ∃ y₁, residue y₁ = Y₁ := ⟨_, residue_ofResidue Y₁⟩
  obtain ⟨x₂, rfl⟩ : ∃ x₂, residue x₂ = X₂ := ⟨_, residue_ofResidue X₂⟩
  obtain ⟨y₂, rfl⟩ : ∃ y₂, residue y₂ = Y₂ := ⟨_, residue_ofResidue Y₂⟩
  simp only [ofGroup, ofResidue_residue]
  by_cases same : x₁ = x₂
  · subst same
    by_cases opposite : y₁ + y₂ = 0
    · rw [add_opposite opposite,
        WeierstrassCurve.Affine.Point.add_of_Y_eq rfl (eq_negY_iff.mpr opposite)]
    · have notOpposite : residue y₁ ≠ weierstrass.negY (residue x₁) (residue y₂) :=
        eq_negY_iff.not.mpr opposite
      -- Over one abscissa the curve has only a point and its opposite.
      have equal : residue y₁ = residue y₂ :=
        WeierstrassCurve.Affine.Y_eq_of_Y_ne smooth₁.1 smooth₂.1 rfl notOpposite
      rw [residue_inj] at equal
      subst equal
      rw [add_self opposite, alongLine_eq, residue_tangent notOpposite,
        WeierstrassCurve.Affine.Point.add_of_Y_ne notOpposite]
  · rw [add_chord same, alongLine_eq, residue_chord same,
      WeierstrassCurve.Affine.Point.add_of_X_ne (residue_injective.ne same)]

/-- Multiples of points of the curve are those of the group. -/
theorem ofGroup_nsmul (count : Nat) (P : CurveGroup) :
    ofGroup (count • P) = (ofGroup P).multiple count := by
  symm
  refine repeated_induction (fun count total => total = ofGroup (count • P)) ?_ ?_ ?_ count
  · rw [zero_nsmul, ofGroup_zero]
  · rw [one_nsmul]
  · intro m n total further first second
    rw [first, second, ← ofGroup_add, add_nsmul]

end Point

end Keyring.Curve
