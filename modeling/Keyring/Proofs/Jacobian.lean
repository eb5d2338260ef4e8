import Keyring.Proofs.CurveGroup

/-!
Multiples of points without inverses.

In Jacobian coordinates `(x, y, z)` stands for the point `(x / z², y / z³)`, and the
doublings and additions of a multiple need no inverse until the end. `multiple_eq` proves
the multiples computed so equal to those of `Point.multiple`; it serves to evaluate
multiples by large numbers.
-/

namespace Keyring.Curve

/-- A point in Jacobian coordinates; with `z` zero, the neutral element. -/
structure Jacobian where
  x : Coordinate
  y : Coordinate
  z : Coordinate

namespace Jacobian

/-- The point that Jacobian coordinates stand for. -/
def toPoint (j : Jacobian) : Point :=
  if j.z = 0 then .infinity
  else
    let w := inverse j.z
    .affine (j.x * (w * w)) (j.y * (w * w * w))

/-- Jacobian coordinates of a point. -/
def ofPoint : Point → Jacobian
  | .infinity => ⟨1, 1, 0⟩
  | .affine x y => ⟨x, y, 1⟩

/-- Twice a point. -/
def double (j : Jacobian) : Jacobian :=
  let square := j.y * j.y
  let s := 4 * j.x * square
  let m := 3 * j.x * j.x
  let x := m * m - s - s
  ⟨x, m * (s - x) - 8 * square * square, 2 * j.y * j.z⟩

/-- The sum with the point `(u, v)`. Sums with a point over the same abscissa, and with the
neutral element, are left to the affine law. -/
def add (j : Jacobian) (u v : Coordinate) : Jacobian :=
  let h := u * (j.z * j.z) - j.x
  if j.z = 0 ∨ h = 0 then ofPoint (j.toPoint.add (.affine u v))
  else
    let r := v * (j.z * j.z * j.z) - j.y
    let s := j.x * (h * h)
    let x := r * r - h * h * h - s - s
    ⟨x, r * (s - x) - j.y * (h * h * h), j.z * h⟩

/-- One binary digit of a multiple of the point `(u, v)`. -/
def step (u v : Coordinate) (j : Jacobian) (digit : Bool) : Jacobian :=
  if digit then j.double.add u v else j.double

/-! ## Doubling and adding -/

theorem toPoint_of_z_eq_zero {j : Jacobian} (zero : j.z = 0) : j.toPoint = .infinity :=
  if_pos zero

theorem toPoint_of_z_ne_zero {j : Jacobian} (nonzero : j.z ≠ 0) :
    j.toPoint =
      .affine (j.x * (inverse j.z * inverse j.z))
        (j.y * (inverse j.z * inverse j.z * inverse j.z)) :=
  if_neg nonzero

@[simp] theorem toPoint_ofPoint (p : Point) : (ofPoint p).toPoint = p := by
  cases p with
  | infinity => rfl
  | affine x y =>
    have nonzero : (1 : Coordinate) ≠ 0 := by decide
    rw [toPoint_of_z_ne_zero nonzero, Point.affine.injEq]
    constructor <;>
    · apply residue_injective
      simp [ofPoint]

theorem toPoint_double (j : Jacobian) : j.double.toPoint = j.toPoint.add j.toPoint := by
  by_cases zero : j.z = 0
  · have zero_double : j.double.z = 0 := by simp [double, zero]
    rw [toPoint_of_z_eq_zero zero, toPoint_of_z_eq_zero zero_double]
    rfl
  by_cases flat : j.y = 0
  · have zero_double : j.double.z = 0 := by simp [double, flat]
    rw [toPoint_of_z_eq_zero zero_double, toPoint_of_z_ne_zero zero,
      Point.add_opposite (by simp [flat])]
  have nonzero : residue j.z ≠ 0 := residue_eq_zero.not.mpr zero
  have steep : residue j.y ≠ 0 := residue_eq_zero.not.mpr flat
  have two : (2 : ZMod fieldSize) ≠ 0 := by decide +kernel
  have nonzero_double : j.double.z ≠ 0 := by
    rw [Ne, ← residue_eq_zero]
    simp [double, nonzero, steep, two]
  have notOpposite :
      j.y * (inverse j.z * inverse j.z * inverse j.z) +
        j.y * (inverse j.z * inverse j.z * inverse j.z) ≠ 0 := by
    rw [Ne, ← residue_eq_zero]
    simp [nonzero, steep, ← two_mul, two]
  rw [toPoint_of_z_ne_zero nonzero_double, toPoint_of_z_ne_zero zero, Point.add_self notOpposite,
    Point.alongLine, Point.affine.injEq]
  constructor <;>
  · apply residue_injective
    simp [double]
    field_simp
    ring

theorem toPoint_add (j : Jacobian) (u v : Coordinate) :
    (j.add u v).toPoint = j.toPoint.add (.affine u v) := by
  by_cases special : j.z = 0 ∨ u * (j.z * j.z) - j.x = 0
  · rw [add, if_pos special, toPoint_ofPoint]
  have nonzero : residue j.z ≠ 0 := residue_eq_zero.not.mpr fun zero => special (.inl zero)
  have distance : residue (u * (j.z * j.z) - j.x) ≠ 0 :=
    residue_eq_zero.not.mpr fun zero => special (.inr zero)
  obtain ⟨h, abscissa⟩ : ∃ h, residue j.x = residue u * (residue j.z * residue j.z) - h :=
    ⟨_, (sub_sub_cancel _ _).symm⟩
  rw [residue_sub, residue_mul, residue_mul, abscissa, sub_sub_cancel] at distance
  have gap :
      residue u - (residue u * (residue j.z * residue j.z) - h) *
        ((residue j.z)⁻¹ * (residue j.z)⁻¹) = h * ((residue j.z)⁻¹ * (residue j.z)⁻¹) := by
    field_simp
    ring
  have different : j.x * (inverse j.z * inverse j.z) ≠ u := by
    intro same
    have none := congrArg residue same
    simp only [residue_mul, residue_inverse_coordinate, abscissa] at none
    rw [none, sub_self] at gap
    simp [nonzero, distance] at gap
  have nonzero_sum : (j.add u v).z ≠ 0 := by
    rw [Ne, ← residue_eq_zero]
    simp [add, special, abscissa, nonzero, distance]
  rw [toPoint_of_z_ne_zero nonzero_sum, toPoint_of_z_ne_zero (not_or.mp special).1,
    Point.add_chord different, Point.alongLine, Point.affine.injEq]
  constructor <;>
  · apply residue_injective
    simp only [add, if_neg special, residue_sub, residue_mul, residue_inverse_coordinate, abscissa,
      gap, sub_sub_cancel]
    field_simp
    ring

/-! ## Multiples -/

theorem toPoint_step (u v : Coordinate) (j : Jacobian) (digit : Bool) :
    (step u v j digit).toPoint =
      let twice := j.toPoint.add j.toPoint
      if digit then twice.add (.affine u v) else twice := by
  cases digit with
  | false => exact toPoint_double j
  | true =>
    show (j.double.add u v).toPoint = _
    rw [toPoint_add, toPoint_double]
    rfl

theorem multiple_eq (u v : Coordinate) (count : Nat) :
    (Point.affine u v).multiple count =
      ((binaryDigits count).foldl (step u v) (ofPoint .infinity)).toPoint := by
  rw [Point.multiple, repeated]
  change List.foldl _ (ofPoint .infinity).toPoint _ = _
  apply List.foldl_hom
  intro j digit
  rw [toPoint_step]

end Jacobian
end Keyring.Curve
