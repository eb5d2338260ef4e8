import Keyring.Curve.Doubling

/-!
The curve secp256k1, `y² = x³ + 7` over a prime field, with its group law in affine
coordinates.

Coordinates are residues modulo `fieldSize`, scalars are residues modulo `order`, the
number of points of the group; both moduli are prime, so an inverse is a power.
`Point.add` is the chord-and-tangent law and `Point.multiple` its repetition. The law
is total: it is the group law on points of the curve (`Point.OnCurve`), and what it
gives for other coordinates has no meaning.
-/

namespace Keyring.Curve

/-! ## Residues -/

/-- The prime over which the curve is defined, `2²⁵⁶ - 2³² - 977`. -/
def fieldSize : Nat := 0xFFFFFFFFFFFFFFFFFFFFFFFFFFFFFFFFFFFFFFFFFFFFFFFFFFFFFFFEFFFFFC2F

/-- The number of points of the curve, a prime. -/
def order : Nat := 0xFFFFFFFFFFFFFFFFFFFFFFFFFFFFFFFEBAAEDCE6AF48A03BBFD25E8CD0364141

/-- A number that can be a modulus, as it is not zero. The zero is spelled out as the one
that the numerals of residues ask for. -/
abbrev IsModulus (modulus : Nat) : Prop := @NeZero Nat Zero.ofOfNat0 modulus

instance : IsModulus fieldSize := @NeZero.mk Nat Zero.ofOfNat0 fieldSize (by decide)

instance : IsModulus order := @NeZero.mk Nat Zero.ofOfNat0 order (by decide)

abbrev Coordinate := Fin fieldSize

abbrev Scalar := Fin order

/-- Whether a number is a scalar other than zero. -/
def InRange (value : Nat) : Prop := 1 ≤ value ∧ value < order

instance : DecidablePred InRange := fun value =>
  inferInstanceAs (Decidable (1 ≤ value ∧ value < order))

variable {modulus : Nat} [IsModulus modulus]

def power (a : Fin modulus) (exponent : Nat) : Fin modulus :=
  repeated (· * ·) 1 a exponent

/-- The inverse of a residue modulo a prime: `a ^ (modulus - 1)` is one unless `a` is
zero. Zero is sent to zero. -/
def inverse (a : Fin modulus) : Fin modulus :=
  power a (modulus - 2)

/-- A square root of a coordinate, if it has one. As `fieldSize` is three modulo four,
the power `(fieldSize + 1) / 4` of a square is one of its roots. -/
def squareRoot? (a : Coordinate) : Option Coordinate :=
  let root := power a ((fieldSize + 1) / 4)
  if root * root = a then some root else none

def cubic (x : Coordinate) : Coordinate :=
  x * x * x + 7

/-! ## Points -/

/-- A point: the neutral element, or a pair of coordinates. -/
inductive Point where
  | infinity
  | affine (x y : Coordinate)
  deriving DecidableEq, Repr

namespace Point

def OnCurve : Point → Prop
  | infinity => True
  | affine x y => y * y = cubic x

instance : DecidablePred OnCurve
  | infinity => inferInstanceAs (Decidable True)
  | affine x y => inferInstanceAs (Decidable (y * y = cubic x))

/-- The point opposite to the third one on the line through `(x₁, y₁)` with the given
slope, where `x₂` is the abscissa of the second. -/
def alongLine (slope x₁ y₁ x₂ : Coordinate) : Point :=
  let x₃ := slope * slope - x₁ - x₂
  affine x₃ (slope * (x₁ - x₃) - y₁)

/-- The sum of two points. Two points with one abscissa are opposite or equal: opposite
points cancel, and the line through a point and itself is the tangent. -/
def add : Point → Point → Point
  | infinity, q => q
  | p, infinity => p
  | affine x₁ y₁, affine x₂ y₂ =>
    if x₁ = x₂ then
      if y₁ + y₂ = 0 then infinity
      else alongLine (3 * x₁ * x₁ * inverse (2 * y₁)) x₁ y₁ x₂
    else alongLine ((y₂ - y₁) * inverse (x₂ - x₁)) x₁ y₁ x₂

def multiple (count : Nat) (p : Point) : Point :=
  repeated add infinity p count

end Point

def generator : Point :=
  .affine
    0x79BE667EF9DCBBAC55A06295CE870B07029BFCDB2DCE28D959F2815B16F81798
    0x483ADA7726A3C4655DA4FBFC0E1108A8FD17B448A68554199C47D08FFB10D4B8

end Keyring.Curve
