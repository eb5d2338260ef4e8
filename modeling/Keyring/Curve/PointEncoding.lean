import Keyring.Bytes
import Keyring.Curve.Secp256k1

/-!
Points as bytes (SEC 1, with the hybrid form of X9.62 and the bare coordinates).

A finite point has four encodings: its coordinates alone (64 bytes), after a form byte
`04` (65 bytes), after a form byte `06` or `07` that also tells the parity of `y`
(65 bytes), or `x` alone after a form byte `02` or `03` that tells the parity of `y`
(33 bytes). `decodePoint` takes each of them, for points of the curve with reduced
coordinates only; `compressed` writes the last form and `uncompressed` the second.
-/

namespace Keyring.Curve

def coordinateSize : Nat := 32

/-! ## Writing -/

namespace Point

/-- The form byte and `x`; the neutral element is the form byte `00` alone. -/
def compressed : Point → Bytes
  | infinity => [0]
  | affine x y => (if y.val % 2 = 0 then 2 else 3) :: Bytes.ofNat coordinateSize x.val

/-- The form byte `04`, `x` and `y`; the neutral element is the form byte `00` alone. -/
def uncompressed : Point → Bytes
  | infinity => [0]
  | affine x y => 4 :: (Bytes.ofNat coordinateSize x.val ++ Bytes.ofNat coordinateSize y.val)

end Point

/-! ## Reading -/

/-- Why bytes encode no point. -/
inductive PointFault where
  | length
  /-- 65 bytes with a form byte other than `04`, `06` and `07`. -/
  | longForm
  /-- 65 bytes of which the form byte contradicts the parity of `y`. -/
  | parity
  /-- 33 bytes with a form byte other than `02` and `03`. -/
  | shortForm
  /-- The square of `y` would have to be `square`, which has no root. -/
  | noRoot (square : Coordinate)
  /-- A coordinate is not reduced, or the point is not on the curve. -/
  | offCurve
  deriving DecidableEq, Repr

namespace PointFault

def message : PointFault → String
  | length =>
    "Length of string does not match lengths of any of the enabled (compressed, hybrid, raw, uncompressed) encodings of the curve."
  | longForm => "Invalid X9.62 encoding of the public point"
  | parity => "Inconsistent hybrid point encoding"
  | shortForm => "Malformed compressed point encoding"
  | noRoot square =>
    s!"('Encoding does not correspond to a point on curve', SquareRootError('{square.val} has no square root modulo {fieldSize}'))"
  | offCurve => "Point does not lay on the curve"

end PointFault

/-- The point with the given coordinates, when they are reduced and satisfy the curve's
equation. -/
def finitePoint (x y : Nat) : Except PointFault Point :=
  if h : x < fieldSize ∧ y < fieldSize then
    let p := Point.affine ⟨x, h.1⟩ ⟨y, h.2⟩
    if p.OnCurve then .ok p else .error .offCurve
  else .error .offCurve

def coordinates (bytes : Bytes) : Nat × Nat :=
  (Bytes.toNat (bytes.take coordinateSize), Bytes.toNat (bytes.drop coordinateSize))

def decodeLong (form : UInt8) (bytes : Bytes) : Except PointFault Point :=
  let (x, y) := coordinates bytes
  if form = 4 then finitePoint x y
  else if form = 6 ∨ form = 7 then
    if form.toNat % 2 = y % 2 then finitePoint x y else .error .parity
  else .error .longForm

/-- Decodes a form byte and `x`. Of the two roots the form byte tells which one `y` is:
they have different parities, as they add up to the odd `fieldSize`. -/
def decodeShort (form : UInt8) (bytes : Bytes) : Except PointFault Point :=
  if form = 2 ∨ form = 3 then
    let x := Bytes.toNat bytes
    let square := cubic (Fin.ofNat fieldSize x)
    match squareRoot? square with
    | none => .error (.noRoot square)
    | some root =>
      finitePoint x (if form.toNat % 2 = root.val % 2 then root.val else fieldSize - root.val)
  else .error .shortForm

def decodePoint (bytes : Bytes) : Except PointFault Point :=
  match bytes with
  | [] => .error .length
  | form :: rest =>
    if bytes.length = 2 * coordinateSize then
      let (x, y) := coordinates bytes
      finitePoint x y
    else if bytes.length = 2 * coordinateSize + 1 then decodeLong form rest
    else if bytes.length = coordinateSize + 1 then decodeShort form rest
    else .error .length

end Keyring.Curve
