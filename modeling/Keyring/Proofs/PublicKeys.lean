import Keyring.Proofs.PointForms
import Keyring.Proofs.SignVerify

/-!
Which public keys are the same.

Public keys are compared by their bytes, which tell of a point no more than its abscissa and
the parity of its ordinate. For finite points of the curve this is all there is to tell
(`Point.compressed_inj`), so two keys that have been read are the same exactly when they hold
one point, whatever forms they were read from, and then they verify alike
(`same_iff_point_eq`). The public keys of two private keys are the same exactly when the
private keys are: below `order` no two multiples of the generator are equal
(`publicKey_same_iff`).
-/

namespace Keyring

namespace Curve

/-! ## Points by their bytes -/

/-- Finite points of the curve are told apart by their compressed forms, as each is read back
from its own. -/
theorem Point.compressed_inj {p q : Point} (onCurve : p.OnCurve ∧ p ≠ .infinity)
    (onCurve' : q.OnCurve ∧ q ≠ .infinity) : p.compressed = q.compressed ↔ p = q := by
  constructor
  · intro same
    have first := decodePoint_compressed onCurve.1 onCurve.2
    have second := decodePoint_compressed onCurve'.1 onCurve'.2
    rw [same, second] at first
    exact (Except.ok.inj first).symm
  · rintro rfl
    rfl

/-- Multiples of the generator by numbers below `order` are told apart by the numbers. -/
theorem nsmul_basePoint_inj {m n : Nat} (below : m < order) (below' : n < order) :
    m • basePoint = n • basePoint ↔ m = n := by
  rw [nsmul_eq_nsmul_iff_modEq, addOrderOf_basePoint]
  constructor
  · intro congruent
    exact congruent.eq_of_lt_of_lt below below'
  · rintro rfl
    rfl

end Curve

open Curve

/-! ## Keys by their points -/

namespace PublicKey

theorem same_curve_iff {p q : Point} :
    (curve p).same (curve q) = true ↔ p.compressed = q.compressed := by
  simp [same, algorithm, bytes]

/-- What bytes are read as is a finite point of the curve. -/
theorem finite_of_pointOfBytes {bytes : Bytes} {point : Point}
    (read : pointOfBytes bytes = .ok point) : point.OnCurve ∧ point ≠ .infinity := by
  obtain ⟨-, x, y, rfl, onCurve, -⟩ := decodePoint_eq_ok_iff.mp (pointOfBytes_eq_ok_iff.mp read)
  exact ⟨onCurve, Point.noConfusion⟩

end PublicKey

/-- Two public keys that have been read, each from any form, are the same and have one hash
exactly when they hold one point. Keys that are the same have one hash and verify alike: they
give every message and text the same answer or failure, and leave the same records. -/
theorem PublicKey.same_iff_point_eq (hash : String × Bytes → Int) {a b : Bytes} {p q : Point}
    (read : pointOfBytes a = .ok p) (read' : pointOfBytes b = .ok q) :
    ((curve p).same (curve q) = true ∧ (curve p).hashBy hash = (curve q).hashBy hash ↔ p = q) ∧
    ((curve p).same (curve q) = true →
      (curve p).hashBy hash = (curve q).hashBy hash ∧
      ∀ message text,
        Scheme.verify (curve p) message text = Scheme.verify (curve q) message text) := by
  have same : (curve p).same (curve q) = true ↔ p = q :=
    same_curve_iff.trans
      (Point.compressed_inj (finite_of_pointOfBytes read) (finite_of_pointOfBytes read'))
  constructor
  · constructor
    · rintro ⟨equal, -⟩
      exact same.mp equal
    · intro point
      refine ⟨same.mpr point, ?_⟩
      rw [point]
  · intro equal
    cases same.mp equal
    exact ⟨rfl, fun _ _ => rfl⟩

/-- The generator, read from its bare coordinates and from the hybrid form. -/
theorem PublicKey.same_generator_raw_hybrid :
    let x : Coordinate := 0x79BE667EF9DCBBAC55A06295CE870B07029BFCDB2DCE28D959F2815B16F81798
    let y : Coordinate := 0x483ADA7726A3C4655DA4FBFC0E1108A8FD17B448A68554199C47D08FFB10D4B8
    pointOfBytes (Form.raw.write x y) = .ok generator ∧
      pointOfBytes (Form.hybrid.write x y) = .ok generator ∧
      (curve generator).same (curve generator) = true := by
  intro x y
  have read (form : Form) : pointOfBytes (form.write x y) = .ok generator :=
    pointOfBytes_eq_ok_iff.mpr (decodePoint_eq_ok_iff.mpr ⟨form, x, y, rfl, onCurve_generator, rfl⟩)
  refine ⟨read .raw, read .hybrid, ?_⟩
  exact ((same_iff_point_eq (fun _ => 0) (read .raw) (read .hybrid)).1.mpr rfl).1

/-! ## Keys of private keys -/

namespace Scheme

theorem publicPoint_inj {first second : Secret} :
    publicPoint first = publicPoint second ↔ first.value = second.value := by
  rw [publicPoint_eq_ofGroup, publicPoint_eq_ofGroup, Point.ofGroup_injective.eq_iff,
    nsmul_basePoint_inj first.inRange.2 second.inRange.2]

/-- The public point is finite, and as a group element it is the scalar's multiple of the
generator. -/
theorem exists_publicPoint_eq_affine (secret : Secret) :
    ∃ (x y : Coordinate) (onCurve : (Point.affine x y).OnCurve),
      publicPoint secret = .affine x y ∧
        (Point.affine x y).toGroup onCurve = secret.value • basePoint := by
  have onCurve := onCurve_publicPoint secret
  cases point : publicPoint secret with
  | infinity => exact absurd point (publicPoint_ne_infinity secret)
  | affine x y =>
    rw [point] at onCurve
    refine ⟨x, y, onCurve, rfl, ?_⟩
    apply Point.ofGroup_injective
    rw [Point.ofGroup_toGroup, ← point, publicPoint_eq_ofGroup]

/-- The public keys of two private keys are the same exactly when their scalars are equal.
Every private key has a public key, a finite point of the curve, which is the scalar's multiple
of the generator and is written in 33 bytes behind the form byte `02` or `03`. -/
theorem publicKey_same_iff (first second : Secret) :
    ∃ key key', publicKey (.curve first) = .ok key ∧ publicKey (.curve second) = .ok key' ∧
      (key.same key' = true ↔ first.value = second.value) ∧
      ∃ (x y : Coordinate) (onCurve : (Point.affine x y).OnCurve),
        key = .curve (.affine x y) ∧
        (Point.affine x y).toGroup onCurve = first.value • basePoint ∧
        ∃ form, (form = 2 ∨ form = 3) ∧ key.bytes = form :: coordinateBytes x ∧
          key.bytes.length = 33 := by
  have finite (secret : Secret) := And.intro (onCurve_publicPoint secret)
    (publicPoint_ne_infinity secret)
  refine ⟨.curve (publicPoint first), .curve (publicPoint second), rfl, rfl, ?_, ?_⟩
  · rw [PublicKey.same_curve_iff, Point.compressed_inj (finite first) (finite second),
      publicPoint_inj]
  · obtain ⟨x, y, onCurve, point, multiple⟩ := exists_publicPoint_eq_affine first
    have written : (PublicKey.curve (publicPoint first)).bytes = Form.compressed.write x y := by
      rw [point, PublicKey.bytes, compressed_affine]
    refine ⟨x, y, onCurve, congrArg _ point, multiple, if y.val % 2 = 0 then 2 else 3, ?_, ?_, ?_⟩
    · split
      · exact .inl rfl
      · exact .inr rfl
    · rw [written, Form.write]
    · rw [written, Form.write, List.length_cons, length_coordinateBytes]
      rfl

end Scheme

end Keyring
