import Keyring.Proofs.PointEncoding
import Keyring.Proofs.Signing
import Keyring.Proofs.Verification

/-!
A signature is accepted under the public key of its private key.

The nonce `k` makes an `s` with `s·k = e + d·r`, so the combination that verification forms
under `d·G` is `k·G` again (`combination_of_makes`). The twin of `s` turns the combination
into its opposite (`combination_twin`), which has the same abscissa, so the lower of the two
is accepted as well.
-/

namespace Keyring.Ecdsa

open Curve

/-! ## The combination of a signature -/

/-- To replace `s` by its twin is to turn the combination around. -/
theorem combination_twin (Q : CurveGroup) {hash r s : Nat} (below : s ≤ order) :
    combination Q hash r (order - s) = -combination Q hash r s := by
  have twin : ((order - s : Nat) : ZMod order) = -s := by
    rw [Nat.cast_sub below, ZMod.natCast_self, zero_sub]
  rw [combination_eq_smul, combination_eq_smul, twin, inv_neg, neg_smul]

section Makes

variable {secret : Scalar} {hash nonce r s : Nat}

/-- The combination of the numbers that a nonce makes is the nonce's multiple of the generator. -/
theorem combination_of_makes (makes : Makes secret hash nonce r s) :
    combination (secret.val • basePoint) hash r s = nonce • basePoint := by
  have nonzero := natCast_ne_zero_of_inRange makes.bounds.2.1
  obtain ⟨inRange, -, second, -, -⟩ := makes
  have cast : (s : ZMod order) = (nonce : ZMod order)⁻¹ * (hash + secret.val * r) := by
    rw [second, ZMod.natCast_zmod_val]
  have product : (s : ZMod order) * nonce = hash + r * secret.val := by
    rw [cast, mul_comm, mul_inv_cancel_left₀ (natCast_ne_zero_of_inRange inRange),
      mul_comm (r : ZMod order)]
  rw [combination_eq_smul, ← Nat.cast_smul_eq_nsmul (ZMod order),
    ← Nat.cast_smul_eq_nsmul (ZMod order), smul_smul, ← add_smul, ← product, smul_smul,
    inv_mul_cancel_left₀ nonzero]

/-- The lower of `s` and its twin leaves the abscissa of the combination. -/
theorem abscissa_of_makes (makes : Makes secret hash nonce r s) :
    ∃ x y smooth,
      combination (secret.val • basePoint) hash r (min s (order - s)) = .some x y smooth ∧
        x.val % order = r := by
  have straight := combination_of_makes makes
  have below := makes.bounds.2.1.2.le
  obtain ⟨-, ⟨x, y, smooth, multiple, abscissa⟩, -⟩ := makes
  rw [multiple] at straight
  rcases min_choice s (order - s) with same | twin
  · rw [same]
    exact ⟨x, y, smooth, straight, abscissa.symm⟩
  · rw [twin, combination_twin _ below, straight, WeierstrassCurve.Affine.Point.neg_some]
    exact ⟨x, _, _, rfl, abscissa.symm⟩

end Makes

end Keyring.Ecdsa

namespace Keyring.Scheme

open Curve Ecdsa

/-! ## The public point -/

section PublicPoint

variable (secret : Secret)

theorem publicPoint_eq_ofGroup :
    publicPoint secret = Point.ofGroup (secret.value • basePoint) := by
  rw [publicPoint, Point.ofGroup_nsmul, ofGroup_basePoint]

theorem onCurve_publicPoint : (publicPoint secret).OnCurve := by
  rw [publicPoint_eq_ofGroup]
  exact Point.onCurve_ofGroup _

theorem toGroup_publicPoint :
    (publicPoint secret).toGroup (onCurve_publicPoint secret) = secret.value • basePoint := by
  apply Point.ofGroup_injective
  rw [Point.ofGroup_toGroup, publicPoint_eq_ofGroup]

/-- A scalar other than zero does not lead to the neutral element. -/
theorem publicPoint_ne_infinity : publicPoint secret ≠ .infinity := by
  rw [publicPoint_eq_ofGroup, Ne, Point.ofGroup_eq_infinity]
  exact nsmul_basePoint_ne_zero secret.inRange

end PublicPoint

/-! ## Signatures are accepted -/

theorem verify_publicPoint_of_sign {secret : Secret} {message : Bytes} {text : String}
    (signed : sign (.curve secret) message = .ok text) :
    (verify (.curve (publicPoint secret)) message text).result = .ok true := by
  obtain ⟨index, r, s, ⟨makes, -⟩, rfl⟩ := sign_eq_ok_iff.mp signed
  obtain ⟨first, -, second, -⟩ := makes.bounds
  have abscissa := abscissa_of_makes makes
  change ∃ x y smooth, combination (secret.value • basePoint) _ _ _ = _ ∧ _ at abscissa
  rw [← toGroup_publicPoint] at abscissa
  rw [result_verify_eq_true_iff]
  exact ⟨r, min s (order - s), readSignature_of_inRange (Hex.writes_encode _) first second,
    (check_eq_valid_iff (onCurve_publicPoint secret)).mpr ⟨⟨first, second⟩, abscissa⟩⟩

/-- A signature is accepted under the public key that belongs to the private key, and under
the key that is read back from the text of the public key. -/
theorem verify_sign {secret : Secret} {message : Bytes} {text : String}
    (signed : sign (.curve secret) message = .ok text) :
    ∃ key, publicKey (.curve secret) = .ok key ∧
      (verify key message text).result = .ok true ∧
      ∃ point, PublicKey.pointOfText key.hex = .ok point ∧
        (verify (.curve point) message text).result = .ok true := by
  have accepted := verify_publicPoint_of_sign signed
  refine ⟨.curve (publicPoint secret), rfl, accepted, publicPoint secret, ?_, accepted⟩
  exact PublicKey.pointOfText_hex (onCurve_publicPoint secret) (publicPoint_ne_infinity secret)

/-- The signature of the empty message by the private key one. -/
def oneEmpty : String :=
  "77c8d336572f6f466055b5f70f433851f8f535f6c4fc71133a6cfd71079d03b7" ++
    "0ed9f5eb8aa5b266abac35d416c3207e7a538bf5f37649727d7a9823b1069577"

/-- The private key one signs the empty message with the first candidate of its stream. -/
theorem sign_one_empty : sign (.curve ⟨1, by decide⟩) [] = .ok oneEmpty := by
  let secret : Secret := ⟨1, by decide⟩
  have candidate : Stream.candidate secret.scalar (hashValue []) 0 =
      0xBACB7C191EACD08F7D3526A540371C6399744A97D2328C521C685C1DBDD37B88 := by
    decide +kernel
  have made : signWith secret.scalar (hashValue [])
      0xBACB7C191EACD08F7D3526A540371C6399744A97D2328C521C685C1DBDD37B88 =
        some ⟨0x77C8D336572F6F466055B5F70F433851F8F535F6C4FC71133A6CFD71079D03B7,
          0x0ED9F5EB8AA5B266ABAC35D416C3207E7A538BF5F37649727D7A9823B1069577⟩ := by
    rw [signWith, generator, Jacobian.multiple_eq]
    decide +kernel
  have makes := (signWith_eq_some_iff (by decide)).mp made
  rw [← candidate] at makes
  refine (@sign_eq_ok_iff secret [] _).mpr
    ⟨0, _, _, ⟨makes, fun _ before => absurd before (Nat.not_lt_zero _)⟩, ?_⟩
  decide +kernel

/-- That signature is accepted under the public key of the private key one. -/
theorem verify_sign_one_empty :
    ∃ text, sign (.curve ⟨1, by decide⟩) [] = .ok text ∧
      ∃ key, publicKey (.curve ⟨1, by decide⟩) = .ok key ∧
        (verify key [] text).result = .ok true ∧
        ∃ point, PublicKey.pointOfText key.hex = .ok point ∧
          (verify (.curve point) [] text).result = .ok true :=
  ⟨_, sign_one_empty, verify_sign sign_one_empty⟩

end Keyring.Scheme
