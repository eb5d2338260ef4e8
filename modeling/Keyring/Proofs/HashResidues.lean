import Keyring.Proofs.Signing
import Mathlib.Data.Nat.ModEq

/-!
How much of a message signing and verifying see.

A hash value has 256 bits and may reach `order`, and it is brought below it in three places: one
subtraction seeds the nonces, the second number of a signature is a remainder, and so is the
multiplier of the generator in the check. All three give congruent hash values the same
(`seeded_congr`, `signWith_congr`, `check_congr`). The nonces being the same and each making the
same, the search for one that serves goes the same way (`signFrom_of_congruent`), so a message
counts only by its hash value modulo `order` (`Scheme.sign_verify_congr`).
-/

namespace Keyring.Ecdsa

open Curve

variable {hash hash' : Nat}

/-! ## The three reductions -/

/-- The nonces of congruent hash values come from the same generator. -/
theorem NonceGenerator.seeded_congr (small : hash < 256 ^ 32) (small' : hash' < 256 ^ 32)
    (congruent : hash ≡ hash' [MOD order]) (secret : Scalar) :
    seeded secret hash = seeded secret hash' := by
  have residue : hash % order = hash' % order := congruent
  rw [seeded, seeded, reduceHash_eq_mod small, reduceHash_eq_mod small', residue]

/-- A nonce makes the same of congruent hash values. -/
theorem signWith_congr (congruent : hash ≡ hash' [MOD order]) (secret : Scalar) (nonce : Nat) :
    signWith secret hash nonce = signWith secret hash' nonce := by
  have second (reciprocal product : Nat) :
      reciprocal * (hash + product) % order = reciprocal * (hash' + product) % order :=
    (congruent.add_right product).mul_left reciprocal
  rw [signWith, signWith]
  simp only [second]

/-- A signature of congruent hash values is checked with the same verdict. -/
theorem check_congr (congruent : hash ≡ hash' [MOD order]) (point : Point)
    (signature : Signature) : check point hash signature = check point hash' signature := by
  have multiplier (reciprocal : Nat) : hash * reciprocal % order = hash' * reciprocal % order :=
    congruent.mul_right reciprocal
  rw [check, check]
  simp only [multiplier]

/-! ## The search for a nonce -/

/-- A search goes the same way for a congruent hash value. The induction is along the search:
what the rest of it returns for the one hash value is returned for the other. -/
theorem NonceGenerator.signFrom_of_congruent {generator : NonceGenerator} {secret : Scalar}
    {skip : Nat} {signature : Signature} (congruent : hash ≡ hash' [MOD order])
    (signed : generator.signFrom secret hash skip = some signature) :
    generator.signFrom secret hash' skip = some signature := by
  revert signed
  refine signFrom.partial_correctness generator secret hash
    (fun skip signature => generator.signFrom secret hash' skip = some signature) ?_ skip signature
  -- `found` holds of the attempts that follow; this one makes the same of both hash values.
  intro search found skip signature signed
  rw [Option.bind_eq_bind, Option.bind_eq_some_iff] at signed
  obtain ⟨nonce, picked, signed⟩ := signed
  rw [signWith_congr congruent] at signed
  rw [signFrom, picked, Option.bind_eq_bind, Option.bind_some]
  cases made : signWith secret hash' nonce with
  | some signature => rwa [made] at signed
  | none =>
    rw [made] at signed
    exact found (skip + 1) signature signed

/-- Congruent hash values have the same signature, or none. -/
theorem sign_congr (small : hash < 256 ^ 32) (small' : hash' < 256 ^ 32)
    (congruent : hash ≡ hash' [MOD order]) (secret : Scalar) :
    sign secret hash = sign secret hash' := by
  rw [sign, sign, NonceGenerator.seeded_congr small small' congruent]
  ext signature
  constructor
  · exact NonceGenerator.signFrom_of_congruent congruent
  · exact NonceGenerator.signFrom_of_congruent congruent.symm

end Keyring.Ecdsa

namespace Keyring.Scheme

open Curve Ecdsa

/-! ## Messages -/

/-- Signing and verifying see a message only through its hash value modulo `order`. Messages whose
hash values are congruent are signed alike with every key, and verified alike under every key and
with every text: with the same answer or failure and the same records. Any two congruent numbers
of 32 bytes, be they below `order` or not, have the same nonces, make the same with each of them,
are signed the same and get the same verdict. -/
theorem sign_verify_congr :
    (∀ message message', hashValue message ≡ hashValue message' [MOD order] →
      (∀ key, sign key message = sign key message') ∧
      ∀ key text, verify key message text = verify key message' text) ∧
    ∀ hash hash', hash < 256 ^ 32 → hash' < 256 ^ 32 → hash ≡ hash' [MOD order] →
      (∀ secret, NonceGenerator.seeded secret hash = NonceGenerator.seeded secret hash') ∧
      (∀ secret nonce, signWith secret hash nonce = signWith secret hash' nonce) ∧
      (∀ secret, Ecdsa.sign secret hash = Ecdsa.sign secret hash') ∧
      ∀ point signature, check point hash signature = check point hash' signature := by
  constructor
  · intro message message' congruent
    constructor
    · intro key
      cases key with
      | curve secret =>
        rw [sign_curve, sign_curve,
          sign_congr (hashValue_lt message) (hashValue_lt message') congruent]
      | foreign key =>
        have refused (message : Bytes) :
            sign (.foreign key) message = .error (.foreignPrivate key.algorithm) := rfl
        rw [refused, refused]
    · intro key text
      have judged (point : Point) : judge point message text = judge point message' text := by
        rw [judge, judge]
        simp only [check_congr congruent]
      rw [verify, verify]
      simp only [judged]
  · intro hash hash' small small' congruent
    exact ⟨NonceGenerator.seeded_congr small small' congruent, signWith_congr congruent,
      sign_congr small small' congruent, check_congr congruent⟩

/-- One, and one more than `order`, which is a number of 32 bytes as well. -/
theorem sign_verify_congr_one :
    1 < 256 ^ 32 ∧ order + 1 < 256 ^ 32 ∧ 1 ≡ order + 1 [MOD order] ∧
      Ecdsa.sign 1 1 = Ecdsa.sign 1 (order + 1) ∧
      check generator 1 ⟨1, 2⟩ = check generator (order + 1) ⟨1, 2⟩ := by
  have small : 1 < 256 ^ 32 := by decide
  have small' : order + 1 < 256 ^ 32 := by decide
  have congruent : 1 ≡ order + 1 [MOD order] := by decide
  obtain ⟨-, -, signed, checked⟩ := sign_verify_congr.2 1 (order + 1) small small' congruent
  exact ⟨small, small', congruent, signed 1, checked generator ⟨1, 2⟩⟩

end Keyring.Scheme
