import Keyring.Proofs.HexText
import Keyring.Proofs.NonceStream
import Keyring.Proofs.SignatureCheck
import Keyring.Scheme

/-!
Which signature a message gets.

`Makes` says in the group of the curve which two numbers a nonce makes, if it makes a
signature at all. Signing tries the candidates of one stream in their order: each attempt
starts its generator anew and passes over the candidates in range that failed before, and
so comes to all that a search along the stream comes to, and to no other
(`reaches_of_signFrom`, `signFrom_of_reaches`). So the signature is made by the first
candidate that makes one, and has the lower of the two possible values of `s`
(`sign_eq_some_iff`).
-/

namespace Keyring.Ecdsa

open Curve

/-! ## What a nonce makes -/

/-- The numbers `r` and `s` that a nonce in range makes: `r` is the abscissa of its multiple
of the generator modulo `order`, and `s` is `(e + d·r)/k` modulo `order`; neither is zero. -/
def Makes (secret : Scalar) (hash nonce r s : Nat) : Prop :=
  InRange nonce ∧
    (∃ x y smooth, nonce • basePoint = .some x y smooth ∧ r = x.val % order) ∧
    s = ((nonce : ZMod order)⁻¹ * (hash + secret.val * r)).val ∧
    r ≠ 0 ∧ s ≠ 0

section Makes

variable {secret : Scalar} {hash nonce r s : Nat}

/-- The second number, as signing computes it. -/
theorem inverse_mul_mod_order :
    (inverse (Fin.ofNat order nonce)).val * (hash + secret.val * r % order) % order =
      ((nonce : ZMod order)⁻¹ * (hash + secret.val * r)).val := by
  rw [mul_comm (inverse _).val, mul_inverse_mod_order, Nat.cast_add, ZMod.natCast_mod,
    Nat.cast_mul, mul_comm]

theorem signWith_of_multiple {x y : ZMod fieldSize} {smooth : weierstrass.Nonsingular x y}
    (multiple : nonce • basePoint = .some x y smooth) :
    signWith secret hash nonce =
      let r := x.val % order
      let s := ((nonce : ZMod order)⁻¹ * (hash + secret.val * r)).val
      if r = 0 ∨ s = 0 then none else some ⟨r, s⟩ := by
  have point : generator.multiple nonce = .affine (ofResidue x) (ofResidue y) := by
    rw [← ofGroup_basePoint, ← Point.ofGroup_nsmul, multiple, Point.ofGroup]
  rw [signWith, point]
  simp only [inverse_mul_mod_order]
  rfl

theorem signWith_eq_some_iff (inRange : InRange nonce) :
    signWith secret hash nonce = some ⟨r, s⟩ ↔ Makes secret hash nonce r s := by
  cases multiple : nonce • basePoint with
  | zero => exact absurd multiple (nsmul_basePoint_ne_zero inRange)
  | some x y smooth =>
    rw [signWith_of_multiple multiple, Makes, multiple]
    constructor
    · intro made
      simp only [Option.ite_none_left_eq_some, Option.some.injEq, Signature.mk.injEq,
        not_or] at made
      obtain ⟨⟨first, second⟩, rfl, rfl⟩ := made
      exact ⟨inRange, ⟨x, y, smooth, rfl, rfl⟩, rfl, first, second⟩
    · rintro ⟨-, ⟨x', y', smooth', same, rfl⟩, rfl, first, second⟩
      cases same
      exact if_neg (not_or.mpr ⟨first, second⟩)

theorem signWith_eq_none_iff (inRange : InRange nonce) :
    signWith secret hash nonce = none ↔ ∀ r s, ¬Makes secret hash nonce r s := by
  rw [Option.eq_none_iff_forall_ne_some]
  constructor
  · intro fails r s makes
    exact fails ⟨r, s⟩ ((signWith_eq_some_iff inRange).mpr makes)
  · rintro fails ⟨r, s⟩ made
    exact fails r s ((signWith_eq_some_iff inRange).mp made)

end Makes

/-! ## The search for a nonce -/

namespace NonceGenerator

variable {generator : NonceGenerator} {secret : Scalar} {hash skip nonce index : Nat}
  {signature : Signature}

theorem signFrom_of_some (picked : generator.pick skip = some nonce)
    (made : signWith secret hash nonce = some signature) :
    generator.signFrom secret hash skip = some signature.lower := by
  rw [signFrom, picked]
  simp only [Option.bind_eq_bind, Option.bind_some, made]

theorem signFrom_of_none (picked : generator.pick skip = some nonce)
    (failed : signWith secret hash nonce = none) :
    generator.signFrom secret hash skip = generator.signFrom secret hash (skip + 1) := by
  rw [signFrom, picked]
  simp only [Option.bind_eq_bind, Option.bind_some, failed]

/-- A search that has passed over `skip` numbers in range comes to the one at `index`: all in
range between them fail. -/
def Reaches (generator : NonceGenerator) (secret : Scalar) (hash skip index : Nat) : Prop :=
  InRange (generator.output index) ∧ skip ≤ generator.passed index ∧
    ∀ earlier < index, InRange (generator.output earlier) → skip ≤ generator.passed earlier →
      signWith secret hash (generator.output earlier) = none

/-- What the search returns is made by a number that it comes to. -/
theorem reaches_of_signFrom (signed : generator.signFrom secret hash skip = some signature) :
    ∃ index made, generator.Reaches secret hash skip index ∧
      signWith secret hash (generator.output index) = some made ∧ signature = made.lower := by
  revert signed
  refine signFrom.partial_correctness generator secret hash
    (fun skip signature => ∃ index made, generator.Reaches secret hash skip index ∧
      signWith secret hash (generator.output index) = some made ∧ signature = made.lower)
    ?_ skip signature
  -- `found` holds of the attempts that follow; this one picks the number with the count `skip`.
  intro search found skip signature signed
  rw [Option.bind_eq_bind, Option.bind_eq_some_iff] at signed
  obtain ⟨nonce, picked, signed⟩ := signed
  obtain ⟨index, rfl, inRange, count⟩ := output_of_pick picked
  cases tried : signWith secret hash (generator.output index) with
  | some made =>
    rw [tried] at signed
    cases signed
    refine ⟨index, made, ⟨inRange, count.ge, ?_⟩, tried, rfl⟩
    intro earlier before inRange' reached
    have fewer := lt_passed inRange' before
    omega
  | none =>
    rw [tried] at signed
    obtain ⟨last, made, ⟨inRange', reached, failed⟩, succeeds⟩ := found (skip + 1) signature signed
    refine ⟨last, made, ⟨inRange', by omega, ?_⟩, succeeds⟩
    intro earlier before proper passed
    by_cases same : generator.passed earlier = skip
    · -- The number with this count is the one that has just failed.
      rw [index_eq_of_passed_eq proper inRange (same.trans count.symm)]
      exact tried
    · exact failed earlier before proper (by omega)

/-- A number that makes a signature is returned by every search that comes to it. The
induction is on how many numbers in range are still to be tried before it. -/
theorem signFrom_of_reaches (reaches : generator.Reaches secret hash skip index)
    (made : signWith secret hash (generator.output index) = some signature) :
    generator.signFrom secret hash skip = some signature.lower := by
  obtain ⟨inRange, reached, failed⟩ := reaches
  obtain ⟨left, count⟩ := Nat.exists_eq_add_of_le reached
  induction left generalizing skip with
  | zero =>
    have picked := pick_passed inRange
    rw [count, Nat.add_zero] at picked
    exact signFrom_of_some picked made
  | succ left ih =>
    obtain ⟨earlier, before, proper, passed⟩ :=
      exists_of_lt_passed (by omega : skip < generator.passed index)
    have picked := pick_passed proper
    rw [passed] at picked
    rw [signFrom_of_none picked (failed earlier before proper passed.ge)]
    refine ih (by omega) ?_ (by omega)
    intro earlier before proper more
    exact failed earlier before proper (by omega)

end NonceGenerator

/-! ## The signature of a hash value -/

section Lower

variable {secret : Scalar} {hash nonce r s : Nat}

theorem lower_eq (r s : Nat) : Signature.lower ⟨r, s⟩ = ⟨r, min s (order - s)⟩ := by
  have odd : order % 2 = 1 := by decide
  rw [Signature.lower]
  split
  case isTrue high =>
    change s > order / 2 at high
    rw [min_eq_right (by omega)]
  case isFalse low =>
    change ¬s > order / 2 at low
    rw [min_eq_left (by omega)]

/-- The numbers of a signature are scalars other than zero, and the second is at most half of
`order`. -/
theorem Makes.bounds (makes : Makes secret hash nonce r s) :
    InRange r ∧ InRange s ∧ InRange (min s (order - s)) ∧ min s (order - s) ≤ order / 2 := by
  obtain ⟨-, ⟨x, y, smooth, -, abscissa⟩, second, nonzero, nonzero'⟩ := makes
  have below : r < order := by
    rw [abscissa]
    exact Nat.mod_lt _ (by decide)
  have below' : s < order := by
    rw [second]
    exact ZMod.val_lt _
  simp only [InRange]
  omega

end Lower

/-- The numbers are made by the first candidate of the stream that makes any. -/
def FirstMakes (secret : Scalar) (hash index r s : Nat) : Prop :=
  Makes secret hash (Stream.candidate secret hash index) r s ∧
    ∀ earlier < index, ∀ r s, ¬Makes secret hash (Stream.candidate secret hash earlier) r s

/-- A hash value is signed with the first candidate of the stream that makes a signature. -/
theorem sign_eq_some_iff {secret : Scalar} {hash : Nat} {signature : Signature}
    (small : hash < 256 ^ 32) :
    sign secret hash = some signature ↔
      ∃ index r s, FirstMakes secret hash index r s ∧ signature = ⟨r, min s (order - s)⟩ := by
  rw [sign]
  constructor
  · intro signed
    obtain ⟨index, ⟨r, s⟩, ⟨inRange, -, failed⟩, made, lowered⟩ :=
      NonceGenerator.reaches_of_signFrom signed
    simp only [NonceGenerator.output_seeded small] at inRange failed made
    refine ⟨index, r, s, ⟨(signWith_eq_some_iff inRange).mp made, ?_⟩, lowered.trans (lower_eq r s)⟩
    intro earlier before r s makes
    exact (signWith_eq_none_iff makes.1).mp
      (failed earlier before makes.1 (Nat.zero_le _)) r s makes
  · rintro ⟨index, r, s, ⟨makes, first⟩, rfl⟩
    rw [← lower_eq]
    apply NonceGenerator.signFrom_of_reaches
    · refine ⟨?_, Nat.zero_le _, ?_⟩
      · rw [NonceGenerator.output_seeded small]
        exact makes.1
      · intro earlier before inRange _
        rw [NonceGenerator.output_seeded small] at inRange ⊢
        exact (signWith_eq_none_iff inRange).mpr (first earlier before)
    · rw [NonceGenerator.output_seeded small]
      exact (signWith_eq_some_iff makes.1).mpr makes

end Keyring.Ecdsa

namespace Keyring.Scheme

open Curve Ecdsa

/-! ## The signature of a message -/

theorem hashValue_lt (message : Bytes) : hashValue message < 256 ^ 32 := by
  have below := Bytes.toNat_lt (Sha256.digest message)
  rw [Sha256.length_digest] at below
  exact below

theorem sign_eq_ok_iff {secret : Secret} {message : Bytes} {text : String} :
    sign (.curve secret) message = .ok text ↔
      ∃ index r s, FirstMakes secret.scalar (hashValue message) index r s ∧
        text = Hex.encode (Bytes.ofNat 32 r ++ Bytes.ofNat 32 (min s (order - s))) := by
  have signed := @sign_eq_some_iff secret.scalar (hashValue message)
  rw [sign_curve]
  constructor
  · intro answered
    cases made : Ecdsa.sign secret.scalar (hashValue message) with
    | some signature =>
      rw [made, Option.elim_some, Except.ok.injEq] at answered
      obtain ⟨index, r, s, first, lower⟩ := (signed (hashValue_lt message)).mp made
      refine ⟨index, r, s, first, ?_⟩
      rw [← answered, lower, Signature.toBytes]
    | none =>
      rw [made, Option.elim_none] at answered
      cases answered
  · rintro ⟨index, r, s, first, written⟩
    rw [(signed (hashValue_lt message)).mpr ⟨index, r, s, first, rfl⟩, written]
    rfl

/-- What a signature looks like: 128 digits in lower case, which write two scalars other than
zero of which the second is at most half of `order`. -/
def IsCompact (text : String) : Prop :=
  text.length = 128 ∧ (∀ c ∈ text.toList, c ∈ Hex.lowerDigits) ∧
    ∃ r s, Hex.Writes text.toList (Bytes.ofNat 32 r ++ Bytes.ofNat 32 s) ∧
      (1 ≤ r ∧ r ≤ order - 1) ∧ (1 ≤ s ∧ s ≤ order / 2)

theorem isCompact_of_sign {secret : Secret} {message : Bytes} {text : String}
    (signed : sign (.curve secret) message = .ok text) : IsCompact text := by
  obtain ⟨index, r, s, ⟨makes, -⟩, rfl⟩ := sign_eq_ok_iff.mp signed
  obtain ⟨first, -, second, low⟩ := makes.bounds
  refine ⟨?_, ?_, r, min s (order - s), Hex.writes_encode _, ⟨first.1, ?_⟩, second.1, low⟩
  · rw [← String.length_toList, Hex.toList_encode, Hex.length_encodeChars, List.length_append,
      Bytes.length_ofNat, Bytes.length_ofNat]
  · rw [Hex.toList_encode]
    exact Hex.mem_lowerDigits_of_mem_encodeChars
  · exact Nat.le_sub_one_of_lt first.2

/-- Signing is deterministic ECDSA with the lower `s`. A signature is made by the first
candidate of the stream that makes one, and whatever is returned is compact. An attempt that
starts the generator anew to pass over `skip` candidates in range gets the one of the same
stream before which as many are in range. -/
theorem sign_eq_reference (secret : Secret) (message : Bytes) :
    (∀ text, sign (.curve secret) message = .ok text ↔
      ∃ index r s, FirstMakes secret.scalar (hashValue message) index r s ∧
        text = Hex.encode (Bytes.ofNat 32 r ++ Bytes.ofNat 32 (min s (order - s)))) ∧
    (∀ text, sign (.curve secret) message = .ok text → IsCompact text) ∧
    ∀ skip nonce,
      (NonceGenerator.seeded secret.scalar (hashValue message)).pick skip = some nonce ↔
        ∃ index, Stream.candidate secret.scalar (hashValue message) index = nonce ∧
          InRange nonce ∧
          Nat.count
            (fun earlier =>
              InRange (Stream.candidate secret.scalar (hashValue message) earlier))
            index = skip := by
  refine ⟨fun _ => sign_eq_ok_iff, fun _ => isCompact_of_sign, fun skip nonce => ?_⟩
  exact NonceGenerator.pick_seeded_eq_some_iff (hashValue_lt message)

end Keyring.Scheme
