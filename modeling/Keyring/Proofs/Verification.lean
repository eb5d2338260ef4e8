import Keyring.Proofs.PointEncoding
import Keyring.Proofs.SignatureCheck
import Keyring.Scheme

/-!
What verification answers, for every key on the curve, message and text.

A text is accepted exactly when it writes two numbers in range that satisfy the equation
of ECDSA (`verify_eq_true_iff`). A text is left without an answer exactly when it writes
two numbers in range of which the first makes `r·Q` the opposite of `e·G`
(`verify_answers_iff`): whoever chooses `r` can bring this about under any key whose
private scalar is known.
-/

namespace Keyring.Scheme

open Curve Ecdsa

/-! ## Reading -/

/-- A text is read as the two numbers whose bytes it writes. -/
theorem readSignature_eq_ok_iff {text : String} {r s : Nat} :
    readSignature text = .ok ⟨r, s⟩ ↔
      Hex.Writes text.toList (Bytes.ofNat 32 r ++ Bytes.ofNat 32 s) ∧
        r < 256 ^ 32 ∧ s < 256 ^ 32 := by
  constructor
  · intro read
    rw [readSignature] at read
    split at read
    case h_1 => cases read
    case h_2 bytes decoded =>
      split at read
      case h_1 => cases read
      case h_2 made =>
        cases read
        obtain ⟨written, small⟩ := Signature.ofBytes?_eq_some_iff.mp made
        rw [written] at decoded
        exact ⟨Hex.decode_eq_ok_iff.mp decoded, small⟩
  · rintro ⟨writes, small⟩
    have made := Signature.ofBytes?_eq_some_iff.mpr ⟨rfl, small⟩
    rw [readSignature, Hex.decode_eq_ok_iff.mpr writes]
    simp only [made]

/-! ## Judging -/

/-- Verification answers whether a text is judged without a reason to reject it. -/
theorem result_verify (point : Point) (message : Bytes) (text : String) :
    (verify (.curve point) message text).result =
      (judge point message text).map Option.isNone := by
  rw [verify]
  simp only [pointOf, Logged.lift, Logged.result_bind, Except.bind]
  rcases judge point message text with failure | _ | rejection <;> rfl

theorem judge_eq_none_iff {point : Point} {message : Bytes} {text : String} :
    judge point message text = .ok none ↔
      ∃ r s, readSignature text = .ok ⟨r, s⟩ ∧
        check point (hashValue message) ⟨r, s⟩ = .valid := by
  rw [judge]
  rcases readSignature text with rejection | ⟨r, s⟩
  · simp
  · cases verdict : check point (hashValue message) ⟨r, s⟩ <;> grind

theorem judge_eq_error_iff {point : Point} {message : Bytes} {text : String} {failure : Failure} :
    judge point message text = .error failure ↔
      failure = .degenerate ∧
        ∃ r s, readSignature text = .ok ⟨r, s⟩ ∧
          check point (hashValue message) ⟨r, s⟩ = .degenerate := by
  rw [judge]
  rcases readSignature text with rejection | ⟨r, s⟩
  · simp
  · cases verdict : check point (hashValue message) ⟨r, s⟩ <;> grind

theorem result_verify_eq_true_iff {point : Point} {message : Bytes} {text : String} :
    (verify (.curve point) message text).result = .ok true ↔
      ∃ r s, readSignature text = .ok ⟨r, s⟩ ∧
        check point (hashValue message) ⟨r, s⟩ = .valid := by
  rw [result_verify, ← judge_eq_none_iff]
  rcases judge point message text with failure | _ | rejection <;> simp [Except.map]

theorem result_verify_eq_error_iff {point : Point} {message : Bytes} {text : String}
    {failure : Failure} :
    (verify (.curve point) message text).result = .error failure ↔
      failure = .degenerate ∧
        ∃ r s, readSignature text = .ok ⟨r, s⟩ ∧
          check point (hashValue message) ⟨r, s⟩ = .degenerate := by
  rw [result_verify, ← judge_eq_error_iff]
  rcases judge point message text with failure | _ | rejection <;> simp [Except.map]

/-! ## Which texts are accepted -/

/-- Numbers in range are read from a text that writes them. -/
theorem readSignature_of_inRange {text : String} {r s : Nat}
    (writes : Hex.Writes text.toList (Bytes.ofNat 32 r ++ Bytes.ofNat 32 s))
    (first : InRange r) (second : InRange s) : readSignature text = .ok ⟨r, s⟩ :=
  readSignature_eq_ok_iff.mpr ⟨writes, lt_of_inRange first, lt_of_inRange second⟩

/-- A text is accepted exactly when it writes, in pairs of hexadecimal digits, two numbers
of 32 bytes that are in range and of which the first is, modulo `order`, the abscissa of
the combination `(e/s)·G + (r/s)·Q`. -/
theorem verify_eq_true_iff {point : Point} (onCurve : point.OnCurve) (message : Bytes)
    (text : String) :
    (verify (.curve point) message text).result = .ok true ↔
      ∃ r s, Hex.Writes text.toList (Bytes.ofNat 32 r ++ Bytes.ofNat 32 s) ∧
        InRange r ∧ InRange s ∧
        ∃ x y smooth,
          combination (point.toGroup onCurve) (hashValue message) r s = .some x y smooth ∧
            x.val % order = r := by
  rw [result_verify_eq_true_iff]
  constructor
  · rintro ⟨r, s, read, valid⟩
    have writes := (readSignature_eq_ok_iff.mp read).1
    obtain ⟨⟨first, second⟩, abscissa⟩ := (check_eq_valid_iff onCurve).mp valid
    exact ⟨r, s, writes, first, second, abscissa⟩
  · rintro ⟨r, s, writes, first, second, abscissa⟩
    exact ⟨r, s, readSignature_of_inRange writes first second,
      (check_eq_valid_iff onCurve).mpr ⟨⟨first, second⟩, abscissa⟩⟩

/-- Under the generator, numbers of which the combination is the generator. -/
theorem verify_generator_eq_true :
    generator.OnCurve ∧
      (verify (.curve generator) []
        (Hex.encode
          (Bytes.ofNat 32 0x79BE667EF9DCBBAC55A06295CE870B07029BFCDB2DCE28D959F2815B16F81798 ++
            Bytes.ofNat 32 ((hashValue [] +
              0x79BE667EF9DCBBAC55A06295CE870B07029BFCDB2DCE28D959F2815B16F81798) %
                order)))).result = .ok true := by
  have second : InRange ((hashValue [] +
      0x79BE667EF9DCBBAC55A06295CE870B07029BFCDB2DCE28D959F2815B16F81798) % order) := by
    decide +kernel
  refine ⟨onCurve_generator, (verify_eq_true_iff onCurve_generator [] _).mpr ?_⟩
  exact ⟨_, _, Hex.writes_encode _, by decide, second, _, _, _, combination_basePoint second,
    by decide +kernel⟩

/-! ## Which texts are left without an answer -/

/-- Verification answers yes or no, unless the text writes two numbers in range of which the
first makes `r·Q` the opposite of `e·G`; then it fails, as the combination has no
abscissa. The second number has no part in it. -/
theorem verify_answers_iff {point : Point} (onCurve : point.OnCurve) (message : Bytes)
    (text : String) :
    ((∃ answer, (verify (.curve point) message text).result = .ok answer) ↔
      ¬∃ r s, Hex.Writes text.toList (Bytes.ofNat 32 r ++ Bytes.ofNat 32 s) ∧
        InRange r ∧ InRange s ∧
        hashValue message • basePoint + r • point.toGroup onCurve = 0) ∧
    ∀ failure, (verify (.curve point) message text).result = .error failure →
      failure = .degenerate := by
  refine ⟨?_, fun failure failed => (result_verify_eq_error_iff.mp failed).1⟩
  constructor
  · rintro ⟨answer, answered⟩ ⟨r, s, writes, first, second, opposite⟩
    have degenerate := (check_eq_degenerate_iff onCurve).mpr ⟨⟨first, second⟩, opposite⟩
    have failed := result_verify_eq_error_iff.mpr
      ⟨rfl, r, s, readSignature_of_inRange writes first second, degenerate⟩
    rw [failed] at answered
    cases answered
  · intro regular
    cases result : (verify (.curve point) message text).result with
    | ok answer => exact ⟨answer, rfl⟩
    | error failure =>
      obtain ⟨-, r, s, read, degenerate⟩ := result_verify_eq_error_iff.mp result
      obtain ⟨⟨first, second⟩, opposite⟩ := (check_eq_degenerate_iff onCurve).mp degenerate
      exact absurd ⟨r, s, (readSignature_eq_ok_iff.mp read).1, first, second, opposite⟩ regular

/-- Under the generator the hash value as first number has an answer, as twice the hash value
is no multiple of `order`. -/
theorem verify_generator_answers :
    generator.OnCurve ∧
      ∃ answer, (verify (.curve generator) []
        (Hex.encode (Bytes.ofNat 32 (hashValue []) ++ Bytes.ofNat 32 1))).result = .ok answer := by
  have first : InRange (hashValue []) := by decide +kernel
  have second : InRange 1 := by decide
  refine ⟨onCurve_generator, (verify_answers_iff onCurve_generator [] _).1.mpr ?_⟩
  rintro ⟨r, s, writes, inRange, inRange', opposite⟩
  have read := readSignature_of_inRange writes inRange inRange'
  rw [readSignature_of_inRange (Hex.writes_encode _) first second] at read
  rw [Except.ok.injEq, Signature.mk.injEq] at read
  rw [← read.1] at opposite
  have twice : (2 * hashValue [] : ZMod order) ≠ 0 := by
    refine mul_ne_zero ?_ (natCast_ne_zero_of_inRange first)
    decide
  change hashValue [] • basePoint + hashValue [] • basePoint = 0 at opposite
  rw [← add_nsmul, ← two_mul, ← Nat.cast_smul_eq_nsmul (ZMod order), Nat.cast_mul,
    Nat.cast_ofNat] at opposite
  exact (smul_ne_zero twice basePoint_ne_zero) opposite

/-- Not every text has an answer under every key: the hash value as first number has none under
the opposite of the generator, which is a key like any other. -/
theorem not_forall_verify_answers :
    ¬∀ (key text : String) (message : Bytes) (point : Point),
      PublicKey.pointOfText key = .ok point →
        ∃ answer, (verify (.curve point) message text).result = .ok answer := by
  intro always
  let opposite : Point := .affine
    0x79BE667EF9DCBBAC55A06295CE870B07029BFCDB2DCE28D959F2815B16F81798
    0xB7C52588D95C3B9AA25B0403F1EEF75702E84BB7597AABE663B82F6F04EF2777
  have read : PublicKey.pointOfText (PublicKey.curve opposite).hex = .ok opposite :=
    PublicKey.pointOfText_hex (by decide +kernel) (by decide)
  have inRange : InRange (hashValue []) := by decide +kernel
  have degenerate : check opposite (hashValue []) ⟨hashValue [], hashValue []⟩ = .degenerate := by
    decide +kernel
  have failed := result_verify_eq_error_iff.mpr ⟨rfl, hashValue [], hashValue [],
    readSignature_of_inRange (Hex.writes_encode _) inRange inRange, degenerate⟩
  obtain ⟨answer, answered⟩ := always _ _ [] opposite read
  rw [failed] at answered
  cases answered

end Keyring.Scheme
