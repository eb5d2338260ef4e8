import Keyring.Proofs.SignVerify

/-!
A signature and its twin.

To replace `s` by `order - s` turns the combination that verification forms around, and a point
and its opposite have one abscissa: the check comes to the same (`check_twin`), whatever it comes
to. So every signature has a second text that is accepted wherever it is. Of the two, signing
returns the one with the lower `s`, under no key and for no message the other
(`not_sign_of_twins`).
-/

namespace Keyring.Ecdsa

open Curve

/-! ## The check of a twin -/

theorem inRange_twin {s : Nat} (inRange : InRange s) : InRange (order - s) := by
  obtain ⟨positive, below⟩ := inRange
  rw [InRange]
  omega

/-- A signature and its twin are checked alike, also where there is nothing to compare with. -/
theorem check_twin {point : Point} (onCurve : point.OnCurve) {hash r s : Nat}
    (inRange : InRange s) : check point hash ⟨r, order - s⟩ = check point hash ⟨r, s⟩ := by
  by_cases first : InRange r
  · rw [check_of_inRange onCurve ⟨first, inRange_twin inRange⟩,
      check_of_inRange onCurve ⟨first, inRange⟩, combination_twin _ inRange.2.le]
    cases combination (point.toGroup onCurve) hash r s with
    | zero => rfl
    | some x y smooth => rw [WeierstrassCurve.Affine.Point.neg_some]
  · rw [check_of_not_inRange fun both => first both.1,
      check_of_not_inRange fun both => first both.1]

end Keyring.Ecdsa

namespace Keyring.Scheme

open Curve Ecdsa

/-! ## The text of a twin -/

/-- Two texts that write a first number of 32 bytes, the one with `s` behind it and the other
with `order - s`. -/
def Twins (text twin : String) : Prop :=
  ∃ r s, r < 256 ^ 32 ∧ InRange s ∧
    Hex.Writes text.toList (Bytes.ofNat 32 r ++ Bytes.ofNat 32 s) ∧
    Hex.Writes twin.toList (Bytes.ofNat 32 r ++ Bytes.ofNat 32 (order - s))

theorem Twins.read {text twin : String} (twins : Twins text twin) :
    ∃ r s, InRange s ∧ readSignature text = .ok ⟨r, s⟩ ∧
      readSignature twin = .ok ⟨r, order - s⟩ := by
  obtain ⟨r, s, small, inRange, writes, writes'⟩ := twins
  exact ⟨r, s, inRange, readSignature_eq_ok_iff.mpr ⟨writes, small, lt_of_inRange inRange⟩,
    readSignature_eq_ok_iff.mpr ⟨writes', small, lt_of_inRange (inRange_twin inRange)⟩⟩

/-- Under every key, the texts of a signature and its twin are verified alike. -/
theorem verify_eq_of_twins {point : Point} (onCurve : point.OnCurve) {text twin : String}
    (twins : Twins text twin) (message : Bytes) :
    verify (.curve point) message twin = verify (.curve point) message text := by
  obtain ⟨r, s, inRange, read, read'⟩ := twins.read
  have judged : judge point message twin = judge point message text := by
    rw [judge, judge, read, read']
    simp only [check_twin onCurve inRange]
  rw [verify, verify]
  simp only [pointOf, Logged.lift_ok_bind, judged]

/-! ## Which of the two is signed -/

/-- What signing returns is read as numbers of which the second is at most half of `order`. -/
theorem readSignature_of_sign {secret : Secret} {message : Bytes} {text : String}
    (signed : sign (.curve secret) message = .ok text) :
    ∃ r s, readSignature text = .ok ⟨r, s⟩ ∧ InRange r ∧ InRange s ∧ s ≤ order / 2 := by
  obtain ⟨-, -, r, s, writes, ⟨positive, below⟩, ⟨positive', low⟩⟩ := isCompact_of_sign signed
  have first : InRange r := by
    rw [InRange]
    omega
  have second : InRange s := by
    rw [InRange]
    omega
  exact ⟨r, s, readSignature_of_inRange writes first second, first, second, low⟩

theorem exists_twins_of_sign {secret : Secret} {message : Bytes} {text : String}
    (signed : sign (.curve secret) message = .ok text) : ∃ twin, Twins text twin := by
  obtain ⟨r, s, read, -, second, -⟩ := readSignature_of_sign signed
  obtain ⟨writes, small, -⟩ := readSignature_eq_ok_iff.mp read
  exact ⟨_, r, s, small, second, writes, Hex.writes_encode _⟩

/-- The twin of a signature is never returned: only one of `s` and `order - s` is at most half of
`order`, as `order` is odd. -/
theorem not_sign_of_twins {secret secret' : Secret} {message message' : Bytes}
    {text twin : String} (signed : sign (.curve secret) message = .ok text)
    (twins : Twins text twin) : sign (.curve secret') message' ≠ .ok twin := by
  intro signed'
  obtain ⟨r, s, -, read, read'⟩ := twins.read
  obtain ⟨_, _, same, -, -, low⟩ := readSignature_of_sign signed
  obtain ⟨_, _, same', -, -, low'⟩ := readSignature_of_sign signed'
  cases read.symm.trans same
  cases read'.symm.trans same'
  have odd : order % 2 = 1 := by decide
  omega

/-- The texts of a signature and its twin are verified alike under every key: with the same
answer or failure, and the same records. So the twin of what is returned for a message is
accepted as well under the public key, though signing never returns it. -/
theorem verify_twin :
    (∀ (point : Point) (message : Bytes) (text twin : String), point.OnCurve → Twins text twin →
      verify (.curve point) message twin = verify (.curve point) message text) ∧
    ∀ (secret : Secret) (message : Bytes) (text : String),
      sign (.curve secret) message = .ok text →
        (∃ twin, Twins text twin) ∧
        ∀ twin, Twins text twin →
          (∃ key, publicKey (.curve secret) = .ok key ∧
            (verify key message twin).result = .ok true) ∧
          ∀ secret' message', sign (.curve secret') message' ≠ .ok twin := by
  constructor
  · intro point message text twin onCurve twins
    exact verify_eq_of_twins onCurve twins message
  · intro secret message text signed
    refine ⟨exists_twins_of_sign signed, fun twin twins => ⟨?_, ?_⟩⟩
    · refine ⟨.curve (publicPoint secret), rfl, ?_⟩
      rw [verify_eq_of_twins (onCurve_publicPoint secret) twins]
      exact verify_publicPoint_of_sign signed
    · intro secret' message'
      exact not_sign_of_twins signed twins

/-- A signature and its twin of which the first number makes `r·G` the opposite of `e·G`: under
the generator neither has an answer. -/
theorem verify_twin_degenerate :
    let r := order - hashValue []
    let text := Hex.encode (Bytes.ofNat 32 r ++ Bytes.ofNat 32 1)
    let twin := Hex.encode (Bytes.ofNat 32 r ++ Bytes.ofNat 32 (order - 1))
    generator.OnCurve ∧ Twins text twin ∧
      (verify (.curve generator) [] text).result = .error .degenerate ∧
      (verify (.curve generator) [] twin).result = .error .degenerate := by
  intro r text twin
  have hash : InRange (hashValue []) := by decide +kernel
  have first : InRange r := inRange_twin hash
  have second : InRange 1 := by decide
  have twins : Twins text twin :=
    ⟨r, 1, lt_of_inRange first, second, Hex.writes_encode _, Hex.writes_encode _⟩
  have opposite : hashValue [] • basePoint + r • generator.toGroup onCurve_generator = 0 := by
    change hashValue [] • basePoint + r • basePoint = 0
    rw [← add_nsmul, Nat.add_sub_of_le hash.2.le, order_nsmul]
  have failed : (verify (.curve generator) [] text).result = .error .degenerate :=
    result_verify_eq_error_iff.mpr ⟨rfl, r, 1,
      readSignature_of_inRange (Hex.writes_encode _) first second,
      (check_eq_degenerate_iff onCurve_generator).mpr ⟨⟨first, second⟩, opposite⟩⟩
  refine ⟨onCurve_generator, twins, failed, ?_⟩
  rw [verify_twin.1 generator [] text twin onCurve_generator twins]
  exact failed

end Keyring.Scheme
