import Keyring.Proofs.Residues
import Mathlib.NumberTheory.LucasPrimality
import Mathlib.Tactic.NormNum.Prime

/-!
The two moduli of the curve are prime.

By Lucas's criterion a number is prime when some residue has the order of a full
multiplicative group, which is checked on the prime factors of the number less one. The
large ones among these factors are shown prime in the same way first, down to numbers
that trial division decides.
-/

namespace Keyring.Curve

/-- The residue of `a` modulo `p` has order `p - 1`, as far as the listed factors of
`p - 1` can tell; a factor is listed as often as it divides. -/
def HasFullOrder (a p : Nat) [IsModulus p] (factors : List Nat) : Prop :=
  factors.prod = p - 1 ∧ power (Fin.ofNat p a) (p - 1) = 1 ∧
    ∀ q ∈ factors, power (Fin.ofNat p a) ((p - 1) / q) ≠ 1

instance (a p : Nat) [IsModulus p] (factors : List Nat) : Decidable (HasFullOrder a p factors) :=
  inferInstanceAs (Decidable (_ ∧ _ ∧ _))

/-- Lucas's criterion, with the factors listed. -/
theorem prime_of_hasFullOrder (a p : Nat) [IsModulus p] (factors : List Nat)
    (primes : ∀ q ∈ factors, q.Prime) (full : HasFullOrder a p factors) : p.Prime := by
  obtain ⟨product, whole, proper⟩ := full
  have power_eq_one : ∀ exponent,
      power (Fin.ofNat p a) exponent = 1 ↔ (a : ZMod p) ^ exponent = 1 := by
    intro exponent
    rw [← residue_inj, residue_power, residue_ofNat, residue_one]
  apply lucas_primality p (a : ZMod p) ((power_eq_one _).mp whole)
  intro q prime divides
  rw [← product, prime.prime.dvd_prod_iff] at divides
  obtain ⟨factor, listed, divides⟩ := divides
  have same : q = factor := (Nat.prime_dvd_prime_iff_eq prime (primes factor listed)).mp divides
  rw [same]
  exact fun one => proper factor listed ((power_eq_one _).mpr one)

instance (n : Nat) : IsModulus (n + 1) := ⟨n.succ_ne_zero⟩

theorem prime_fieldSize : fieldSize.Prime := by
  have p₁ : Nat.Prime 173378833005251801 :=
    prime_of_hasFullOrder 6 _ [2, 2, 2, 5, 5, 2621, 24809, 13331831]
      (by norm_num) (by decide +kernel)
  have p₂ : Nat.Prime 22149492674086928081353 :=
    prime_of_hasFullOrder 5 _ [2, 2, 2, 3, 5323, 173378833005251801]
      (by simp only [List.forall_mem_cons, p₁]; norm_num) (by decide +kernel)
  have p₃ : Nat.Prime 132896956044521568488119 :=
    prime_of_hasFullOrder 6 _ [2, 3, 22149492674086928081353]
      (by simp only [List.forall_mem_cons, p₂]; norm_num) (by decide +kernel)
  have p₄ : Nat.Prime 255515944373312847190720520512484175977 :=
    prime_of_hasFullOrder 3 _
      [2, 2, 2, 7, 7, 11, 1627, 2657, 4423, 41201, 96557, 7240687, 107590001]
      (by norm_num) (by decide +kernel)
  have p₅ : Nat.Prime
      205115282021455665897114700593932402728804164701536103180137503955397371 :=
    prime_of_hasFullOrder 10 _
      [2, 3, 5, 29, 29, 31, 7723, 132896956044521568488119,
        255515944373312847190720520512484175977]
      (by simp only [List.forall_mem_cons, p₃, p₄]; norm_num) (by decide +kernel)
  exact prime_of_hasFullOrder 3 fieldSize
    [2, 3, 7, 13441,
      205115282021455665897114700593932402728804164701536103180137503955397371]
    (by simp only [List.forall_mem_cons, p₅]; norm_num) (by decide +kernel)

theorem prime_order : order.Prime := by
  have p₁ : Nat.Prime 107361793816595537 :=
    prime_of_hasFullOrder 3 _ [2, 2, 2, 2, 16699, 85831, 4681609]
      (by norm_num) (by decide +kernel)
  have p₂ : Nat.Prime 174723607534414371449 :=
    prime_of_hasFullOrder 3 _ [2, 2, 2, 17, 59, 4051, 120233, 44706919]
      (by norm_num) (by decide +kernel)
  have p₃ : Nat.Prime 545358713 :=
    prime_of_hasFullOrder 5 _ [2, 2, 2, 41, 59, 28181] (by norm_num) (by decide +kernel)
  have p₄ : Nat.Prime 297159362677 :=
    prime_of_hasFullOrder 2 _ [2, 2, 3, 3, 11, 461, 1627771] (by norm_num) (by decide +kernel)
  have p₅ : Nat.Prime 29047611873442575647497758179 :=
    prime_of_hasFullOrder 2 _ [2, 293, 305873, 545358713, 297159362677]
      (by simp only [List.forall_mem_cons, p₃, p₄]; norm_num) (by decide +kernel)
  have p₆ : Nat.Prime 341948486974166000522343609283189 :=
    prime_of_hasFullOrder 2 _ [2, 2, 3, 3, 3, 109, 29047611873442575647497758179]
      (by simp only [List.forall_mem_cons, p₅]; norm_num) (by decide +kernel)
  exact prime_of_hasFullOrder 7 order
    [2, 2, 2, 2, 2, 2, 3, 149, 631, 107361793816595537, 174723607534414371449,
      341948486974166000522343609283189]
    (by simp only [List.forall_mem_cons, p₁, p₂, p₆]; norm_num) (by decide +kernel)

instance : Fact fieldSize.Prime := ⟨prime_fieldSize⟩

instance : Fact order.Prime := ⟨prime_order⟩

@[simp] theorem residue_inverse_coordinate (a : Coordinate) :
    residue (inverse a) = (residue a)⁻¹ :=
  residue_inverse (by decide) a

@[simp] theorem residue_inverse_scalar (a : Scalar) : residue (inverse a) = (residue a)⁻¹ :=
  residue_inverse (by decide) a

end Keyring.Curve
