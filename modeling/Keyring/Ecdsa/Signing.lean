import Keyring.Ecdsa.Nonce
import Keyring.Ecdsa.Signature

/-!
Signing: nonces are tried in the order of their generator until one gives numbers other
than zero, and of the signature it makes the lower form is returned.

A nonce fails with negligible probability, and the search goes on for as long as nonces
fail; a search that does not end has no result.
-/

namespace Keyring.Ecdsa

open Curve

/-- The signature that one nonce makes, unless one of its numbers is zero. -/
def signWith (secret : Scalar) (hash nonce : Nat) : Option Signature :=
  match generator.multiple nonce with
  | .infinity => none
  | .affine x _ =>
    let r := x.val % order
    let s := (inverse (Fin.ofNat order nonce)).val * (hash + secret.val * r % order) % order
    if r = 0 ∨ s = 0 then none else some ⟨r, s⟩

/-- Signs with the first nonce of a generator that serves, having passed over `skip` others.
Each attempt starts the generator anew and passes over the nonces that earlier attempts have
found useless. -/
def NonceGenerator.signFrom (generator : NonceGenerator) (secret : Scalar) (hash skip : Nat) :
    Option Signature := do
  let nonce ← generator.pick skip
  match signWith secret hash nonce with
  | some signature => some signature.lower
  | none => generator |>.signFrom secret hash (skip + 1)
partial_fixpoint

def sign (secret : Scalar) (hash : Nat) : Option Signature :=
  (NonceGenerator.seeded secret hash).signFrom secret hash 0

end Keyring.Ecdsa
