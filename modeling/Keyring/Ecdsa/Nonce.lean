import Keyring.Curve.Secp256k1
import Keyring.Hash.Hmac

/-!
Deterministic nonces (RFC 6979): a generator seeded with the private scalar and the hash
value, whose output is read in blocks of 32 bytes. A block in range is a nonce; others
are passed over. A caller for whom a nonce turns out useless asks again for the one
after it, counting only nonces in range.
-/

namespace Keyring.Ecdsa

open Curve

/-- The state of the generator: the key of the code it runs on, and its last output. -/
structure NonceGenerator where
  key : Bytes
  value : Bytes

namespace NonceGenerator

/-- Stirs data into the state, behind a byte that tells the occasion. -/
def stir (generator : NonceGenerator) (occasion : UInt8) (data : Bytes) : NonceGenerator :=
  let key := Hmac.code generator.key (generator.value ++ occasion :: data)
  ⟨key, Hmac.code key generator.value⟩

/-- A hash value brought below the group order. One subtraction is enough, as twice the
order has more than 256 bits. -/
def reduceHash (hash : Nat) : Nat :=
  if order ≤ hash then hash - order else hash

/-- The generator for a private scalar and a hash value of 256 bits. -/
def seeded (secret : Scalar) (hash : Nat) : NonceGenerator :=
  let seed := Bytes.ofNat 32 secret.val ++ Bytes.ofNat 32 (reduceHash hash)
  let blank : NonceGenerator := ⟨List.replicate 32 0, List.replicate 32 1⟩
  (blank.stir 0 seed).stir 1 seed

/-- The next 32 bytes of output as a number, and the state after them. -/
def draw (generator : NonceGenerator) : Nat × NonceGenerator :=
  let value := Hmac.code generator.key generator.value
  (Bytes.toNat value, stir { generator with value } 0 [])

/-- The first number in range after `skip` others in range. The search is not bounded;
it has no result only when there is no such number in the output. -/
def pick (skip : Nat) (generator : NonceGenerator) : Option Nat :=
  let (candidate, next) := generator.draw
  if InRange candidate then
    match skip with
    | 0 => some candidate
    | skip + 1 => next |>.pick skip
  else next |>.pick skip
partial_fixpoint

end NonceGenerator

end Keyring.Ecdsa
