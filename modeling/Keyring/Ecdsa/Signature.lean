import Keyring.Bytes
import Keyring.Curve.Secp256k1

/-!
ECDSA signatures and the equation that accepts them.

A signature is a pair of numbers, written as two numbers of 32 bytes each. `check` tells
whether a pair signs a hash value under a point, with `r` compared to the abscissa of
`(e/s)·G + (r/s)·Q` modulo the group order; a pair and its twin, in which `s` is replaced
by `order - s`, are accepted alike.
-/

namespace Keyring.Ecdsa

open Curve

/-- A signature: two numbers, which a signer makes scalars other than zero. -/
structure Signature where
  r : Nat
  s : Nat
  deriving DecidableEq, Repr

namespace Signature

def toBytes (signature : Signature) : Bytes :=
  Bytes.ofNat 32 signature.r ++ Bytes.ofNat 32 signature.s

def ofBytes? (bytes : Bytes) : Option Signature :=
  if bytes.length = 64 then some ⟨Bytes.toNat (bytes.take 32), Bytes.toNat (bytes.drop 32)⟩
  else none

/-- Of a signature and its twin the one with the lower `s`. -/
def lower (signature : Signature) : Signature :=
  if signature.s > order / 2 then { signature with s := order - signature.s } else signature

end Signature

inductive Verdict where
  | valid
  | invalid
  /-- The two multiples cancel: their sum has no abscissa to compare with. -/
  | degenerate
  deriving DecidableEq, Repr

def check (point : Point) (hash : Nat) (signature : Signature) : Verdict :=
  if InRange signature.r ∧ InRange signature.s then
    let reciprocal := (inverse (Fin.ofNat order signature.s)).val
    let u₁ := hash * reciprocal % order
    let u₂ := signature.r * reciprocal % order
    match (generator.multiple u₁).add (point.multiple u₂) with
    | .infinity => .degenerate
    | .affine x _ => if x.val % order = signature.r then .valid else .invalid
  else .invalid

end Keyring.Ecdsa
