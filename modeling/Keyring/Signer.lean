import Keyring.Scheme

/-!
Signers: a private key bound to a scheme. A signer gives away signatures and the public
key, which it makes on first demand and keeps; it never gives away the private key.
-/

namespace Keyring

/-- A private key bound to a scheme, with the public key once it has been asked for. -/
structure Signer where
  context : Context
  key : PrivateKey
  kept : Option (Marked PublicKey)

namespace Signer

def ofKey (context : Context) (key : PrivateKey) : Signer :=
  ⟨context, key, none⟩

def shown (_ : Signer) : String := s!"Signer(algorithm={algorithmName})"

def sign (signer : Signer) (message : Bytes) : Except Failure String :=
  Scheme.sign signer.key message

/-- The public key, and the signer that keeps it. A key made now gets the given mark. -/
def publicKey (signer : Signer) (mark : Nat) : Except Failure (Marked PublicKey × Signer) :=
  match signer.kept with
  | some key => .ok (key, signer)
  | none => do
    let key : Marked PublicKey := ⟨mark, ← Scheme.publicKey signer.key⟩
    return (key, { signer with kept := some key })

end Signer

end Keyring
