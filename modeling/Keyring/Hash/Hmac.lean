import Keyring.Hash.Sha256

/-!
HMAC over SHA-256 (RFC 2104): a keyed digest made of two nested ones. Like the digest
below it, a code has 32 bytes whatever the key and the message (`length_code`).
-/

namespace Keyring.Hmac

def blockSize : Nat := 64

/-- The key at the width of a block: hashed first when longer, then filled with zeros. -/
def blockKey (key : Bytes) : Bytes :=
  let short := if key.length ≤ blockSize then key else Sha256.digest key
  short ++ List.replicate (blockSize - short.length) 0

def code (key message : Bytes) : Bytes :=
  let wide := blockKey key
  let inner := Sha256.digest (wide.map (· ^^^ 0x36) ++ message)
  Sha256.digest (wide.map (· ^^^ 0x5C) ++ inner)

@[simp] theorem length_code (key message : Bytes) : (code key message).length = 32 :=
  Sha256.length_digest _

end Keyring.Hmac
