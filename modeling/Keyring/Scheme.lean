import Keyring.Ecdsa.Signing
import Keyring.Log
import Keyring.Marked

/-!
The signing scheme: messages are hashed with SHA-256 and signed by ECDSA over secp256k1
with deterministic nonces. Signatures are texts of 128 hexadecimal digits, the two
numbers of the lower form. Keys of other algorithms are refused.
-/

namespace Keyring

open Curve Ecdsa

/-- The scheme as an object: all of them work alike, and each is one of its own. -/
abbrev Context := Marked Unit

namespace Scheme

def shown : String := s!"Secp256k1Context(algorithm={algorithmName})"

def hashValue (message : Bytes) : Nat :=
  Bytes.toNat (Sha256.digest message)

/-! ## Keys the scheme takes -/

def secretOf : PrivateKey → Except Failure Secret
  | .curve secret => .ok secret
  | .foreign key => .error (.foreignPrivate key.algorithm)

def pointOf : PublicKey → Except Failure Point
  | .curve point => .ok point
  | .foreign key => .error (.foreignPublic key.algorithm)

def publicPoint (secret : Secret) : Point :=
  generator.multiple secret.value

def publicKey (key : PrivateKey) : Except Failure PublicKey := do
  let secret ← secretOf key
  return .curve (publicPoint secret)

/-! ## Signing -/

def sign (key : PrivateKey) (message : Bytes) : Except Failure String := do
  let secret ← secretOf key
  match Ecdsa.sign secret.scalar (hashValue message) with
  | some signature => return Hex.encode signature.toBytes
  | none => throw .noNonce

theorem sign_curve (secret : Secret) (message : Bytes) :
    sign (.curve secret) message =
      (Ecdsa.sign secret.scalar (hashValue message)).elim (.error .noNonce)
        fun signature => .ok (Hex.encode signature.toBytes) := by
  rw [sign]
  simp only [secretOf, bind, Except.bind]
  cases Ecdsa.sign secret.scalar (hashValue message) <;> rfl

/-- A key of the curve fails to sign only when the search for a nonce does not end. -/
theorem sign_fails {secret : Secret} {message : Bytes} {failure : Failure}
    (failed : sign (.curve secret) message = .error failure) : failure = .noNonce := by
  rw [sign_curve] at failed
  cases signed : Ecdsa.sign secret.scalar (hashValue message) with
  | some signature => rw [signed] at failed; cases failed
  | none => rw [signed] at failed; cases failed; rfl

/-! ## Verifying -/

/-- Why a text is no signature of a message. -/
inductive Rejection where
  /-- It is not hexadecimal, for the character at the position. -/
  | notHex (position : Nat)
  /-- It writes a wrong number of bytes. -/
  | length (count : Nat)
  /-- It is a signature, but not of this message under this key. -/
  | mismatch
  deriving DecidableEq, Repr

def Rejection.message : Rejection → String
  | notHex position => hexFaultMessage position
  | length count =>
    s!"('Malformed formatting of signature', MalformedSignature('Invalid length of signature, expected 64 bytes long, provided string is {count} bytes long'))"
  | mismatch => "Signature verification failed"

def readSignature (text : String) : Except Rejection Signature :=
  match Hex.decode text.toList with
  | .error position => .error (.notHex position)
  | .ok bytes =>
    match Signature.ofBytes? bytes with
    | none => .error (.length bytes.length)
    | some signature => .ok signature

/-- Checks a text against a message and the point of a public key: accepted, rejected
for a reason, or nothing to compare with. -/
def judge (point : Point) (message : Bytes) (text : String) : Except Failure (Option Rejection) :=
  match readSignature text with
  | .error rejection => .ok (some rejection)
  | .ok signature =>
    match check point (hashValue message) signature with
    | .valid => .ok none
    | .invalid => .ok (some .mismatch)
    | .degenerate => .error .degenerate

/-- Whether a text is a signature of a message under a public key. A rejection is logged. -/
def verify (key : PublicKey) (message : Bytes) (text : String) : Logged Bool := do
  let point ← Logged.lift (pointOf key)
  match ← Logged.lift (judge point message text) with
  | none => return true
  | some rejection =>
    Logged.debug .scheme s!"Signature verification failed: {rejection.message}"
    return false

end Scheme

end Keyring
