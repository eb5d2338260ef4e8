import Keyring.Curve.PointEncoding
import Keyring.Hex
import Keyring.Text.Blank

/-!
Private and public keys: of the curve secp256k1, which this library works with, and of
other algorithms, which it only carries.

A private key of the curve is a scalar other than zero, read from 32 bytes; a public key
is a point, read from any of its encodings and written compressed. Keys are shown by
their algorithm (private) or by their bytes (public): no shown form of a private key
depends on its scalar. Public keys are the same when their algorithm and bytes are.
-/

namespace Keyring

open Curve

def algorithmName : String := "secp256k1"

def privateKeySize : Nat := 32

/-! ## What cannot be read as a key -/

/-- Why a text or bytes are no key. -/
inductive KeyFault where
  /-- The text holds something else than hexadecimal digits. -/
  | notHex
  /-- The digits do not pair up; the position is that of the missing one. -/
  | unpaired (position : Nat)
  /-- A private key of a wrong number of bytes. -/
  | privateLength (length : Nat)
  /-- A private key that is no scalar other than zero. -/
  | privateRange
  | publicPoint (fault : PointFault)
  deriving DecidableEq, Repr

/-- The position of a wrong or missing hexadecimal digit, in words. -/
def hexFaultMessage (position : Nat) : String :=
  s!"non-hexadecimal number found in fromhex() arg at position {position}"

namespace KeyFault

/-- The fault in words. None of them depends on the scalar that was refused. -/
def message : KeyFault → String
  | notHex => "Invalid hex: expected only hexadecimal digits"
  | unpaired position => s!"Invalid hex: {hexFaultMessage position}"
  | privateLength length =>
    s!"Invalid private key length: expected {privateKeySize} bytes, got {length}"
  | privateRange =>
    s!"Invalid secp256k1 private key: Invalid value for secexp, expected integer between 1 and {order}"
  | publicPoint fault => s!"Invalid secp256k1 public key: {fault.message}"

end KeyFault

/-- The bytes of a key text: hexadecimal digits in pairs, with white space around them
but not between them. -/
def keyBytes (text : String) : Except KeyFault Bytes :=
  let digits := Text.trim text.toList
  if digits.all Hex.isDigit then
    match Hex.decode digits with
    | .ok bytes => .ok bytes
    | .error position => .error (.unpaired position)
  else .error .notHex

/-- A key of an algorithm that this library does not work with: what it calls itself,
its algorithm, and its bytes. -/
structure ForeignKey where
  kind : String
  algorithm : String
  bytes : Bytes
  deriving DecidableEq, Repr

/-! ## Private keys -/

/-- A private key of the curve: a scalar other than zero. -/
structure Secret where
  value : Nat
  inRange : InRange value
  deriving DecidableEq

namespace Secret

def scalar (secret : Secret) : Scalar :=
  ⟨secret.value, secret.inRange.2⟩

def bytes (secret : Secret) : Bytes :=
  Bytes.ofNat privateKeySize secret.value

def ofBytes (bytes : Bytes) : Except KeyFault Secret :=
  if bytes.length ≠ privateKeySize then .error (.privateLength bytes.length)
  else if h : InRange (Bytes.toNat bytes) then .ok ⟨Bytes.toNat bytes, h⟩
  else .error .privateRange

def ofText (text : String) : Except KeyFault Secret := do
  ofBytes (← keyBytes text)

end Secret

inductive PrivateKey where
  | curve (secret : Secret)
  | foreign (key : ForeignKey)
  deriving DecidableEq

namespace PrivateKey

def algorithm : PrivateKey → String
  | curve _ => algorithmName
  | foreign key => key.algorithm

def bytes : PrivateKey → Bytes
  | curve secret => secret.bytes
  | foreign key => key.bytes

def hex (key : PrivateKey) : String :=
  Hex.encode key.bytes

/-- How a private key shows itself: by its algorithm alone. -/
def shown : PrivateKey → String
  | curve _ => s!"Secp256k1PrivateKey(algorithm={algorithmName})"
  | foreign key => s!"{key.kind}(algorithm={key.algorithm})"

end PrivateKey

/-! ## Public keys -/

inductive PublicKey where
  | curve (point : Point)
  | foreign (key : ForeignKey)
  deriving DecidableEq

namespace PublicKey

def pointOfBytes (bytes : Bytes) : Except KeyFault Point :=
  (decodePoint bytes).mapError .publicPoint

def pointOfText (text : String) : Except KeyFault Point := do
  pointOfBytes (← keyBytes text)

def algorithm : PublicKey → String
  | curve _ => algorithmName
  | foreign key => key.algorithm

/-- The key's bytes; a point is compressed. -/
def bytes : PublicKey → Bytes
  | curve point => point.compressed
  | foreign key => key.bytes

def hex (key : PublicKey) : String :=
  Hex.encode key.bytes

/-- How a public key shows itself: by its bytes. -/
def shown : PublicKey → String
  | curve point => s!"Secp256k1PublicKey({Hex.encode point.compressed})"
  | foreign key => s!"{key.kind}({Hex.encode key.bytes})"

/-- Whether two public keys are the same: in algorithm and bytes. -/
def same (a b : PublicKey) : Bool :=
  a.algorithm == b.algorithm && a.bytes == b.bytes

/-- The hash of a public key, by a hash function on what keys are compared by. -/
def hashBy (hash : String × Bytes → Int) (key : PublicKey) : Int :=
  hash (key.algorithm, key.bytes)

end PublicKey

end Keyring
