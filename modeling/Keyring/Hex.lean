import Keyring.Bytes

/-!
Bytes as pairs of hexadecimal digits. `encode` writes lower case without spaces;
`decode` takes either case and allows ASCII white space between pairs, never inside one.
What it refuses, it refuses with the position of the character at fault.
-/

namespace Keyring.Hex

/-! ## Writing -/

/-- The lower-case digit for a number below sixteen. -/
def digit (value : Nat) : Char :=
  if value < 10 then Char.ofNat (48 + value) else Char.ofNat (87 + value)

def encodeChars (bytes : Bytes) : List Char :=
  bytes.flatMap fun byte => [digit (byte.toNat / 16), digit (byte.toNat % 16)]

def encode (bytes : Bytes) : String :=
  String.ofList (encodeChars bytes)

/-! ## Reading -/

def digitValue? (c : Char) : Option Nat :=
  let n := c.toNat
  if 48 ≤ n ∧ n ≤ 57 then some (n - 48)
  else if 65 ≤ n ∧ n ≤ 70 then some (n - 55)
  else if 97 ≤ n ∧ n ≤ 102 then some (n - 87)
  else none

def isDigit (c : Char) : Bool := (digitValue? c).isSome

/-- The white space that may stand between two pairs: the space and `U+0009`–`000D`. -/
def isGap (c : Char) : Bool :=
  c == ' ' || (9 ≤ c.toNat && c.toNat ≤ 13)

/-- Reads pairs from a text whose first character stands at `position`. An unpaired last
digit is refused at the position after it. -/
def decodeFrom (position : Nat) : List Char → Except Nat Bytes
  | [] => .ok []
  | c :: rest =>
    if isGap c then decodeFrom (position + 1) rest
    else match digitValue? c, rest with
      | none, _ => .error position
      | some _, [] => .error (position + 1)
      | some high, d :: rest =>
        match digitValue? d with
        | none => .error (position + 1)
        | some low => (UInt8.ofNat (16 * high + low) :: ·) <$> decodeFrom (position + 2) rest

/-- The bytes a hexadecimal text writes, or the position of what is wrong with it: the
first character outside ASCII, wherever it stands, before any other fault. -/
def decode (text : List Char) : Except Nat Bytes :=
  match text.findIdx? (fun c => 128 ≤ c.toNat) with
  | some position => .error position
  | none => decodeFrom 0 text

end Keyring.Hex
