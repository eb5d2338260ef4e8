import Keyring.Hex

/-!
UTF-8, strictly: no overlong form, no surrogate, nothing above `U+10FFFF`.

`decode` either reads every byte or names the first bytes at fault: the longest valid
beginning of one sequence, or a single byte that begins none.
-/

namespace Keyring.Utf8

inductive Reason where
  /-- The byte begins no sequence. -/
  | start
  /-- The sequence is broken off by a byte that cannot continue it. -/
  | continuation
  /-- The sequence is broken off by the end of the text. -/
  | truncated
  deriving DecidableEq, Repr

/-- Bytes that do not decode: the offset of the first, how many there are, and the first
of them. -/
structure Fault where
  offset : Nat
  count : Nat
  byte : UInt8
  reason : Reason
  deriving DecidableEq, Repr

namespace Fault

def message (fault : Fault) : String :=
  let bytes :=
    if fault.count = 1 then s!"byte 0x{Hex.encode [fault.byte]} in position {fault.offset}"
    else s!"bytes in position {fault.offset}-{fault.offset + fault.count - 1}"
  let reason := match fault.reason with
    | .start => "invalid start byte"
    | .continuation => "invalid continuation byte"
    | .truncated => "unexpected end of data"
  s!"'utf-8' codec can't decode {bytes}: {reason}"

end Fault

def encode (text : String) : Bytes :=
  text.toList.flatMap String.utf8EncodeChar

/-! ## Sequences -/

/-- What a leading byte of a longer sequence promises: its own share of the code point,
how many bytes follow, and the range of the first of these. The narrowed ranges keep out
overlong forms, surrogates and numbers above `U+10FFFF`. -/
structure Lead where
  share : Nat
  following : Nat
  low : UInt8
  high : UInt8

/-- The promise of a leading byte, if it makes one. -/
def lead? (byte : UInt8) : Option Lead :=
  if 0xC2 ≤ byte ∧ byte ≤ 0xDF then some ⟨byte.toNat - 0xC0, 1, 0x80, 0xBF⟩
  else if byte = 0xE0 then some ⟨0, 2, 0xA0, 0xBF⟩
  else if byte = 0xED then some ⟨0xD, 2, 0x80, 0x9F⟩
  else if 0xE1 ≤ byte ∧ byte ≤ 0xEF then some ⟨byte.toNat - 0xE0, 2, 0x80, 0xBF⟩
  else if byte = 0xF0 then some ⟨0, 3, 0x90, 0xBF⟩
  else if byte = 0xF4 then some ⟨4, 3, 0x80, 0x8F⟩
  else if 0xF1 ≤ byte ∧ byte ≤ 0xF3 then some ⟨byte.toNat - 0xF0, 3, 0x80, 0xBF⟩
  else none

/-- How the bytes after a leading byte go on: the code point they complete and what is
left, or how many of them were good and why the next is not. -/
inductive Tail where
  | complete (codePoint : Nat) (rest : Bytes)
  | broken (good : Nat) (reason : Reason)

/-- Reads `following` continuation bytes onto `share`; `good` of them are already read,
and the next has to lie between `low` and `high`. -/
def continueFrom (share good : Nat) (low high : UInt8) : (following : Nat) → Bytes → Tail
  | 0, rest => .complete share rest
  | _ + 1, [] => .broken good .truncated
  | following + 1, byte :: rest =>
    if low ≤ byte ∧ byte ≤ high then
      continueFrom (share * 64 + (byte.toNat - 0x80)) (good + 1) 0x80 0xBF following rest
    else .broken good .continuation

/-- A completed sequence leaves no more bytes than it was given. -/
theorem length_rest_le {share good : Nat} {low high : UInt8} {following : Nat}
    {bytes rest : Bytes} {codePoint : Nat}
    (h : continueFrom share good low high following bytes = .complete codePoint rest) :
    rest.length ≤ bytes.length := by
  induction following generalizing share good low high bytes with
  | zero => simp only [continueFrom, Tail.complete.injEq] at h; simp [h.2]
  | succ following ih =>
    cases bytes with
    | nil => simp [continueFrom] at h
    | cons byte bytes =>
      rw [continueFrom] at h
      split at h
      · exact Nat.le_succ_of_le (ih h)
      · cases h

/-! ## Texts -/

/-- Decodes bytes of which the first stands at `offset`. -/
def decodeFrom (offset : Nat) : Bytes → Except Fault (List Char)
  | [] => .ok []
  | byte :: bytes =>
    if byte < 0x80 then (Char.ofNat byte.toNat :: ·) <$> decodeFrom (offset + 1) bytes
    else match lead? byte with
      | none => .error ⟨offset, 1, byte, .start⟩
      | some lead =>
        match h : continueFrom lead.share 0 lead.low lead.high lead.following bytes with
        | .broken good reason => .error ⟨offset, good + 1, byte, reason⟩
        | .complete codePoint rest =>
          have := length_rest_le h
          (Char.ofNat codePoint :: ·) <$> decodeFrom (offset + 1 + lead.following) rest
  termination_by bytes => bytes.length
  decreasing_by all_goals simp only [List.length_cons]; omega

/-- The characters that bytes write, or the first bytes that write none. -/
def decode (bytes : Bytes) : Except Fault (List Char) :=
  decodeFrom 0 bytes

end Keyring.Utf8
