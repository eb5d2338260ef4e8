import Keyring.Bytes.Lemmas
import Keyring.Key
import Keyring.Proofs.HexText
import Keyring.Proofs.Trimming

/-!
Key texts of hexadecimal digits.

No digit is white space, so a text of digits is read digit by digit (`keyBytes_of_digits`).
A text is that of a private key when sixty-four digits stand between its white space, which
write a scalar other than zero (`Secret.ofText_eq_ok_iff`). The text of a private key is read
back as the key (`Secret.ofText_hex`), and digits that write none are refused for their number
alone (`Secret.fault_of_digits`).
-/

namespace Keyring

theorem isBlank_of_isDigit {c : Char} (digit : Hex.isDigit c = true) : Text.isBlank c = false := by
  have all : (Hex.lowerDigits ++ Hex.upperDigits).all (fun c => !Text.isBlank c) = true := by
    decide
  obtain ⟨value, digit⟩ := Hex.isDigitOf_of_isDigit digit
  exact (Bool.not_eq_true' _).mp (List.all_eq_true.mp all c digit.mem)

/-- Nothing is trimmed from digits, so only a digit without its pair can be wrong with them. -/
theorem keyBytes_of_digits {digits : List Char} (all : ∀ c ∈ digits, Hex.isDigit c = true) :
    keyBytes (String.ofList digits) = (Hex.decode digits).mapError .unpaired := by
  have trimmed : Text.trim digits = digits :=
    Text.trim_eq_self fun c member => isBlank_of_isDigit (all c member)
  rw [keyBytes, String.toList_ofList, trimmed, if_pos (List.all_eq_true.mpr all)]
  cases Hex.decode digits <;> rfl

/-- A key text is read as what stands between its white space. -/
theorem keyBytes_of_isCoreOf {text : String} {core : List Char}
    (isCore : Text.IsCoreOf core text.toList) : keyBytes text = keyBytes (String.ofList core) := by
  rw [keyBytes, keyBytes, String.toList_ofList, Text.trim_eq_iff.mpr isCore,
    Text.trim_eq_iff.mpr isCore.itself]

/-- A text is read as the bytes that the digits between its white space write. -/
theorem keyBytes_eq_ok_iff {text : String} {bytes : Bytes} :
    keyBytes text = .ok bytes ↔
      ∃ digits, Text.IsCoreOf digits text.toList ∧ (∀ c ∈ digits, Hex.isDigit c = true) ∧
        Hex.Writes digits bytes := by
  constructor
  · intro read
    refine ⟨Text.trim text.toList, Text.isCoreOf_trim _, ?_⟩
    rw [keyBytes] at read
    split at read
    case isFalse => cases read
    case isTrue all =>
      split at read
      case h_1 decoded =>
        cases read
        exact ⟨List.all_eq_true.mp all, Hex.decode_eq_ok_iff.mp decoded⟩
      case h_2 => cases read
  · rintro ⟨digits, core, all, writes⟩
    rw [keyBytes, Text.trim_eq_iff.mpr core, if_pos (List.all_eq_true.mpr all),
      Hex.decode_eq_ok_iff.mpr writes]

/-! ## Private keys -/

namespace Secret

theorem ofBytes_eq_ok_iff {bytes : Bytes} {secret : Secret} :
    ofBytes bytes = .ok secret ↔
      bytes.length = privateKeySize ∧ Bytes.toNat bytes = secret.value := by
  rw [ofBytes]
  constructor
  · intro read
    split at read
    case isTrue => cases read
    case isFalse length =>
      split at read
      case isTrue => cases read; exact ⟨not_not.mp length, rfl⟩
      case isFalse => cases read
  · obtain ⟨value, inRange⟩ := secret
    rintro ⟨length, rfl⟩
    rw [if_neg (not_not_intro length), dif_pos inRange]

/-- A text is read as a private key when sixty-four digits stand between its white space and
write the scalar. -/
theorem ofText_eq_ok_iff {text : String} {secret : Secret} :
    ofText text = .ok secret ↔
      ∃ digits, Text.IsCoreOf digits text.toList ∧ digits.length = 64 ∧
        Hex.IsNumeral digits secret.value := by
  constructor
  · intro read
    cases written : keyBytes text with
    | error fault => rw [ofText, written] at read; cases read
    | ok bytes =>
      rw [ofText, written] at read
      obtain ⟨length, value⟩ := ofBytes_eq_ok_iff.mp read
      obtain ⟨digits, core, all, writes⟩ := keyBytes_eq_ok_iff.mp written
      obtain ⟨twice, numeral⟩ := writes.isNumeral all
      rw [length] at twice
      exact ⟨digits, core, twice, value ▸ numeral⟩
  · rintro ⟨digits, core, length, numeral⟩
    rcases Hex.decode_of_digits numeral.isDigit with ⟨bytes, decoded, twice⟩ | ⟨-, odd⟩
    · have writes := Hex.decode_eq_ok_iff.mp decoded
      have read := keyBytes_eq_ok_iff.mpr ⟨digits, core, numeral.isDigit, writes⟩
      have half : bytes.length = privateKeySize := by
        rw [privateKeySize]
        omega
      rw [ofText, read]
      exact ofBytes_eq_ok_iff.mpr ⟨half, (writes.isNumeral numeral.isDigit).2.unique numeral⟩
    · omega

/-- What stands between the white space of a text decides whether the text is a private key. -/
theorem ofText_eq_ok_iff_of_isCoreOf {text : String} {core : List Char} {secret : Secret}
    (isCore : Text.IsCoreOf core text.toList) :
    ofText text = .ok secret ↔ core.length = 64 ∧ Hex.IsNumeral core secret.value := by
  rw [ofText_eq_ok_iff]
  constructor
  · rintro ⟨digits, isCore', written⟩
    rwa [← Text.trim_eq_iff.mpr isCore, Text.trim_eq_iff.mpr isCore']
  · intro written
    exact ⟨core, isCore, written⟩

end Secret

/-! ## Reading back -/

theorem isDigit_of_mem_encodeChars {bytes : Bytes} :
    ∀ c ∈ Hex.encodeChars bytes, Hex.isDigit c = true := by
  have all : Hex.lowerDigits.all Hex.isDigit = true := by decide
  exact fun c member =>
    List.all_eq_true.mp all c (Hex.mem_lowerDigits_of_mem_encodeChars c member)

/-- Every byte string is read back from its encoding as a key text. -/
theorem keyBytes_encode (bytes : Bytes) : keyBytes (Hex.encode bytes) = .ok bytes := by
  rw [Hex.encode, keyBytes_of_digits isDigit_of_mem_encodeChars, Hex.decode_encodeChars]
  rfl

namespace Secret

theorem ofText_of_keyBytes {text : String} {bytes : Bytes} (read : keyBytes text = .ok bytes) :
    ofText text = ofBytes bytes := by
  rw [ofText, read]
  rfl

theorem ofBytes_bytes (secret : Secret) : ofBytes secret.bytes = .ok secret := by
  have small : secret.value < 256 ^ privateKeySize := secret.inRange.2.trans (by decide)
  have value : Bytes.toNat secret.bytes = secret.value := Bytes.toNat_ofNat small
  have length : secret.bytes.length = privateKeySize := Bytes.length_ofNat _ _
  rw [ofBytes, if_neg (not_not_intro length)]
  simp only [value, secret.inRange, dite_true]

/-- A private key is read back from its text. -/
theorem ofText_hex (secret : Secret) : ofText (PrivateKey.curve secret).hex = .ok secret := by
  rw [PrivateKey.hex, ofText_of_keyBytes (keyBytes_encode _), PrivateKey.bytes, ofBytes_bytes]

end Secret

/-! ## Digits that are refused -/

/-- Why digits that write no private key are refused, as far as their number tells. -/
def KeyFault.ofCount (count : Nat) : KeyFault :=
  if count % 2 = 1 then .unpaired count
  else if count / 2 ≠ privateKeySize then .privateLength (count / 2)
  else .privateRange

/-- Digits that write no private key are refused for their number alone. -/
theorem Secret.fault_of_digits {digits : List Char} {fault : KeyFault}
    (all : ∀ c ∈ digits, Hex.isDigit c = true)
    (refused : ofText (String.ofList digits) = .error fault) :
    fault = .ofCount digits.length := by
  have written := keyBytes_of_digits all
  rcases Hex.decode_of_digits all with ⟨bytes, read, length⟩ | ⟨read, odd⟩
  · rw [read] at written
    rw [ofText_of_keyBytes written] at refused
    have even : ¬digits.length % 2 = 1 := by omega
    have half : digits.length / 2 = bytes.length := by omega
    rw [KeyFault.ofCount, if_neg even, half]
    rw [ofBytes] at refused
    split at refused
    case isTrue wrong => cases refused; rw [if_pos wrong]
    case isFalse right =>
      rw [if_neg right]
      split at refused <;> cases refused
      rfl
  · rw [ofText, written, read] at refused
    cases refused
    rw [KeyFault.ofCount, if_pos odd]

end Keyring
