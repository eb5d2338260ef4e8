import Keyring.Failure
import Keyring.Proofs.KeyText

/-!
Which texts are private keys, and why others are not.

What stands between the white space of a text decides alone. It is a private key when it is
sixty-four digits of either case that write a scalar other than zero; the key shows itself in
the same digits in lower case (`Secret.hex_of_ofText`). Otherwise it is refused, for the first of
four reasons that applies (`Secret.ofText_eq_error_iff`): a character that is no digit, a digit
without its pair, a wrong number of bytes, or a number out of range. The two together are the
codec of private keys (`Secret.ofText_reads_or_refuses`).
-/

namespace Keyring

open Curve

namespace Hex

/-- Every character is a digit, of either case. -/
def AllDigits (text : List Char) : Prop :=
  ∀ c ∈ text, c ∈ lowerDigits ++ upperDigits

theorem allDigits_iff {text : List Char} : AllDigits text ↔ ∀ c ∈ text, isDigit c = true :=
  forall₂_congr fun _ _ => isDigit_iff_mem.symm

/-- Digits that pair up are the numeral of some number. -/
theorem exists_isNumeral {digits : List Char} (all : AllDigits digits)
    (even : digits.length % 2 = 0) : ∃ value, IsNumeral digits value := by
  have all := allDigits_iff.mp all
  rcases decode_of_digits all with ⟨bytes, read, -⟩ | ⟨-, odd⟩
  · exact ⟨_, ((decode_eq_ok_iff.mp read).isNumeral all).2⟩
  · omega

end Hex

namespace Secret

/-! ## What is refused -/

/-- Why the text between the white space is no private key: the first of the reasons that
applies. -/
inductive Refuses (core : List Char) : KeyFault → Prop
  | notHex : ¬Hex.AllDigits core → Refuses core .notHex
  | unpaired : Hex.AllDigits core → core.length % 2 = 1 → Refuses core (.unpaired core.length)
  | length {count : Nat} : Hex.AllDigits core → core.length = 2 * count → count ≠ 32 →
    Refuses core (.privateLength count)
  | range {value : Nat} : core.length = 64 → Hex.IsNumeral core value →
    ¬(1 ≤ value ∧ value ≤ order - 1) → Refuses core .privateRange

theorem inRange_iff {value : Nat} : InRange value ↔ 1 ≤ value ∧ value ≤ order - 1 := by
  have positive : 0 < order := by decide
  rw [InRange]
  omega

variable {text : String} {core : List Char} {secret : Secret} {fault : KeyFault}

theorem ofText_of_isCoreOf (isCore : Text.IsCoreOf core text.toList) :
    ofText text = ofText (String.ofList core) := by
  rw [ofText, ofText, keyBytes_of_isCoreOf isCore]

theorem ofText_of_not_allDigits (isCore : Text.IsCoreOf core text.toList)
    (other : ¬Hex.AllDigits core) : ofText text = .error .notHex := by
  have refused : ¬core.all Hex.isDigit = true := fun all =>
    other (Hex.allDigits_iff.mpr (List.all_eq_true.mp all))
  rw [ofText, keyBytes, Text.trim_eq_iff.mpr isCore, if_neg refused]
  rfl

/-- Digits that write no private key are refused for their number. -/
theorem ofText_of_allDigits (isCore : Text.IsCoreOf core text.toList) (digits : Hex.AllDigits core)
    (none : ∀ secret, ofText text ≠ .ok secret) :
    ofText text = .error (.ofCount core.length) := by
  cases read : ofText text with
  | ok secret => exact absurd read (none secret)
  | error fault =>
    rw [ofText_of_isCoreOf isCore] at read
    rw [fault_of_digits (Hex.allDigits_iff.mp digits) read]

theorem refuses_of_ofText (isCore : Text.IsCoreOf core text.toList)
    (refused : ofText text = .error fault) : Refuses core fault := by
  by_cases digits : Hex.AllDigits core
  case neg =>
    rw [ofText_of_not_allDigits isCore digits] at refused
    cases refused
    exact .notHex digits
  case pos =>
    have unread (secret : Secret) : ofText text ≠ .ok secret := by
      intro read
      rw [read] at refused
      cases refused
    rw [ofText_of_allDigits isCore digits unread, KeyFault.ofCount] at refused
    split at refused
    case isTrue odd => cases refused; exact .unpaired digits odd
    case isFalse even =>
      split at refused
      case isTrue wrong => cases refused; exact .length digits (by omega) wrong
      case isFalse right =>
        cases refused
        obtain ⟨value, numeral⟩ := Hex.exists_isNumeral digits (by omega)
        rw [privateKeySize] at right
        have length : core.length = 64 := by omega
        refine .range length numeral fun inRange => ?_
        exact unread ⟨value, inRange_iff.mpr inRange⟩
          ((ofText_eq_ok_iff_of_isCoreOf isCore).mpr ⟨length, numeral⟩)

theorem ofText_ne_ok_of_length (isCore : Text.IsCoreOf core text.toList)
    (other : core.length ≠ 64) (secret : Secret) : ofText text ≠ .ok secret := fun read =>
  other ((ofText_eq_ok_iff_of_isCoreOf isCore).mp read).1

theorem ofText_of_refuses (isCore : Text.IsCoreOf core text.toList)
    (refuses : Refuses core fault) : ofText text = .error fault := by
  cases refuses with
  | notHex other => exact ofText_of_not_allDigits isCore other
  | unpaired digits odd =>
    have unread := ofText_ne_ok_of_length isCore (by omega)
    rw [ofText_of_allDigits isCore digits unread, KeyFault.ofCount, if_pos odd]
  | @length count digits length wrong =>
    have unread := ofText_ne_ok_of_length isCore (by omega)
    have wrong : count ≠ privateKeySize := wrong
    have even : ¬core.length % 2 = 1 := by omega
    have half : core.length / 2 = count := by omega
    rw [ofText_of_allDigits isCore digits unread, KeyFault.ofCount, if_neg even, half, if_pos wrong]
  | @range value length numeral outside =>
    have unread (secret : Secret) : ofText text ≠ .ok secret := by
      intro read
      have same := ((ofText_eq_ok_iff_of_isCoreOf isCore).mp read).2.unique numeral
      exact outside (same ▸ inRange_iff.mp secret.inRange)
    rw [ofText_of_allDigits isCore (Hex.allDigits_iff.mpr numeral.isDigit) unread, length]
    rfl

/-- A text is refused for the first reason that applies to what stands between its white
space. -/
theorem ofText_eq_error_iff (isCore : Text.IsCoreOf core text.toList) :
    ofText text = .error fault ↔ Refuses core fault :=
  ⟨refuses_of_ofText isCore, ofText_of_refuses isCore⟩

/-! ## What is read -/

/-- A private key shows itself in the digits that it was read from, in lower case, and its bytes
are those that they write. -/
theorem hex_of_ofText (isCore : Text.IsCoreOf core text.toList)
    (read : ofText text = .ok secret) :
    (PrivateKey.curve secret).hex = String.ofList (core.map Char.toLower) ∧
      Hex.Writes core secret.bytes := by
  obtain ⟨length, numeral⟩ := (ofText_eq_ok_iff_of_isCoreOf isCore).mp read
  rcases Hex.decode_of_digits numeral.isDigit with ⟨bytes, decoded, twice⟩ | ⟨-, odd⟩
  · have writes := Hex.decode_eq_ok_iff.mp decoded
    have value := (writes.isNumeral numeral.isDigit).2.unique numeral
    have count : bytes.length = privateKeySize := by
      rw [privateKeySize]
      omega
    have same : secret.bytes = bytes := by
      rw [Secret.bytes, ← value, ← count, Bytes.ofNat_toNat]
    rw [PrivateKey.hex, PrivateKey.bytes, same, writes.map_toLower numeral.isDigit]
    exact ⟨rfl, writes⟩
  · omega

/-- After the check for digits, reading them as bytes fails only for want of a last digit. -/
theorem keyBytes_fails_iff_unpaired (isCore : Text.IsCoreOf core text.toList)
    (digits : Hex.AllDigits core) :
    keyBytes text = .error fault ↔ core.length % 2 = 1 ∧ fault = .unpaired core.length := by
  have all := Hex.allDigits_iff.mp digits
  rw [keyBytes_of_isCoreOf isCore, keyBytes_of_digits all]
  rcases Hex.decode_of_digits all with ⟨bytes, read, twice⟩ | ⟨read, odd⟩
  · rw [read]
    constructor
    · intro failed
      cases failed
    · rintro ⟨odd, -⟩
      omega
  · rw [read]
    constructor
    · intro failed
      cases failed
      exact ⟨odd, rfl⟩
    · rintro ⟨-, rfl⟩
      rfl

/-- A text is read as a private key when what stands between its white space is sixty-four digits
of either case whose number is a scalar other than zero. The key shows itself in these digits in
lower case and holds the bytes that they write, and both are read back as the key. Every other
text is refused with a fault of keys, the first that applies; once all characters are digits, they
can be no hexadecimal text only for want of a last one. -/
theorem ofText_reads_or_refuses (text : String) :
    ∃ core, Text.IsCoreOf core text.toList ∧
      ((∃ secret, ofText text = .ok secret) ↔
        core.length = 64 ∧ Hex.AllDigits core ∧
          ∃ value, Hex.IsNumeral core value ∧ 1 ≤ value ∧ value ≤ order - 1) ∧
      (∀ secret, ofText text = .ok secret →
        Hex.IsNumeral core secret.value ∧
        (PrivateKey.curve secret).hex = String.ofList (core.map Char.toLower) ∧
        (PrivateKey.curve secret).hex.length = 64 ∧
        Hex.Writes core secret.bytes ∧ secret.bytes.length = 32 ∧
        ofText (PrivateKey.curve secret).hex = .ok secret ∧ ofBytes secret.bytes = .ok secret) ∧
      (∀ fault, (ofText text = .error fault ↔ Refuses core fault) ∧
        (Failure.key fault).name = "ParseError") ∧
      (Hex.AllDigits core → ∀ fault,
        keyBytes text = .error fault ↔ core.length % 2 = 1 ∧ fault = .unpaired core.length) := by
  have isCore := Text.isCoreOf_trim text.toList
  refine ⟨Text.trim text.toList, isCore, ?_, ?_, fun fault => ⟨ofText_eq_error_iff isCore, rfl⟩,
    fun digits fault => keyBytes_fails_iff_unpaired isCore digits⟩
  · constructor
    · rintro ⟨secret, read⟩
      obtain ⟨length, numeral⟩ := (ofText_eq_ok_iff_of_isCoreOf isCore).mp read
      exact ⟨length, Hex.allDigits_iff.mpr numeral.isDigit, secret.value, numeral,
        inRange_iff.mp secret.inRange⟩
    · rintro ⟨length, -, value, numeral, inRange⟩
      exact ⟨⟨value, inRange_iff.mpr inRange⟩,
        (ofText_eq_ok_iff_of_isCoreOf isCore).mpr ⟨length, numeral⟩⟩
  · intro secret read
    obtain ⟨length, numeral⟩ := (ofText_eq_ok_iff_of_isCoreOf isCore).mp read
    obtain ⟨shown, writes⟩ := hex_of_ofText isCore read
    refine ⟨numeral, shown, ?_, writes, Bytes.length_ofNat _ _, ofText_hex secret,
      ofBytes_bytes secret⟩
    rw [shown, String.length_ofList, List.length_map, length]

/-- The number ten, with leading zeros and in upper case, between white space of two kinds. -/
theorem ofText_padded_ten :
    let text := String.ofList ('\t' :: List.replicate 63 '0' ++ ['A', '\u3000'])
    ∃ secret, ofText text = .ok secret ∧ secret.value = 10 ∧
      (PrivateKey.curve secret).hex = String.ofList (List.replicate 63 '0' ++ ['a']) := by
  intro text
  let digits := List.replicate 63 '0' ++ ['A']
  have numeral : Hex.IsNumeral digits 10 :=
    ⟨List.replicate 63 0 ++ [10], by decide, by decide⟩
  have isCore : Text.IsCoreOf digits text.toList := by
    have solid (c : Char) (member : c ∈ digits) := isBlank_of_isDigit (numeral.isDigit c member)
    have space : ∀ c ∈ ['\t'], Text.isBlank c = true := List.forall_mem_singleton.mpr (by decide)
    have space' : ∀ c ∈ ['\u3000'], Text.isBlank c = true :=
      List.forall_mem_singleton.mpr (by decide)
    rw [String.toList_ofList]
    exact Text.isCoreOf_append space solid space'
  obtain ⟨core, isCore', reads, shows, -⟩ := ofText_reads_or_refuses text
  have same : core = digits :=
    (Text.trim_eq_iff.mpr isCore').symm.trans (Text.trim_eq_iff.mpr isCore)
  rw [same] at reads shows
  obtain ⟨secret, read⟩ := reads.mpr
    ⟨by decide, Hex.allDigits_iff.mpr numeral.isDigit, 10, numeral, by decide, by decide⟩
  obtain ⟨written, shown, -⟩ := shows secret read
  exact ⟨secret, read, written.unique numeral, shown⟩

end Secret

end Keyring
