import Keyring.Proofs.Utf8
import Keyring.Text.Raw

/-!
Texts and their bytes.

A text without stray halves of surrogate pairs is a Unicode text and is encoded as one. In any
other text the first stray half is at fault, so that there are bytes for a text in UTF-8 if and only
if it is a Unicode text (`encode_eq_ok_iff`).

What the system gives can be handed back to it, whatever the bytes (`systemFault?_ofSystemBytes`),
and is the same bytes again (`systemBytes_ofSystemBytes`). In UTF-8 it has these bytes too or, if
they are not UTF-8, none (`encode_ofSystemBytes_eq_ok_iff`).
-/

namespace Keyring.RawText

/-! ## Unicode texts -/

theorem faultFrom_ofString (byte? : Fin 0x800 → Option UInt8) (position : Nat) (text : String) :
    faultFrom byte? position text = none := by
  unfold ofString
  induction text.toList generalizing position with
  | nil => rfl
  | cons c rest ih => exact ih (position + 1)

theorem bytesWith_ofString (byte? : Fin 0x800 → Option UInt8) (text : String) :
    bytesWith byte? text = Utf8.encode text := by
  rw [bytesWith, ofString, List.flatMap_map, Utf8.encode]

/-- The system gets a Unicode text in UTF-8. -/
theorem systemBytes_ofString (text : String) : systemBytes text = Utf8.encode text :=
  bytesWith_ofString _ text

theorem encode_ofString (text : String) : encode text = .ok (Utf8.encode text) := by
  rw [encode, faultFrom_ofString, bytesWith_ofString]

/-- Where no half stands for a byte, only a text without halves has no fault. -/
theorem exists_eq_ofString_of_faultless {text : RawText} {position : Nat}
    (faultless : faultFrom (fun _ => none) position text = none) :
    ∃ unicode : String, text = unicode := by
  induction text generalizing position with
  | nil => exact ⟨"", rfl⟩
  | cons c rest ih =>
    cases c with
    | char c =>
      obtain ⟨unicode, rfl⟩ := ih faultless
      refine ⟨String.ofList (c :: unicode.toList), ?_⟩
      rw [ofString, ofString, String.toList_ofList, List.map_cons]
    | stray index => cases faultless

/-- A text has bytes in UTF-8 when it is a Unicode text. -/
theorem encode_eq_ok_iff {text : RawText} {bytes : Bytes} :
    encode text = .ok bytes ↔ ∃ unicode : String, text = unicode ∧ bytes = Utf8.encode unicode := by
  constructor
  · intro encoded
    cases faulty : faultFrom (fun _ => none) 0 text with
    | some fault => rw [encode, faulty] at encoded; cases encoded
    | none =>
      obtain ⟨unicode, rfl⟩ := exists_eq_ofString_of_faultless faulty
      rw [encode_ofString] at encoded
      cases encoded
      exact ⟨unicode, rfl, rfl⟩
  · intro written
    rcases written with ⟨unicode, rfl, rfl⟩
    exact encode_ofString unicode

/-! ## What the system gives -/

theorem systemBytes_char_cons (c : Char) (rest : RawText) :
    systemBytes (.char c :: rest) = String.utf8EncodeChar c ++ systemBytes rest :=
  rfl

/-- A byte from `0x80` on is the one that its half stands for. -/
theorem byteOf?_ofByte {byte : UInt8} (large : ¬byte < 0x80) (below : 0x400 + byte.toNat < 0x800) :
    RawChar.byteOf? ⟨0x400 + byte.toNat, below⟩ = some byte := by
  have least : 0x80 ≤ byte.toNat := UInt8.le_iff_toNat_le.mp (UInt8.not_lt.mp large)
  have most := byte.toNat_lt
  unfold RawChar.byteOf?
  dsimp only
  rw [if_pos (by omega), Nat.add_sub_cancel_left, UInt8.ofNat_toNat]

theorem systemBytes_ofByte_cons {byte : UInt8} (large : ¬byte < 0x80) (rest : RawText) :
    systemBytes (.ofByte byte :: rest) = byte :: systemBytes rest := by
  change (RawChar.byteOf? _).toList ++ systemBytes rest = _
  rw [byteOf?_ofByte large]
  rfl

theorem faultFrom_ofByte_cons {byte : UInt8} (large : ¬byte < 0x80) (position : Nat)
    (rest : RawText) :
    faultFrom RawChar.byteOf? position (.ofByte byte :: rest) =
      faultFrom RawChar.byteOf? (position + 1) rest := by
  rw [RawChar.ofByte, faultFrom, byteOf?_ofByte large]
  rfl

/-- The system gets back the bytes that it gave. -/
theorem systemBytes_ofSystemBytes (bytes : Bytes) : systemBytes (ofSystemBytes bytes) = bytes := by
  fun_induction ofSystemBytes bytes with
  | case1 => rfl
  | case2 byte bytes small ih =>
    rw [systemBytes_char_cons, ih, Utf8.utf8EncodeChar_of_ascii small, List.singleton_append]
  | case3 byte bytes large unpromised ih => rw [systemBytes_ofByte_cons large, ih]
  | case4 byte bytes large lead promised good reason broken ih =>
    rw [systemBytes_ofByte_cons large, ih]
  | case5 byte bytes large lead promised codePoint rest complete shorter ih =>
    rw [systemBytes_char_cons, ih,
      Utf8.encodeChar_of_complete (Utf8.leads_of_lead? promised) complete]

/-- Whatever the system gives can be handed back to it. -/
theorem systemFault?_ofSystemBytes (bytes : Bytes) : systemFault? (ofSystemBytes bytes) = none := by
  unfold systemFault?
  generalize 0 = position
  fun_induction ofSystemBytes bytes generalizing position with
  | case1 => rfl
  | case2 byte bytes small ih => exact ih (position + 1)
  | case3 byte bytes large unpromised ih =>
    rw [faultFrom_ofByte_cons large]
    exact ih (position + 1)
  | case4 byte bytes large lead promised good reason broken ih =>
    rw [faultFrom_ofByte_cons large]
    exact ih (position + 1)
  | case5 byte bytes large lead promised codePoint rest complete shorter ih =>
    exact ih (position + 1)

/-- Bytes that decode are given as the text that they write. -/
theorem ofSystemBytes_of_decodes {bytes : Bytes} {offset : Nat} {text : List Char}
    (read : Utf8.decodeFrom offset bytes = .ok text) :
    ofSystemBytes bytes = text.map RawChar.char := by
  fun_induction ofSystemBytes bytes generalizing offset text with
  | case1 =>
    rw [Utf8.decodeFrom] at read
    cases read
    rfl
  | case2 byte bytes small ih =>
    rw [Utf8.decodeFrom_ascii small] at read
    obtain ⟨tail, readTail, rfl⟩ := Utf8.exists_of_map_eq_ok read
    rw [ih readTail, List.map_cons]
  | case3 byte bytes large unpromised ih =>
    rw [Utf8.decodeFrom_start large unpromised] at read
    cases read
  | case4 byte bytes large lead promised good reason broken ih =>
    rw [Utf8.decodeFrom_broken large promised broken] at read
    cases read
  | case5 byte bytes large lead promised codePoint rest complete shorter ih =>
    rw [Utf8.decodeFrom_complete large promised complete] at read
    obtain ⟨tail, readTail, rfl⟩ := Utf8.exists_of_map_eq_ok read
    rw [ih readTail, List.map_cons]

/-- The bytes of a Unicode text are given as this text. -/
theorem ofSystemBytes_encode (text : String) : ofSystemBytes (Utf8.encode text) = text :=
  ofSystemBytes_of_decodes (Utf8.decode_encode text)

/-- Of what the system gives, that which is UTF-8 is encoded as it was given, and nothing else is
encoded. -/
theorem encode_ofSystemBytes_eq_ok_iff {given bytes : Bytes} :
    encode (ofSystemBytes given) = .ok bytes ↔
      bytes = given ∧ ∃ text, Utf8.encode text = given := by
  rw [encode_eq_ok_iff]
  constructor
  · intro written
    rcases written with ⟨text, same, rfl⟩
    have back := systemBytes_ofSystemBytes given
    rw [same, systemBytes_ofString] at back
    exact ⟨back, text, back⟩
  · intro written
    rcases written with ⟨rfl, text, rfl⟩
    exact ⟨text, ofSystemBytes_encode text, rfl⟩

end Keyring.RawText
