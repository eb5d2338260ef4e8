import Keyring.Text.Utf8

/-!
Texts as a process is given them: characters, and halves of surrogate pairs that stand alone.

A command line is bytes, which need not be UTF-8. A byte that belongs to no character comes as
one of the halves `U+DC80` to `U+DCFF` and is the same byte again where the text is handed back to
the system, as the name of a file. In UTF-8 itself no half has bytes, whatever it stands for.
-/

namespace Keyring

/-- A character, or half of a surrogate pair: the one with the given index from `U+D800` on. -/
inductive RawChar where
  | char (c : Char)
  | stray (index : Fin 0x800)
  deriving DecidableEq, Repr

abbrev RawText := List RawChar

instance : Coe Char RawChar := ⟨.char⟩

namespace RawText

@[coe] def ofString (text : String) : RawText :=
  text.toList.map .char

instance : Coe String RawText := ⟨ofString⟩

@[simp] theorem ofString_append (front back : String) :
    ofString (front ++ back) = ofString front ++ ofString back := by
  simp [ofString]

theorem ofString_injective {text text' : String} (same : ofString text = ofString text') :
    text = text' := by
  apply String.toList_injective
  exact List.map_inj_right (fun _ _ => RawChar.char.inj) |>.mp same

end RawText

/-! ## Showing -/

namespace Text

/-- The last `width` hexadecimal digits of a number. -/
def hexDigits : (width : Nat) → (value : Nat) → List Char
  | 0, _ => []
  | width + 1, value => hexDigits width (value / 16) ++ [Hex.digit (value % 16)]

/-- How half of a surrogate pair is written where it cannot be shown: by its code point. -/
def escapedStray (index : Fin 0x800) : List Char :=
  '\\' :: 'u' :: hexDigits 4 (0xD800 + index)

end Text

/-- The text with every stray half escaped, as it is shown on the error channel. -/
def RawText.shown (text : RawText) : String :=
  String.ofList (text.flatMap fun
    | .char c => [c]
    | .stray index => Text.escapedStray index)

/-! ## Encoding -/

/-- Halves of surrogate pairs that have no bytes: the offset of the first in characters, how many
stand there in a row, and the first of them. -/
structure EncodeFault where
  offset : Nat
  count : Nat
  first : Fin 0x800
  deriving DecidableEq, Repr

def EncodeFault.message (fault : EncodeFault) : String :=
  let characters :=
    if fault.count = 1 then
      let shown := String.ofList (Text.escapedStray fault.first)
      s!"character '{shown}' in position {fault.offset}"
    else s!"characters in position {fault.offset}-{fault.offset + fault.count - 1}"
  s!"'utf-8' codec can't encode {characters}: surrogates not allowed"

namespace RawChar

def isStray : RawChar → Bool
  | char _ => false
  | stray _ => true

/-- The byte that a half stands for in what the system gives and takes. -/
def byteOf? (index : Fin 0x800) : Option UInt8 :=
  if 0x480 ≤ index.val ∧ index.val < 0x500 then some (UInt8.ofNat (index - 0x400)) else none

/-- The half that stands for a byte from `0x80` on. -/
def ofByte (byte : UInt8) : RawChar :=
  stray ⟨0x400 + byte.toNat, by have := byte.toNat_lt; omega⟩

end RawChar

namespace RawText

/-- The first half for which there is no byte, if the text has one. Those that follow it directly
are at fault with it, even if there are bytes for them. -/
def faultFrom (byte? : Fin 0x800 → Option UInt8) : (position : Nat) → RawText → Option EncodeFault
  | _, [] => none
  | position, .char _ :: rest => faultFrom byte? (position + 1) rest
  | position, .stray index :: rest =>
    if (byte? index).isSome then faultFrom byte? (position + 1) rest
    else some ⟨position, 1 + (rest.takeWhile RawChar.isStray).length, index⟩

/-- The bytes of the characters, and of the halves for which there is a byte. -/
def bytesWith (byte? : Fin 0x800 → Option UInt8) (text : RawText) : Bytes :=
  text.flatMap fun
    | .char c => String.utf8EncodeChar c
    | .stray index => (byte? index).toList

/-- The text in UTF-8. -/
def encode (text : RawText) : Except EncodeFault Bytes :=
  match text.faultFrom (fun _ => none) 0 with
  | some fault => .error fault
  | none => .ok (text.bytesWith fun _ => none)

/-- Why the text cannot be handed to the system, if it cannot. -/
def systemFault? (text : RawText) : Option EncodeFault :=
  text.faultFrom RawChar.byteOf? 0

/-- The bytes in which the text is handed to the system, if it can be. -/
def systemBytes (text : RawText) : Bytes :=
  text.bytesWith RawChar.byteOf?

theorem systemBytes_append (front back : RawText) :
    systemBytes (front ++ back) = systemBytes front ++ systemBytes back :=
  List.flatMap_append

/-- The text of bytes that the system gives, whether or not they are UTF-8. -/
def ofSystemBytes : Bytes → RawText
  | [] => []
  | byte :: bytes =>
    if byte < 0x80 then .char (Char.ofNat byte.toNat) :: ofSystemBytes bytes
    else match Utf8.lead? byte with
      | none => .ofByte byte :: ofSystemBytes bytes
      | some lead =>
        match h : Utf8.continueFrom lead.share 0 lead.low lead.high lead.following bytes with
        | .broken _ _ => .ofByte byte :: ofSystemBytes bytes
        | .complete codePoint rest =>
          have := Utf8.length_rest_le h
          .char (Char.ofNat codePoint) :: ofSystemBytes rest
  termination_by bytes => bytes.length
  decreasing_by all_goals simp only [List.length_cons]; omega

end RawText

end Keyring
