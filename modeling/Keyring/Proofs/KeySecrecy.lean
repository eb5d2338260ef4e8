import Keyring.Proofs.KeyFile

/-!
What loading tells about a key.

Two files are alike when the first lines of both hold hexadecimal digits, as many in the one
as in the other, which write a key in both or in neither (`Bytes.Alike`). On two disks that
differ in such files alone, every way to load a key leaves the same records and fails with
the same failure; where it succeeds it gives the key of each file (`loadFile_agree`,
`loadKey_agree`, `signer_agree`). The one fact about keys behind this is that digits which
are refused are refused for their number (`Secret.fault_of_digits`).
-/

namespace Keyring

/-! ## Files that are alike -/

namespace Bytes

/-- The first line of a file is a string of hexadecimal digits between white space. -/
def Holds (content : Bytes) (digits : List Char) : Prop :=
  ∃ text, Utf8.encode text = content.line ∧ Text.IsCoreOf digits text.toList ∧
    ∀ c ∈ digits, Hex.isDigit c = true

/-- The digits on the first line of a file write a private key. -/
def HoldsKey (content : Bytes) (secret : Secret) : Prop :=
  ∃ digits, content.Holds digits ∧ Secret.ofText (String.ofList digits) = .ok secret

/-- Two files of which the first lines hold as many digits, which write a private key in both
or in neither. -/
def Alike (one two : Bytes) : Prop :=
  ∃ digits digits', one.Holds digits ∧ two.Holds digits' ∧ digits.length = digits'.length ∧
    ((∃ secret, one.HoldsKey secret) ↔ ∃ secret, two.HoldsKey secret)

/-- A text of digits has no line feed, so it is its own line. -/
theorem line_encode_of_digits {text : String} (all : ∀ c ∈ text.toList, Hex.isDigit c = true) :
    (Utf8.encode text).line = Utf8.encode text := by
  have noLineFeed : (Hex.lowerDigits ++ Hex.upperDigits).all
      (fun c => UInt8.ofNat c.toNat ≠ 10) = true := by decide
  rw [line, List.takeWhile_eq_self_iff, Utf8.encode]
  intro byte member
  obtain ⟨c, digit, written⟩ := List.mem_flatMap.mp member
  obtain ⟨value, digit⟩ := Hex.isDigitOf_of_isDigit (all c digit)
  rw [Utf8.utf8EncodeChar_of_lt digit.ascii, List.mem_singleton] at written
  rw [written]
  exact List.all_eq_true.mp noLineFeed c digit.mem

/-- A file holds one string of digits. -/
theorem Holds.unique {content : Bytes} {digits digits' : List Char} (holds : content.Holds digits)
    (holds' : content.Holds digits') : digits = digits' := by
  obtain ⟨text, written, core, -⟩ := holds
  obtain ⟨text', written', core', -⟩ := holds'
  obtain rfl := Utf8.encode_injective (written.trans written'.symm)
  exact (Text.trim_eq_iff.mpr core).symm.trans (Text.trim_eq_iff.mpr core')

theorem Holds.exists_holdsKey_iff {content : Bytes} {digits : List Char}
    (holds : content.Holds digits) :
    (∃ secret, content.HoldsKey secret) ↔
      ∃ secret, Secret.ofText (String.ofList digits) = .ok secret := by
  constructor
  · rintro ⟨secret, digits', holds', read⟩
    exact ⟨secret, holds.unique holds' ▸ read⟩
  · rintro ⟨secret, read⟩
    exact ⟨secret, digits, holds, read⟩

/-- The text of a private key is a file with its digits, which are sixty-four. -/
theorem holds_hex (secret : Secret) :
    (Utf8.encode (PrivateKey.curve secret).hex).Holds (Hex.encodeChars secret.bytes) := by
  have text : (PrivateKey.curve secret).hex.toList = Hex.encodeChars secret.bytes :=
    Hex.toList_encode _
  have digital : ∀ c ∈ (PrivateKey.curve secret).hex.toList, Hex.isDigit c = true := by
    rw [text]
    exact isDigit_of_mem_encodeChars
  refine ⟨_, (line_encode_of_digits digital).symm, ?_, text ▸ digital⟩
  rw [← Text.trim_eq_iff, Text.trim_eq_self fun c member => isBlank_of_isDigit (digital c member),
    text]

theorem holdsKey_hex (secret : Secret) :
    (Utf8.encode (PrivateKey.curve secret).hex).HoldsKey secret :=
  ⟨_, holds_hex secret, Secret.ofText_hex secret⟩

/-- The texts of any two private keys are alike. -/
theorem alike_hex (secret secret' : Secret) :
    (Utf8.encode (PrivateKey.curve secret).hex).Alike
      (Utf8.encode (PrivateKey.curve secret').hex) := by
  refine ⟨_, _, holds_hex secret, holds_hex secret', ?_,
    fun _ => ⟨_, holdsKey_hex secret'⟩, fun _ => ⟨_, holdsKey_hex secret⟩⟩
  rw [Hex.length_encodeChars, Hex.length_encodeChars, Secret.bytes, Secret.bytes,
    Bytes.length_ofNat, Bytes.length_ofNat]

end Bytes

/-- Two private keys that are the same, or those of two files. -/
inductive PrivateKey.Twins (one two : Bytes) : PrivateKey → PrivateKey → Prop
  | same (key : PrivateKey) : Twins one two key key
  | held {secret secret' : Secret} : one.HoldsKey secret → two.HoldsKey secret' →
    Twins one two (.curve secret) (.curve secret')

theorem PrivateKey.Twins.shown_eq {one two : Bytes} {key key' : PrivateKey}
    (twins : Twins one two key key') : key.shown = key'.shown := by
  cases twins <;> rfl

/-! ## Computations that agree -/

namespace Logged

variable {α β : Type}

/-- What is seen of a computation: its records, and its failure or how its value is shown. -/
def seen (shown : α → String) (logged : Logged α) : List Record × Except Failure String :=
  (logged.records, logged.result.map shown)

/-- Two computations with the same records that fail with the same failure, or succeed with
related values. -/
inductive Agree (related : α → α → Prop) : Logged α → Logged α → Prop
  | failed (records : List Record) (failure : Failure) :
    Agree related ⟨records, .error failure⟩ ⟨records, .error failure⟩
  | done (records : List Record) {value value' : α} : related value value' →
    Agree related ⟨records, .ok value⟩ ⟨records, .ok value'⟩

theorem Agree.refl {related : α → α → Prop} (reflexive : ∀ value, related value value)
    (logged : Logged α) : Agree related logged logged := by
  obtain ⟨records, result⟩ := logged
  cases result with
  | error failure => exact .failed records failure
  | ok value => exact .done records (reflexive value)

/-- Computations that agree can be followed by computations that agree on related values. -/
theorem Agree.bind {related : α → α → Prop} {related' : β → β → Prop} {first second : Logged α}
    {next next' : α → Logged β} (agree : Agree related first second)
    (then_agree : ∀ value value', related value value' →
      Agree related' (next value) (next' value')) :
    Agree related' (first >>= next) (second >>= next') := by
  cases agree with
  | failed records failure => exact .failed records failure
  | @done records value value' values =>
    have after := then_agree value value' values
    change Agree related' ⟨records ++ (next value).records, (next value).result⟩
      ⟨records ++ (next' value').records, (next' value').result⟩
    generalize next value = left, next' value' = right at after ⊢
    cases after with
    | failed records' failure => exact .failed (records ++ records') failure
    | done records' values' => exact .done (records ++ records') values'

/-- What follows one computation agrees when it agrees on every value. -/
theorem Agree.bind_left {related : β → β → Prop} (first : Logged α) {next next' : α → Logged β}
    (then_agree : ∀ value, Agree related (next value) (next' value)) :
    Agree related (first >>= next) (first >>= next') := by
  have same : Agree Eq first first := .refl (fun _ => rfl) first
  refine same.bind ?_
  rintro value _ rfl
  exact then_agree value

/-- Computations that agree look alike when related values are shown alike. -/
theorem Agree.seen_eq {related : α → α → Prop} {first second : Logged α} {shown : α → String}
    (agree : Agree related first second)
    (blind : ∀ value value', related value value' → shown value = shown value') :
    first.seen shown = second.seen shown := by
  cases agree with
  | failed => rfl
  | done records values => rw [seen, seen, Except.map, Except.map, blind _ _ values]

end Logged

/-! ## Disks that differ in alike files -/

/-- Two disks that differ in files alone, with one content on the first and the other on the
second. -/
def Disk.Apart (first second : Disk) (one two : Bytes) : Prop :=
  ∀ path, first.entry path = second.entry path ∨
    first.entry path = .ok (.file one) ∧ second.entry path = .ok (.file two)

/-- The same surroundings with another disk. -/
def Host.on (host : Host) (disk : Disk) : Host := { host with disk }

namespace KeyStore

/-- What loading comes to is decided by what stands at the path. -/
theorem loadFile_congr {first second : Disk} {path : Path}
    (same : first.entry path = second.entry path) : loadFile first path = loadFile second path := by
  have there : first.isThere path = second.isThere path := by
    rw [Disk.isThere, Disk.isThere, same]
  have read : content first path = content second path := by
    rw [content, content, same]
  rw [loadFile, loadFile, readKey, readKey, there, read]

/-- Loading a file with digits on its first line: there are none, or they are read as a key. -/
theorem loadFile_of_holds {disk : Disk} {path : Path} {content : Bytes} {digits : List Char}
    (speakable : Disk.speakable path = true) (there : disk.entry path = .ok (.file content))
    (holds : content.Holds digits) :
    loadFile disk path =
      ⟨[opening path],
        if digits = [] then .error (.load (.blank path))
        else match Secret.ofText (String.ofList digits) with
          | .ok secret => .ok (.curve secret)
          | .error fault => .error (.load (.unparsable path (.key fault)))⟩ := by
  obtain ⟨text, written, core, -⟩ := holds
  have result : (loadFile disk path).result =
      if digits = [] then .error (.load (.blank path))
      else match Secret.ofText (String.ofList digits) with
        | .ok secret => .ok (.curve secret)
        | .error fault => .error (.load (.unparsable path (.key fault))) := by
    split
    case isTrue blank =>
      rw [blank, ← Text.trim_eq_iff, Text.trim_eq_nil_iff] at core
      exact (loadFile_eq_blank_iff speakable there).mpr ⟨text, written, core⟩
    case isFalse nonempty => exact loadFile_of_core speakable there written core nonempty
  rw [loadFile_of_file speakable there] at result ⊢
  exact congrArg _ result

/-- A file whose first line writes a key is loaded as the key. -/
theorem loadFile_of_holdsKey {disk : Disk} {path : Path} {content : Bytes} {secret : Secret}
    (speakable : Disk.speakable path = true) (there : disk.entry path = .ok (.file content))
    (holds : content.HoldsKey secret) : (loadFile disk path).result = .ok (.curve secret) := by
  obtain ⟨digits, holds, read⟩ := holds
  have nonempty : digits ≠ [] := by
    rintro rfl
    cases read
  rw [loadFile_of_holds speakable there holds, if_neg nonempty, read]

/-- Loading one of two files that are alike makes the same record and fails for the same
reason, or gives the key that each of them holds. -/
theorem agree_of_alike {first second : Disk} {path : Path} {one two : Bytes}
    (speakable : Disk.speakable path = true) (here : first.entry path = .ok (.file one))
    (there : second.entry path = .ok (.file two)) (alike : one.Alike two) :
    Logged.Agree (PrivateKey.Twins one two) (loadFile first path) (loadFile second path) := by
  obtain ⟨digits, digits', holds, holds', length, both⟩ := alike
  rw [holds.exists_holdsKey_iff, holds'.exists_holdsKey_iff] at both
  rw [loadFile_of_holds speakable here holds, loadFile_of_holds speakable there holds']
  have together : digits = [] ↔ digits' = [] := by
    rw [← List.length_eq_zero_iff, length, List.length_eq_zero_iff]
  by_cases blank : digits = []
  · rw [if_pos blank, if_pos (together.mp blank)]
    exact .failed _ _
  rw [if_neg blank, if_neg (mt together.mpr blank)]
  cases read : Secret.ofText (String.ofList digits) with
  | ok secret =>
    obtain ⟨secret', read'⟩ := both.mp ⟨secret, read⟩
    rw [read']
    exact .done _ (.held ⟨digits, holds, read⟩ ⟨digits', holds', read'⟩)
  | error fault =>
    cases read' : Secret.ofText (String.ofList digits') with
    | ok secret' =>
      obtain ⟨secret, read''⟩ := both.mpr ⟨secret', read'⟩
      rw [read] at read''
      cases read''
    | error fault' =>
      obtain ⟨_, _, _, digital⟩ := holds
      obtain ⟨_, _, _, digital'⟩ := holds'
      -- The two faults are one: each is told by the number of digits.
      rw [Secret.fault_of_digits digital read, Secret.fault_of_digits digital' read', length]
      exact .failed _ _

section Apart

variable {first second : Disk} {one two : Bytes}

theorem loadFile_agree (apart : first.Apart second one two) (alike : one.Alike two)
    (path : Path) :
    Logged.Agree (PrivateKey.Twins one two) (loadFile first path) (loadFile second path) := by
  rcases apart path with same | ⟨here, there⟩
  · rw [loadFile_congr same]
    exact .refl .same _
  · cases speakable : Disk.speakable path with
    | true => exact agree_of_alike speakable here there alike
    | false =>
      rw [loadFile_of_unspeakable speakable, loadFile_of_unspeakable speakable]
      exact .failed _ _

/-- Which file is loaded is settled without the disk. -/
theorem loadKey_agree (apart : first.Apart second one two) (alike : one.Alike two)
    (store : KeyStore) (host : Host) (given : Option RawText) :
    Logged.Agree (PrivateKey.Twins one two) (store.loadKey (host.on first) given)
      (store.loadKey (host.on second) given) := by
  have chosen : store.chooseName (host.on first) given = store.chooseName (host.on second) given :=
    rfl
  have found (name : RawText) :
      store.keyPath (host.on first) name = store.keyPath (host.on second) name := rfl
  rw [loadKey, loadKey, chosen]
  refine .bind_left _ fun name => ?_
  rw [found]
  exact .bind_left _ fun path => loadFile_agree apart alike path

/-- Two signers of one store are related by their keys. -/
def SignerTwins (store : KeyStore) (one two : Bytes) (signer signer' : Signer) : Prop :=
  ∃ key key', PrivateKey.Twins one two key key' ∧
    signer = Signer.ofKey store.context key ∧ signer' = Signer.ofKey store.context key'

theorem signer_agree (apart : first.Apart second one two) (alike : one.Alike two)
    (store : KeyStore) (host : Host) (given : Option RawText) :
    Logged.Agree (store.SignerTwins one two) (store.signer (host.on first) given)
      (store.signer (host.on second) given) := by
  refine .bind (loadKey_agree apart alike store host given) ?_
  intro key key' twins
  exact .done [] ⟨key, key', twins, rfl, rfl⟩

end Apart

end KeyStore

end Keyring
