import Keyring.Text.Utf8
import Mathlib.Tactic.IntervalCases

/-!
Which bytes are UTF-8.

Bytes are read as a text exactly when they are the encoding of its characters one after
another (`decode_eq_ok_iff`), so every text is read back from its encoding, and bytes that
are not read are the encoding of no text. A line feed behind bytes does not change what
they write, nor whether they write anything: it only turns a sequence that was broken off by
the end into one that is broken off by a byte (`decode_concat_lineFeed`).
-/

namespace Keyring.Utf8

/-! ## The numbers in a sequence

A sequence of several bytes writes a code point in base 64: the leading byte holds the first
digit and the number of those that follow, and each continuation byte holds one digit. -/

/-- The byte that holds a digit behind a leading byte. -/
def digitByte (digit : Nat) : UInt8 := UInt8.ofNat (digit + 128)

theorem toNat_digitByte {digit : Nat} (below : digit < 64) :
    (digitByte digit).toNat = digit + 128 :=
  UInt8.toNat_ofNat_of_lt' (Nat.lt_trans (Nat.add_lt_add_right below 128) (by decide))

/-- One more digit is read from a digit byte within the bounds. -/
theorem continueFrom_succ_eq_complete_iff {share good following codePoint : Nat}
    {low high : UInt8} {bytes rest : Bytes} (least : 128 ≤ low.toNat) (most : high.toNat < 192) :
    continueFrom share good low high (following + 1) bytes = .complete codePoint rest ↔
      ∃ digit tail, bytes = digitByte digit :: tail ∧ digit < 64 ∧
        low.toNat ≤ digit + 128 ∧ digit + 128 ≤ high.toNat ∧
        continueFrom (share * 64 + digit) (good + 1) 0x80 0xBF following tail =
          .complete codePoint rest := by
  constructor
  · intro read
    cases bytes with
    | nil => cases read
    | cons byte tail =>
      rw [continueFrom] at read
      split at read
      case isFalse => cases read
      case isTrue within =>
        rw [UInt8.le_iff_toNat_le, UInt8.le_iff_toNat_le] at within
        refine ⟨byte.toNat - 128, tail, ?_, by omega, by omega, by omega, read⟩
        rw [digitByte, Nat.sub_add_cancel (by omega), UInt8.ofNat_toNat]
  · rintro ⟨digit, tail, rfl, below, lower, upper, read⟩
    have value := toNat_digitByte below
    have within : low ≤ digitByte digit ∧ digitByte digit ≤ high := by
      rw [UInt8.le_iff_toNat_le, UInt8.le_iff_toNat_le, value]
      exact ⟨lower, upper⟩
    rw [continueFrom, if_pos within, value, Nat.add_sub_cancel]
    exact read

section Following

variable {share good codePoint : Nat} {low high : UInt8} {bytes rest : Bytes}

theorem continueFrom_one_eq_complete_iff (least : 128 ≤ low.toNat) (most : high.toNat < 192) :
    continueFrom share good low high 1 bytes = .complete codePoint rest ↔
      ∃ a, bytes = digitByte a :: rest ∧ a < 64 ∧ low.toNat ≤ a + 128 ∧ a + 128 ≤ high.toNat ∧
        codePoint = share * 64 + a := by
  rw [continueFrom_succ_eq_complete_iff least most]
  simp only [continueFrom, Tail.complete.injEq]
  grind

theorem continueFrom_two_eq_complete_iff (least : 128 ≤ low.toNat) (most : high.toNat < 192) :
    continueFrom share good low high 2 bytes = .complete codePoint rest ↔
      ∃ a b, bytes = digitByte a :: digitByte b :: rest ∧ a < 64 ∧ b < 64 ∧
        low.toNat ≤ a + 128 ∧ a + 128 ≤ high.toNat ∧
        codePoint = (share * 64 + a) * 64 + b := by
  rw [continueFrom_succ_eq_complete_iff least most]
  simp only [continueFrom_one_eq_complete_iff (by decide : 128 ≤ (0x80 : UInt8).toNat)
    (by decide : (0xBF : UInt8).toNat < 192)]
  constructor
  · rintro ⟨a, tail, rfl, below, lower, upper, b, rfl, below', -, -, value⟩
    exact ⟨a, b, rfl, below, below', lower, upper, value⟩
  · rintro ⟨a, b, rfl, below, below', lower, upper, value⟩
    exact ⟨a, _, rfl, below, lower, upper, b, rfl, below', Nat.le_add_left 128 b,
      Nat.add_le_add_right (Nat.le_of_lt_succ below') 128, value⟩

theorem continueFrom_three_eq_complete_iff (least : 128 ≤ low.toNat) (most : high.toNat < 192) :
    continueFrom share good low high 3 bytes = .complete codePoint rest ↔
      ∃ a b c, bytes = digitByte a :: digitByte b :: digitByte c :: rest ∧
        a < 64 ∧ b < 64 ∧ c < 64 ∧ low.toNat ≤ a + 128 ∧ a + 128 ≤ high.toNat ∧
        codePoint = ((share * 64 + a) * 64 + b) * 64 + c := by
  rw [continueFrom_succ_eq_complete_iff least most]
  simp only [continueFrom_two_eq_complete_iff (by decide : 128 ≤ (0x80 : UInt8).toNat)
    (by decide : (0xBF : UInt8).toNat < 192)]
  constructor
  · rintro ⟨a, tail, rfl, below, lower, upper, b, c, rfl, below', below'', -, -, value⟩
    exact ⟨a, b, c, rfl, below, below', below'', lower, upper, value⟩
  · rintro ⟨a, b, c, rfl, below, below', below'', lower, upper, value⟩
    exact ⟨a, _, rfl, below, lower, upper, b, c, rfl, below', below'', Nat.le_add_left 128 b,
      Nat.add_le_add_right (Nat.le_of_lt_succ below') 128, value⟩

end Following

/-! ## Leading bytes -/

/-- What a leading byte promises, by the number of bytes that follow. The first digit bounds
the second one where the code point would be written longer than it has to be, or would be a
surrogate or above the last code point. -/
inductive Leads (byte : UInt8) : Lead → Prop
  | two {share : Nat} : byte.toNat = share + 192 → 2 ≤ share → share < 32 →
    Leads byte ⟨share, 1, 0x80, 0xBF⟩
  | three {share : Nat} : byte.toNat = share + 224 → share < 16 →
    Leads byte ⟨share, 2, if share = 0 then 0xA0 else 0x80, if share = 13 then 0x9F else 0xBF⟩
  | four {share : Nat} : byte.toNat = share + 240 → share < 5 →
    Leads byte ⟨share, 3, if share = 0 then 0x90 else 0x80, if share = 4 then 0x8F else 0xBF⟩

theorem leads_of_lead? {byte : UInt8} {lead : Lead} (promised : lead? byte = some lead) :
    Leads byte lead := by
  simp only [lead?, UInt8.le_iff_toNat_le, ← UInt8.toNat_inj, UInt8.reduceToNat] at promised
  split_ifs at promised with two first surrogates three first' last four <;>
    obtain rfl := Option.some.inj promised
  · exact .two (by omega) (by omega) (by omega)
  · exact .three first (by decide)
  · exact .three surrogates (by decide)
  · have leads := @Leads.three byte (byte.toNat - 224) (by omega) (by omega)
    rwa [if_neg (by omega), if_neg (by omega)] at leads
  · exact .four first' (by decide)
  · exact .four last (by decide)
  · have leads := @Leads.four byte (byte.toNat - 240) (by omega) (by omega)
    rwa [if_neg (by omega), if_neg (by omega)] at leads

theorem Leads.least {byte : UInt8} {lead : Lead} (leads : Leads byte lead) :
    128 ≤ lead.low.toNat := by
  cases leads with
  | two =>
    dsimp only
    decide
  | three =>
    dsimp only
    split <;> decide
  | four =>
    dsimp only
    split <;> decide

theorem Leads.most {byte : UInt8} {lead : Lead} (leads : Leads byte lead) :
    lead.high.toNat < 192 := by
  cases leads with
  | two =>
    dsimp only
    decide
  | three =>
    dsimp only
    split <;> decide
  | four =>
    dsimp only
    split <;> decide

theorem lead?_of_leads {byte : UInt8} {lead : Lead} (leads : Leads byte lead) :
    lead? byte = some lead := by
  rw [← @UInt8.ofNat_toNat byte]
  cases leads with
  | @two share value lower upper =>
    rw [value]
    interval_cases share <;> rfl
  | @three share value upper =>
    rw [value]
    interval_cases share <;> rfl
  | @four share value upper =>
    rw [value]
    interval_cases share <;> rfl

/-! ## Encoding a character -/

section EncodeChar

variable {c : Char} {share a b d : Nat}

theorem utf8EncodeChar_of_lt (small : c.toNat < 128) :
    String.utf8EncodeChar c = [UInt8.ofNat c.toNat] := by
  rw [String.utf8EncodeChar.eq_1]
  exact if_pos (Nat.le_of_lt_succ small)

theorem utf8EncodeChar_two (value : c.toNat = share * 64 + a) (lower : 2 ≤ share)
    (upper : share < 32) (first : a < 64) :
    String.utf8EncodeChar c = [UInt8.ofNat (share + 192), digitByte a] := by
  rw [String.utf8EncodeChar.eq_1]
  change c.val.toNat = _ at value
  rw [value, if_neg (by omega), if_pos (by omega), digitByte]
  congr 3 <;> omega

theorem utf8EncodeChar_three (value : c.toNat = (share * 64 + a) * 64 + b) (least : 0x800 ≤ c.toNat)
    (upper : share < 16) (first : a < 64) (second : b < 64) :
    String.utf8EncodeChar c = [UInt8.ofNat (share + 224), digitByte a, digitByte b] := by
  rw [String.utf8EncodeChar.eq_1]
  change c.val.toNat = _ at value
  change 0x800 ≤ c.val.toNat at least
  rw [value] at least ⊢
  rw [if_neg (by omega), if_neg (by omega), if_pos (by omega), digitByte, digitByte]
  congr 4 <;> omega

theorem utf8EncodeChar_four (value : c.toNat = ((share * 64 + a) * 64 + b) * 64 + d)
    (least : 0x10000 ≤ c.toNat) (upper : share < 5) (first : a < 64) (second : b < 64)
    (third : d < 64) :
    String.utf8EncodeChar c =
      [UInt8.ofNat (share + 240), digitByte a, digitByte b, digitByte d] := by
  rw [String.utf8EncodeChar.eq_1]
  change c.val.toNat = _ at value
  change 0x10000 ≤ c.val.toNat at least
  rw [value] at least ⊢
  rw [if_neg (by omega), if_neg (by omega), if_neg (by omega), digitByte, digitByte, digitByte]
  congr 5 <;> omega

end EncodeChar

/-! ## Sequences of several bytes -/

theorem toNat_ofNat_of_isValidChar {codePoint : Nat} (valid : codePoint.isValidChar) :
    (Char.ofNat codePoint).toNat = codePoint := by
  rw [Char.ofNat, dif_pos valid]
  rfl

/-- A byte that is a character by itself is the encoding of it. -/
theorem utf8EncodeChar_of_ascii {byte : UInt8} (small : byte < 0x80) :
    String.utf8EncodeChar (Char.ofNat byte.toNat) = [byte] := by
  have below : byte.toNat < 128 := UInt8.lt_iff_toNat_lt.mp small
  have value : (Char.ofNat byte.toNat).toNat = byte.toNat :=
    toNat_ofNat_of_isValidChar (.inl (Nat.lt_trans below (by decide)))
  rw [utf8EncodeChar_of_lt (by rw [value]; exact below), value, UInt8.ofNat_toNat]

/-- A sequence that is read to its end is the encoding of the character it writes. -/
theorem encodeChar_of_complete {byte : UInt8} {lead : Lead} {bytes rest : Bytes} {codePoint : Nat}
    (leads : Leads byte lead)
    (read : continueFrom lead.share 0 lead.low lead.high lead.following bytes =
      .complete codePoint rest) :
    byte :: bytes = String.utf8EncodeChar (Char.ofNat codePoint) ++ rest := by
  have number := @UInt8.ofNat_toNat byte
  have least := leads.least
  have most := leads.most
  cases leads with
  | @two share value lower upper =>
    obtain ⟨a, rfl, first, -, -, rfl⟩ := (continueFrom_one_eq_complete_iff least most).mp read
    have valid : (share * 64 + a).isValidChar := .inl (by omega)
    have code := toNat_ofNat_of_isValidChar valid
    rw [utf8EncodeChar_two code lower upper first, ← value, number]
    rfl
  | @three share value upper =>
    obtain ⟨a, b, rfl, first, second, low, high, rfl⟩ :=
      (continueFrom_two_eq_complete_iff least most).mp read
    have notShort : share = 0 → 32 ≤ a := by
      rintro rfl
      have bound : 160 ≤ a + 128 := low
      omega
    have notSurrogate : share = 13 → a < 32 := by
      rintro rfl
      have bound : a + 128 ≤ 159 := high
      omega
    have valid : ((share * 64 + a) * 64 + b).isValidChar := by
      by_cases before : share ≤ 13
      · exact .inl (by omega)
      · exact .inr ⟨by omega, by omega⟩
    have code := toNat_ofNat_of_isValidChar valid
    rw [utf8EncodeChar_three code (by omega) upper first second, ← value, number]
    rfl
  | @four share value upper =>
    obtain ⟨a, b, d, rfl, first, second, third, low, high, rfl⟩ :=
      (continueFrom_three_eq_complete_iff least most).mp read
    have notShort : share = 0 → 16 ≤ a := by
      rintro rfl
      have bound : 144 ≤ a + 128 := low
      omega
    have notAbove : share = 4 → a < 16 := by
      rintro rfl
      have bound : a + 128 ≤ 143 := high
      omega
    have valid : (((share * 64 + a) * 64 + b) * 64 + d).isValidChar :=
      .inr ⟨by omega, by omega⟩
    have code := toNat_ofNat_of_isValidChar valid
    rw [utf8EncodeChar_four code (by omega) upper first second third, ← value, number]
    rfl

/-- A number is the share of a leading byte and the digits behind it. -/
theorem exists_digit (value : Nat) : ∃ share digit, value = share * 64 + digit ∧ digit < 64 :=
  ⟨value / 64, value % 64, by omega, by omega⟩

theorem toNat_leadByte {share marker : Nat} (below : share + marker < 256) :
    (UInt8.ofNat (share + marker)).toNat = share + marker :=
  UInt8.toNat_ofNat_of_lt' below

/-- The encoding of a character outside ASCII starts with a leading byte, and what follows is
read to the end of the encoding. -/
theorem complete_of_encodeChar {c : Char} (large : 128 ≤ c.toNat) :
    ∃ byte lead tail, String.utf8EncodeChar c = byte :: tail ∧ Leads byte lead ∧
      ∀ rest, continueFrom lead.share 0 lead.low lead.high lead.following (tail ++ rest) =
        .complete c.toNat rest := by
  have valid : c.toNat.isValidChar := c.valid
  unfold Nat.isValidChar at valid
  rcases Nat.lt_or_ge c.toNat 0x800 with two | atLeastThree
  · obtain ⟨share, a, value, first⟩ := exists_digit c.toNat
    have leads := Leads.two (toNat_leadByte (by omega)) (by omega : 2 ≤ share) (by omega)
    refine ⟨_, _, _, utf8EncodeChar_two value (by omega) (by omega) first, leads, fun rest => ?_⟩
    rw [continueFrom_one_eq_complete_iff leads.least leads.most]
    exact ⟨a, rfl, first, Nat.le_add_left 128 a, by change _ ≤ 191; omega, value⟩
  rcases Nat.lt_or_ge c.toNat 0x10000 with three | four
  · obtain ⟨leading, b, value', second⟩ := exists_digit c.toNat
    obtain ⟨share, a, value, first⟩ := exists_digit leading
    rw [value] at value'
    have leads := Leads.three (toNat_leadByte (by omega)) (by omega : share < 16)
    refine ⟨_, _, _, utf8EncodeChar_three value' atLeastThree (by omega) first second, leads,
      fun rest => ?_⟩
    rw [continueFrom_two_eq_complete_iff leads.least leads.most]
    refine ⟨a, b, rfl, first, second, ?_, ?_, value'⟩
    · dsimp only
      split
      case isTrue zero => change 160 ≤ _; omega
      case isFalse => exact Nat.le_add_left 128 a
    · dsimp only
      split
      case isTrue surrogates => change _ ≤ 159; omega
      case isFalse => change _ ≤ 191; omega
  · obtain ⟨leading, d, value'', third⟩ := exists_digit c.toNat
    obtain ⟨leading', b, value', second⟩ := exists_digit leading
    obtain ⟨share, a, value, first⟩ := exists_digit leading'
    rw [value', value] at value''
    have leads := Leads.four (toNat_leadByte (by omega)) (by omega : share < 5)
    refine ⟨_, _, _, utf8EncodeChar_four value'' four (by omega) first second third, leads,
      fun rest => ?_⟩
    rw [continueFrom_three_eq_complete_iff leads.least leads.most]
    refine ⟨a, b, d, rfl, first, second, third, ?_, ?_, value''⟩
    · dsimp only
      split
      case isTrue zero => change 144 ≤ _; omega
      case isFalse => exact Nat.le_add_left 128 a
    · dsimp only
      split
      case isTrue last => change _ ≤ 143; omega
      case isFalse => change _ ≤ 191; omega

/-! ## What reading does at one sequence -/

section Sequence

variable {offset good codePoint : Nat} {byte : UInt8} {lead : Lead} {bytes rest : Bytes}
  {reason : Reason}

theorem decodeFrom_ascii (small : byte < 0x80) :
    decodeFrom offset (byte :: bytes) =
      (Char.ofNat byte.toNat :: ·) <$> decodeFrom (offset + 1) bytes := by
  rw [decodeFrom, if_pos small]

theorem decodeFrom_start (large : ¬byte < 0x80) (unpromised : lead? byte = none) :
    decodeFrom offset (byte :: bytes) = .error ⟨offset, 1, byte, .start⟩ := by
  rw [decodeFrom, if_neg large]
  simp only [unpromised]

theorem decodeFrom_broken (large : ¬byte < 0x80) (promised : lead? byte = some lead)
    (read : continueFrom lead.share 0 lead.low lead.high lead.following bytes =
      .broken good reason) :
    decodeFrom offset (byte :: bytes) = .error ⟨offset, good + 1, byte, reason⟩ := by
  rw [decodeFrom, if_neg large]
  simp only [promised]
  split
  case h_1 good' reason' read' =>
    rw [read] at read'
    cases read'
    rfl
  case h_2 read' =>
    rw [read] at read'
    cases read'

theorem decodeFrom_complete (large : ¬byte < 0x80) (promised : lead? byte = some lead)
    (read : continueFrom lead.share 0 lead.low lead.high lead.following bytes =
      .complete codePoint rest) :
    decodeFrom offset (byte :: bytes) =
      (Char.ofNat codePoint :: ·) <$> decodeFrom (offset + 1 + lead.following) rest := by
  rw [decodeFrom, if_neg large]
  simp only [promised]
  split
  case h_1 read' =>
    rw [read] at read'
    cases read'
  case h_2 codePoint' rest' read' =>
    rw [read] at read'
    cases read'
    rfl

end Sequence

theorem not_lt_of_leads {byte : UInt8} {lead : Lead} (leads : Leads byte lead) :
    ¬byte < 0x80 := by
  rw [UInt8.lt_iff_toNat_lt, Nat.not_lt]
  change 128 ≤ byte.toNat
  cases leads <;> omega

/-! ## Texts and their encodings -/

/-- The encoding of a text is read as the text, wherever its offsets are counted from. -/
theorem decodeFrom_encoding (text : List Char) (offset : Nat) :
    decodeFrom offset (text.flatMap String.utf8EncodeChar) = .ok text := by
  induction text generalizing offset with
  | nil => rw [List.flatMap_nil, decodeFrom]
  | cons c text ih =>
    rw [List.flatMap_cons]
    rcases Nat.lt_or_ge c.toNat 128 with small | large
    · have value : (UInt8.ofNat c.toNat).toNat = c.toNat :=
        UInt8.toNat_ofNat_of_lt' (Nat.lt_trans small (by decide))
      have ascii : UInt8.ofNat c.toNat < 0x80 := by
        rw [UInt8.lt_iff_toNat_lt, value]
        exact small
      rw [utf8EncodeChar_of_lt small, List.singleton_append, decodeFrom_ascii ascii, ih, value,
        Char.ofNat_toNat]
      rfl
    · obtain ⟨byte, lead, tail, written, leads, read⟩ := complete_of_encodeChar large
      rw [written, List.cons_append,
        decodeFrom_complete (not_lt_of_leads leads) (lead?_of_leads leads) (read _), ih,
        Char.ofNat_toNat]
      rfl

theorem exists_of_map_eq_ok {α β ε : Type} {f : α → β} {result : Except ε α} {value : β}
    (mapped : f <$> result = .ok value) : ∃ before, result = .ok before ∧ f before = value := by
  cases result with
  | error => cases mapped
  | ok before => exact ⟨before, rfl, Except.ok.inj mapped⟩

/-- What is read as a text is its encoding. -/
theorem encoding_of_decodeFrom {offset : Nat} {bytes : Bytes} {text : List Char}
    (read : decodeFrom offset bytes = .ok text) : text.flatMap String.utf8EncodeChar = bytes := by
  fun_induction decodeFrom offset bytes generalizing text with
  | case1 offset =>
    cases read
    rfl
  | case2 offset byte bytes small ih =>
    obtain ⟨tail, readTail, rfl⟩ := exists_of_map_eq_ok read
    rw [List.flatMap_cons, ih readTail, utf8EncodeChar_of_ascii small, List.singleton_append]
  | case3 => cases read
  | case4 => cases read
  | case5 offset byte bytes large lead promised codePoint rest complete shorter ih =>
    obtain ⟨tail, readTail, rfl⟩ := exists_of_map_eq_ok read
    rw [List.flatMap_cons, ih readTail,
      encodeChar_of_complete (leads_of_lead? promised) complete]

/-- Bytes are read as a text exactly when they are its encoding. -/
theorem decode_eq_ok_iff {bytes : Bytes} {text : List Char} :
    decode bytes = .ok text ↔ encode (String.ofList text) = bytes := by
  rw [encode, String.toList_ofList]
  constructor
  · exact encoding_of_decodeFrom
  · rintro rfl
    exact decodeFrom_encoding text 0

theorem decode_encode (text : String) : decode (encode text) = .ok text.toList := by
  rw [decode_eq_ok_iff, String.ofList_toList]

theorem encode_injective : Function.Injective encode := by
  intro a b same
  have read := decode_encode a
  rw [same, decode_encode b] at read
  exact String.toList_injective (Except.ok.inj read).symm

/-- Bytes that are not read are the encoding of no text. -/
theorem exists_decode_eq_error_iff {bytes : Bytes} :
    (∃ fault, decode bytes = .error fault) ↔ ¬∃ text, encode text = bytes := by
  constructor
  · rintro ⟨fault, refused⟩ ⟨text, rfl⟩
    rw [decode_encode] at refused
    cases refused
  · intro unwritten
    cases read : decode bytes with
    | error fault => exact ⟨fault, rfl⟩
    | ok text => exact absurd ⟨String.ofList text, decode_eq_ok_iff.mp read⟩ unwritten

/-! ## A line feed behind the bytes -/

/-- A reason as it is when a line feed stands behind the bytes: what was broken off by their
end is broken off by the line feed. -/
def Reason.beforeLineFeed : Reason → Reason
  | .start => .start
  | .continuation | .truncated => .continuation

def Fault.beforeLineFeed (fault : Fault) : Fault :=
  { fault with reason := fault.reason.beforeLineFeed }

def Tail.beforeLineFeed : Tail → Tail
  | .complete codePoint rest => .complete codePoint (rest ++ [10])
  | .broken good reason => .broken good reason.beforeLineFeed

/-- A line feed continues no sequence. -/
theorem continueFrom_concat_lineFeed {share good following : Nat} {low high : UInt8}
    (bytes : Bytes) (least : 128 ≤ low.toNat) :
    continueFrom share good low high following (bytes ++ [10]) =
      (continueFrom share good low high following bytes).beforeLineFeed := by
  induction following generalizing share good low high bytes with
  | zero => rfl
  | succ following ih =>
    cases bytes with
    | nil =>
      have outside : ¬(low ≤ 10 ∧ (10 : UInt8) ≤ high) := by
        rintro ⟨above, -⟩
        have above : low.toNat ≤ 10 := UInt8.le_iff_toNat_le.mp above
        omega
      rw [List.nil_append, continueFrom, continueFrom, if_neg outside]
      rfl
    | cons byte bytes =>
      rw [List.cons_append, continueFrom, continueFrom]
      split
      case isTrue => exact ih bytes (by decide)
      case isFalse => rfl

/-- Behind a line feed a text ends with it, and bytes that are no text are none for a reason
that is at most told differently. -/
theorem decodeFrom_concat_lineFeed (offset : Nat) (bytes : Bytes) :
    decodeFrom offset (bytes ++ [10]) =
      ((decodeFrom offset bytes).map (· ++ ['\n'])).mapError Fault.beforeLineFeed := by
  fun_induction decodeFrom offset bytes with
  | case1 offset =>
    rw [List.nil_append, decodeFrom_ascii (by decide), decodeFrom]
    rfl
  | case2 offset byte bytes small ih =>
    rw [List.cons_append, decodeFrom_ascii small, ih]
    cases decodeFrom (offset + 1) bytes <;> rfl
  | case3 offset byte bytes large unpromised =>
    rw [List.cons_append, decodeFrom_start large unpromised]
    rfl
  | case4 offset byte bytes large lead promised good reason broken =>
    have behind : continueFrom lead.share 0 lead.low lead.high lead.following (bytes ++ [10]) = _ :=
      continueFrom_concat_lineFeed bytes (leads_of_lead? promised).least
    rw [broken] at behind
    rw [List.cons_append, decodeFrom_broken large promised behind]
    rfl
  | case5 offset byte bytes large lead promised codePoint rest complete shorter ih =>
    have behind : continueFrom lead.share 0 lead.low lead.high lead.following (bytes ++ [10]) = _ :=
      continueFrom_concat_lineFeed bytes (leads_of_lead? promised).least
    rw [complete] at behind
    rw [List.cons_append, decodeFrom_complete large promised behind, ih]
    cases decodeFrom (offset + 1 + lead.following) rest <;> rfl

theorem decode_concat_lineFeed (bytes : Bytes) :
    decode (bytes ++ [10]) =
      ((decode bytes).map (· ++ ['\n'])).mapError Fault.beforeLineFeed :=
  decodeFrom_concat_lineFeed 0 bytes

end Keyring.Utf8
