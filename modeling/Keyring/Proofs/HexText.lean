import Keyring.Bytes.Lemmas
import Keyring.Hex
import Mathlib.Tactic.IntervalCases
import Mathlib.Tactic.Ring

/-!
Which bytes a hexadecimal text writes.

`Hex.Writes` says it by the form of the text alone: pairs of digits of either case, with
ASCII white space before, between and after them. Reading agrees with it on every text
(`decode_eq_ok_iff`), and every byte string is written by its own encoding, in lower case
and two digits a byte. Digits without white space are a numeral of the number that their bytes
write (`Writes.isNumeral`).
-/

namespace Keyring.Hex

/-! ## The form of a text -/

/-- The sixteen digits in order, in lower case. -/
def lowerDigits : List Char :=
  ['0', '1', '2', '3', '4', '5', '6', '7', '8', '9', 'a', 'b', 'c', 'd', 'e', 'f']

/-- The sixteen digits in order, in upper case. -/
def upperDigits : List Char :=
  ['0', '1', '2', '3', '4', '5', '6', '7', '8', '9', 'A', 'B', 'C', 'D', 'E', 'F']

/-- The white space of ASCII. -/
def asciiSpace : List Char := [' ', '\t', '\n', '\x0b', '\x0c', '\r']

/-- `c` is the digit of a number, in either case. -/
def IsDigitOf (c : Char) (value : Nat) : Prop :=
  lowerDigits[value]? = some c ∨ upperDigits[value]? = some c

/-- A text writes bytes as pairs of digits, with white space around the pairs. -/
inductive Writes : List Char → Bytes → Prop
  | empty : Writes [] []
  | space {c : Char} {text : List Char} {bytes : Bytes} :
    c ∈ asciiSpace → Writes text bytes → Writes (c :: text) bytes
  | pair {c d : Char} {high low : Nat} {text : List Char} {bytes : Bytes} :
    IsDigitOf c high → IsDigitOf d low → Writes text bytes →
    Writes (c :: d :: text) (UInt8.ofNat (16 * high + low) :: bytes)

/-! ## Characters -/

instance (c : Char) (value : Nat) : Decidable (IsDigitOf c value) :=
  inferInstanceAs (Decidable (_ ∨ _))

theorem isGap_iff {c : Char} : isGap c = true ↔ c ∈ asciiSpace := by
  constructor
  · intro gap
    simp only [isGap, Bool.or_eq_true, beq_iff_eq, Bool.and_eq_true, decide_eq_true_eq] at gap
    rcases gap with rfl | ⟨low, high⟩
    · decide
    · rw [← Char.ofNat_toNat c]
      generalize c.toNat = n at low high
      interval_cases n <;> decide
  · intro space
    have all : asciiSpace.all isGap = true := by decide
    exact List.all_eq_true.mp all c space

theorem IsDigitOf.mem {c : Char} {value : Nat} (digit : IsDigitOf c value) :
    c ∈ lowerDigits ++ upperDigits :=
  List.mem_append.mpr (digit.imp List.mem_of_getElem? List.mem_of_getElem?)

theorem IsDigitOf.lt {c : Char} {value : Nat} (digit : IsDigitOf c value) : value < 16 := by
  rcases digit with lower | upper
  · exact (List.getElem?_eq_some_iff.mp lower).1
  · exact (List.getElem?_eq_some_iff.mp upper).1

theorem IsDigitOf.ascii {c : Char} {value : Nat} (digit : IsDigitOf c value) : c.toNat < 128 := by
  have all : (lowerDigits ++ upperDigits).all (fun c => c.toNat < 128) = true := by decide
  exact of_decide_eq_true (List.all_eq_true.mp all c digit.mem)

/-- A digit is no white space. -/
theorem IsDigitOf.isGap_eq_false {c : Char} {value : Nat} (digit : IsDigitOf c value) :
    isGap c = false := by
  have all : (lowerDigits ++ upperDigits).all (fun c => !isGap c) = true := by decide
  exact (Bool.not_eq_true' _).mp (List.all_eq_true.mp all c digit.mem)

/-- White space is no digit. -/
theorem isDigit_eq_false_of_mem_asciiSpace {c : Char} (space : c ∈ asciiSpace) :
    isDigit c = false := by
  have all : asciiSpace.all (fun c => !isDigit c) = true := by decide
  exact (Bool.not_eq_true' _).mp (List.all_eq_true.mp all c space)

/-- What is read as a digit is one: both sides are false outside ASCII, and in it they are
compared one by one. -/
theorem digitValue?_eq_some_iff {c : Char} {value : Nat} :
    digitValue? c = some value ↔ IsDigitOf c value := by
  have ascii : ∀ n < 128, ∀ value < 16,
      digitValue? (Char.ofNat n) = some value ↔ IsDigitOf (Char.ofNat n) value := by
    decide +kernel
  constructor
  · intro read
    have small : c.toNat < 128 ∧ value < 16 := by
      simp only [digitValue?] at read
      grind
    have here := ascii c.toNat small.1 value small.2
    rw [Char.ofNat_toNat] at here
    exact here.mp read
  · intro digit
    have here := ascii c.toNat digit.ascii value digit.lt
    rw [Char.ofNat_toNat] at here
    exact here.mpr digit

/-! ## Reading -/

theorem Writes.ascii {text : List Char} {bytes : Bytes} (writes : Writes text bytes) :
    ∀ c ∈ text, c.toNat < 128 := by
  have space : asciiSpace.all (fun c => c.toNat < 128) = true := by decide
  induction writes with
  | empty => exact List.forall_mem_nil _
  | space isSpace _ ih =>
    have here := of_decide_eq_true (List.all_eq_true.mp space _ isSpace)
    exact List.forall_mem_cons.mpr ⟨here, ih⟩
  | pair first second _ ih =>
    exact List.forall_mem_cons.mpr ⟨first.ascii, List.forall_mem_cons.mpr ⟨second.ascii, ih⟩⟩

theorem decodeFrom_space {position : Nat} {c : Char} {text : List Char} (gap : isGap c = true) :
    decodeFrom position (c :: text) = decodeFrom (position + 1) text := by
  rw [decodeFrom.eq_def]
  simp only [if_pos gap]

theorem decodeFrom_pair {position high low : Nat} {c d : Char} {text : List Char}
    (notGap : isGap c = false) (first : digitValue? c = some high)
    (second : digitValue? d = some low) :
    decodeFrom position (c :: d :: text) =
      (UInt8.ofNat (16 * high + low) :: ·) <$> decodeFrom (position + 2) text := by
  rw [decodeFrom.eq_def]
  simp only [notGap, first, second]
  rfl

/-- Reading goes by the form of the text, wherever its positions are counted from. -/
theorem decodeFrom_eq_ok_iff {position : Nat} {text : List Char} {bytes : Bytes} :
    decodeFrom position text = .ok bytes ↔ Writes text bytes := by
  constructor
  · intro read
    fun_induction decodeFrom position text generalizing bytes with
    | case1 => cases read; exact .empty
    | case2 position c rest gap ih => exact .space (isGap_iff.mp gap) (ih read)
    | case3 => cases read
    | case4 => cases read
    | case5 => cases read
    | case6 position c notGap high d rest first low second ih =>
      cases tail : decodeFrom (position + 2) rest with
      | error => rw [tail] at read; cases read
      | ok bytes =>
        rw [tail] at read
        cases read
        exact .pair (digitValue?_eq_some_iff.mp first) (digitValue?_eq_some_iff.mp second)
          (ih tail)
  · intro writes
    induction writes generalizing position with
    | empty => rfl
    | space isSpace _ ih => rw [decodeFrom_space (isGap_iff.mpr isSpace), ih]
    | pair first second _ ih =>
      rw [decodeFrom_pair first.isGap_eq_false (digitValue?_eq_some_iff.mpr first)
        (digitValue?_eq_some_iff.mpr second), ih]
      rfl

/-- Reading succeeds with exactly the bytes that the text writes. -/
theorem decode_eq_ok_iff {text : List Char} {bytes : Bytes} :
    decode text = .ok bytes ↔ Writes text bytes := by
  constructor
  · intro read
    rw [decode] at read
    split at read
    · cases read
    · exact decodeFrom_eq_ok_iff.mp read
  · intro writes
    have noOther : text.findIdx? (fun c => 128 ≤ c.toNat) = none := by
      rw [List.findIdx?_eq_none_iff]
      intro c member
      have ascii := writes.ascii c member
      simpa using ascii
    rw [decode, noOther]
    exact decodeFrom_eq_ok_iff.mpr writes

/-! ## Digits without white space -/

theorem isDigitOf_of_isDigit {c : Char} (digit : isDigit c = true) :
    ∃ value, IsDigitOf c value := by
  obtain ⟨value, read⟩ := Option.isSome_iff_exists.mp digit
  exact ⟨value, digitValue?_eq_some_iff.mp read⟩

theorem isDigit_iff_mem {c : Char} : isDigit c = true ↔ c ∈ lowerDigits ++ upperDigits := by
  constructor
  · intro digit
    obtain ⟨value, digit⟩ := isDigitOf_of_isDigit digit
    exact digit.mem
  · intro member
    have all : (lowerDigits ++ upperDigits).all isDigit = true := by decide
    exact List.all_eq_true.mp all c member

/-- Digits pair up, or the last one is missed at the position behind them. -/
theorem decodeFrom_of_digits {position : Nat} {digits : List Char}
    (all : ∀ c ∈ digits, isDigit c = true) :
    (∃ bytes, decodeFrom position digits = .ok bytes ∧ digits.length = 2 * bytes.length) ∨
      decodeFrom position digits = .error (position + digits.length) ∧ digits.length % 2 = 1 := by
  fun_induction decodeFrom position digits with
  | case1 => exact .inl ⟨[], rfl, rfl⟩
  | case2 position c rest gap =>
    obtain ⟨value, digit⟩ := isDigitOf_of_isDigit (all c List.mem_cons_self)
    rw [digit.isGap_eq_false] at gap
    cases gap
  | case3 position c rest notGap unread =>
    have digit := all c List.mem_cons_self
    rw [isDigit, unread] at digit
    cases digit
  | case4 => exact .inr ⟨rfl, rfl⟩
  | case5 position c notGap high d rest _ unread =>
    have digit := all d (List.mem_cons_of_mem _ List.mem_cons_self)
    rw [isDigit, unread] at digit
    cases digit
  | case6 position c notGap high d rest first low second ih =>
    rcases ih fun c member => all c (List.mem_cons_of_mem _ (List.mem_cons_of_mem _ member))
      with ⟨bytes, read, length⟩ | ⟨read, odd⟩
    · refine .inl ⟨_ :: bytes, by rw [read]; rfl, ?_⟩
      simp only [List.length_cons]
      omega
    · refine .inr ⟨?_, ?_⟩
      · rw [read]
        change Except.error _ = Except.error _
        simp only [List.length_cons]
        congr 1
        omega
      · simp only [List.length_cons]
        omega

/-- Whether digits are read, and as how many bytes, is told by their number. -/
theorem decode_of_digits {digits : List Char} (all : ∀ c ∈ digits, isDigit c = true) :
    (∃ bytes, decode digits = .ok bytes ∧ digits.length = 2 * bytes.length) ∨
      decode digits = .error digits.length ∧ digits.length % 2 = 1 := by
  have ascii : digits.findIdx? (fun c => 128 ≤ c.toNat) = none := by
    rw [List.findIdx?_eq_none_iff]
    intro c member
    obtain ⟨value, digit⟩ := isDigitOf_of_isDigit (all c member)
    simpa using digit.ascii
  have read := @decodeFrom_of_digits 0 digits all
  rw [Nat.zero_add] at read
  rw [decode, ascii]
  exact read

/-! ## Numerals -/

/-- Digits of either case write a number, the most significant first. -/
def IsNumeral (digits : List Char) (value : Nat) : Prop :=
  ∃ values, List.Forall₂ IsDigitOf digits values ∧ value = Nat.ofDigits 16 values.reverse

theorem IsDigitOf.unique {c : Char} {value value' : Nat} (digit : IsDigitOf c value)
    (digit' : IsDigitOf c value') : value = value' := by
  have read := digitValue?_eq_some_iff.mpr digit
  rw [digitValue?_eq_some_iff.mpr digit'] at read
  exact (Option.some.inj read).symm

theorem IsDigitOf.isDigit {c : Char} {value : Nat} (digit : IsDigitOf c value) :
    isDigit c = true :=
  Option.isSome_iff_exists.mpr ⟨value, digitValue?_eq_some_iff.mpr digit⟩

/-- Digits are the numeral of one number. -/
theorem IsNumeral.unique {digits : List Char} {value value' : Nat}
    (numeral : IsNumeral digits value) (numeral' : IsNumeral digits value') : value = value' := by
  obtain ⟨values, all, rfl⟩ := numeral
  obtain ⟨values', all', rfl⟩ := numeral'
  have functional : Relator.RightUnique IsDigitOf := fun _ _ _ => IsDigitOf.unique
  rw [List.right_unique_forall₂' functional all all']

theorem IsNumeral.isDigit {digits : List Char} {value : Nat} (numeral : IsNumeral digits value) :
    ∀ c ∈ digits, isDigit c = true := by
  obtain ⟨values, all, -⟩ := numeral
  induction all with
  | nil => exact List.forall_mem_nil _
  | cons first _ ih => exact List.forall_mem_cons.mpr ⟨first.isDigit, ih⟩

/-- Two digits in front count for as much as one byte in front. -/
theorem ofDigits_pair (high low : Nat) (values : List Nat) :
    Nat.ofDigits 16 (high :: low :: values).reverse =
      (16 * high + low) * 16 ^ values.length + Nat.ofDigits 16 values.reverse := by
  rw [List.reverse_cons, List.reverse_cons, List.append_assoc, Nat.ofDigits_append,
    List.length_reverse]
  simp only [List.singleton_append, Nat.ofDigits_cons, Nat.ofDigits_nil]
  ring

/-- Digits without white space between them are a numeral of the number that their bytes write. -/
theorem Writes.isNumeral {digits : List Char} {bytes : Bytes} (writes : Writes digits bytes)
    (all : ∀ c ∈ digits, Hex.isDigit c = true) :
    digits.length = 2 * bytes.length ∧ IsNumeral digits (Bytes.toNat bytes) := by
  induction writes with
  | empty => exact ⟨rfl, [], .nil, rfl⟩
  | @space c text bytes space _ _ =>
    have digit := all c List.mem_cons_self
    rw [isDigit_eq_false_of_mem_asciiSpace space] at digit
    cases digit
  | @pair c d high low text bytes first second _ ih =>
    obtain ⟨length, values, rest, value⟩ :=
      ih fun c member => all c (List.mem_cons_of_mem _ (List.mem_cons_of_mem _ member))
    refine ⟨?_, high :: low :: values, .cons first (.cons second rest), ?_⟩
    · rw [List.length_cons, List.length_cons, List.length_cons, length]
      omega
    · have small : 16 * high + low < 256 := by
        have := first.lt
        have := second.lt
        omega
      have byte : (UInt8.ofNat (16 * high + low)).toNat = (16 * high + low) % 256 := rfl
      have base : (16 : Nat) ^ 2 = 256 := by norm_num
      rw [Bytes.toNat_cons, byte, Nat.mod_eq_of_lt small, ofDigits_pair, ← value,
        ← rest.length_eq, length, pow_mul, base]

/-! ## Writing -/

theorem isDigitOf_digit {value : Nat} (below : value < 16) : IsDigitOf (digit value) value := by
  have all : ∀ value < 16, IsDigitOf (digit value) value := by decide
  exact all value below

theorem digit_mem_lowerDigits {value : Nat} (below : value < 16) :
    digit value ∈ lowerDigits := by
  have all : ∀ value < 16, digit value ∈ lowerDigits := by decide
  exact all value below

theorem encodeChars_cons (byte : UInt8) (bytes : Bytes) :
    encodeChars (byte :: bytes) =
      digit (byte.toNat / 16) :: digit (byte.toNat % 16) :: encodeChars bytes := rfl

/-- Every byte string is written by its encoding. -/
theorem writes_encodeChars (bytes : Bytes) : Writes (encodeChars bytes) bytes := by
  induction bytes with
  | nil => exact .empty
  | cons byte bytes ih =>
    have below := byte.toNat_lt
    have pair := Writes.pair (isDigitOf_digit (by omega : byte.toNat / 16 < 16))
      (isDigitOf_digit (by omega : byte.toNat % 16 < 16)) ih
    rw [Nat.div_add_mod, UInt8.ofNat_toNat] at pair
    exact pair

/-- Encodings are in lower case. -/
theorem mem_lowerDigits_of_mem_encodeChars {bytes : Bytes} :
    ∀ c ∈ encodeChars bytes, c ∈ lowerDigits := by
  induction bytes with
  | nil => exact List.forall_mem_nil _
  | cons byte bytes ih =>
    have below := byte.toNat_lt
    rw [encodeChars_cons]
    exact List.forall_mem_cons.mpr ⟨digit_mem_lowerDigits (by omega),
      List.forall_mem_cons.mpr ⟨digit_mem_lowerDigits (by omega), ih⟩⟩

/-- The lower case of a digit is the digit that its number is written with. -/
theorem IsDigitOf.toLower_eq {c : Char} {value : Nat} (digit : IsDigitOf c value) :
    c.toLower = Hex.digit value := by
  have all : ∀ value < 16, lowerDigits[value]?.map Char.toLower = some (Hex.digit value) ∧
      upperDigits[value]?.map Char.toLower = some (Hex.digit value) := by decide
  obtain ⟨lower, upper⟩ := all value digit.lt
  rcases digit with found | found
  · rw [found] at lower
    exact Option.some.inj lower
  · rw [found] at upper
    exact Option.some.inj upper

/-- Digits without white space are in lower case the encoding of the bytes that they write. -/
theorem Writes.map_toLower {digits : List Char} {bytes : Bytes} (writes : Writes digits bytes)
    (all : ∀ c ∈ digits, Hex.isDigit c = true) : digits.map Char.toLower = encodeChars bytes := by
  induction writes with
  | empty => rfl
  | @space c text bytes space _ _ =>
    have digit := all c List.mem_cons_self
    rw [isDigit_eq_false_of_mem_asciiSpace space] at digit
    cases digit
  | @pair c d high low text bytes first second _ ih =>
    have rest := ih fun c member => all c (List.mem_cons_of_mem _ (List.mem_cons_of_mem _ member))
    have value : (UInt8.ofNat (16 * high + low)).toNat = (16 * high + low) % 256 := rfl
    have small := first.lt
    have small' := second.lt
    have quotient : (16 * high + low) % 256 / 16 = high := by omega
    have remainder : (16 * high + low) % 256 % 16 = low := by omega
    rw [List.map_cons, List.map_cons, rest, first.toLower_eq, second.toLower_eq, encodeChars_cons,
      value, quotient, remainder]

@[simp] theorem length_encodeChars (bytes : Bytes) :
    (encodeChars bytes).length = 2 * bytes.length := by
  induction bytes with
  | nil => rfl
  | cons byte bytes ih =>
    rw [encodeChars_cons, List.length_cons, List.length_cons, List.length_cons, ih]
    omega

@[simp] theorem toList_encode (bytes : Bytes) : (encode bytes).toList = encodeChars bytes :=
  String.toList_ofList

theorem writes_encode (bytes : Bytes) : Writes (encode bytes).toList bytes := by
  rw [toList_encode]
  exact writes_encodeChars bytes

@[simp] theorem decode_encodeChars (bytes : Bytes) : decode (encodeChars bytes) = .ok bytes :=
  decode_eq_ok_iff.mpr (writes_encodeChars bytes)

end Keyring.Hex
