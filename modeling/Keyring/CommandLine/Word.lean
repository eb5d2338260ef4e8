import Keyring.Text.DecimalDigit
import Keyring.Text.Quoted

/-!
The words of a command line, one by one: which of them are flags, which are operands.

A word with a dash in front is a flag when it is spelled like one, when it is the
beginning of exactly one long spelling, or when its first two characters are a short
spelling; what follows an equals sign, or the two characters, is attached to the flag.
Words that look like negative numbers or hold a space are operands all the same. Behind
the word `--` all words are operands.
-/

namespace Keyring.CommandLine

inductive Flag where
  | help
  | key
  | verbose
  deriving DecidableEq, Repr

/-- The spellings of flags, shorter before longer. -/
abbrev Spellings := List (RawText × Flag)

def commonSpellings : Spellings := [
  ("-h", .help), ("--help", .help),
  ("-k", .key), ("--key", .key),
  ("-v", .verbose), ("--verbose", .verbose)]

def commandSpellings : Spellings := [("-h", .help), ("--help", .help)]

/-- A text attached to a flag, behind an equals sign or directly. -/
structure Attached where
  behindEquals : Bool
  text : RawText
  deriving DecidableEq, Repr

inductive Word where
  | operand
  | marker
  /-- A flag, whether its spelling is a short one, and the text attached to it. -/
  | flag (flag : Flag) (short : Bool) (attached : Option Attached)
  /-- It looks like a flag but is none. -/
  | unknown
  deriving DecidableEq, Repr

/-- A word that could be several flags, with their spellings. -/
structure Ambiguity where
  word : RawText
  spellings : List RawText
  deriving DecidableEq, Repr

/-! ## Shapes of words -/

/-- What stands before and behind the first equals sign of a text that has one. -/
def splitAtEquals (text : RawText) : Option (RawText × RawText) :=
  match text.dropWhile (· ≠ .char '=') with
  | [] => none
  | _ :: value => some (text.takeWhile (· ≠ .char '='), value)

def isShort (spelling : RawText) : Bool :=
  spelling[1]? != some (.char '-')

/-- Whether a character is a decimal digit; half of a surrogate pair is none. -/
def isDigit : RawChar → Bool
  | .char c => Text.isDecimalDigit c
  | .stray _ => false

def isDigits (text : RawText) : Bool :=
  !text.isEmpty && text.all isDigit

/-- Whether what follows a dash makes it a negative number: digits, or a point between
possibly no and some digits. A line feed at the end does not count. -/
def isMagnitude (text : RawText) : Bool :=
  let body := if text.getLast? = some (.char '\n') then text.dropLast else text
  isDigits body ||
    match body.dropWhile isDigit with
    | .char '.' :: fraction => isDigits fraction
    | _ => false

/-- The flags that a word can be an abbreviation of, or start with. -/
def candidates (spellings : Spellings) (text : RawText) : List (RawText × Word) :=
  if isShort text then
    spellings.filterMap fun (spelling, flag) =>
      if spelling = text.take 2 then some (spelling, .flag flag true (some ⟨false, text.drop 2⟩))
      else none
  else
    let (name, attached) : RawText × Option Attached := match splitAtEquals text with
      | some (name, value) => (name, some ⟨true, value⟩)
      | none => (text, none)
    spellings.filterMap fun (spelling, flag) =>
      if name.isPrefixOf spelling then some (spelling, .flag flag false attached) else none

/-- The flag that a word spells out before an equals sign. -/
def spelledWithValue? (spellings : Spellings) (text : RawText) : Option Word := do
  let (name, value) ← splitAtEquals text
  let flag ← spellings.lookup name
  return .flag flag (isShort name) (some ⟨true, value⟩)

/-! ## Reading words -/

/-- What a word is that is not `--`. -/
def readWord (spellings : Spellings) (word : RawText) : Except Ambiguity Word :=
  if word.head? ≠ some (.char '-') then .ok .operand
  else match spellings.lookup word with
    | some flag => .ok (.flag flag (isShort word) none)
    | none =>
      if word.length = 1 then .ok .operand
      else match spelledWithValue? spellings word with
        | some found => .ok found
        | none =>
          match candidates spellings word with
          | [(_, found)] => .ok found
          | [] =>
            if isMagnitude (word.drop 1) || word.contains (.char ' ') then .ok .operand
            else .ok .unknown
          | several => .error ⟨word, several.map (·.1)⟩

def readWords (spellings : Spellings) : List RawText → Except Ambiguity (List (RawText × Word))
  | [] => .ok []
  | word :: rest =>
    if word = "--" then .ok ((word, .marker) :: rest.map fun other => (other, .operand))
    else do
      let kind ← readWord spellings word
      return (word, kind) :: (← readWords spellings rest)

end Keyring.CommandLine
