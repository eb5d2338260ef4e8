import Keyring.CommandLine.Word

/-!
Command lines: flags, then a command with its own flags and operands.

`parse` gives the arguments of a run, or the reason why there is none: help was asked
for, or the words do not fit together. Words are read from left to right and the first
fault counts, except that an ambiguous word is noticed before all else, and words that
nothing wanted are noticed last.
-/

namespace Keyring.CommandLine

inductive Command where
  | publicKey
  /-- Sign a message, given as it stands on the command line. -/
  | sign (message : RawText)
  deriving DecidableEq, Repr

structure Arguments where
  key : Option RawText
  verbose : Bool
  command : Command
  deriving DecidableEq, Repr

/-- The part of the command line that help or a fault is about. -/
inductive Part where
  | common
  | publicKey
  | sign
  deriving DecidableEq, Repr

/-- Why words do not fit together. -/
inductive Misuse where
  | ambiguous (ambiguity : Ambiguity)
  /-- A value is attached to a flag that takes none. -/
  | attached (flag : Flag) (value : RawText)
  /-- A flag stands without its value. -/
  | noValue (flag : Flag)
  | unknownCommand (word : RawText)
  /-- An operand is missing. -/
  | missing (operand : String)
  /-- Words that nothing wanted. -/
  | leftOver (words : List RawText)
  deriving DecidableEq, Repr

/-- Why there are no arguments. -/
inductive Stop where
  | help (part : Part)
  | misuse (part : Part) (misuse : Misuse)
  deriving DecidableEq, Repr

/-! ## Flags -/

/-- One thing that a flag settles. -/
inductive Choice where
  | help
  | key (name : RawText)
  | verbose
  /-- Letters attached to the flag that are no flags themselves: a word that nothing wants. -/
  | leave (word : RawText)
  deriving DecidableEq, Repr

/-- What the flag settles by itself, if it takes no value. -/
def Flag.choice? : Flag → Option Choice
  | .help => some .help
  | .verbose => some .verbose
  | .key => none

/-- What a flag with nothing attached settles, and whether it takes its value from the next
word. -/
def Flag.settle (flag : Flag) : List Choice × Bool :=
  match flag.choice? with
  | some choice => ([choice], false)
  | none => ([], true)

/-- What a flag with attached text settles, and whether it ends in a flag that takes its
value from the next word. To a short flag without a value more short flags can be
attached, but not behind an equals sign; letters that are none are left. -/
def settle (spellings : Spellings) (flag : Flag) (short behindEquals : Bool) :
    (attached : RawText) → Except Misuse (List Choice × Bool)
  | [] =>
    match flag.choice? with
    | none => .ok ([.key ""], false)
    | some _ => .error (.attached flag "")
  | c :: more =>
    match flag.choice? with
    | none => .ok ([.key (c :: more)], false)
    | some choice =>
      if short && !behindEquals && c != .char '-' then
        match spellings.lookup [.char '-', c] with
        | none => .ok ([choice, .leave (.char '-' :: c :: more)], false)
        | some next => do
          let (choices, wantsValue) ← match more with
            | [] => .ok next.settle
            | .char '=' :: value => settle spellings next true true value
            | more => settle spellings next true false more
          return (choice :: choices, wantsValue)
      else .error (.attached flag (c :: more))

/-- What a flag settles with the text attached to it, or without one. -/
def settleFlag (spellings : Spellings) (flag : Flag) (short : Bool) :
    (attached : Option Attached) → Except Misuse (List Choice × Bool)
  | some attached => settle spellings flag short attached.behindEquals attached.text
  | none => .ok flag.settle

/-! ## Behind the command -/

/-- What is found behind a command: its operand, and words that nothing wanted. -/
structure Operands where
  message : Option RawText
  leftOver : List RawText

def Operands.leave (operands : Operands) (word : RawText) : Operands :=
  { operands with leftOver := operands.leftOver ++ [word] }

def Operands.take (operands : Operands) (message : RawText) : Operands :=
  { operands with message := some message }

/-- Reads the words behind a command. The first operand is the message, if one is wanted;
a marker next to it is passed over. -/
def readOperands (part : Part) :
    (wanted : Bool) → Operands → List (RawText × Word) → Except Stop Operands
  | _, found, [] => .ok found
  | true, found, (word, .operand) :: (_, .marker) :: rest =>
    readOperands part false (found.take word) rest
  | true, found, (word, .operand) :: rest =>
    readOperands part false (found.take word) rest
  | true, found, (_, .marker) :: (word, .operand) :: rest =>
    readOperands part false (found.take word) rest
  | _, _, (_, .flag flag short attached) :: _ =>
    match settleFlag commandSpellings flag short attached with
    | .error misuse => .error (.misuse part misuse)
    | .ok _ => .error (.help part)
  | wanted, found, (word, _) :: rest => readOperands part wanted (found.leave word) rest

/-- Reads the words behind a command of the given part. -/
def readCommand (part : Part) (words : List RawText) : Except Stop Operands :=
  match readWords commandSpellings words with
  | .error ambiguity => .error (.misuse part (.ambiguous ambiguity))
  | .ok words => readOperands part (part == .sign) ⟨none, []⟩ words

/-- The command that a word and the words behind it make, and the words that nothing
wanted. -/
def commandOf (name : RawText) (words : List RawText) : Except Stop (Command × List RawText) :=
  if name = "public-key" then do
    let operands ← readCommand .publicKey words
    return (.publicKey, operands.leftOver)
  else if name = "sign" then do
    let operands ← readCommand .sign words
    match operands.message with
    | some message => return (.sign message, operands.leftOver)
    | none => throw (.misuse .sign (.missing "message"))
  else .error (.misuse .common (.unknownCommand name))

/-! ## Whole lines -/

/-- What is settled before the command, and words that nothing wanted. -/
structure Settled where
  key : Option RawText
  verbose : Bool
  leftOver : List RawText

def Settled.leave (settled : Settled) (word : RawText) : Settled :=
  { settled with leftOver := settled.leftOver ++ [word] }

/-- Takes choices over in order; asking for help ends it. -/
def Settled.choose (settled : Settled) : List Choice → Except Stop Settled
  | [] => .ok settled
  | .help :: _ => .error (.help .common)
  | .key name :: rest => choose { settled with key := some name } rest
  | .verbose :: rest => choose { settled with verbose := true } rest
  | .leave word :: rest => choose (settled.leave word) rest

/-- The arguments made of what is settled, a command's name and the words behind it. -/
def Settled.command (settled : Settled) (name : RawText) (words : List RawText) :
    Except Stop Arguments := do
  let (command, leftOver) ← commandOf name words
  match settled.leftOver ++ leftOver with
  | [] => return ⟨settled.key, settled.verbose, command⟩
  | words => throw (.misuse .common (.leftOver words))

/-- Reads words up to the command and from there on. -/
def readLine : Settled → List (RawText × Word) → Except Stop Arguments
  | _, [] => .error (.misuse .common (.missing "command"))
  | _, [(_, .marker)] => .error (.misuse .common (.missing "command"))
  | settled, (_, .flag flag short attached) :: (value, .operand) :: rest =>
    match settleFlag commonSpellings flag short attached with
    | .error misuse => .error (.misuse .common misuse)
    | .ok (choices, false) => do
      readLine (← settled.choose choices) ((value, .operand) :: rest)
    | .ok (choices, true) => do
      readLine (← settled.choose (choices ++ [.key value])) rest
  | settled, (_, .flag flag short attached) :: rest =>
    match settleFlag commonSpellings flag short attached with
    | .error misuse => .error (.misuse .common misuse)
    | .ok (choices, false) => do readLine (← settled.choose choices) rest
    | .ok (_, true) => .error (.misuse .common (.noValue .key))
  | settled, (word, .unknown) :: rest =>
    readLine (settled.leave word) rest
  | settled, (word, _) :: rest => settled.command word (rest.map (·.1))

def parse (words : List RawText) : Except Stop Arguments :=
  match readWords commonSpellings words with
  | .error ambiguity => .error (.misuse .common (.ambiguous ambiguity))
  | .ok words => readLine ⟨none, false, []⟩ words

end Keyring.CommandLine
