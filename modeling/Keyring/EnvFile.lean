import Keyring.Bytes
import Keyring.Text.Blank
import Keyring.Text.Utf8

/-!
Files of environment variables, one statement a line: `NAME=VALUE`, optionally after
`export`, or `NAME` alone, which names a variable without giving it a value.

A name is bare or in single quotes. A value is bare, and then ends at the end of the line
or at white space followed by `#`, or it is in single or double quotes, in which it may
span lines and hold escapes. Behind a statement only a comment may follow on its line. A
line that holds no statement, or a quote that is never closed, is passed over, and its
number is kept for a warning.

A reader of a piece gives the piece and what follows it, or what is left of the text where
it is stuck.
-/

namespace Keyring.EnvFile

/-! ## Pieces of a line -/

/-- A text without the characters before its first line end. -/
def lineEnd (text : List Char) : List Char :=
  text.dropWhile (· ≠ '\n')

def nextLine (text : List Char) : List Char :=
  (lineEnd text).drop 1

/-- A text without `export` and the white space behind it, when it starts with both. -/
def skipExport (text : List Char) : List Char :=
  let word := "export".toList
  if word.isPrefixOf text then
    let rest := text.drop word.length
    let after := rest.dropWhile Text.isInlineBlank
    if after.length < rest.length then after else text
  else text

def isBare (c : Char) : Bool :=
  !Text.isBlank c && c != '=' && c != '#'

/-- Reads the name of a statement; at a comment there is none. -/
def readName (text : List Char) : Except (List Char) (Option (List Char) × List Char) :=
  match text with
  | '#' :: _ => .ok (none, text)
  | '\'' :: body =>
    let name := body.takeWhile (· ≠ '\'')
    match name, body.dropWhile (· ≠ '\'') with
    | _ :: _, _ :: rest => .ok (some name, rest)
    | _, _ => .error text
  | _ =>
    let name := text.takeWhile isBare
    if name.isEmpty then .error text else .ok (some name, text.dropWhile isBare)

/-! ## Values -/

/-- The character that a letter stands for behind a backslash in single quotes. -/
def singleEscape (c : Char) : Option Char :=
  match c with
  | '\\' => some '\\'
  | '\'' => some '\''
  | _ => none

/-- The character that a letter stands for behind a backslash in double quotes. -/
def doubleEscape (c : Char) : Option Char :=
  match c with
  | '\\' => some '\\'
  | '\'' => some '\''
  | '"' => some '"'
  | 'a' => some '\x07'
  | 'b' => some '\x08'
  | 'f' => some '\x0c'
  | 'n' => some '\n'
  | 'r' => some '\r'
  | 't' => some '\t'
  | 'v' => some '\x0b'
  | _ => none

/-- Reads a quoted value from behind its opening quote, and gives it with what follows the
closing quote. A backslash takes the next character with it: a quote there does not close
the value, and the two stay as they are where they are no escape. -/
def readQuoted (quote : Char) (escape : Char → Option Char) :
    List Char → Option (List Char × List Char)
  | [] => none
  | '\\' :: c :: rest =>
    (readQuoted quote escape rest).map fun (value, after) =>
      match escape c with
      | some meant => (meant :: value, after)
      | none => ('\\' :: c :: value, after)
  | c :: rest =>
    if c = quote then some ([], rest)
    else (readQuoted quote escape rest).map fun (value, after) => (c :: value, after)

/-- A bare value without the comment: white space followed by `#`, and the rest. -/
def dropComment : List Char → List Char
  | [] => []
  | c :: rest =>
    if Text.isBlank c && (rest.dropWhile Text.isBlank).head? == some '#' then []
    else c :: dropComment rest

/-- A value that runs to the end of its line. White space in front is no part of it, but
counts for a comment, which can so stand in the place of the value. -/
def bareValue (line : List Char) : List Char :=
  Text.trim (dropComment line)

def readValue (text : List Char) : Except (List Char) (List Char × List Char) :=
  match text.dropWhile Text.isInlineBlank with
  | '\'' :: body => (readQuoted '\'' singleEscape body).elim (.error text) .ok
  | '"' :: body => (readQuoted '"' doubleEscape body).elim (.error text) .ok
  | _ => .ok (bareValue (text.takeWhile (· ≠ '\n')), lineEnd text)

/-! ## Statements -/

/-- One statement, or what stands in its place. -/
inductive Statement where
  /-- A name with its value, if it is given one. -/
  | entry (name : List Char) (value : Option (List Char))
  | comment
  | unreadable
  deriving DecidableEq, Repr

/-- Passes the rest of a line behind a statement: white space and a comment. -/
def finishLine (text : List Char) : Except (List Char) (List Char) :=
  match text.dropWhile Text.isInlineBlank with
  | [] => .ok []
  | '\n' :: rest => .ok rest
  | '#' :: rest => .ok (nextLine rest)
  | _ => .error text

/-- Reads what stands behind a name: an equals sign and a value, or neither. -/
def readAssigned (text : List Char) : Except (List Char) (Option (List Char) × List Char) :=
  match text with
  | '=' :: rest => do
    let (value, text) ← readValue rest
    return (some value, text)
  | _ => .ok (none, text)

/-- Reads one statement from a text that starts with no white space. -/
def readStatement (text : List Char) : Except (List Char) (Statement × List Char) := do
  let (name, text) ← readName (skipExport text)
  let (value, text) ← readAssigned (text.dropWhile Text.isInlineBlank)
  let rest ← finishLine text
  match name with
  | some name => return (.entry name value, rest)
  | none => return (.comment, rest)

/-- The statements of a text that starts on the given line, each with the line behind the
statement before it. -/
def statementsFrom (line : Nat) (text : List Char) : List (Nat × Statement) :=
  let body := text.dropWhile Text.isBlank
  if body.isEmpty then []
  else
    let (statement, rest) := match readStatement body with
      | .ok (statement, rest) => (statement, rest)
      | .error stop => (.unreadable, nextLine stop)
    if _h : rest.length < text.length then
      (line, statement) :: statementsFrom (line + (text.count '\n' - rest.count '\n')) rest
    else [(line, statement)]
  termination_by text.length

/-- A text in which every line ends with a line feed alone. -/
def plainLines : List Char → List Char
  | [] => []
  | '\r' :: '\n' :: rest => '\n' :: plainLines rest
  | '\r' :: rest => '\n' :: plainLines rest
  | c :: rest => c :: plainLines rest

/-- A text without the byte order mark in front. -/
def dropMark (text : List Char) : List Char :=
  if text.head? = some '\uFEFF' then text.drop 1 else text

/-- The statements of a file, each with the number of its line. -/
def statements (content : Bytes) : Except Utf8.Fault (List (Nat × Statement)) := do
  let text ← Utf8.decode content
  return statementsFrom 1 (plainLines (dropMark text))

/-- The lines that hold no statement but should. -/
def unreadableLines (statements : List (Nat × Statement)) : List Nat :=
  statements.filterMap fun (line, statement) =>
    match statement with
    | .unreadable => some line
    | _ => none

def entries (statements : List (Nat × Statement)) : List (String × Option (List Char)) :=
  statements.filterMap fun (_, statement) =>
    match statement with
    | .entry name value => some (String.ofList name, value)
    | _ => none

end Keyring.EnvFile
