import Keyring.Text.Printable
import Keyring.Text.Raw

/-!
Texts in quotes, on one line and printable throughout: the form in which names and paths
appear inside messages.

Single quotes are used unless the text holds a single quote and no double quote. The
backslash and the chosen quote are escaped by a backslash, tab, line feed and carriage
return have their own escapes, and any other unprintable character is written by its
code point with two, four or eight hexadecimal digits, as few as hold it. Halves of surrogate
pairs are unprintable.
-/

namespace Keyring.Text

def quoteFor (text : RawText) : Char :=
  if text.contains (.char '\'') && !text.contains (.char '"') then '"' else '\''

/-- One character as it stands between two `quote` characters. -/
def quotedChar (quote : Char) : RawChar → List Char
  | .stray index => escapedStray index
  | .char c =>
    if c = quote ∨ c = '\\' then ['\\', c]
    else if c = '\t' then ['\\', 't']
    else if c = '\n' then ['\\', 'n']
    else if c = '\r' then ['\\', 'r']
    else if isPrintable c then [c]
    else if c.toNat < 0x100 then '\\' :: 'x' :: hexDigits 2 c.toNat
    else if c.toNat < 0x10000 then '\\' :: 'u' :: hexDigits 4 c.toNat
    else '\\' :: 'U' :: hexDigits 8 c.toNat

def quoted (text : RawText) : String :=
  let quote := quoteFor text
  String.ofList (quote :: text.flatMap (quotedChar quote) ++ [quote])

end Keyring.Text
