/-!
White space in the sense of the Unicode character database: the separators and the
control characters that count as space. `trim` drops it at both ends of a text.
-/

namespace Keyring.Text

/-- Unicode white space: `U+0009`–`000D`, the separators `U+001C`–`001F`, the space,
`U+0085`, and the characters of category `Zs`, `Zl` and `Zp`. -/
def isBlank (c : Char) : Bool :=
  let n := c.toNat
  (0x9 ≤ n && n ≤ 0xD) || (0x1C ≤ n && n ≤ 0x20) || n == 0x85 || n == 0xA0 ||
    n == 0x1680 || (0x2000 ≤ n && n ≤ 0x200A) || n == 0x2028 || n == 0x2029 ||
    n == 0x202F || n == 0x205F || n == 0x3000

/-- White space that does not end a line. -/
def isInlineBlank (c : Char) : Bool :=
  isBlank c && c != '\n' && c != '\r'

def trimEnd (text : List Char) : List Char :=
  (text.reverse.dropWhile isBlank).reverse

def trim (text : List Char) : List Char :=
  trimEnd (text.dropWhile isBlank)

end Keyring.Text
