/-!
Repetition by doubling: the `count`-fold combination of a value with itself, in about
`log₂ count` steps. With multiplication it is a power, with addition of points a
multiple.
-/

namespace Keyring

/-- The binary digits of a number, most significant first and without leading zeros;
zero has the one digit zero. -/
def binaryDigits (count : Nat) : List Bool :=
  (List.range (count.log2 + 1)).reverse.map count.testBit

/-- `x` combined `count` times: each binary digit doubles what stands so far, and a one
adds `x`. -/
def repeated {α : Type} (combine : α → α → α) (unit x : α) (count : Nat) : α :=
  (binaryDigits count).foldl
    (fun total digit =>
      let twice := combine total total
      if digit then combine twice x else twice)
    unit

end Keyring
