/-!
Values that are told apart by when they were made. Two things made at different moments
may have equal content and still be two things; the mark says which is which.
-/

namespace Keyring

/-- A value with the mark of its making. -/
structure Marked (α : Type) where
  mark : Nat
  value : α
  deriving DecidableEq, Repr

end Keyring
