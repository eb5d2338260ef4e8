import Keyring.Text.Raw

/-!
Slash-separated paths in the form in which they are shown and joined: empty components
and `.` are dropped, `..` is kept, and of the slashes in front none, one or exactly two
are told apart. Joining an absolute path to another replaces it.
-/

namespace Keyring

inductive Anchor where
  | relative
  | root
  /-- At the root, written with exactly two slashes. -/
  | doubleRoot
  deriving DecidableEq, Repr

/-- A path: where it starts, and the names that lead on from there. -/
structure Path where
  anchor : Anchor
  names : List RawText
  deriving DecidableEq, Repr

namespace Path

/-! ## Reading -/

def segments : RawText → List RawText
  | [] => [[]]
  | c :: rest =>
    if c = '/' then [] :: segments rest
    else match segments rest with
      | [] => [[c]]
      | first :: others => (c :: first) :: others

/-- Whether a part between slashes counts as a name: it is neither empty nor `.`. -/
def isName (segment : RawText) : Bool :=
  !segment.isEmpty && segment != "."

/-- Where a text starts, by the number of slashes in front. -/
def anchorOf (text : RawText) : Anchor :=
  match (text.takeWhile (· = .char '/')).length with
  | 0 => .relative
  | 2 => .doubleRoot
  | _ => .root

def ofText (text : RawText) : Path :=
  ⟨anchorOf text, (segments text).filter isName⟩

def ofString (text : String) : Path :=
  ofText text

/-! ## Joining and showing -/

/-- A path continued by another, which replaces it when absolute. -/
def join (path other : Path) : Path :=
  match other.anchor with
  | .relative => { path with names := path.names ++ other.names }
  | _ => other

def anchorText : Anchor → RawText
  | .relative => ""
  | .root => "/"
  | .doubleRoot => "//"

/-- The path as shown; the empty relative path is shown as `.`. -/
def text (path : Path) : RawText :=
  let text := anchorText path.anchor ++ List.intercalate "/" path.names
  if text.isEmpty then "." else text

/-- The last name, empty when there is none. -/
def name (path : Path) : RawText :=
  path.names.getLastD ""

/-- The path without its last name; a path without names is its own parent. -/
def parent (path : Path) : Path :=
  { path with names := path.names.dropLast }

def isAbsolute (path : Path) : Bool :=
  path.anchor != .relative

end Path

end Keyring
