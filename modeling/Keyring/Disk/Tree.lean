import Keyring.Disk

/-!
A file tree that can be written to, and the disk it makes: paths are looked up name by
name, from the root or from the working directory, and `..` leads to the parent of the
directory that has been reached, so it cannot be taken in or after something that is not
there. Names are told apart by their bytes.

A tree knows no links and no permissions: every directory can be looked into and every path written
to. A file is withheld from its reader where the tree says so of the file.
-/

namespace Keyring

/-- The place of an entry: the names that lead to it from the root. -/
abbrev Location := List Bytes

/-- Everything in a file system, below a root that is always there. -/
structure FileTree where
  workingDirectory : Location
  entries : List (Location × Entry)

namespace FileTree

def entryAt (tree : FileTree) (location : Location) : Option Entry :=
  if location.isEmpty then some .directory else tree.entries.lookup location

/-! ## Looking up -/

/-- The longest name, in bytes. -/
def nameLimit : Nat := 255

/-- The shortest path that is too long, in bytes. -/
def pathLimit : Nat := 4096

/-- The name that leads to the parent. -/
def parentName : Bytes := Utf8.encode ".."

/-- Follows one name from a location that is there. -/
def follow (tree : FileTree) (here : Location) (name : Bytes) : Except Obstacle Location :=
  match tree.entryAt here with
  | none => .error .missing
  | some (.file _) | some (.withheld _) => .error .notDirectory
  | some .directory =>
    if name = parentName then .ok here.dropLast
    else if name.length > nameLimit then .error .tooLong
    else
      let there := here ++ [name]
      if (tree.entryAt there).isSome then .ok there else .error .missing

def start (tree : FileTree) (path : Path) : Location :=
  if path.isAbsolute then [] else tree.workingDirectory

def locate (tree : FileTree) (path : Path) : Except Obstacle Location :=
  if path.text.systemBytes.length ≥ pathLimit then .error .tooLong
  else (path.names.map RawText.systemBytes).foldlM tree.follow (tree.start path)

def disk (tree : FileTree) : Disk where
  entry path := do
    let location ← tree.locate path
    match tree.entryAt location with
    | none => .error .missing
    | some entry => .ok entry

/-! ## Changing -/

/-- The location that a path names when every name on the way is, or is going to be, a
directory. -/
def destination (tree : FileTree) (path : Path) : Location :=
  (path.names.map RawText.systemBytes).foldl
    (fun here name => if name = parentName then here.dropLast else here ++ [name])
    (tree.start path)

def put (tree : FileTree) (location : Location) (entry : Entry) : FileTree :=
  { tree with
    entries := (location, entry) :: tree.entries.filter fun other => other.1 != location }

def ensure (tree : FileTree) (location : Location) : FileTree :=
  if (tree.entryAt location).isSome then tree else tree.put location .directory

/-- Makes the directories that lead to a location, this one not included. -/
def ensureParents (tree : FileTree) (location : Location) : FileTree :=
  (List.range location.length).foldl (fun tree count => tree.ensure (location.take count)) tree

def writeFile (tree : FileTree) (path : Path) (content : Bytes) : FileTree :=
  let location := tree.destination path
  (tree.ensureParents location).put location (.file content)

def makeDirectory (tree : FileTree) (path : Path) : FileTree :=
  let location := tree.destination path
  (tree.ensureParents location).ensure location

/-- Removes what stands at a path, with everything below it. -/
def remove (tree : FileTree) (path : Path) : FileTree :=
  let location := tree.destination path
  { tree with entries := tree.entries.filter fun other => !location.isPrefixOf other.1 }

/-- The tree in which only the working directory and its parents are. -/
def empty (workingDirectory : Location) : FileTree :=
  let bare : FileTree := ⟨workingDirectory, []⟩
  (bare.ensureParents workingDirectory).ensure workingDirectory

end FileTree

end Keyring
