import Keyring.Bytes
import Keyring.Path
import Keyring.Text.Quoted

/-!
What the operating system answers about paths: that something is there, or why it cannot
be looked up, and the content of files, or why it cannot be had.

Who may do what, and where links lead, is not part of a disk: it has the answers that come of it. A
disk does not change while a key is loaded.
-/

namespace Keyring

/-- Why something cannot be read, or a path not be looked up. -/
inductive ReadFault where
  | isDirectory
  | notDirectory
  | tooLong
  | denied
  /-- The device fails while it is read. -/
  | device
  deriving DecidableEq, Repr

namespace ReadFault

/-- What the fault calls itself in the log. -/
def name : ReadFault → String
  | isDirectory => "IsADirectoryError"
  | notDirectory => "NotADirectoryError"
  | denied => "PermissionError"
  | tooLong | device => "OSError"

/-- The fault in the system's words: its number, its text and, if it is about one, the path. -/
def message (path : Path) (fault : ReadFault) : String :=
  let shown := Text.quoted path.text
  match fault with
  | isDirectory => s!"[Errno 21] Is a directory: {shown}"
  | notDirectory => s!"[Errno 20] Not a directory: {shown}"
  | tooLong => s!"[Errno 36] File name too long: {shown}"
  | denied => s!"[Errno 13] Permission denied: {shown}"
  | device => "[Errno 5] Input/output error"

end ReadFault

/-- Why the content of a file that is there cannot be had. -/
inductive Withheld where
  /-- The process may not open it. -/
  | denied
  | device
  deriving DecidableEq, Repr

def Withheld.fault : Withheld → ReadFault
  | denied => .denied
  | device => .device

inductive Entry where
  | file (content : Bytes)
  | directory
  /-- A file of which the content cannot be had. -/
  | withheld (cause : Withheld)
  deriving DecidableEq, Repr

/-- Why a path cannot be looked up. -/
inductive Obstacle where
  | missing
  | notDirectory
  /-- A name or the whole path is longer than the system allows. -/
  | tooLong
  /-- The process may not look into a directory on the way. -/
  | denied
  deriving DecidableEq, Repr

namespace Obstacle

/-- The fault that an obstacle is when something is opened, unless it is that nothing is there. -/
def fault? : Obstacle → Option ReadFault
  | missing => none
  | notDirectory => some .notDirectory
  | tooLong => some .tooLong
  | denied => some .denied

/-- The fault that an obstacle is when it is asked whether something is there: a path through
something that is no directory leads nowhere, and that is an answer. -/
def refusal? : Obstacle → Option ReadFault
  | missing | notDirectory => none
  | tooLong => some .tooLong
  | denied => some .denied

end Obstacle

/-- A file system as seen by a process: what looking up a path comes to. -/
structure Disk where
  entry : Path → Except Obstacle Entry

namespace Disk

/-- The disk of which some paths have been looked up; nothing else is there. -/
def ofAnswers (answers : List (Path × Except Obstacle Entry)) : Disk :=
  ⟨fun path => (answers.lookup path).getD (.error .missing)⟩

/-- Whether a path can be handed to the system at all: there are bytes for all of it, and no null
character. -/
def speakable (path : Path) : Bool :=
  path.text.systemFault?.isNone && !path.text.contains (.char '\x00')

/-- Whether something stands at a path. Nothing does where the system cannot be asked. -/
def isThere (disk : Disk) (path : Path) : Except ReadFault Bool :=
  if speakable path then
    match disk.entry path with
    | .ok _ => .ok true
    | .error obstacle => obstacle.refusal?.elim (.ok false) .error
  else .ok false

end Disk

end Keyring
