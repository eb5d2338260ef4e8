import Keyring.Disk

/-!
What a process finds around it: environment variables, the user database, its user, and
the file system.

Variables and accounts are Unicode texts here. Bytes that are not UTF-8 come in on the command line,
in the content of files, and in names and paths that are given; in an environment or a user database
they are left out.
-/

namespace Keyring

/-- Environment variables in the order in which they were first set. -/
abbrev Environment := List (String × String)

namespace Environment

def get? (environment : Environment) (name : String) : Option String :=
  List.lookup name environment

/-- Sets a variable, at its place when it is set already, else behind the others. -/
def set (environment : Environment) (name value : String) : Environment :=
  if environment.any (·.1 == name) then
    environment.map fun entry => if entry.1 == name then (name, value) else entry
  else environment ++ [(name, value)]

def unset (environment : Environment) (name : String) : Environment :=
  environment.filter (·.1 != name)

end Environment

structure Account where
  name : Option String
  home : Option String

structure Host where
  environment : Environment
  /-- The user database by user number, if the system has one. -/
  accounts : Option (List (Nat × Account))
  userId : Nat
  disk : Disk

end Keyring
